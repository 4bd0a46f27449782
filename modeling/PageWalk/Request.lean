import PageWalk.Pte

/-!
# Requests

What the parts of the library ask of each other: a lookup of a page number, a
guest page to translate, a block to read, and the refill that every block read
hands to the cache.
-/

namespace PageWalk

/-! ## Translation modes -/

/-- Which stages translate a lookup, or made a cached entry. -/
inductive Mode
  /-- One stage from the host's own root. -/
  | direct
  /-- The guest's first stage alone. -/
  | stageOne
  /-- The second stage alone: a guest page number is looked up. -/
  | stageTwo
  /-- The guest's first stage, each of its pages translated by the second. -/
  | nested
deriving DecidableEq, Repr, Inhabited

def Mode.code : Mode → UInt8
  | .direct => 0
  | .stageOne => 1
  | .stageTwo => 2
  | .nested => 3

/-- The mode of a numeric code. Codes without a mode of their own behave as the
guest's first stage alone. -/
def Mode.ofCode (code : UInt8) : Mode :=
  if code = 0 then .direct
  else if code = 2 then .stageTwo
  else if code = 3 then .nested
  else .stageOne

/-- The name under which diagnostics show a numeric code. -/
def Mode.nameOfCode (code : UInt8) : String :=
  if code = 0 then "NoS2xlate"
  else if code = 1 then "OnlyStage1"
  else if code = 2 then "OnlyStage2"
  else if code = 3 then "AllStage"
  else "Unknown"

def Mode.name (mode : Mode) : String :=
  Mode.nameOfCode mode.code

def Mode.isGuest (mode : Mode) : Bool :=
  mode != .direct

/-- Whether an entry walked under a mode names a page that cannot exist. The
first-stage entries of a nested walk hold guest pages, which the guest page
width bounds; all others hold pages of the physical address space. -/
def Mode.accessFault (mode : Mode) (pte : Pte) (addressBits : UInt32) : Bool :=
  if mode = .nested then
    (pte.ppn >>> guestVpnBits.toUInt64) != 0
  else
    pte.beyond addressBits

/-! ## Lookups -/

/-- A page number to look up, who asks, and in which mode. -/
structure Request where
  vpn : Word := 0
  source : UInt8 := 0
  mode : Mode := .direct
deriving DecidableEq, Repr, Inhabited

def Request.isPrefetch (request : Request) : Bool :=
  isPrefetchSource request.source

/-- The request under a given name of its mode. -/
def Request.textNamed (request : Request) (modeName : String) : String :=
  Format.render "[vpn %#llx src %u %s]"
    [.integer request.vpn, .integer request.source.toUInt64, .text modeName]

def Request.text (request : Request) : String :=
  request.textNamed request.mode.name

/-! ## Requests between the parts -/

/-- A block to read: the block that holds `address`, for the reader `id`. -/
structure MemoryRequest where
  address : Word := 0
  id : Nat := 0
deriving DecidableEq, Repr, Inhabited

/-- A guest page to translate for the walker `id`, and where the walk may resume:
at the table page `ppn` of level 1 or level 2. -/
structure StageTwoRequest where
  id : Nat := 0
  gvpn : Word := 0
  source : UInt8 := 0
  rootHit : Bool := false
  middleHit : Bool := false
  ppn : Word := 0
deriving DecidableEq, Repr, Inhabited

/-- A lookup to walk through the upper levels, resuming at the level-1 table page
`ppn` if the root entry is known. -/
structure UpperRequest where
  request : Request := {}
  rootHit : Bool := false
  ppn : Word := 0
deriving DecidableEq, Repr, Inhabited

/-- A lookup whose leaf table page is known; under nested translation it is a
guest page. -/
structure LeafRequest where
  request : Request := {}
  ppn : Word := 0
deriving DecidableEq, Repr, Inhabited

/-- What a walker read: a block of eight entries at a level, and the one entry
that the walk goes on with. -/
structure Refill where
  block : Block := Vector.replicate 8 0
  level : Nat := 0
  request : Request := {}
  selected : Pte := {}
deriving DecidableEq, Repr

end PageWalk
