import PageWalk.Event

/-!
# Debug flags

Named switches that decide which events are shown. Flags are kept in the order in
which they were registered; of two flags with one name the first is meant.
-/

namespace PageWalk

structure DebugFlag where
  name : String
  description : String := ""
  enabled : Bool := false
deriving DecidableEq, Repr, Inhabited

structure DebugFlags where
  flags : List DebugFlag
deriving DecidableEq, Repr, Inhabited

namespace DebugFlags

def builtIn : DebugFlags where
  flags :=
    [{ name := "PageCache", description := "Page walk cache lookup, refill and sfence" },
      { name := "PTW", description := "Non-leaf page table walker" },
      { name := "LLPTW", description := "Last level page table walker entries" },
      { name := "HPTW", description := "Stage-2 page table walker" },
      { name := "L2TLB", description := "Request routing between cache and walkers" },
      { name := "PtwMem", description := "Walker memory requests and responses" }]

def find? (registry : DebugFlags) (name : String) : Option DebugFlag :=
  registry.flags.find? fun flag => flag.name == name

def isEnabled (registry : DebugFlags) (name : String) : Bool :=
  (registry.find? name).any (·.enabled)

def switchFirst (name : String) (enabled : Bool) : List DebugFlag → List DebugFlag
  | [] => []
  | flag :: flags =>
      if flag.name == name then
        { flag with enabled := enabled } :: flags
      else
        flag :: switchFirst name enabled flags

def change? (registry : DebugFlags) (name : String) (enabled : Bool) : Option DebugFlags :=
  if (registry.find? name).isSome then
    some ⟨switchFirst name enabled registry.flags⟩
  else
    none

def switchAll (registry : DebugFlags) (enabled : Bool) : DebugFlags :=
  ⟨registry.flags.map fun flag => { flag with enabled := enabled }⟩

def clear (registry : DebugFlags) : DebugFlags :=
  registry.switchAll false

/-- Registers a further flag. Its texts end at their first NUL. -/
def register (registry : DebugFlags) (name description : String) : DebugFlags :=
  ⟨registry.flags ++
    [{ name := Format.beforeNul name, description := Format.beforeNul description }]⟩

/-- Removes the flag that was registered last, but none of the built-in ones. -/
def removeLast (registry : DebugFlags) : DebugFlags :=
  if builtIn.flags.length < registry.flags.length then
    ⟨registry.flags.dropLast⟩
  else
    registry

def pieces (list : List Char) : List (List Char) :=
  match list with
  | [] => [[]]
  | char :: rest =>
      if char = ',' then
        [] :: pieces rest
      else
        match pieces rest with
        | [] => [[char]]
        | piece :: others => (char :: piece) :: others

/-- Switches one piece of a list on: nothing for an empty piece, every flag for
`All`, otherwise the flag of that name. An unknown name is returned. -/
def enablePiece (registry : DebugFlags) (piece : String) : DebugFlags × Option String :=
  if piece = "" then (registry, none)
  else if piece = "All" then (registry.switchAll true, none)
  else match registry.change? piece true with
    | some registry => (registry, none)
    | none => (registry, some piece)

/-- Switches the pieces of a list on, one after the other, and collects the unknown
names. -/
def enablePieces (registry : DebugFlags) : List String → DebugFlags × List String
  | [] => (registry, [])
  | piece :: others =>
      let (registry, unknown) := registry.enablePiece piece
      let (registry, unknowns) := registry.enablePieces others
      (registry, unknown.toList ++ unknowns)

/-- Switches the flags of a comma-separated list on, and collects the unknown names
in order. -/
def enable (registry : DebugFlags) (list : String) : DebugFlags × List String :=
  registry.enablePieces ((pieces list.toList).map String.ofList)

end DebugFlags

end PageWalk
