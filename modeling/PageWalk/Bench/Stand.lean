import PageWalk.Bench.Scene

/-!
# Walkers on a stand

All walkers step, flush, and read blocks in two moves: they fire a read, and later take
the block that answers it. A stand holds a walker of any kind in a scene, and remembers
the read that was fired last.
-/

namespace PageWalk.Bench

/-- What the walkers of a kind have in common; `State` is what a stand holds of them. -/
structure WalkerKind (State : Type) where
  create : Params → State
  tick : Scene → State → Outcome State
  flush : State → State
  request? : Params → State → Option MemoryRequest
  fire : Params → State → Outcome State
  /-- The refill that a block for a reader would make. -/
  refill? : (id : Nat) → Block → State → Option Refill
  take : Scene → (id : Nat) → Block → State → Outcome State
  statistics : Params → State → List Statistic

/-- A walker in a scene, and the read that it fired last. -/
structure Stand (State : Type) where
  scene : Scene
  walker : State
  fired : MemoryRequest := {}

namespace Stand

variable {State : Type}

def create (kind : WalkerKind State) (scene : Scene) : Stand State where
  scene := scene
  walker := kind.create scene.params

def withScene (stand : Stand State) (scene : Scene) : Stand State :=
  { stand with scene := scene }

def withWalker (stand : Stand State) (walker : State) : Stand State :=
  { stand with walker := walker }

def request? (kind : WalkerKind State) (stand : Stand State) : Option MemoryRequest :=
  kind.request? stand.scene.params stand.walker

def ticks (kind : WalkerKind State) (count : Nat) (stand : Stand State) :
    Outcome (Stand State) :=
  (Outcome.iterate (kind.tick stand.scene) count stand.walker).map stand.withWalker

def flush (kind : WalkerKind State) (stand : Stand State) : Stand State :=
  stand.withWalker (kind.flush stand.walker)

def fire (kind : WalkerKind State) (stand : Stand State) : Outcome (Stand State) :=
  (kind.fire stand.scene.params stand.walker).map fun walker =>
    { stand with walker := walker, fired := (stand.request? kind).getD stand.fired }

/-- The block that memory holds at an address, or around the read fired last. -/
def block (stand : Stand State) (address : Option Word) : Block :=
  stand.scene.memory.readBlock (address.getD stand.fired.address)

def refill? (kind : WalkerKind State) (id : Nat) (block : Block) (stand : Stand State) :
    Option Refill :=
  kind.refill? id block stand.walker

def take (kind : WalkerKind State) (id : Nat) (block : Block) (stand : Stand State) :
    Outcome (Stand State) :=
  (kind.take stand.scene id block stand.walker).map stand.withWalker

def statistics (kind : WalkerKind State) (stand : Stand State) : List Statistic :=
  stand.scene.memory.statistics ++ kind.statistics stand.scene.params stand.walker

end Stand

end PageWalk.Bench
