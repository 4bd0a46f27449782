import PageWalk.Fault

/-!
# Round-robin arbitration

The search for a requesting input starts right behind the input that was granted
last, so every requester is served in the end. Positions are 32-bit integers.
-/

namespace PageWalk

/-- An arbiter over `inputs` inputs and the input it granted last. -/
structure RoundRobin where
  inputs : Int
  lastGrant : Int := -1
deriving DecidableEq, Repr, Inhabited

namespace RoundRobin

/-- The input that lies `offset` places behind the last grant. A grant outside the
inputs may be negative, and so may its remainder. -/
def position (arbiter : RoundRobin) (offset : Nat) : Nat :=
  let remainder := ((arbiter.lastGrant + offset).bmod UInt32.size).tmod arbiter.inputs
  (if remainder < 0 then remainder + arbiter.inputs else remainder).toNat

/-- The inputs in the order in which they are searched. -/
def searchOrder (arbiter : RoundRobin) : List Nat :=
  (List.range arbiter.inputs.toNat).map fun offset => arbiter.position (offset + 1)

/-- The first requesting input of the search. -/
def pick (arbiter : RoundRobin) (requests : Nat → Bool) : Option Nat :=
  arbiter.searchOrder.find? requests

/-- The first requesting input of the search through a vector; an input that the
vector does not reach is out of range. -/
def choose (arbiter : RoundRobin) (requests : List Bool) : Except Fault (Option Nat) :=
  match arbiter.pick (fun input => requests.getD input true) with
  | none => .ok none
  | some input => if input < requests.length then .ok (some input) else .error .outOfRange

def grant (arbiter : RoundRobin) (input : Int) : RoundRobin :=
  { arbiter with lastGrant := input }

def take (arbiter : RoundRobin) (requests : List Bool) :
    Except Fault (Option Nat × RoundRobin) := do
  let chosen ← arbiter.choose requests
  match chosen with
  | some input => return (chosen, arbiter.grant input)
  | none => return (chosen, arbiter)

def reset (arbiter : RoundRobin) : RoundRobin :=
  { arbiter with lastGrant := -1 }

end RoundRobin

end PageWalk
