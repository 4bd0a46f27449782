import PageWalk.Event
import PageWalk.Fault

/-!
# Outcomes

An operation on a unit leaves a new state, notes in the order in which they were
made, and possibly a fault. A fault stops what would follow but keeps the state
and the notes of that moment, so that counters can still be read.
-/

namespace PageWalk

structure Outcome (State : Type) where
  state : State
  notes : List Note := []
  fault : Option Fault := none

namespace Outcome

variable {State Larger : Type}

def stop (state : State) (fault : Fault) : Outcome State where
  state := state
  fault := some fault

/-- Goes on to the next operation unless there was a fault. -/
def andThen (outcome : Outcome State) (next : State → Outcome State) : Outcome State :=
  match outcome.fault with
  | some _ => outcome
  | none =>
      let after := next outcome.state
      { after with notes := outcome.notes ++ after.notes }

def map (outcome : Outcome State) (embed : State → Larger) : Outcome Larger where
  state := embed outcome.state
  notes := outcome.notes
  fault := outcome.fault

/-- Applies an operation for every item in order until a fault stops it. -/
def forEach {Item : Type} (operation : Item → State → Outcome State) :
    List Item → State → Outcome State
  | [], state => { state }
  | item :: items, state => (operation item state).andThen (forEach operation items)

/-- Repeats an operation until a fault stops it. -/
def iterate (operation : State → Outcome State) : Nat → State → Outcome State
  | 0, state => { state }
  | count + 1, state => (operation state).andThen (iterate operation count)

end Outcome

end PageWalk
