import PageWalk.Word

/-!
# Watchdogs

A watchdog counts the consecutive busy steps of a state machine and reports once
in each busy period, when the count goes over a threshold.
-/

namespace PageWalk

/-- The busy steps counted so far, and whether they were reported. -/
structure Watchdog where
  busySteps : Word := 0
  reported : Bool := false
deriving DecidableEq, Repr, Inhabited

namespace Watchdog

/-- One step: an idle step starts over, a busy one is counted. -/
def tick (watchdog : Watchdog) (threshold : Word) (busy : Bool) : Watchdog :=
  if !busy then
    {}
  else
    let busySteps := watchdog.busySteps + 1
    { busySteps := busySteps
      reported := watchdog.reported || threshold < busySteps }

/-- Whether the step makes a report: the count goes over the threshold and no
report was made in this busy period. -/
def fires (watchdog : Watchdog) (threshold : Word) (busy : Bool) : Bool :=
  busy && threshold < watchdog.busySteps + 1 && !watchdog.reported

/-- One input of a run: a step, busy or idle, or a reset. -/
inductive Input
  | step (busy : Bool)
  | reset
deriving DecidableEq, Repr

/-- For each input whether a step made a report, and the busy steps after it. -/
def run (threshold : Word) : Watchdog → List Input → List (Option Bool × Word)
  | _, [] => []
  | watchdog, .step busy :: inputs =>
      let next := watchdog.tick threshold busy
      (some (watchdog.fires threshold busy), next.busySteps) :: next.run threshold inputs
  | _, .reset :: inputs => (none, 0) :: run threshold {} inputs

end Watchdog

end PageWalk
