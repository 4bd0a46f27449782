import PageWalk.Bench.Scene
import PageWalk.Tlb.Tick

/-!
# The TLB on the bench

Runs of a TLB that collect its responses, each with the cycle at which it was taken.
-/

namespace PageWalk.Bench

/-- A TLB and what a run of it has collected. -/
structure TlbRun where
  tlb : Tlb
  /-- The responses and the cycles at which they were taken, oldest first. -/
  responses : List (Word × Response) := []
  /-- The number of steps done before each lookup was accepted. -/
  sent : List Nat := []
  /-- Lookups that were not accepted yet. -/
  waiting : List Request := []
  steps : Nat := 0

namespace TlbRun

def onTlb (operation : Tlb → Outcome Tlb) (run : TlbRun) : Outcome TlbRun :=
  (operation run.tlb).map fun tlb => { run with tlb := tlb }

def drain (run : TlbRun) : TlbRun :=
  let (responses, tlb) := run.tlb.drain
  { run with
    tlb := tlb
    responses := run.responses ++ responses.map fun response => (tlb.cycle, response) }

/-- One step; the responses are taken unless they are kept. -/
def step (keep : Bool) (run : TlbRun) : Outcome TlbRun :=
  (run.onTlb Tlb.tick).map fun run =>
    let run := { run with steps := run.steps + 1 }
    if keep then run else run.drain

def steppingOf (count : Nat) (keep : Bool) (tlb : Tlb) : Outcome TlbRun :=
  Outcome.iterate (step keep) count { tlb := tlb }

/-- Sends the waiting lookups in order as long as they are accepted. -/
def sendFrom (run : TlbRun) : (requests : List Request) → Outcome TlbRun
  | [] => { state := { run with waiting := [] } }
  | request :: requests =>
      match run.tlb.send? request with
      | none => { state := { run with waiting := request :: requests } }
      | some outcome =>
          (outcome.map fun tlb =>
            { run with tlb := tlb, sent := run.sent ++ [run.steps] }).andThen
              fun run => run.sendFrom requests

/-- Sends lookups and steps until all are sent and nothing is on its way. -/
def runUntilIdle : (limit : Nat) → TlbRun → Outcome TlbRun
  | 0, run => { state := run }
  | limit + 1, run =>
      if run.waiting.isEmpty && run.tlb.isIdle then
        { state := run }
      else
        (run.sendFrom run.waiting).andThen fun run =>
          (run.step false).andThen (runUntilIdle limit)

def runOf (requests : List Request) (limit : Nat) (tlb : Tlb) : Outcome TlbRun :=
  runUntilIdle limit { tlb := tlb, waiting := requests }

/-- The reads recorded since they were last taken, and the TLB without them. -/
def takeReads (tlb : Tlb) : List MemoryRequest × Tlb :=
  (tlb.memory.history.toList, { tlb with memory := tlb.memory.clearHistory })

end TlbRun

/-- A TLB in a scene. They share the memory, which the TLB holds. -/
structure TlbScene where
  scene : Scene
  tlb : Tlb

namespace TlbScene

def create (scene : Scene) : Except Fault TlbScene := do
  let tlb ← Tlb.create scene.params scene.protection scene.memory
  return { scene := scene, tlb := { tlb with registers := scene.registers.settled } }

/-- The scene with the memory as the TLB has left it. -/
def current (bench : TlbScene) : Scene :=
  { bench.scene with memory := bench.tlb.memory }

def withScene (bench : TlbScene) (scene : Scene) : TlbScene where
  scene := scene
  tlb := { bench.tlb with memory := scene.memory, protection := scene.protection }

def withTlb (bench : TlbScene) (tlb : Tlb) : TlbScene :=
  { bench with tlb := tlb }

def install (write : RegistersWrite) (bench : TlbScene) : Outcome TlbScene :=
  (Tlb.install (write.apply bench.tlb.registers) bench.tlb).map bench.withTlb

end TlbScene

end PageWalk.Bench
