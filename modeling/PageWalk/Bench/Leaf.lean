import PageWalk.Bench.StageTwo
import PageWalk.LeafWalker

/-!
# Leaf walks on the bench

Runs the leaf walker against the memory of a scene. A private second-stage walker
translates the guest pages that it asks for.
-/

namespace PageWalk.Bench

/-- The leaf walker with its private second-stage walker, what the two have asked
for, and the entries that have finished. -/
structure LeafRun where
  walker : LeafWalker
  guest : StageTwoWalker := {}
  reads : List MemoryRequest := []
  guestPages : List StageTwoRequest := []
  finished : List (Nat × Response) := []

namespace LeafRun

def onWalker (operation : LeafWalker → Outcome LeafWalker) (run : LeafRun) :
    Outcome LeafRun :=
  (operation run.walker).map fun walker => { run with walker := walker }

def cleared (run : LeafRun) : LeafRun :=
  { walker := run.walker, guest := run.guest }

def serve (scene : Scene) (run : LeafRun) : Outcome LeafRun :=
  match run.walker.memoryRequest? with
  | none => { state := run }
  | some request =>
      let block := scene.memory.readBlock request.address
      let run := { run with reads := run.reads ++ [request] }
      (run.onWalker (LeafWalker.fireMemory scene.params)).andThen
        (onWalker (LeafWalker.takeBlock scene.params request.id block))

def translate (scene : Scene) (run : LeafRun) : Outcome LeafRun :=
  match run.walker.wantsStageTwo, run.walker.stageTwoRequest? with
  | true, some request =>
      let run := { run with guestPages := run.guestPages ++ [request] }
      (run.onWalker (LeafWalker.fireStageTwo scene.params)).andThen fun run =>
        let walk := walkGuestPage scene request run.guest
        (walk.map fun result => { run with guest := result.walker }).andThen
          (onWalker
            (LeafWalker.takeStageTwo scene.params request.id walk.state.reply.result))
  | _, _ => { state := run }

def collect (scene : Scene) : (limit : Nat) → LeafRun → Outcome LeafRun
  | 0, run => { state := run }
  | limit + 1, run =>
      match run.walker.finishedResponse scene.params scene.registers with
      | .error _ => { state := run }
      | .ok finished =>
          let run := { run with finished := run.finished ++ [finished] }
          (run.onWalker (LeafWalker.takeFinished scene.params)).andThen (collect scene limit)

/-- One step, with what the walker asks for answered at once and all finished entries
taken. -/
def step (scene : Scene) (run : LeafRun) : Outcome LeafRun :=
  (run.onWalker (LeafWalker.tick scene.params scene.protection)).andThen fun run =>
    (run.serve scene).andThen fun run =>
      (run.translate scene).andThen fun run => collect scene run.walker.entries.size run

def steps (scene : Scene) (count : Nat) (run : LeafRun) : Outcome LeafRun :=
  Outcome.iterate (step scene) count run.cleared

end LeafRun

def leafKind : WalkerKind LeafRun where
  create params := { walker := LeafWalker.create params }
  tick scene := LeafRun.onWalker (LeafWalker.tick scene.params scene.protection)
  flush run := { run with walker := run.walker.flush }
  request? _ run := run.walker.memoryRequest?
  fire params := LeafRun.onWalker (LeafWalker.fireMemory params)
  refill? id block run := run.walker.refill? id block
  take scene id block := LeafRun.onWalker (LeafWalker.takeBlock scene.params id block)
  statistics params run := run.walker.statistics params ++ run.guest.statistics params

end PageWalk.Bench
