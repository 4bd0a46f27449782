import PageWalk.Bench.Stand
import PageWalk.StageTwoWalker

/-!
# Second-stage walks on the bench

Runs the second-stage walker against the memory of a scene, every read being
answered at once.
-/

namespace PageWalk.Bench

def walkLimit : Nat := 100

/-- A walker in the middle of a walk, and the blocks it has read. -/
structure GuestRun where
  walker : StageTwoWalker
  reads : List MemoryRequest := []

namespace GuestRun

def onWalker (operation : StageTwoWalker → Outcome StageTwoWalker) (run : GuestRun) :
    Outcome GuestRun :=
  (operation run.walker).map fun walker => { run with walker := walker }

def serve (scene : Scene) (run : GuestRun) : Outcome GuestRun :=
  match run.walker.memoryRequest? scene.params with
  | none => { state := run }
  | some request =>
      let block := scene.memory.readBlock request.address
      let run := { run with reads := run.reads ++ [request] }
      (run.onWalker (StageTwoWalker.fireMemory scene.params)).andThen
        (onWalker (StageTwoWalker.takeBlock scene.params scene.registers block))

/-- One step, its read answered at once. -/
def step (scene : Scene) (run : GuestRun) : Outcome GuestRun :=
  (run.onWalker
    (StageTwoWalker.tick scene.params scene.registers scene.protection)).andThen
      (serve scene)

def finish (scene : Scene) : (limit : Nat) → GuestRun → Outcome GuestRun
  | 0, run => { state := run }
  | limit + 1, run =>
      if run.walker.reply?.isSome then { state := run }
      else (run.step scene).andThen (finish scene limit)

end GuestRun

structure GuestWalkResult where
  walker : StageTwoWalker
  reads : List MemoryRequest := []
  reply : StageTwoReply := {}

/-- Walks a guest page and takes the reply. -/
def walkGuestPage (scene : Scene) (request : StageTwoRequest) (walker : StageTwoWalker) :
    Outcome GuestWalkResult :=
  let run : Outcome GuestRun :=
    ((StageTwoWalker.accept scene.params scene.registers request walker).map
      fun walker => { walker := walker }).andThen (GuestRun.finish scene walkLimit)
  let reply := (run.state.walker.reply?).getD {}
  (run.andThen (GuestRun.onWalker (StageTwoWalker.takeReply scene.params))).map fun run =>
    { walker := run.walker, reads := run.reads, reply := reply }

def stageTwoKind : WalkerKind StageTwoWalker where
  create _ := {}
  tick scene := StageTwoWalker.tick scene.params scene.registers scene.protection
  flush := StageTwoWalker.flush
  request? params walker := walker.memoryRequest? params
  fire := StageTwoWalker.fireMemory
  refill? _ block walker := walker.refill? block
  take scene _ := StageTwoWalker.takeBlock scene.params scene.registers
  statistics params walker := walker.statistics params

end PageWalk.Bench
