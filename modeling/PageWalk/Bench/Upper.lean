import PageWalk.Bench.StageTwo
import PageWalk.UpperWalker

/-!
# Upper walks on the bench

Runs the upper walker against the memory of a scene. A private second-stage walker
translates the guest pages that it asks for.
-/

namespace PageWalk.Bench

/-- The upper walker with its private second-stage walker, and everything that the
two have asked for. -/
structure UpperRun where
  walker : UpperWalker := {}
  guest : StageTwoWalker := {}
  reads : List MemoryRequest := []
  refills : List Refill := []
  guestPages : List StageTwoRequest := []
  guestReads : List MemoryRequest := []

namespace UpperRun

def onWalker (operation : UpperWalker → Outcome UpperWalker) (run : UpperRun) :
    Outcome UpperRun :=
  (operation run.walker).map fun walker => { run with walker := walker }

def cleared (run : UpperRun) : UpperRun :=
  { walker := run.walker, guest := run.guest }

def serve (scene : Scene) (run : UpperRun) : Outcome UpperRun :=
  match run.walker.memoryRequest? scene.params with
  | none => { state := run }
  | some request =>
      let block := scene.memory.readBlock request.address
      let run := { run with reads := run.reads ++ [request] }
      (run.onWalker (UpperWalker.fireMemory scene.params)).andThen fun run =>
        let refill := run.walker.refill? block
        let run := { run with refills := run.refills ++ refill.toList }
        run.onWalker (UpperWalker.takeBlock scene.params scene.registers block)

def translate (scene : Scene) (run : UpperRun) : Outcome UpperRun :=
  match run.walker.stageTwoRequest? scene.params with
  | none => { state := run }
  | some request =>
      let run := { run with guestPages := run.guestPages ++ [request] }
      (run.onWalker (UpperWalker.fireStageTwo scene.params)).andThen fun run =>
        let walk := walkGuestPage scene request run.guest
        (walk.map fun result =>
          { run with
            guest := result.walker
            guestReads := run.guestReads ++ result.reads }).andThen
          (onWalker
            (UpperWalker.takeStageTwo scene.params scene.registers walk.state.reply.result))

/-- One step, with what the walker asks for answered at once. -/
def step (scene : Scene) (run : UpperRun) : Outcome UpperRun :=
  (run.onWalker (UpperWalker.tick scene.params scene.registers scene.protection)).andThen
    fun run => (run.serve scene).andThen (translate scene)

def isDone (run : UpperRun) : Bool :=
  run.walker.response?.isSome || run.walker.dispatch?.isSome

def finish (scene : Scene) : (limit : Nat) → UpperRun → Outcome UpperRun
  | 0, run => { state := run }
  | limit + 1, run =>
      if run.isDone then { state := run }
      else (run.step scene).andThen (finish scene limit)

def walk (scene : Scene) (request : UpperRequest) (run : UpperRun) : Outcome UpperRun :=
  (run.cleared.onWalker (UpperWalker.accept scene.params scene.registers request)).andThen
    (finish scene walkLimit)

end UpperRun

def upperKind : WalkerKind UpperRun where
  create _ := {}
  tick scene :=
    UpperRun.onWalker (UpperWalker.tick scene.params scene.registers scene.protection)
  flush run := { run with walker := run.walker.flush }
  request? params run := run.walker.memoryRequest? params
  fire params := UpperRun.onWalker (UpperWalker.fireMemory params)
  refill? _ block run := run.walker.refill? block
  take scene _ block :=
    UpperRun.onWalker (UpperWalker.takeBlock scene.params scene.registers block)
  statistics params run := run.walker.statistics params ++ run.guest.statistics params

end PageWalk.Bench
