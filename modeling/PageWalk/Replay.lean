import PageWalk.Trace.Load

/-!
# Replaying a trace

Each operation of a trace is applied at the start of its step, and lookups that the
TLB cannot take yet wait in trace order. The replay ends when every operation is
applied and every lookup is answered, or when its steps run out.
-/

namespace PageWalk

open Trace (Action Operation)

inductive ReplayOutput
  | note (shown : Note)
  | response (step : Word) (answer : Response)
deriving DecidableEq, Repr

/-- The line of a response that was taken after a step. -/
def Response.line (response : Response) (step : Word) : String :=
  Format.render "%llu: %s\n" [.integer step, .text response.text]

/-- A replay between two steps. -/
structure Replay where
  tlb : Tlb
  /-- Operations that were not applied. -/
  operations : List Operation
  /-- Lookups that the TLB has not taken. -/
  pending : List Request := []
  step : Word := 0
  /-- Everything shown so far, the latest first. -/
  shown : List ReplayOutput := []
  /-- The responses so far, the latest first. -/
  answered : List Response := []

def Replay.start (trace : Trace.Loaded) : Replay where
  tlb := trace.tlb
  operations := trace.operations

namespace Replay

/-- Takes the state and the notes of an operation on the TLB. -/
def absorb (replay : Replay) (outcome : Outcome Tlb) : Replay :=
  { replay with
    tlb := outcome.state
    shown := (outcome.notes.map ReplayOutput.note).reverse ++ replay.shown }

def apply (replay : Replay) : Action → Replay × Option Fault
  | .lookup message =>
      match message.toRequest with
      | .ok request => ({ replay with pending := replay.pending ++ [request] }, none)
      | .error fault => (replay, some fault)
  | .fence message =>
      match message.toFence with
      | .ok fence =>
          let outcome := Tlb.fence fence replay.tlb
          (replay.absorb outcome, outcome.fault)
      | .error fault => (replay, some fault)
  | .registers message =>
      let outcome := Tlb.install (message.toRegisters replay.tlb.registers) replay.tlb
      (replay.absorb outcome, outcome.fault)

/-- Applies the operations whose step has come. -/
def applyDue (replay : Replay) : (operations : List Operation) → Replay × Option Fault
  | [] => ({ replay with operations := [] }, none)
  | operation :: operations =>
      if operation.step ≤ replay.step then
        match replay.apply operation.action with
        | (replay, none) => replay.applyDue operations
        | (replay, some fault) => ({ replay with operations := operations }, some fault)
      else
        ({ replay with operations := operation :: operations }, none)

/-- Sends pending lookups in order as long as the TLB takes them. -/
def sendPending (replay : Replay) : (pending : List Request) → Replay
  | [] => { replay with pending := [] }
  | request :: pending =>
      match replay.tlb.send? request with
      | some outcome => (replay.absorb outcome).sendPending pending
      | none => { replay with pending := request :: pending }

def collect (replay : Replay) : Replay :=
  let (responses, tlb) := replay.tlb.drain
  { replay with
    tlb := tlb
    shown := (responses.map (ReplayOutput.response replay.step)).reverse ++ replay.shown
    answered := responses.reverse ++ replay.answered }

def isDone (replay : Replay) : Bool :=
  replay.operations.isEmpty && replay.pending.isEmpty && replay.tlb.isIdle

/-- One step: operations, lookups, the TLB's step, and its responses. -/
def advance (replay : Replay) : Replay × Option Fault :=
  match replay.applyDue replay.operations with
  | (replay, some fault) => (replay, some fault)
  | (replay, none) =>
      let replay := replay.sendPending replay.pending
      let outcome := replay.tlb.tick
      let replay := replay.absorb outcome
      match outcome.fault with
      | some fault => (replay, some fault)
      | none => ({ replay with step := replay.step + 1 }.collect, none)

end Replay

inductive ReplayEnding
  | finished
  | stopped
  | failed (fault : Fault)
deriving DecidableEq, Repr

namespace Replay

/-- Replays at most `limit` further steps, and at least one. -/
def runFor : (limit : Nat) → Replay → Replay × ReplayEnding
  | 0, replay => (replay, .stopped)
  | limit + 1, replay =>
      match replay.advance with
      | (replay, some fault) => (replay, .failed fault)
      | (replay, none) =>
          if replay.isDone then (replay, .finished) else runFor limit replay

/-- Replays until the end, or until `maxSteps` steps are done. A replay always does
one step. -/
def run (maxSteps : Word) (replay : Replay) : Replay × ReplayEnding :=
  runFor (max maxSteps.toNat 1) replay

def responses (replay : Replay) : List Response :=
  replay.answered.reverse

def outputs (replay : Replay) : List ReplayOutput :=
  replay.shown.reverse

/-- The warning about a replay whose steps ran out. -/
def stoppedText (replay : Replay) : String :=
  Format.render "Stopped after %llu steps with %d ops and %d lookups left."
    [.integer replay.step, .ofNat replay.operations.length, .ofNat replay.pending.length]

/-- The remark about a replay that has ended. -/
def endedText (replay : Replay) : String :=
  Format.render "Simulated %llu steps, %d responses."
    [.integer replay.step, .ofNat replay.answered.length]

end Replay

/-! ## The streams of a replay -/

def ReplayOutput.logText : ReplayOutput → String
  | .note shown => shown.logText
  | .response .. => ""

/-- What an output adds to the trace under the enabled flags. -/
def ReplayOutput.traceText (flags : DebugFlags) : ReplayOutput → String
  | .note shown => shown.traceText flags
  | .response .. => ""

/-- What an output adds to the list of responses. -/
def ReplayOutput.responseText : ReplayOutput → String
  | .note _ => ""
  | .response step answer => answer.line step

/-- The log of a replay, with the warning of one whose steps ran out. -/
def Replay.logText (replay : Replay) (ending : ReplayEnding) : String :=
  String.join (replay.outputs.map ReplayOutput.logText) ++
    if ending = .stopped then Severity.warn.logText replay.stoppedText else ""

/-- The trace of a replay under the enabled flags. -/
def Replay.traceText (replay : Replay) (flags : DebugFlags) : String :=
  String.join (replay.outputs.map (ReplayOutput.traceText flags))

def Replay.responsesText (replay : Replay) : String :=
  String.join (replay.outputs.map ReplayOutput.responseText)

/-- Responses and trace as they come, in one stream. -/
def Replay.mixedText (replay : Replay) (flags : DebugFlags) : String :=
  String.join (replay.outputs.map fun output =>
    output.traceText flags ++ output.responseText)

end PageWalk
