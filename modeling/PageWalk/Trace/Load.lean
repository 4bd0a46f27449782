import PageWalk.Logger
import PageWalk.Tlb.Tick
import PageWalk.Trace.Message

/-!
# Loading a trace

The records of a trace are checked in order. Then the words are stored into a new
memory and a TLB is built over it, with nothing protected.
-/

namespace PageWalk.Trace

/-- What the records of a trace hold. -/
structure Contents where
  words : Array WordMessage := #[]
  operations : Array Operation := #[]
  lastStep : Word := 0

/-- Adds a record. Operations must have an action and come in the order of their
steps. -/
def Contents.add (path : String) (contents : Contents) : Record → Except Fault Contents
  | .word message => .ok { contents with words := contents.words.push message }
  | .empty => .error (.trace path .emptyRecord)
  | .operation step action =>
      if step < contents.lastStep then
        .error (.trace path (.backwards step contents.lastStep))
      else match action with
        | none => .error (.trace path (.emptyOperation step))
        | some action =>
            .ok
              { contents with
                operations := contents.operations.push ⟨step, action⟩
                lastStep := step }

structure Loaded where
  tlb : Tlb
  operations : List Operation
  /-- How many words of memory the trace stored. -/
  wordCount : Nat

/-- Loads the trace at a path. Nothing is on its way yet, so the first registers
flush nothing. -/
def load (path : String) (header : Option Header) (records : List Record) :
    Except Fault Loaded := do
  let some header := header | .error (.trace path .noHeader)
  let params := header.toParams
  let contents ← records.foldlM (Contents.add path) {}
  let empty : Memory := { name := params.memoryName, latency := params.memoryLatency }
  let memory ← contents.words.foldlM (fun memory word =>
    memory.writeWord word.address word.data) empty
  let tlb ← Tlb.create params Protection.allowAll memory
  let registers := (header.registers.toRegisters {}).settled
  return {
    tlb := { tlb with registers := registers }
    operations := contents.operations.toList
    wordCount := contents.words.size }

/-- The remark about a trace that was loaded. -/
def Loaded.text (trace : Loaded) (path : String) : String :=
  Format.render "Loaded %s: %d memory words, %d ops."
    [.text path, .ofNat trace.wordCount, .ofNat trace.operations.length]

end PageWalk.Trace
