import PageWalk.CommandLine.Session
import PageWalk.Trace.Wire

/-!
# The program

Replays a trace file and lists the counters.
-/

namespace PageWalk.CommandLine

def openTrace (path : String) : IO (Except Fault (Option Trace.Header × List Trace.Record)) := do
  try
    let bytes ← IO.FS.readBinFile path
    return Trace.Wire.readTrace path bytes.toList
  catch _ =>
    return .error (.trace path .unreadable)

/-- The session with its listing written, if there is one for a file. -/
def Session.write (session : Session) (path : String) : IO Session := do
  match session.listing with
  | none => return session
  | some listing =>
      try
        IO.FS.writeFile path listing
        return session
      catch _ =>
        return .ofFault session.stdout session.log (.statisticsFile path)

def FaultKind.lead : FaultKind → String
  | .fatal => "fatal: "
  | .panic => "panic: "
  | .outOfRange => "out of range"

/-- Shows how a session ended, and gives its exit code. -/
def SessionEnding.report : SessionEnding → IO UInt32
  | .exit code => return code.toUInt32
  | .failed fault => do
      IO.eprintln (FaultKind.lead fault.kind ++ fault.report.getD "")
      return if fault.kind = .fatal then 1 else 134

def run (arguments : List String) : IO UInt32 := do
  let (settings, intent) := Settings.ofArguments arguments
  let trace ←
    if intent = .replay then openTrace settings.tracePath else pure (.ok (none, []))
  let session ← (settings.session true trace intent).write settings.statsPath
  IO.print session.stdout
  IO.eprint (session.log ++ session.stderr)
  session.ending.report

end PageWalk.CommandLine

def main (arguments : List String) : IO UInt32 :=
  PageWalk.CommandLine.run arguments
