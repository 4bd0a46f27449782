import PageWalk.CommandLine.Numeral
import PageWalk.CommandLine.Options
import PageWalk.Replay

/-!
# Sessions

A session is what the program does for its arguments: it shows its usage, or it replays
a trace and lists the counters. The first option that cannot be used ends it.
-/

namespace PageWalk.CommandLine

def usage : String :=
  "Usage: ptw_trace --trace FILE [options]\n" ++
    "  --trace FILE          protobuf trace to replay (.gz for gzip)\n" ++
    "  --debug-flags LIST    comma separated debug flags, All for every flag\n" ++
    "  --max-steps N         stop after N steps (default 1000000)\n" ++
    "  --stats FILE          dump statistics to FILE instead of stdout\n" ++
    "  --help                print this message\n"

structure Settings where
  tracePath : String := ""
  /-- The file that the counters are listed to; standard output if it is empty. -/
  statsPath : String := ""
  maxSteps : Word := 1000000
  flags : DebugFlags := .builtIn
  /-- Warnings about unknown debug flags. -/
  log : String := ""
deriving DecidableEq, Repr

/-- What the program is to do. -/
inductive Intent
  | replay
  | help
  | usage
  | fail (fault : Fault)
deriving DecidableEq, Repr

namespace Settings

def enable (settings : Settings) (list : String) : Settings :=
  let (flags, warnings) := settings.flags.enableWarned list
  { settings with flags := flags, log := settings.log ++ warnings }

/-- Takes the options in order, up to the one that decides what to do. Without a trace
there is nothing to replay. -/
def takeAll (settings : Settings) : List Given → Settings × Intent
  | [] => (settings, if settings.tracePath = "" then .usage else .replay)
  | .illegal :: _ => (settings, .usage)
  | .option .help _ :: _ => (settings, .help)
  | .option .trace path :: rest => { settings with tracePath := path }.takeAll rest
  | .option .stats path :: rest => { settings with statsPath := path }.takeAll rest
  | .option .debugFlags list :: rest => (settings.enable list).takeAll rest
  | .option .maxSteps text :: rest =>
      match stepLimit text with
      | .ok limit => { settings with maxSteps := limit }.takeAll rest
      | .error fault => (settings, .fail fault)

/-- What a list of arguments asks for. An argument ends at its first NUL. -/
def ofArguments (arguments : List String) : Settings × Intent :=
  takeAll {} (readArguments (arguments.map Format.beforeNul))

end Settings

inductive SessionEnding
  | exit (code : UInt8)
  | failed (fault : Fault)
deriving DecidableEq, Repr

structure Session where
  stdout : String := ""
  stderr : String := ""
  log : String := ""
  /-- The listing that goes to a file, if there is one. -/
  listing : Option String := none
  ending : SessionEnding
deriving DecidableEq, Repr

def Session.ofFault (stdout log : String) (fault : Fault) : Session where
  stdout := stdout
  log := log
  ending := .failed fault

/-- Lists the counters after a replay. `writable` tells whether the file of the listing
can be written. -/
def Settings.conclude (settings : Settings) (writable : Bool) (stdout log : String)
    (counters : List Statistic) (code : UInt8) : Session :=
  if settings.statsPath = "" then
    { stdout := stdout ++ Statistics.dump counters, log := log, ending := .exit code }
  else if writable then
    { stdout := stdout
      log := log
      listing := some (Statistics.dump counters)
      ending := .exit code }
  else
    .ofFault stdout log (.statisticsFile settings.statsPath)

def Settings.replay (settings : Settings) (writable : Bool) (trace : Trace.Loaded) :
    Session :=
  let log := settings.log ++ Severity.info.logText (trace.text settings.tracePath)
  let (replay, ending) := (Replay.start trace).run settings.maxSteps
  let stdout := replay.mixedText settings.flags
  let log := log ++ replay.logText ending
  let ended := log ++ Severity.info.logText replay.endedText
  match ending with
  | .failed fault => .ofFault stdout log fault
  | .finished => settings.conclude writable stdout ended replay.tlb.statistics 0
  | .stopped => settings.conclude writable stdout ended replay.tlb.statistics 2

/-- The session that does what was asked for; `trace` is what the trace file holds. -/
def Settings.session (settings : Settings) (writable : Bool)
    (trace : Except Fault (Option Trace.Header × List Trace.Record)) : Intent → Session
  | .help => { stdout := usage, log := settings.log, ending := .exit 0 }
  | .usage => { stderr := usage, log := settings.log, ending := .exit 1 }
  | .fail fault => .ofFault "" settings.log fault
  | .replay =>
      match trace.bind fun (header, records) =>
          Trace.load settings.tracePath header records with
      | .error fault => .ofFault "" settings.log fault
      | .ok trace => settings.replay writable trace

end PageWalk.CommandLine
