import PageWalk.DebugFlags
import PageWalk.Fault

/-!
# Logger and trace text

Diagnostics go to two streams. The log holds warnings and remarks, each behind the
name of its severity; the trace holds the events of enabled debug flags, each
behind its cycle and its unit. Every message ends its line.
-/

namespace PageWalk

/-- The severities that do not stop the program. -/
inductive Severity
  | warn
  | info
  | hack
deriving DecidableEq, Repr

/-- The text in front of a message. -/
def Severity.lead : Severity → String
  | .warn => "warn: "
  | .info => "info: "
  | .hack => "hack: "

def endLine (message : String) : String :=
  if message.toList.getLast? = some '\n' then message else message ++ "\n"

/-- A message without the end of its line. -/
def trimLine (message : String) : String :=
  if message.toList.getLast? = some '\n' then
    String.ofList message.toList.dropLast
  else
    message

/-- The lines of a stream; the end of the last line starts no further one. -/
def streamLines (stream : String) : List String :=
  let lines := stream.toList.splitOn '\n'
  let lines := if lines.getLast? = some [] then lines.dropLast else lines
  lines.map String.ofList

/-- The log text of a message. -/
def Severity.logText (severity : Severity) (message : String) : String :=
  severity.lead ++ endLine message

structure Logger where
  warn : Bool := true
  info : Bool := true
  hack : Bool := true
deriving DecidableEq, Repr, Inhabited

namespace Logger

def isEnabled (logger : Logger) : Severity → Bool
  | .warn => logger.warn
  | .info => logger.info
  | .hack => logger.hack

def switch (logger : Logger) (name : String) (enabled : Bool) : Logger :=
  if name = "warn" then { logger with warn := enabled }
  else if name = "info" then { logger with info := enabled }
  else if name = "hack" then { logger with hack := enabled }
  else logger

/-- What a message adds to the log. -/
def print (logger : Logger) (severity : Severity) (message : String) : String :=
  if logger.isEnabled severity then severity.logText message else ""

end Logger

/-- A trace message of a unit at a cycle. -/
def traceText (cycle : Word) (unit message : String) : String :=
  toString cycle.toNat ++ ": " ++ unit ++ ": " ++ endLine message

namespace Note

def logText (note : Note) : String :=
  if note.event.isWarning then Severity.warn.logText (note.event.text note.unit) else ""

/-- What a note adds to the trace under the enabled flags. -/
def traceText (flags : DebugFlags) (note : Note) : String :=
  if !note.event.isWarning && flags.isEnabled note.event.flag then
    PageWalk.traceText note.cycle note.unit (note.event.text note.unit)
  else
    ""

end Note

/-- The warning about a name that no debug flag has. -/
def unknownFlagText (name : String) : String :=
  Severity.warn.logText (Format.render "Unknown debug flag %s." [.text name])

/-- Switches the flags of a comma-separated list on. The log text warns about every
name that no flag has. -/
def DebugFlags.enableWarned (registry : DebugFlags) (list : String) : DebugFlags × String :=
  let (registry, unknown) := registry.enable list
  (registry, String.join (unknown.map unknownFlagText))

/-- What a fault reports: its wording without the end of its line. -/
def Fault.report (fault : Fault) : Option String :=
  fault.message.map trimLine

end PageWalk
