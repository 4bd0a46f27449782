/-!
# Options of the command line

An option is a dash and letters, or two dashes and a name that may be cut short as
long as it stays the only one. A value stands right behind its letter, behind an equals
sign, or in the next argument. Other arguments are passed over, and a double dash ends
the options.
-/

namespace PageWalk.CommandLine

inductive Switch
  | trace
  | debugFlags
  | maxSteps
  | stats
  | help
deriving DecidableEq, Repr

namespace Switch

def all : List Switch :=
  [.trace, .debugFlags, .maxSteps, .stats, .help]

/-- The name behind two dashes. -/
def longName : Switch → String
  | .trace => "trace"
  | .debugFlags => "debug-flags"
  | .maxSteps => "max-steps"
  | .stats => "stats"
  | .help => "help"

def letter : Switch → Char
  | .trace => 't'
  | .debugFlags => 'd'
  | .maxSteps => 'm'
  | .stats => 's'
  | .help => 'h'

def takesValue (switch : Switch) : Bool :=
  switch != .help

def ofLetter? (letter : Char) : Option Switch :=
  all.find? fun switch => switch.letter == letter

def startingWith (name : List Char) : List Switch :=
  all.filter fun switch => name.isPrefixOf switch.longName.toList

/-- The option of a name: the one called so, else the only one that starts so. -/
def ofName? (name : List Char) : Option Switch :=
  match all.find? fun switch => switch.longName.toList == name with
  | some switch => some switch
  | none =>
      match startingWith name with
      | [switch] => some switch
      | _ => none

end Switch

/-- What the arguments give. -/
inductive Given
  /-- An option; the value is empty if it has none. -/
  | option (switch : Switch) (value : String)
  /-- An unknown option, or a value that is missing or not allowed. -/
  | illegal
deriving DecidableEq, Repr

/-- The name of a long option and the value behind its equals sign. -/
def splitValue (text : List Char) : List Char × Option String :=
  match text.dropWhile (· != '=') with
  | _ :: value => (text.takeWhile (· != '='), some (String.ofList value))
  | [] => (text, none)

/-- What the letters behind a dash give, and the option at their end if its value is
still to come. -/
def readLetters : List Char → List Given × Option Switch
  | [] => ([], none)
  | letter :: letters =>
      match Switch.ofLetter? letter with
      | none => ([.illegal], none)
      | some switch =>
          if switch.takesValue then
            match letters with
            | [] => ([], some switch)
            | _ :: _ => ([.option switch (String.ofList letters)], none)
          else
            (.option switch "" :: (readLetters letters).1, (readLetters letters).2)

/-- What one argument gives, and the option whose value has to be the next argument.
Nothing is given by an argument that is no option. -/
def readArgument (argument : List Char) : List Given × Option Switch :=
  match argument with
  | '-' :: '-' :: text =>
      match Switch.ofName? (splitValue text).1, (splitValue text).2 with
      | none, _ => ([.illegal], none)
      | some switch, some value =>
          if switch.takesValue then ([.option switch value], none) else ([.illegal], none)
      | some switch, none =>
          if switch.takesValue then ([], some switch) else ([.option switch ""], none)
  | '-' :: letters => readLetters letters
  | _ => ([], none)

def readArguments : List String → List Given
  | [] => []
  | argument :: rest =>
      if argument = "--" then
        []
      else
        match readArgument argument.toList, rest with
        | (given, none), rest => given ++ readArguments rest
        | (given, some switch), value :: rest =>
            given ++ .option switch value :: readArguments rest
        | (given, some _), [] => given ++ [.illegal]

end PageWalk.CommandLine
