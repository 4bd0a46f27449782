import PageWalk.Fault

/-!
# Line codes

An error-detecting code is kept beside a cache line. The line is a list of words
that the code folds into one byte; a line whose code does not match is corrupted.
-/

namespace PageWalk

inductive LineCode
  | unprotected
  /-- One even parity bit for each word. -/
  | parity
deriving DecidableEq, Repr, Inhabited

/-- The parity of a word: 1 if an odd number of its bits are set. -/
def wordParity (word : Word) : Word :=
  let word := word ^^^ (word >>> 32)
  let word := word ^^^ (word >>> 16)
  let word := word ^^^ (word >>> 8)
  let word := word ^^^ (word >>> 4)
  let word := word ^^^ (word >>> 2)
  let word := word ^^^ (word >>> 1)
  word &&& 1

/-- Folds words into a byte: the parity of the word at `position` lands in bit
`position % 8`. -/
def parityFrom (position : Nat) : List Word → UInt8
  | [] => 0
  | word :: words =>
      ((wordParity word).toUInt8 <<< UInt8.ofNat (position % 8)) ^^^
        parityFrom (position + 1) words

namespace LineCode

/-- The code byte of a line. -/
def encode (code : LineCode) (words : List Word) : UInt8 :=
  match code with
  | .unprotected => 0
  | .parity => parityFrom 0 words

/-- Whether a stored code byte does not match its line. -/
def hasError (code : LineCode) (words : List Word) (stored : UInt8) : Bool :=
  code.encode words != stored

def name : LineCode → String
  | .unprotected => "none"
  | .parity => "parity"

def ofName? (name : String) : Option LineCode :=
  if name = "none" then some .unprotected
  else if name = "parity" then some .parity
  else none

def create (name : String) : Except Fault LineCode :=
  match ofName? name with
  | some code => .ok code
  | none => .error (.unknownCode name)

end LineCode

end PageWalk
