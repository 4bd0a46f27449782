import PageWalk.Fault

/-!
# Counts on the command line

A count is blanks, a sign, and digits whose lead names their base: `0x` sixteen, any
other zero eight, and anything else ten. It is a 64-bit number; a larger one counts as
the largest, and a minus sign takes its complement.
-/

namespace PageWalk.CommandLine

/-- Blanks before a count. -/
def isBlank (char : Char) : Bool :=
  char == ' ' || (9 ≤ char.toNat && char.toNat ≤ 13)

def digitValue? (char : Char) : Option Nat :=
  if '0' ≤ char && char ≤ '9' then some (char.toNat - '0'.toNat)
  else if 'a' ≤ char && char ≤ 'f' then some (char.toNat - 'a'.toNat + 10)
  else if 'A' ≤ char && char ≤ 'F' then some (char.toNat - 'A'.toNat + 10)
  else none

def numberOf? (base : Nat) (digits : List Char) : Option Nat :=
  digits.foldl
    (fun number char => do
      let number ← number
      let digit ← digitValue? char
      if digit < base then some (number * base + digit) else none)
    (some 0)

/-- The number of an unsigned count; there must be a digit. -/
def unsigned? : List Char → Option Nat
  | [] => none
  | ['0', 'x'] | ['0', 'X'] => none
  | '0' :: 'x' :: digits | '0' :: 'X' :: digits => numberOf? 16 digits
  | '0' :: digits => numberOf? 8 digits
  | digits => numberOf? 10 digits

/-- A number as a 64-bit one; the largest stands for all that do not fit. -/
def saturate (negative : Bool) (number : Nat) : Word :=
  if UInt64.size ≤ number then ~~~(0 : Word)
  else if negative then 0 - UInt64.ofNat number
  else UInt64.ofNat number

/-- The value of a count that is nothing else. -/
def count? (text : String) : Option Word :=
  match text.toList.dropWhile isBlank with
  | '-' :: digits => (unsigned? digits).map (saturate true)
  | '+' :: digits => (unsigned? digits).map (saturate false)
  | digits => (unsigned? digits).map (saturate false)

/-- The number of steps that a text limits a replay to, which must not be zero. -/
def stepLimit (text : String) : Except Fault Word :=
  match count? text with
  | some limit => if limit = 0 then .error (.stepLimit text) else .ok limit
  | none => .error (.stepLimit text)

end PageWalk.CommandLine
