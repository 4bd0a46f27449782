import PageWalk.Format.Decimal

/-!
# Text of real numbers

A binary64 number is shown in positional, scientific or hexadecimal notation, or in
whichever of the first two fits its size. Numbers that are not finite are words.
-/

namespace PageWalk.Format

/-- How a real number is shown. -/
inductive RealStyle
  | positional
  | scientific
  | general
  | hexadecimal
deriving DecidableEq, Repr

def RealStyle.ofConversion? (conversion : Char) : Option RealStyle :=
  match conversion.toLower with
  | 'f' => some .positional
  | 'e' => some .scientific
  | 'g' => some .general
  | 'a' => some .hexadecimal
  | _ => none

/-- The fewest hexadecimal places of a fraction of 52 bits. -/
def hexadecimalPlaces (fraction : Nat) : Nat :=
  13 - ((Nat.toDigits 16 (Nat.pow 16 13 + fraction)).reverse.takeWhile (· == '0')).length

/-- Hexadecimal notation: the leading bit, the other bits in places of four, and the
exponent of two. Without a precision there are as many places as are needed. -/
def hexadecimalFraction (precision : Option Nat) (keepPoint : Bool) (bits : Word) : Figure :=
  let exponent := (bitSlice bits 52 62).toNat
  let fraction := (bitSlice bits 0 51).toNat
  let significand := if exponent = 0 then fraction else Nat.pow 16 13 + fraction
  let places := precision.getD (hexadecimalPlaces fraction)
  let written := min places 13
  { digits := withPoint written (keepPoint || 0 < places)
      (Nat.toDigits 16 (roundQuotient significand (Nat.pow 16 (13 - written))))
    closingZeros := places - written
    exponent := exponentText 'p' 1 <|
      if significand = 0 then 0 else (max exponent 1 : Int) - 1023 }

def Layout.real (layout : Layout) (style : RealStyle) (upper : Bool) (bits : Word) :
    List Char :=
  let precision := layout.precision.getD 6
  let shown := match Binary64.ofBits bits with
    | .notANumber negative => layout.pad (layout.sign negative ++ ['n', 'a', 'n'])
    | .infinite negative => layout.pad (layout.sign negative ++ ['i', 'n', 'f'])
    | .finite negative numerator denominator =>
        let figure := match style with
          | .positional => positional precision layout.alternate numerator denominator
          | .scientific => scientific precision layout.alternate numerator denominator
          | .general => general precision layout.alternate numerator denominator
          | .hexadecimal => hexadecimalFraction layout.precision layout.alternate bits
        let marker := if style = .hexadecimal then ['0', 'x'] else []
        layout.place layout.zero { figure with lead := layout.sign negative ++ marker }
  if upper then shown.map Char.toUpper else shown

end PageWalk.Format
