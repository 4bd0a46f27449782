import PageWalk.Format.Number

/-!
# Decimal text of binary64 numbers

A finite binary64 number is a sign and an exact fraction. Its text is the fraction
rounded once to the places asked for, a tie going to the even digit: positional
notation, scientific notation, or whichever of them is shorter.
-/

namespace PageWalk.Format

inductive Binary64
  | notANumber (negative : Bool)
  | infinite (negative : Bool)
  | finite (negative : Bool) (numerator denominator : Nat)
deriving DecidableEq, Repr

/-- The meaning of a binary64 bit pattern: fields of 1, 11 and 52 bits. -/
def Binary64.ofBits (bits : Word) : Binary64 :=
  let negative := bits >>> 63 != 0
  let exponent := (bitSlice bits 52 62).toNat
  let fraction := (bitSlice bits 0 51).toNat
  if exponent = 2047 then
    if fraction = 0 then .infinite negative else .notANumber negative
  else if exponent = 0 then
    .finite negative fraction (Nat.pow 2 1074)
  else
    let significand := Nat.pow 2 52 + fraction
    if 1075 ≤ exponent then
      .finite negative (significand * Nat.pow 2 (exponent - 1075)) 1
    else
      .finite negative significand (Nat.pow 2 (1075 - exponent))

def digitCount (number : Nat) : Nat :=
  (Nat.toDigits 10 number).length

/-- The binary64 number nearest to decimal text: a sign, digits with or without a point,
and an exponent. An exponent far beyond the range of binary64 counts as one just beyond
it. -/
def nearestBits (text : String) : Word :=
  let unsigned := text.toList.dropWhile fun char => char == '-' || char == '+'
  let isMarker (char : Char) : Bool := char == 'e' || char == 'E'
  let significand := unsigned.takeWhile fun char => !isMarker char
  let exponent := (unsigned.dropWhile fun char => !isMarker char).drop 1
  let whole := significand.takeWhile (· != '.')
  let places := (significand.dropWhile (· != '.')).drop 1
  let digits := numberOfDigits (whole ++ places)
  let size : Int := numberOfDigits (exponent.filter Char.isDigit)
  let scale := (if exponent.head? = some '-' then -size else size) - places.length
  let scale := max (-(400 + digitCount digits : Int)) (min 400 scale)
  let magnitude := Float.ofScientific digits (scale < 0) scale.natAbs
  (if text.toList.head? = some '-' then -magnitude else magnitude).toBits

/-- The quotient rounded to the nearest integer, a tie to the even one. -/
def roundQuotient (numerator denominator : Nat) : Nat :=
  let quotient := numerator / denominator
  let twice := 2 * (numerator % denominator)
  if denominator < twice || (twice == denominator && quotient % 2 == 1) then
    quotient + 1
  else
    quotient

/-- The exponent of the first significant digit of a positive fraction. -/
def decimalExponent (numerator denominator : Nat) : Int :=
  if denominator ≤ numerator then
    (digitCount (numerator / denominator) : Int) - 1
  else
    -(digitCount ((denominator + numerator - 1) / numerator - 1) : Int)

/-- Writes `digits` with its last `places` digits behind a point. -/
def withPoint (places : Nat) (keepPoint : Bool) (digits : List Char) : List Char :=
  let digits := List.replicate (places + 1 - digits.length) '0' ++ digits
  let whole := digits.take (digits.length - places)
  let rest := digits.drop (digits.length - places)
  if places = 0 then
    if keepPoint then whole ++ ['.'] else whole
  else
    whole ++ '.' :: rest

/-- Positional notation with a fixed number of places. The denominator is a power of two;
behind as many places as it has factors there are only zeros. -/
def positional (places : Nat) (keepPoint : Bool) (numerator denominator : Nat) : Figure :=
  let written := min places denominator.log2
  { digits := withPoint written (keepPoint || 0 < places)
      (Nat.toDigits 10 (roundQuotient (numerator * Nat.pow 10 written) denominator))
    closingZeros := places - written }

/-- The significant digits of a fraction, `places + 1` of them, and the exponent
of the first one after rounding. -/
def significantDigits (places numerator denominator : Nat) : Nat × Int :=
  if numerator = 0 then
    (0, 0)
  else
    let exponent := decimalExponent numerator denominator
    let scale := (places : Int) - exponent
    let rounded :=
      if 0 ≤ scale then
        roundQuotient (numerator * Nat.pow 10 scale.toNat) denominator
      else
        roundQuotient numerator (denominator * Nat.pow 10 (-scale).toNat)
    if rounded = Nat.pow 10 (places + 1) then (rounded / 10, exponent + 1) else (rounded, exponent)

/-- The exponent part of scientific notation: a sign and at least so many digits. -/
def exponentText (marker : Char) (least : Nat) (exponent : Int) : List Char :=
  let digits := Nat.toDigits 10 exponent.natAbs
  marker :: (if exponent < 0 then '-' else '+') ::
    (List.replicate (least - digits.length) '0' ++ digits)

/-- The places of scientific notation that need not be zero. The denominator is a power of
two, so the fraction is a whole number of the unit in its last place. -/
def exactPlaces (numerator denominator : Nat) : Nat :=
  digitCount (numerator * Nat.pow 5 denominator.log2) - 1

/-- Scientific notation with a fixed number of places. -/
def scientific (places : Nat) (keepPoint : Bool) (numerator denominator : Nat) : Figure :=
  let written := min places (exactPlaces numerator denominator)
  let (digits, exponent) := significantDigits written numerator denominator
  { digits := withPoint written (keepPoint || 0 < places) (Nat.toDigits 10 digits)
    closingZeros := places - written
    exponent := exponentText 'e' 2 exponent }

/-- Drops the closing zeros behind a point, and the point if nothing follows it. -/
def dropClosingZeros (text : List Char) : List Char :=
  if text.contains '.' then
    let kept := (text.reverse.dropWhile (· == '0'))
    match kept with
    | '.' :: whole => whole.reverse
    | _ => kept.reverse
  else
    text

/-- A number's text without the closing zeros behind its point. -/
def Figure.shorten (figure : Figure) : Figure :=
  { figure with digits := dropClosingZeros figure.digits, closingZeros := 0 }

/-- The notation that fits the exponent: positional from `-4` up to the number of
significant digits, scientific otherwise. Closing zeros go unless they are kept, and a
number that only rounding makes too large for positional notation has none to keep. -/
def general (precision : Nat) (keepZeros : Bool) (numerator denominator : Nat) : Figure :=
  let places := precision - 1
  let written := min places (exactPlaces numerator denominator)
  let exponent := (significantDigits written numerator denominator).2
  let figure :=
    if -4 ≤ exponent && exponent ≤ places then
      positional (places - exponent).toNat keepZeros numerator denominator
    else if exponent = places + 1 && decimalExponent numerator denominator = places then
      scientific 0 keepZeros numerator denominator
    else
      scientific places keepZeros numerator denominator
  if keepZeros then figure else figure.shorten

end PageWalk.Format
