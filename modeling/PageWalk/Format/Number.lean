import PageWalk.Format.Bytes
import PageWalk.Word

/-!
# Number text

How a formatted field is laid out: sign, base marker, least number of digits,
field width and padding. Widths count bytes, and no field is larger than
`largestField`.
-/

namespace PageWalk.Format

structure Layout where
  /-- Pad on the right. -/
  left : Bool := false
  /-- Show the sign of a number that is not negative. -/
  plus : Bool := false
  /-- Leave a blank for the sign of a number that is not negative. -/
  space : Bool := false
  /-- Mark the base, or keep the point and the closing zeros of a real number. -/
  alternate : Bool := false
  /-- Pad numbers with zeros. -/
  zero : Bool := false
  /-- The least width of the field. -/
  width : Nat := 0
  /-- Least digits of an integer, places of a real number, most bytes of a text. -/
  precision : Option Nat := none
deriving DecidableEq, Repr

def Layout.addFlag (layout : Layout) (flag : Char) : Layout :=
  if flag = '-' then { layout with left := true }
  else if flag = '+' then { layout with plus := true }
  else if flag = ' ' then { layout with space := true }
  else if flag = '#' then { layout with alternate := true }
  else if flag = '0' then { layout with zero := true }
  else layout

/-- Whether a character is a layout option. The last two options change nothing. -/
def isLayoutFlag (char : Char) : Bool :=
  "-+ #0'I".toList.contains char

/-- The largest width, precision and size of a field. -/
def largestField : Nat := 2147483647

def numberOfDigits (digits : List Char) : Nat :=
  digits.foldl (fun number digit => number * 10 + (digit.toNat - '0'.toNat)) 0

/-- Reads a number of a layout: digits, or a star that stands for the number of the
argument. Digits behind a star are left, but they must not be too large. -/
def readNumber (argument : Int) (chars : List Char) : Option Int × List Char :=
  match chars with
  | '*' :: rest =>
      let digits := numberOfDigits (rest.takeWhile Char.isDigit)
      (some (if largestField < digits then digits else argument), rest)
  | _ =>
      let digits := chars.takeWhile Char.isDigit
      (if digits.isEmpty then none else some (numberOfDigits digits),
        chars.dropWhile Char.isDigit)

/-- Reads a layout: options, then a width, then a precision after a point. A negative
width pads on the right, and a negative precision is none. What is left is no part of
the layout. -/
def Layout.read (argument : Int) (chars : List Char) : Layout × List Char :=
  let options := (chars.takeWhile isLayoutFlag).foldl Layout.addFlag {}
  let (width, rest) := readNumber argument (chars.dropWhile isLayoutFlag)
  let layout :=
    { options with
      left := options.left || width.getD 0 < 0
      zero := options.zero && !options.left
      width := (width.getD 0).natAbs }
  match rest with
  | '.' :: places =>
      let (precision, rest) := readNumber argument places
      let precision := precision.getD 0
      ({ layout with precision := if precision < 0 then none else some precision.toNat }, rest)
  | _ => (layout, rest)

def Layout.isPossible (layout : Layout) : Bool :=
  layout.width ≤ largestField && layout.precision.getD 0 ≤ largestField

/-- A layout in its own notation: options in a fixed order, a plus sign in place of a
blank, then the width and the precision. -/
def Layout.spelling (layout : Layout) : List Char :=
  let mark (isShown : Bool) (char : Char) : List Char := if isShown then [char] else []
  mark layout.alternate '#' ++
    (if layout.plus then ['+'] else mark layout.space ' ') ++
    mark layout.left '-' ++ mark layout.zero '0' ++
    (if layout.width = 0 then [] else Nat.toDigits 10 layout.width) ++
    match layout.precision with
    | none => []
    | some precision => '.' :: Nat.toDigits 10 precision

def Layout.pad (layout : Layout) (bytes : List Char) : List Char :=
  let blanks := List.replicate (layout.width - bytes.length) ' '
  if layout.left then bytes ++ blanks else blanks ++ bytes

/-- The text of a number by its parts. Zeros around the digits are counted. -/
structure Figure where
  /-- The sign and the base marker. -/
  lead : List Char := []
  /-- How many zeros come before the digits. -/
  zeros : Nat := 0
  digits : List Char
  /-- How many zeros come behind the digits. -/
  closingZeros : Nat := 0
  /-- The exponent part of scientific notation. -/
  exponent : List Char := []
deriving DecidableEq, Repr

def Figure.size (figure : Figure) : Nat :=
  figure.lead.length + figure.zeros + figure.digits.length + figure.closingZeros +
    figure.exponent.length

def Figure.text (figure : Figure) : List Char :=
  figure.lead ++ List.replicate figure.zeros '0' ++ figure.digits ++
    List.replicate figure.closingZeros '0' ++ figure.exponent

/-- A number in its field, filled with zeros or with blanks. A number too large for any
field has no text. -/
def Layout.place (layout : Layout) (zeros : Bool) (figure : Figure) : List Char :=
  if largestField < figure.size then
    []
  else if zeros && !layout.left then
    { figure with zeros := figure.zeros + (layout.width - figure.size) }.text
  else
    layout.pad figure.text

def Layout.sign (layout : Layout) (negative : Bool) : List Char :=
  if negative then ['-']
  else if layout.plus then ['+']
  else if layout.space then [' ']
  else []

/-- The digits of a number, at least as many as the precision asks for. -/
def Layout.figure (layout : Layout) (lead : List Char) (base number : Nat) : Figure :=
  let digits := if number = 0 then [] else Nat.toDigits base number
  { lead, digits, zeros := layout.precision.getD 1 - digits.length }

/-- An integer in its field; a precision takes the place of filling with zeros. -/
def Layout.placeInteger (layout : Layout) (figure : Figure) : List Char :=
  layout.place (layout.zero && layout.precision.isNone) figure

def Layout.signed (layout : Layout) (value : Int) : List Char :=
  layout.placeInteger (layout.figure (layout.sign (value < 0)) 10 value.natAbs)

/-- An unsigned integer in octal digits; the alternate form starts with a zero. -/
def Layout.octal (layout : Layout) (value : Word) : List Char :=
  let figure := layout.figure [] 8 value.toNat
  layout.placeInteger <|
    if layout.alternate && figure.zeros = 0 then { figure with zeros := 1 } else figure

/-- An unsigned integer in hexadecimal digits; the alternate form of a nonzero
number starts with its base marker. -/
def Layout.hexadecimal (layout : Layout) (upper : Bool) (value : Word) : List Char :=
  let lead := if layout.alternate && value != 0 then ['0', 'x'] else []
  let shown := layout.placeInteger (layout.figure lead 16 value.toNat)
  if upper then shown.map Char.toUpper else shown

def Layout.unsigned (layout : Layout) (value : Word) : List Char :=
  layout.placeInteger (layout.figure [] 10 value.toNat)

end PageWalk.Format
