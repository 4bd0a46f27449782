import PageWalk.Format.Real

/-!
# Formatted text

A format is literal text with directives. A directive only picks the
presentation of its argument, so any integer fits any integer directive and a
text is always shown as text. `render` reads a format from left to right; a
doubled percent sign stands for one, arguments left over are ignored, and from
the first directive without an argument the format is copied as it is. All of it
works on bytes, so single bytes can make up a character of the text.
-/

namespace PageWalk.Format

inductive Argument
  /-- An integer of any width, by its 64-bit pattern. -/
  | integer (bits : Word)
  /-- A text; it ends at its first NUL. -/
  | text (text : String)
  /-- A text that is not there. -/
  | missing
  /-- A binary64 number, by its bit pattern. -/
  | real (bits : Word)
  /-- The address of something that is no text. -/
  | address (bits : Word)
deriving DecidableEq, Repr

/-- The argument of a switch: one or zero. -/
def Argument.ofBool (value : Bool) : Argument :=
  .integer (if value then 1 else 0)

/-- The argument of a natural number below `2 ^ 64`. -/
def Argument.ofNat (value : Nat) : Argument :=
  .integer (UInt64.ofNat value)

/-- A text in its field, cut to the precision. -/
def Layout.text (layout : Layout) (bytes : List Char) : List Char :=
  match layout.precision with
  | none => layout.pad bytes
  | some limit => layout.pad (bytes.take limit)

/-- An integer in the presentation that a conversion asks for. -/
def Layout.integer (layout : Layout) (conversion : Char) (bits : Word) : List Char :=
  match conversion with
  | 'c' => layout.pad [Char.ofNat (bits.toNat % 256)]
  | 'x' => layout.hexadecimal false bits
  | 'X' => layout.hexadecimal true bits
  | 'o' => layout.octal bits
  | 'u' => layout.unsigned bits
  | _ => layout.signed bits.toInt64.toInt

/-- An address in hexadecimal digits; the null one has a word. -/
def Layout.address (layout : Layout) (bits : Word) : List Char :=
  if bits = 0 then
    layout.text "(nil)".toList
  else
    { layout with alternate := true }.hexadecimal false bits

/-- The number that an argument gives to a star: the signed lower half of an integer. -/
def Argument.number : Argument → Int
  | .integer bits => bits.toUInt32.toInt32.toInt
  | .text _ | .missing | .real _ | .address _ => 0

/-- The layout characters that show an argument. An address takes none. -/
def Argument.layoutChars (chars : List Char) : Argument → List Char
  | .integer _ | .text _ | .missing | .real _ => chars
  | .address _ => []

/-- The length and the conversion that show an argument. Only a real number takes any
conversion as it is. -/
def Argument.ending (conversion : Char) : Argument → List Char
  | .integer _ =>
      if conversion = 'c' then ['c']
      else if ['x', 'X', 'o', 'u'].contains conversion then ['l', 'l', conversion]
      else ['l', 'l', 'd']
  | .text _ | .missing => ['s']
  | .real _ => [conversion]
  | .address _ => ['p']

/-- A directive that shows nothing: the directive itself, in its own notation. -/
def Layout.directive (layout : Layout) (ending : List Char) : List Char :=
  '%' :: layout.spelling ++ ending

def Layout.isNumber (layout : Layout) : Bool :=
  layout.width ≠ 0 && layout == { zero := layout.zero, width := layout.width }

/-- The bytes of a real number under a conversion that has no style: a percent sign is
itself, also behind the number of an argument; `m` tells that no system call failed; `Z`
is a length without a conversion. All others show the directive. -/
def Layout.unstyled (layout : Layout) (conversion : Char) : List Char :=
  match conversion with
  | '%' => ['%']
  | 'm' => layout.text "Success".toList
  | 'Z' => []
  | '$' => if layout.isNumber then ['%'] else layout.directive ['$']
  | _ => layout.directive [conversion]

/-- The bytes of one argument in a layout. -/
def Argument.bytes (layout : Layout) (conversion : Char) : Argument → List Char
  | .integer bits => layout.integer conversion bits
  | .text shown => layout.text (untilNul (bytesOf shown))
  | .missing => layout.text "(null)".toList
  | .real bits =>
      match RealStyle.ofConversion? conversion with
      | some style => layout.real style conversion.isUpper bits
      | none => layout.unstyled conversion
  | .address bits => layout.address bits

/-- The bytes of one argument under a directive with some layout characters. Nothing is
shown for a number in it that no field can have, nor for a conversion that goes on with
the layout and so leaves it without one. Layout characters that make up no layout show
the directive. -/
def Argument.render (chars : List Char) (conversion : Char) (argument : Argument) :
    List Char :=
  let ending := argument.ending conversion
  let (layout, rest) := Layout.read argument.number (argument.layoutChars chars ++ ending)
  if !layout.isPossible || rest.isEmpty then []
  else if rest = ending then argument.bytes layout conversion
  else layout.directive rest

/-- Splits a format before its first directive; the literal part has its doubled
percent signs halved. -/
def splitLiteral : List Char → List Char × List Char
  | [] => ([], [])
  | '%' :: '%' :: rest => ('%' :: (splitLiteral rest).1, (splitLiteral rest).2)
  | '%' :: rest => ([], '%' :: rest)
  | char :: rest => (char :: (splitLiteral rest).1, (splitLiteral rest).2)

def isLayoutChar (char : Char) : Bool :=
  "-+ #0123456789.*".toList.contains char

/-- Whether a character is a length modifier, which the presentation ignores. -/
def isLengthChar (char : Char) : Bool :=
  "hlLqjzt".toList.contains char

/-- A directive after its percent sign: layout, conversion, and what follows. A
directive that the end of the format cuts off is a decimal one. -/
def splitDirective (chars : List Char) : List Char × Char × List Char :=
  let rest := (chars.dropWhile isLayoutChar).dropWhile isLengthChar
  (chars.takeWhile isLayoutChar, rest.headD 'd', rest.tail)

/-- The bytes of a format, read from left to right, with one directive for each argument. -/
def renderBytes (format : List Char) : List Argument → List Char
  | [] => (splitLiteral format).1 ++ (splitLiteral format).2
  | argument :: arguments =>
      match splitLiteral format with
      | (literal, []) => literal
      | (literal, _ :: directive) =>
          let (layout, conversion, rest) := splitDirective directive
          literal ++ argument.render layout conversion ++ renderBytes rest arguments

/-- The text of a format and its arguments; the format ends at its first NUL. -/
def render (format : String) (arguments : List Argument) : String :=
  ofBytes (renderBytes (untilNul (bytesOf format)) arguments)

end PageWalk.Format
