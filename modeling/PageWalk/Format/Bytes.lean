/-!
# Bytes of a text

Fields are measured and cut in bytes, and a character conversion writes a single
byte. A byte is shown as the character of its code, so bytes are a list of
characters below 256. `bytesOf` gives the bytes of a text in UTF-8, and `ofBytes`
reads a text back: what is no character is shown as the replacement character, once
for each start of a character that is not finished. Main statement: the bytes of a
text read back as that text.
-/

namespace PageWalk.Format

/-! ## From text to bytes -/

/-- A byte that continues a character, with the last six bits of a number. -/
def continuation (number : Nat) : Char :=
  Char.ofNat (128 + number % 64)

def encodeChar (char : Char) : List Char :=
  let code := char.toNat
  if code < 128 then
    [Char.ofNat code]
  else if code < 2048 then
    [Char.ofNat (192 + code / 64), continuation code]
  else if code < 65536 then
    [Char.ofNat (224 + code / 4096), continuation (code / 64), continuation code]
  else
    [Char.ofNat (240 + code / 262144), continuation (code / 4096),
      continuation (code / 64), continuation code]

def bytesOf (text : String) : List Char :=
  text.toList.flatMap encodeChar

/-- The part of a list of characters or bytes before its first NUL. -/
def untilNul (chars : List Char) : List Char :=
  chars.takeWhile (· != Char.ofNat 0)

/-- The part of a text before its first NUL. -/
def beforeNul (text : String) : String :=
  String.ofList (untilNul text.toList)

/-! ## From bytes to text -/

/-- A character some of whose bytes are still to come. -/
structure Unfinished where
  /-- The bits of its code so far. -/
  code : Nat
  /-- The least and the greatest byte that may come next. -/
  least : Nat := 128
  greatest : Nat := 191
  /-- How many bytes follow the next one. -/
  further : Nat
deriving DecidableEq, Repr

/-- What is shown in place of bytes that are no character. -/
def replacement : Char :=
  Char.ofNat 65533

def readFirst (byte : Nat) : List Char × Option Unfinished :=
  if byte < 128 then
    ([Char.ofNat byte], none)
  else if byte < 194 then
    ([replacement], none)
  else if byte < 224 then
    ([], some { code := byte - 192, further := 0 })
  else if byte < 240 then
    let least := if byte = 224 then 160 else 128
    let greatest := if byte = 237 then 159 else 191
    ([], some { code := byte - 224, least, greatest, further := 1 })
  else if byte < 245 then
    let least := if byte = 240 then 144 else 128
    let greatest := if byte = 244 then 143 else 191
    ([], some { code := byte - 240, least, greatest, further := 2 })
  else
    ([replacement], none)

/-- Reads one byte after the bytes of an unfinished character, if there is one. -/
def readByte (byte : Nat) : Option Unfinished → List Char × Option Unfinished
  | none => readFirst byte
  | some started =>
      if started.least ≤ byte && byte ≤ started.greatest then
        let code := started.code * 64 + (byte - 128)
        match started.further with
        | 0 => ([Char.ofNat code], none)
        | further + 1 => ([], some { code, further })
      else
        (replacement :: (readFirst byte).1, (readFirst byte).2)

/-- Reads bytes to their end, where an unfinished character stays one. -/
def decode (started : Option Unfinished) : List Char → List Char
  | [] => if started.isSome then [replacement] else []
  | byte :: bytes =>
      let (shown, started) := readByte byte.toNat started
      shown ++ decode started bytes

def ofBytes (bytes : List Char) : String :=
  String.ofList (decode none bytes)

/-! ## Reading back -/

/-- The code of the character that a small number names. -/
theorem toNat_ofNat_of_lt {number : Nat} (small : number < 55296) :
    (Char.ofNat number).toNat = number := by
  have valid : number.isValidChar := Or.inl small
  have char : Char.ofNat number = Char.ofNatAux number valid := dif_pos valid
  rw [char]
  rfl

/-- Reading goes on after a byte that lies in the range of the next one. -/
theorem decode_continuation
    {code least greatest further number : Nat} {rest : List Char}
    (low : least ≤ 128 + number % 64) (high : 128 + number % 64 ≤ greatest) :
    decode (some { code, least, greatest, further }) (continuation number :: rest) =
      match further with
      | 0 => Char.ofNat (code * 64 + number % 64) :: decode none rest
      | further + 1 => decode (some { code := code * 64 + number % 64, further }) rest := by
  have byte : (continuation number).toNat = 128 + number % 64 :=
    toNat_ofNat_of_lt (by omega)
  cases further <;> simp [decode, readByte, byte, low, high]

/-- Reading starts with the first byte of a character. -/
theorem decode_none_cons {byte : Nat} {rest : List Char} (small : byte < 256) :
    decode none (Char.ofNat byte :: rest) =
      (readFirst byte).1 ++ decode (readFirst byte).2 rest := by
  simp only [decode, readByte, toNat_ofNat_of_lt (show byte < 55296 by omega)]

/-- The bytes of a character read back as that character. -/
theorem decode_encodeChar (char : Char) (rest : List Char) :
    decode none (encodeChar char ++ rest) = char :: decode none rest := by
  have valid : char.toNat < 55296 ∨ 57343 < char.toNat ∧ char.toNat < 1114112 := char.valid
  have self : Char.ofNat char.toNat = char := Char.ofNat_toNat char
  unfold encodeChar
  generalize char.toNat = code at *
  dsimp only
  split
  · rw [List.singleton_append, decode_none_cons (by omega), readFirst, if_pos (by omega),
      self, List.singleton_append]
  split
  · simp only [List.cons_append, List.nil_append]
    rw [decode_none_cons (by omega), readFirst, if_neg (by omega), if_neg (by omega),
      if_pos (by omega), List.nil_append, decode_continuation (by omega) (by omega)]
    have whole : (192 + code / 64 - 192) * 64 + code % 64 = code := by omega
    simp only [whole, self]
  split
  · simp only [List.cons_append, List.nil_append]
    rw [decode_none_cons (by omega), readFirst, if_neg (by omega), if_neg (by omega),
      if_neg (by omega), if_pos (by omega), List.nil_append,
      decode_continuation (by split <;> omega) (by split <;> omega)]
    dsimp only
    rw [decode_continuation (by omega) (by omega)]
    have whole :
        ((224 + code / 4096 - 224) * 64 + code / 64 % 64) * 64 + code % 64 = code := by
      omega
    simp only [whole, self]
  · simp only [List.cons_append, List.nil_append]
    rw [decode_none_cons (by omega), readFirst, if_neg (by omega), if_neg (by omega),
      if_neg (by omega), if_neg (by omega), if_pos (by omega), List.nil_append,
      decode_continuation (by split <;> omega) (by split <;> omega)]
    dsimp only
    rw [decode_continuation (by omega) (by omega)]
    dsimp only
    rw [decode_continuation (by omega) (by omega)]
    have whole :
        (((240 + code / 262144 - 240) * 64 + code / 4096 % 64) * 64 + code / 64 % 64) * 64 +
          code % 64 = code := by
      omega
    simp only [whole, self]

/-- The bytes of a text read back as that text. -/
theorem ofBytes_bytesOf (text : String) : ofBytes (bytesOf text) = text := by
  have chars (list : List Char) : decode none (list.flatMap encodeChar) = list := by
    induction list with
    | nil => rfl
    | cons char rest ih => rw [List.flatMap_cons, decode_encodeChar, ih]
  rw [ofBytes, bytesOf, chars, String.ofList_toList]

end PageWalk.Format
