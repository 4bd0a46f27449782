import Mathlib.Data.List.TakeWhile
import PageWalk.Format.Directive

/-!
# Formats as tokens

A format spells tokens: bytes of text, doubled percent signs, and directives, each part of
them as long as it can be. No format spells two lists of tokens. What is rendered is what the
tokens show, one after the other: the directive at an index shows the argument at that index,
and from the first directive on that has no argument the tokens show their spelling.
-/

namespace PageWalk.Format

/-! ## Tokens -/

/-- What follows the percent sign of a directive. -/
@[ext]
structure Directive where
  layout : List Char
  lengths : List Char
  /-- Only the end of a format leaves it out. -/
  conversion : Option Char
  layout_isLayout : ∀ char ∈ layout, isLayoutChar char = true
  lengths_isLength : ∀ char ∈ lengths, isLengthChar char = true
  /-- The parts before it are as long as they can be, and the percent sign is not doubled. -/
  conversion_stops : ∀ char, conversion = some char →
    isLengthChar char = false ∧
      (lengths = [] → isLayoutChar char = false ∧ (layout = [] → char ≠ '%'))

inductive Token
  | literal (byte : Char) (plain : byte ≠ '%')
  /-- A doubled percent sign. -/
  | percent
  | directive (directive : Directive)

namespace Token

/-- The bytes of a format that a token stands for. -/
def spelling : Token → List Char
  | .literal byte _ => [byte]
  | .percent => ['%', '%']
  | .directive found =>
      '%' :: (found.layout ++ (found.lengths ++ found.conversion.toList))

def isDirective : Token → Bool
  | .literal _ _ | .percent => false
  | .directive _ => true

/-- A directive that the end of the format cuts off. -/
def isCutOff : Token → Bool
  | .literal _ _ | .percent => false
  | .directive found => found.conversion.isNone

/-- What a token shows. A directive without its conversion is a decimal one. -/
def shown (argument? : Option Argument) : Token → List Char
  | .literal byte _ => [byte]
  | .percent => ['%']
  | .directive found =>
      match argument? with
      | none => (Token.directive found).spelling
      | some argument => argument.render found.layout (found.conversion.getD 'd')

@[simp]
theorem shown_literal (argument? : Option Argument) {byte : Char} (plain : byte ≠ '%') :
    (literal byte plain).shown argument? = [byte] := rfl

@[simp]
theorem shown_percent (argument? : Option Argument) : percent.shown argument? = ['%'] := rfl

@[simp]
theorem shown_directive (argument : Argument) (found : Directive) :
    (directive found).shown (some argument) =
      argument.render found.layout (found.conversion.getD 'd') := rfl

theorem length_spelling_pos (token : Token) : 0 < token.spelling.length := by
  cases token <;> exact Nat.succ_pos _

end Token

/-- Tokens spell a format from left to right; only the last one can be cut off. -/
inductive Spells : List Token → List Char → Prop
  | nil : Spells [] []
  | cons (token : Token) {tokens : List Token} {format : List Char} :
      Spells tokens format → (token.isCutOff = true → format = []) →
      Spells (token :: tokens) (token.spelling ++ format)

def directives (tokens : List Token) : Nat :=
  tokens.countP Token.isDirective

@[simp]
theorem directives_nil : directives [] = 0 := rfl

@[simp]
theorem directives_cons (token : Token) (tokens : List Token) :
    directives (token :: tokens) = directives tokens + if token.isDirective then 1 else 0 :=
  List.countP_cons

/-- What tokens show with arguments. A directive shows the argument whose index is the number
of directives before it. As soon as there are more directives than arguments, every token
shows its spelling. -/
def written (tokens : List Token) (arguments : List Argument) : List Char :=
  (tokens.mapIdx fun position token =>
    if directives (tokens.take (position + 1)) ≤ arguments.length then
      token.shown arguments[directives (tokens.take position)]?
    else
      token.spelling).flatten

/-! ## The parts of a directive -/

theorem isLayoutChar_of_isLengthChar {char : Char} (length : isLengthChar char = true) :
    isLayoutChar char = false := by
  have listed : char ∈ "hlLqjzt".toList := List.contains_iff_mem.1 length
  have apart : "hlLqjzt".toList.all (fun other => !isLayoutChar other) = true := by
    decide +kernel
  simpa using List.all_eq_true.1 apart char listed

/-- Characters of one kind are taken up to the first one of another kind. -/
theorem takeWhile_dropWhile_append
    {isKind : Char → Bool} {body rest : List Char}
    (inside : ∀ char ∈ body, isKind char = true)
    (stops : ∀ char, rest.head? = some char → isKind char = false) :
    (body ++ rest).takeWhile isKind = body ∧ (body ++ rest).dropWhile isKind = rest := by
  rw [List.takeWhile_append_of_pos inside, List.dropWhile_append_of_pos inside]
  cases rest with
  | nil => simp
  | cons char rest => simp [stops char rfl]

/-- A list in two parts: its first character, if there is one, and the others. -/
theorem head?_append_tail (chars : List Char) : chars.head?.toList ++ chars.tail = chars := by
  cases chars with
  | nil => rfl
  | cons char chars => rfl

namespace Directive

variable (directive : Directive) {rest : List Char}

/-- The character behind the layout and the length modifiers is the conversion, if any is. -/
theorem head?_conversion
    (whole : directive.conversion = none → rest = []) :
    (directive.conversion.toList ++ rest).head? = directive.conversion := by
  cases found : directive.conversion with
  | none => simp [whole found]
  | some char => rfl

theorem tail_conversion (whole : directive.conversion = none → rest = []) :
    (directive.conversion.toList ++ rest).tail = rest := by
  cases found : directive.conversion with
  | none => simp [whole found]
  | some char => rfl

theorem lengths_split (whole : directive.conversion = none → rest = []) :
    let chars := directive.lengths ++ (directive.conversion.toList ++ rest)
    chars.takeWhile isLengthChar = directive.lengths ∧
      chars.dropWhile isLengthChar = directive.conversion.toList ++ rest := by
  apply takeWhile_dropWhile_append directive.lengths_isLength
  intro char found
  rw [directive.head?_conversion whole] at found
  exact (directive.conversion_stops char found).1

theorem layout_split (whole : directive.conversion = none → rest = []) :
    let chars :=
      directive.layout ++ (directive.lengths ++ (directive.conversion.toList ++ rest))
    chars.takeWhile isLayoutChar = directive.layout ∧
      chars.dropWhile isLayoutChar =
        directive.lengths ++ (directive.conversion.toList ++ rest) := by
  apply takeWhile_dropWhile_append directive.layout_isLayout
  intro char found
  rw [List.head?_append, directive.head?_conversion whole] at found
  rcases Option.or_eq_some_iff.1 found with inLengths | ⟨noLengths, conversion⟩
  · apply isLayoutChar_of_isLengthChar
    exact directive.lengths_isLength char (List.mem_of_head? inLengths)
  · obtain ⟨-, stops⟩ := directive.conversion_stops char conversion
    exact (stops (List.head?_eq_none_iff.1 noLengths)).1

/-- The percent sign of a directive is not doubled. -/
theorem head?_ne_percent (whole : directive.conversion = none → rest = []) :
    (directive.layout ++ (directive.lengths ++ (directive.conversion.toList ++ rest))).head? ≠
      some '%' := by
  intro doubled
  rw [List.head?_append, List.head?_append, directive.head?_conversion whole] at doubled
  rcases Option.or_eq_some_iff.1 doubled with inLayout | ⟨noLayout, doubled⟩
  · have percent := directive.layout_isLayout '%' (List.mem_of_head? inLayout)
    exact absurd percent (by decide)
  · rcases Option.or_eq_some_iff.1 doubled with inLengths | ⟨noLengths, conversion⟩
    · have percent := directive.lengths_isLength '%' (List.mem_of_head? inLengths)
      exact absurd percent (by decide)
    · obtain ⟨-, stops⟩ := directive.conversion_stops '%' conversion
      obtain ⟨-, single⟩ := stops (List.head?_eq_none_iff.1 noLengths)
      exact single (List.head?_eq_none_iff.1 noLayout) rfl

/-- The directive behind a percent sign that is not doubled. -/
def read (chars : List Char) (single : chars.head? ≠ some '%') : Directive where
  layout := chars.takeWhile isLayoutChar
  lengths := (chars.dropWhile isLayoutChar).takeWhile isLengthChar
  conversion := ((chars.dropWhile isLayoutChar).dropWhile isLengthChar).head?
  layout_isLayout := fun _ => List.mem_takeWhile_imp
  lengths_isLength := fun _ => List.mem_takeWhile_imp
  conversion_stops := by
    intro char found
    have kept (isKind : Char → Bool) (list : List Char) (none : list.takeWhile isKind = []) :
        list.dropWhile isKind = list := by
      have whole := List.takeWhile_append_dropWhile (p := isKind) (l := list)
      rwa [none] at whole
    have stops (isKind : Char → Bool) (list : List Char)
        (first : (list.dropWhile isKind).head? = some char) : isKind char = false := by
      have head := List.head?_dropWhile_not isKind list
      rwa [first] at head
    refine ⟨stops _ _ found, fun lengths => ?_⟩
    rw [kept _ _ lengths] at found
    refine ⟨stops _ _ found, fun layout => ?_⟩
    rw [kept _ _ layout] at found
    rintro rfl
    exact single found

end Directive

/-! ## Reading tokens -/

/-- The first token of a format, and what follows it. -/
def readToken : List Char → Option (Token × List Char)
  | [] => none
  | byte :: rest =>
      if plain : byte ≠ '%' then
        some (.literal byte plain, rest)
      else if single : rest.head? ≠ some '%' then
        some (.directive (Directive.read rest single),
          ((rest.dropWhile isLayoutChar).dropWhile isLengthChar).tail)
      else
        some (.percent, rest.tail)

theorem readToken_spelling
    (token : Token) {rest : List Char} (whole : token.isCutOff = true → rest = []) :
    readToken (token.spelling ++ rest) = some (token, rest) := by
  cases token with
  | literal byte plain => simp [Token.spelling, readToken, plain]
  | percent => simp [Token.spelling, readToken]
  | directive directive =>
      have complete : directive.conversion = none → rest = [] := fun missing =>
        whole (by simp [Token.isCutOff, missing])
      have single := directive.head?_ne_percent complete
      obtain ⟨layout, afterLayout⟩ := directive.layout_split complete
      obtain ⟨lengths, afterLengths⟩ := directive.lengths_split complete
      have same : Directive.read _ single = directive := by
        apply Directive.ext
        · exact layout
        · exact (congrArg _ afterLayout).trans lengths
        · exact (congrArg List.head? ((congrArg _ afterLayout).trans afterLengths)).trans
            (directive.head?_conversion complete)
      have following := directive.tail_conversion complete
      simp only [Token.spelling, List.cons_append, List.append_assoc, readToken]
      rw [dif_neg (by simp), dif_pos single, same, afterLayout, afterLengths, following]

theorem eq_spelling_of_readToken
    {format rest : List Char} {token : Token} (read : readToken format = some (token, rest)) :
    format = token.spelling ++ rest ∧ (token.isCutOff = true → rest = []) := by
  cases format with
  | nil => cases read
  | cons byte format =>
      rw [readToken] at read
      split at read
      case isTrue plain =>
        cases read
        exact ⟨rfl, nofun⟩
      case isFalse percent =>
        obtain rfl : byte = '%' := Classical.not_not.1 percent
        split at read
        case isTrue single =>
          cases read
          constructor
          · simp only [Token.spelling, Directive.read, List.cons_append, List.append_assoc,
              head?_append_tail, List.takeWhile_append_dropWhile]
          · intro cutOff
            have missing := List.head?_eq_none_iff.1 (Option.isNone_iff_eq_none.1 cutOff)
            exact congrArg List.tail missing
        case isFalse doubled =>
          cases read
          have whole := head?_append_tail format
          rw [Classical.not_not.1 doubled] at whole
          exact ⟨congrArg ('%' :: ·) whole.symm, nofun⟩

theorem eq_nil_of_readToken {format : List Char} (read : readToken format = none) :
    format = [] := by
  cases format with
  | nil => rfl
  | cons byte format =>
      rw [readToken] at read
      split at read
      · cases read
      · split at read <;> cases read

/-! ## Tokens of a format -/

namespace Spells

variable {tokens : List Token} {format : List Char}

/-- Tokens of which none is cut off spell a format. -/
theorem of_whole (whole : ∀ token ∈ tokens, token.isCutOff = false) :
    Spells tokens (tokens.flatMap Token.spelling) := by
  induction tokens with
  | nil => exact .nil
  | cons token tokens inductionHypothesis =>
      obtain ⟨first, others⟩ := List.forall_mem_cons.1 whole
      rw [List.flatMap_cons]
      exact .cons token (inductionHypothesis others) fun cutOff =>
        absurd cutOff (by simp [first])

theorem unique
    {others : List Token} (spells : Spells tokens format) (same : Spells others format) :
    tokens = others := by
  induction spells generalizing others with
  | nil =>
      generalize empty : ([] : List Char) = format at same
      cases same with
      | nil => rfl
      | cons token _ _ => cases token <;> cases empty
  | @cons token tokens format _ whole inductionHypothesis =>
      generalize spelled : token.spelling ++ format = text at same
      cases same with
      | nil => cases token <;> cases spelled
      | @cons other others following rest otherWhole =>
          have read := readToken_spelling token whole
          rw [spelled, readToken_spelling other otherWhole] at read
          cases read
          rw [inductionHypothesis rest]

theorem exists_of_format (format : List Char) : ∃ tokens, Spells tokens format := by
  induction length : format.length using Nat.strong_induction_on generalizing format with
  | _ size inductionHypothesis =>
      cases read : readToken format with
      | none =>
          rw [eq_nil_of_readToken read]
          exact ⟨[], .nil⟩
      | some found =>
          obtain ⟨token, rest⟩ := found
          obtain ⟨rfl, whole⟩ := eq_spelling_of_readToken read
          have shorter : rest.length < size := by
            have positive := token.length_spelling_pos
            rw [List.length_append] at length
            omega
          obtain ⟨tokens, spells⟩ := inductionHypothesis rest.length shorter rest rfl
          exact ⟨token :: tokens, .cons token spells whole⟩

end Spells

/-! ## What tokens show -/

section Written

variable (tokens : List Token) (arguments : List Argument)

theorem written_literal {byte : Char} (plain : byte ≠ '%') :
    written (.literal byte plain :: tokens) arguments = byte :: written tokens arguments := by
  simp [written, List.mapIdx_cons, Token.isDirective]

theorem written_percent :
    written (.percent :: tokens) arguments = '%' :: written tokens arguments := by
  simp [written, List.mapIdx_cons, Token.isDirective]

theorem written_directive (directive : Directive) (argument : Argument) :
    written (.directive directive :: tokens) (argument :: arguments) =
      argument.render directive.layout (directive.conversion.getD 'd') ++
        written tokens arguments := by
  simp [written, List.mapIdx_cons, Token.isDirective]

theorem written_of_no_argument (directive : Directive) :
    written (.directive directive :: tokens) [] =
      (Token.directive directive :: tokens).flatMap Token.spelling := by
  have spelled : tokens.mapIdx (fun _ token => token.spelling) = tokens.map Token.spelling := by
    apply List.ext_getElem?
    simp
  simp [written, List.mapIdx_cons, Token.isDirective, spelled, List.flatMap_def]

/-- Arguments behind those of the directives are not shown. -/
theorem written_append_arguments
    (more : List Argument) (enough : directives tokens ≤ arguments.length) :
    written tokens (arguments ++ more) = written tokens arguments := by
  induction tokens generalizing arguments with
  | nil => rfl
  | cons token tokens inductionHypothesis =>
      cases token with
      | literal byte plain =>
          rw [written_literal, written_literal, inductionHypothesis arguments enough]
      | percent => rw [written_percent, written_percent, inductionHypothesis arguments enough]
      | directive directive =>
          rw [directives_cons] at enough
          cases arguments with
          | nil => cases enough
          | cons argument arguments =>
              rw [List.cons_append, written_directive, written_directive,
                inductionHypothesis arguments (Nat.le_of_succ_le_succ enough)]

/-- From the first directive without an argument on, tokens show their spelling. -/
theorem written_append_directive
    (directive : Directive) (later : List Token) (used : directives tokens = arguments.length) :
    written (tokens ++ .directive directive :: later) arguments =
      written tokens arguments ++
        (Token.directive directive :: later).flatMap Token.spelling := by
  induction tokens generalizing arguments with
  | nil =>
      obtain rfl : arguments = [] := List.length_eq_zero_iff.1 used.symm
      exact written_of_no_argument later directive
  | cons token tokens inductionHypothesis =>
      rw [List.cons_append]
      cases token with
      | literal byte plain =>
          rw [written_literal, written_literal, inductionHypothesis arguments used,
            List.cons_append]
      | percent =>
          rw [written_percent, written_percent, inductionHypothesis arguments used,
            List.cons_append]
      | directive matched =>
          rw [directives_cons] at used
          cases arguments with
          | nil => cases used
          | cons argument arguments =>
              rw [written_directive, written_directive,
                inductionHypothesis arguments (Nat.succ.inj used), List.append_assoc]

end Written

theorem Spells.flatMap_spelling
    {tokens : List Token} {format : List Char} (spells : Spells tokens format) :
    tokens.flatMap Token.spelling = format := by
  induction spells with
  | nil => rfl
  | cons token _ _ inductionHypothesis => rw [List.flatMap_cons, inductionHypothesis]

/-! ## What is rendered -/

section Rendered

variable (format : List Char) (arguments : List Argument)

theorem renderBytes_of_splitLiteral
    {byte : Char} {whole : List Char}
    (split : splitLiteral whole = (byte :: (splitLiteral format).1, (splitLiteral format).2)) :
    renderBytes whole arguments = byte :: renderBytes format arguments := by
  cases arguments with
  | nil => simp only [renderBytes, split, List.cons_append]
  | cons argument arguments =>
      rw [renderBytes, renderBytes, split]
      obtain ⟨literal, rest⟩ := splitLiteral format
      cases rest with
      | nil => rfl
      | cons percent directive => simp only [List.cons_append]

theorem renderBytes_literal {byte : Char} (plain : byte ≠ '%') :
    renderBytes (byte :: format) arguments = byte :: renderBytes format arguments := by
  apply renderBytes_of_splitLiteral
  rw [splitLiteral]
  · intro rest percent
    exact absurd percent plain
  · exact plain

theorem renderBytes_percent :
    renderBytes ('%' :: '%' :: format) arguments = '%' :: renderBytes format arguments := by
  apply renderBytes_of_splitLiteral
  rw [splitLiteral]

theorem splitLiteral_of_single {chars : List Char} (single : chars.head? ≠ some '%') :
    splitLiteral ('%' :: chars) = ([], '%' :: chars) := by
  cases chars with
  | nil => rfl
  | cons char chars =>
      rw [splitLiteral]
      intro rest same
      cases same
      exact single rfl

variable (directive : Directive)

theorem renderBytes_directive
    (whole : directive.conversion = none → format = []) (argument : Argument) :
    renderBytes ((Token.directive directive).spelling ++ format) (argument :: arguments) =
      argument.render directive.layout (directive.conversion.getD 'd') ++
        renderBytes format arguments := by
  obtain ⟨layout, afterLayout⟩ := directive.layout_split whole
  obtain ⟨-, afterLengths⟩ := directive.lengths_split whole
  have following := directive.tail_conversion whole
  have conversion : (directive.conversion.toList ++ format).headD 'd' =
      directive.conversion.getD 'd' := by
    rw [List.headD_eq_head?_getD, directive.head?_conversion whole]
  simp only [Token.spelling, List.cons_append, List.append_assoc]
  rw [renderBytes, splitLiteral_of_single (directive.head?_ne_percent whole)]
  simp only [splitDirective, layout, afterLayout, afterLengths, conversion, following,
    List.nil_append]

theorem renderBytes_of_no_argument (whole : directive.conversion = none → format = []) :
    renderBytes ((Token.directive directive).spelling ++ format) [] =
      (Token.directive directive).spelling ++ format := by
  simp only [Token.spelling, List.cons_append, List.append_assoc]
  rw [renderBytes, splitLiteral_of_single (directive.head?_ne_percent whole), List.nil_append]

end Rendered

/-- A format renders what its tokens show. -/
theorem Spells.renderBytes_eq
    {tokens : List Token} {format : List Char} (spells : Spells tokens format)
    (arguments : List Argument) : renderBytes format arguments = written tokens arguments := by
  induction spells generalizing arguments with
  | nil => cases arguments <;> rfl
  | @cons token tokens format spells whole inductionHypothesis =>
      cases token with
      | literal byte plain =>
          rw [written_literal, ← inductionHypothesis]
          exact renderBytes_literal format arguments plain
      | percent =>
          rw [written_percent, ← inductionHypothesis]
          exact renderBytes_percent format arguments
      | directive directive =>
          have complete : directive.conversion = none → format = [] := fun missing =>
            whole (by simp [Token.isCutOff, missing])
          cases arguments with
          | nil =>
              rw [written_of_no_argument, List.flatMap_cons, spells.flatMap_spelling]
              exact renderBytes_of_no_argument format directive complete
          | cons argument arguments =>
              rw [written_directive, ← inductionHypothesis]
              exact renderBytes_directive format arguments directive complete argument

/-! ## Formats without directives -/

def doublePercents (chars : List Char) : List Char :=
  chars.flatMap fun char => if char = '%' then ['%', '%'] else [char]

/-- The text with every percent sign doubled. -/
def doubled (text : String) : String :=
  String.ofList (doublePercents text.toList)

theorem doublePercents_append (chars others : List Char) :
    doublePercents (chars ++ others) = doublePercents chars ++ doublePercents others :=
  List.flatMap_append

theorem doublePercents_cons_of_ne {char : Char} (chars : List Char) (plain : char ≠ '%') :
    doublePercents (char :: chars) = char :: doublePercents chars := by
  simp [doublePercents, plain]

theorem doublePercents_cons_percent (chars : List Char) :
    doublePercents ('%' :: chars) = '%' :: '%' :: doublePercents chars := by
  simp [doublePercents]

theorem doublePercents_of_plain {chars : List Char} (plain : ∀ char ∈ chars, char ≠ '%') :
    doublePercents chars = chars := by
  induction chars with
  | nil => rfl
  | cons char chars inductionHypothesis =>
      obtain ⟨first, others⟩ := List.forall_mem_cons.1 plain
      rw [doublePercents_cons_of_ne chars first, inductionHypothesis others]

/-- The bytes of a character that takes several are all large. -/
theorem le_of_mem_encodeChar
    {char byte : Char} (wide : 128 ≤ char.toNat) (listed : byte ∈ encodeChar char) :
    128 ≤ byte.toNat := by
  have large {number : Nat} (low : 128 ≤ number) (high : number < 256) :
      128 ≤ (Char.ofNat number).toNat := by
    rwa [toNat_ofNat_of_lt (by omega)]
  have follows (number : Nat) : 128 ≤ (continuation number).toNat := large (by omega) (by omega)
  have valid : char.toNat < 1114112 := by
    have bounds : char.toNat < 55296 ∨ 57343 < char.toNat ∧ char.toNat < 1114112 := char.valid
    omega
  simp only [encodeChar, if_neg (Nat.not_lt.2 wide)] at listed
  by_cases two : char.toNat < 2048
  · rw [if_pos two] at listed
    simp only [List.mem_cons, List.not_mem_nil, or_false] at listed
    rcases listed with rfl | rfl
    · exact large (by omega) (by omega)
    · exact follows _
  rw [if_neg two] at listed
  by_cases three : char.toNat < 65536
  · rw [if_pos three] at listed
    simp only [List.mem_cons, List.not_mem_nil, or_false] at listed
    rcases listed with rfl | rfl | rfl
    · exact large (by omega) (by omega)
    · exact follows _
    · exact follows _
  · rw [if_neg three] at listed
    simp only [List.mem_cons, List.not_mem_nil, or_false] at listed
    rcases listed with rfl | rfl | rfl | rfl
    · exact large (by omega) (by omega)
    · exact follows _
    · exact follows _
    · exact follows _

/-- A small byte is a character of its own and no part of another one. -/
theorem eq_of_mem_encodeChar
    {char byte : Char} (listed : byte ∈ encodeChar char) (small : byte.toNat < 128) :
    byte = char := by
  by_cases wide : 128 ≤ char.toNat
  · exact absurd small (Nat.not_lt.2 (le_of_mem_encodeChar wide listed))
  · have self : Char.ofNat char.toNat = char := Char.ofNat_toNat char
    simp only [encodeChar, if_pos (Nat.not_le.1 wide), self] at listed
    exact List.mem_singleton.1 listed

/-- Percent signs are doubled in a text just if they are in its bytes. -/
theorem bytesOf_doubled (text : String) :
    bytesOf (doubled text) = doublePercents (bytesOf text) := by
  simp only [bytesOf, doubled, String.toList_ofList]
  generalize text.toList = chars
  induction chars with
  | nil => rfl
  | cons char chars inductionHypothesis =>
      rw [List.flatMap_cons, doublePercents_append, ← inductionHypothesis]
      by_cases percent : char = '%'
      · rw [percent, doublePercents_cons_percent, List.flatMap_cons, List.flatMap_cons]
        rfl
      · have plain : doublePercents (encodeChar char) = encodeChar char := by
          apply doublePercents_of_plain
          rintro byte listed rfl
          exact percent (eq_of_mem_encodeChar listed (by decide)).symm
        rw [doublePercents_cons_of_ne chars percent, List.flatMap_cons, plain]

theorem untilNul_cons {byte : Char} {bytes : List Char} (nonzero : byte ≠ Char.ofNat 0) :
    untilNul (byte :: bytes) = byte :: untilNul bytes :=
  List.takeWhile_cons_of_pos (bne_iff_ne.2 nonzero)

theorem untilNul_doublePercents (bytes : List Char) :
    untilNul (doublePercents bytes) = doublePercents (untilNul bytes) := by
  induction bytes with
  | nil => rfl
  | cons byte bytes inductionHypothesis =>
      by_cases percent : byte = '%'
      · rw [percent, doublePercents_cons_percent, untilNul_cons (by decide),
          untilNul_cons (by decide), untilNul_cons (by decide), doublePercents_cons_percent,
          inductionHypothesis]
      · rw [doublePercents_cons_of_ne bytes percent]
        by_cases nul : byte = Char.ofNat 0
        · rw [nul]
          rfl
        · rw [untilNul_cons nul, untilNul_cons nul, doublePercents_cons_of_ne _ percent,
            inductionHypothesis]

/-- The bytes before the first NUL are those of the text before its first NUL. -/
theorem untilNul_bytesOf (text : String) : untilNul (bytesOf text) = bytesOf (beforeNul text) := by
  simp only [bytesOf, beforeNul, String.toList_ofList]
  generalize text.toList = chars
  induction chars with
  | nil => rfl
  | cons char chars inductionHypothesis =>
      rw [List.flatMap_cons]
      by_cases nul : char = Char.ofNat 0
      · subst nul
        rfl
      · have nonzero : ∀ byte ∈ encodeChar char, (byte != Char.ofNat 0) = true := by
          intro byte listed
          apply bne_iff_ne.2
          rintro rfl
          exact nul (eq_of_mem_encodeChar listed (by decide)).symm
        rw [untilNul_cons nul, List.flatMap_cons, ← inductionHypothesis]
        exact List.takeWhile_append_of_pos nonzero

theorem renderBytes_doublePercents (bytes : List Char) (arguments : List Argument) :
    renderBytes (doublePercents bytes) arguments = bytes := by
  induction bytes with
  | nil => cases arguments <;> rfl
  | cons byte bytes inductionHypothesis =>
      by_cases percent : byte = '%'
      · rw [percent, doublePercents_cons_percent, renderBytes_percent, inductionHypothesis]
      · rw [doublePercents_cons_of_ne bytes percent, renderBytes_literal _ _ percent,
          inductionHypothesis]

theorem render_doubled (text : String) (arguments : List Argument) :
    render (doubled text) arguments = beforeNul text := by
  rw [render, bytesOf_doubled, untilNul_doublePercents, renderBytes_doublePercents,
    untilNul_bytesOf, ofBytes_bytesOf]

/-! ## Formats and arguments -/

/-- A format is read as tokens in one way, and what is rendered is what they show: text, a
percent sign for each doubled one, and for each directive the argument of its index. Arguments
that are left over show nothing, and from the first directive without an argument on the format
is copied. So a text whose percent signs are doubled renders as itself. -/
theorem render_of_tokens (format : List Char) (arguments : List Argument) :
    (∃! tokens, Spells tokens format) ∧
      (∀ tokens, Spells tokens format →
        renderBytes format arguments = written tokens arguments ∧
          (directives tokens ≤ arguments.length →
            ∀ more, renderBytes format (arguments ++ more) = renderBytes format arguments) ∧
          ∀ matched directive later, tokens = matched ++ .directive directive :: later →
            directives matched = arguments.length →
            renderBytes format arguments =
              written matched arguments ++
                (Token.directive directive :: later).flatMap Token.spelling) ∧
      renderBytes (doublePercents format) arguments = format ∧
      ∀ text, render text arguments =
          ofBytes (renderBytes (untilNul (bytesOf text)) arguments) ∧
        render (doubled text) arguments = beforeNul text := by
  refine ⟨?_, ?_, ?_, ?_⟩
  · obtain ⟨tokens, spells⟩ := Spells.exists_of_format format
    exact ⟨tokens, spells, fun others same => same.unique spells⟩
  · intro tokens spells
    refine ⟨spells.renderBytes_eq arguments, ?_, ?_⟩
    · intro enough more
      rw [spells.renderBytes_eq, spells.renderBytes_eq,
        written_append_arguments tokens arguments more enough]
    · rintro matched directive later rfl used
      rw [spells.renderBytes_eq, written_append_directive matched arguments directive later used]
  · exact renderBytes_doublePercents format arguments
  · intro text
    exact ⟨rfl, render_doubled text arguments⟩

/-- A doubled percent sign, a directive with a length modifier, one without an argument, and
another doubled percent sign behind it. -/
theorem render_of_small_format :
    let format := "%%a%5ld%s%%".toList
    let matched : List Token :=
      [.percent, .literal 'a' (by decide),
        .directive (.read ['5', 'l', 'd'] (by decide))]
    let later : List Token := [.percent]
    let tokens := matched ++ .directive (.read ['s'] (by decide)) :: later
    Spells tokens format ∧
      directives tokens ≤ [Argument.integer 42, .missing].length ∧
      directives matched = [Argument.integer 42].length ∧
      renderBytes format [.integer 42] = "%a   42%s%%".toList ∧
      renderBytes format [.integer 42, .missing, .integer 7] = "%a   42(null)%".toList ∧
      render (doubled "%%a%5ld%s%%") [.integer 42] = "%%a%5ld%s%%" := by
  intro format matched later tokens
  have bytes : format = tokens.flatMap Token.spelling := by decide +kernel
  have spells : Spells tokens format := by
    rw [bytes]
    exact .of_whole (by decide +kernel)
  obtain ⟨-, shown, -, texts⟩ := render_of_tokens format [.integer 42]
  obtain ⟨-, -, copied⟩ := shown tokens spells
  obtain ⟨-, shownAll, -⟩ := render_of_tokens format [.integer 42, .missing]
  obtain ⟨all, leftOver, -⟩ := shownAll tokens spells
  have enough : directives tokens ≤ [Argument.integer 42, .missing].length := by decide +kernel
  have used : directives matched = [Argument.integer 42].length := by decide +kernel
  refine ⟨spells, enough, used, ?_, ?_, ?_⟩
  · rw [copied matched _ later rfl used]
    decide +kernel
  · refine (leftOver enough [.integer 7]).trans (all.trans ?_)
    decide +kernel
  · rw [(texts _).2]
    decide +kernel

end PageWalk.Format
