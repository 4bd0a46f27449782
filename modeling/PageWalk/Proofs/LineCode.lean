import Mathlib.Algebra.GroupWithZero.Nat
import PageWalk.LineCode

/-!
# What the parity code tells apart

A parity bit is the parity of all words whose positions agree modulo 8. So the code tells
two lines of one length apart just if, at the positions of some residue, they differ in an
odd number of bits.
-/

namespace PageWalk

/-! ## Bits of a word -/

/-- How many of the lowest `count` bits of a number are set. -/
def setBits (count number : Nat) : Nat :=
  (List.range count).countP fun bit => number.testBit bit

/-- In how many bits two words differ. -/
def bitsApart (word other : Word) : Nat :=
  (List.range 64).countP fun bit => word.toNat.testBit bit != other.toNat.testBit bit

theorem setBits_add (low high number : Nat) :
    setBits (low + high) number = setBits low number + setBits high (number >>> low) := by
  simp only [setBits, List.range_add, List.countP_append, List.countP_map, Function.comp_def,
    Nat.testBit_shiftRight]

theorem setBits_succ (count number : Nat) :
    setBits (count + 1) number = setBits count number + (number.testBit count).toNat := by
  simp only [setBits, List.range_succ, List.countP_append, List.countP_singleton]
  cases number.testBit count <;> rfl

/-- A sum is odd if one of its parts is, but not both. -/
theorem odd_add (number other : Nat) :
    decide ((number + other) % 2 = 1) =
      (decide (number % 2 = 1) ^^ decide (other % 2 = 1)) := by
  rw [Nat.add_mod]
  rcases Nat.mod_two_eq_zero_or_one number with even | odd <;>
    rcases Nat.mod_two_eq_zero_or_one other with otherEven | otherOdd <;>
    simp [*]

theorem odd_setBits_xor (count number other : Nat) :
    decide (setBits count (number ^^^ other) % 2 = 1) =
      (decide (setBits count number % 2 = 1) ^^ decide (setBits count other % 2 = 1)) := by
  have bit (tested : Bool) : decide (tested.toNat % 2 = 1) = tested := by
    cases tested <;> rfl
  induction count with
  | zero => rfl
  | succ count inductionHypothesis =>
      simp only [setBits_succ, odd_add, inductionHypothesis, bit, Nat.testBit_xor,
        Bool.xor_assoc, Bool.xor_left_comm]

theorem bitsApart_eq_setBits (word other : Word) :
    bitsApart word other = setBits 64 (word ^^^ other).toNat := by
  simp only [bitsApart, setBits, UInt64.toNat_xor, Nat.testBit_xor]

/-! ## Parity of a word -/

/-- A word with its upper bits folded onto the lower ones. -/
def foldWord (half word : Word) : Word :=
  word ^^^ (word >>> half)

/-- Folding the upper half of some bits onto their lower half keeps their parity. -/
theorem odd_setBits_foldWord (half word : Word) (small : half.toNat < 64) :
    decide (setBits half.toNat (foldWord half word).toNat % 2 = 1) =
      decide (setBits (half.toNat + half.toNat) word.toNat % 2 = 1) := by
  rw [foldWord, UInt64.toNat_xor, UInt64.toNat_shiftRight, Nat.mod_eq_of_lt small,
    odd_setBits_xor, setBits_add, odd_add]

private theorem and_one_eq (word : Word) :
    word &&& 1 = if decide (setBits 1 word.toNat % 2 = 1) then 1 else 0 := by
  have lowest : setBits 1 word.toNat = word.toNat % 2 := by
    rw [setBits_succ, Nat.testBit_zero]
    rcases Nat.mod_two_eq_zero_or_one word.toNat with even | odd
    · simp [even, setBits]
    · simp [odd, setBits]
  apply UInt64.toNat_inj.1
  rw [UInt64.toNat_and, lowest, Nat.mod_mod]
  change word.toNat &&& 1 = _
  rw [Nat.and_one_is_mod]
  rcases Nat.mod_two_eq_zero_or_one word.toNat with even | odd
  · simp [even]
  · simp [odd]

/-- Six folds bring the parity of all bits into the lowest one. -/
theorem wordParity_eq (word : Word) :
    wordParity word = if decide (setBits 64 word.toNat % 2 = 1) then 1 else 0 := by
  have folds :
      decide (setBits 1
        (foldWord 1 (foldWord 2 (foldWord 4 (foldWord 8 (foldWord 16
          (foldWord 32 word)))))).toNat % 2 = 1) =
      decide (setBits 64 word.toNat % 2 = 1) :=
    calc
      _ = decide (setBits 2 _ % 2 = 1) := odd_setBits_foldWord 1 _ (by decide)
      _ = decide (setBits 4 _ % 2 = 1) := odd_setBits_foldWord 2 _ (by decide)
      _ = decide (setBits 8 _ % 2 = 1) := odd_setBits_foldWord 4 _ (by decide)
      _ = decide (setBits 16 _ % 2 = 1) := odd_setBits_foldWord 8 _ (by decide)
      _ = decide (setBits 32 _ % 2 = 1) := odd_setBits_foldWord 16 _ (by decide)
      _ = decide (setBits 64 word.toNat % 2 = 1) := odd_setBits_foldWord 32 _ (by decide)
  rw [← folds]
  exact and_one_eq _

/-! ## Parity of a list of words -/

/-- In how many bits two lists of words differ at the positions of a residue modulo 8, where
the first words are at `start`. -/
def bitsApartFrom (start residue : Nat) (words others : List Word) : Nat :=
  ((((words.zip others).zipIdx start).filter fun pair => pair.2 % 8 = residue).map
    fun pair => bitsApart pair.1.1 pair.1.2).sum

/-- In how many bits two lists of words differ at the positions of a residue modulo 8. -/
def bitsApartAt (residue : Nat) (words others : List Word) : Nat :=
  bitsApartFrom 0 residue words others

theorem bitsApartFrom_cons (start residue : Nat) (word other : Word) (words others : List Word) :
    bitsApartFrom start residue (word :: words) (other :: others) =
      (if start % 8 = residue then bitsApart word other else 0) +
        bitsApartFrom (start + 1) residue words others := by
  simp only [bitsApartFrom, List.zip_cons_cons, List.zipIdx_cons, List.filter_cons,
    decide_eq_true_eq]
  split
  · rw [List.map_cons, List.sum_cons]
  · rw [Nat.zero_add]

/-- The parity of a word lands in the bit of its position. -/
private theorem testBit_shifted_parity (word : Word) (position : Nat) {bit : Nat} (low : bit < 8) :
    ((wordParity word).toUInt8 <<< UInt8.ofNat (position % 8)).toNat.testBit bit =
      (decide (position % 8 = bit) && decide (setBits 64 word.toNat % 2 = 1)) := by
  have finite : ∀ slot tested : Fin 8, ∀ odd : Bool,
      ((if odd then 1 else 0 : Word).toUInt8 <<< UInt8.ofNat slot.val).toNat.testBit tested.val =
        (decide (slot.val = tested.val) && odd) := by decide
  rw [wordParity_eq]
  exact finite ⟨position % 8, Nat.mod_lt _ (by decide)⟩ ⟨bit, low⟩ _

/-- A bit of two codes differs if the words of its residue differ in an odd number of bits. -/
theorem testBit_parityFrom_xor
    {words others : List Word} (long : words.length = others.length) (start : Nat) {bit : Nat}
    (low : bit < 8) :
    ((parityFrom start words).toNat.testBit bit ^^ (parityFrom start others).toNat.testBit bit) =
      decide (bitsApartFrom start bit words others % 2 = 1) := by
  induction words generalizing others start with
  | nil =>
      cases others with
      | nil => simp [bitsApartFrom]
      | cons other others => cases long
  | cons word words inductionHypothesis =>
      cases others with
      | nil => cases long
      | cons other others =>
          have first :
              decide ((if start % 8 = bit then bitsApart word other else 0) % 2 = 1) =
                (decide (start % 8 = bit) && (decide (setBits 64 word.toNat % 2 = 1) ^^
                  decide (setBits 64 other.toNat % 2 = 1))) := by
            rw [← odd_setBits_xor, ← UInt64.toNat_xor, ← bitsApart_eq_setBits]
            split <;> simp [*]
          rw [bitsApartFrom_cons, odd_add, first,
            ← inductionHypothesis (Nat.succ.inj long) (start + 1), Bool.and_xor_distrib_left]
          simp only [parityFrom, UInt8.toNat_xor, Nat.testBit_xor, testBit_shifted_parity _ _ low,
            Bool.xor_assoc, Bool.xor_left_comm]

/-- The code of one list finds another one of the same length wrong just if, at the positions
of some residue, the two differ in an odd number of bits. -/
theorem LineCode.hasError_parity_iff
    {words others : List Word} (long : words.length = others.length) :
    LineCode.parity.hasError others (LineCode.parity.encode words) = true ↔
      ∃ residue < 8, bitsApartAt residue words others % 2 = 1 := by
  have differs (bit : Nat) (low : bit < 8) :
      (parityFrom 0 words).toNat.testBit bit ≠ (parityFrom 0 others).toNat.testBit bit ↔
        bitsApartAt bit words others % 2 = 1 := by
    rw [bitsApartAt, ← decide_eq_true_iff (p := _ = 1), ← testBit_parityFrom_xor long 0 low]
    exact bne_iff_ne.symm
  unfold hasError
  rw [bne_iff_ne]
  constructor
  · intro apart
    refine Classical.byContradiction fun even => apart ?_
    apply UInt8.toNat_inj.1
    refine Nat.eq_of_testBit_eq fun bit => ?_
    by_cases low : bit < 8
    · refine Classical.byContradiction fun other => even ⟨bit, low, ?_⟩
      exact (differs bit low).1 (Ne.symm other)
    · have beyond (code : UInt8) : code.toNat.testBit bit = false :=
        Nat.testBit_lt_two_pow (Nat.lt_of_lt_of_le code.toNat_lt
          (Nat.pow_le_pow_right (by decide) (Nat.le_of_not_lt low)))
      rw [beyond, beyond]
  · rintro ⟨residue, low, odd⟩ same
    refine (differs residue low).2 odd ?_
    exact congrArg (fun code : UInt8 => code.toNat.testBit residue) same.symm

/-! ## One changed bit -/

/-- A word with one bit changed. -/
def flipBit (word : Word) (bit : Nat) : Word :=
  word ^^^ (1 <<< UInt64.ofNat bit)

theorem bitsApart_self (word : Word) : bitsApart word word = 0 := by
  simp [bitsApart]

theorem testBit_flipBit (word : Word) {bit : Nat} (inside : bit < 64) (tested : Nat) :
    (flipBit word bit).toNat.testBit tested =
      (word.toNat.testBit tested ^^ decide (bit = tested)) := by
  have position : (UInt64.ofNat bit).toNat % 64 = bit := by
    rw [UInt64.toNat_ofNat']
    omega
  have one : (1 : Word).toNat = 1 := rfl
  rw [flipBit, UInt64.toNat_xor, UInt64.toNat_shiftLeft, position, one, Nat.one_shiftLeft,
    Nat.mod_eq_of_lt (Nat.pow_lt_pow_right (by decide) inside), Nat.testBit_xor,
    Nat.testBit_two_pow]

theorem eq_flipBit_of_testBit
    {word changed : Word} {bit : Nat} (inside : bit < 64)
    (flipped : ∀ tested < 64,
      changed.toNat.testBit tested = (word.toNat.testBit tested ^^ decide (bit = tested))) :
    changed = flipBit word bit := by
  apply UInt64.toNat_inj.1
  refine Nat.eq_of_testBit_eq fun tested => ?_
  by_cases low : tested < 64
  · rw [flipped tested low, testBit_flipBit word inside]
  · have beyond (other : Word) : other.toNat.testBit tested = false :=
      Nat.testBit_lt_two_pow (Nat.lt_of_lt_of_le other.toNat_lt
        (Nat.pow_le_pow_right (by decide) (Nat.le_of_not_lt low)))
    rw [beyond, beyond]

theorem bitsApart_flipBit (word : Word) {bit : Nat} (inside : bit < 64) :
    bitsApart word (flipBit word bit) = 1 := by
  have only (tested : Nat) :
      (word.toNat.testBit tested != (flipBit word bit).toNat.testBit tested) =
        (tested == bit) := by
    rw [testBit_flipBit word inside, Bool.beq_eq_decide_eq]
    cases word.toNat.testBit tested <;> simp [eq_comm]
  simp only [bitsApart, only]
  exact List.count_range.trans (if_pos inside)

/-- Two lists that differ in one word differ in the bits of that word. -/
theorem bitsApartFrom_of_one_changed
    (start residue : Nat) (before after : List Word) (word other : Word) :
    bitsApartFrom start residue (before ++ word :: after) (before ++ other :: after) =
      if (start + before.length) % 8 = residue then bitsApart word other else 0 := by
  have same (start : Nat) (words : List Word) : bitsApartFrom start residue words words = 0 := by
    induction words generalizing start with
    | nil => rfl
    | cons word words inductionHypothesis =>
        simp [bitsApartFrom_cons, bitsApart_self, inductionHypothesis]
  induction before generalizing start with
  | nil => rw [List.nil_append, List.nil_append, bitsApartFrom_cons, same]; rfl
  | cons first before inductionHypothesis =>
      rw [List.cons_append, List.cons_append, bitsApartFrom_cons, bitsApart_self,
        inductionHypothesis, ite_self, Nat.zero_add, List.length_cons, Nat.add_right_comm,
        Nat.add_assoc]

/-- A line that differs from its code in one bit of one word is found to be corrupted. -/
theorem LineCode.hasError_of_flipBit
    (before after : List Word) (word : Word) {bit : Nat} (inside : bit < 64) :
    LineCode.parity.hasError (before ++ flipBit word bit :: after)
      (LineCode.parity.encode (before ++ word :: after)) = true := by
  refine (hasError_parity_iff (by simp)).2 ⟨before.length % 8, Nat.mod_lt _ (by decide), ?_⟩
  rw [bitsApartAt, bitsApartFrom_of_one_changed, Nat.zero_add, if_pos rfl,
    bitsApart_flipBit word inside]

end PageWalk
