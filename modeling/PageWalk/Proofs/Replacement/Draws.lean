import PageWalk.Proofs.Replacement

/-!
# Draws from words

A draw below a range takes the first word of a generator that is not drawn again, multiplies
it with the range, and keeps the high half. Whatever the words are, that is below the range.
-/

namespace PageWalk.Replacement

/-- The words that a generator yields from now on. -/
def Twister.word (twister : Twister) : Nat → Word
  | 0 => twister.next.1
  | index + 1 => Twister.word twister.next.2 index

/-- A word whose product with the range has too small a low half is drawn again. -/
def Redrawn (range : Nat) (word : Word) : Prop :=
  word.toNat * range % UInt64.size < (UInt64.size - range) % range

instance (range : Nat) (word : Word) : Decidable (Redrawn range word) :=
  inferInstanceAs (Decidable (_ < _))

/-- The draw from a sequence of words: the high half of the product of the range and the first
word that is not drawn again. -/
def DrawnFrom (words : Nat → Word) (range result : Nat) : Prop :=
  ∃ index, (∀ earlier < index, Redrawn range (words earlier)) ∧
    ¬ Redrawn range (words index) ∧ result = (words index).toNat * range / UInt64.size

variable {range result : Nat} {words : Nat → Word}

theorem DrawnFrom.lt (drawn : DrawnFrom words range result) (positive : 0 < range) :
    result < range := by
  obtain ⟨index, _, _, rfl⟩ := drawn
  exact product_lt positive (words index)

theorem drawnFrom_first (accepted : ¬ Redrawn range (words 0)) :
    DrawnFrom words range ((words 0).toNat * range / UInt64.size) :=
  ⟨0, fun earlier before => absurd before (Nat.not_lt_zero earlier), accepted, rfl⟩

theorem DrawnFrom.later
    (drawn : DrawnFrom (fun index => words (index + 1)) range result)
    (again : Redrawn range (words 0)) : DrawnFrom words range result := by
  obtain ⟨index, redrawn, accepted, value⟩ := drawn
  refine ⟨index + 1, fun earlier before => ?_, accepted, value⟩
  cases earlier with
  | zero => exact again
  | succ earlier => exact redrawn earlier (by omega)

/-- A draw comes to an end if some word is not drawn again. -/
theorem exists_drawnFrom {index : Nat} (accepted : ¬ Redrawn range (words index)) :
    ∃ result, DrawnFrom words range result := by
  induction index generalizing words with
  | zero => exact ⟨_, drawnFrom_first accepted⟩
  | succ index inductionHypothesis =>
      by_cases again : Redrawn range (words 0)
      · obtain ⟨result, drawn⟩ := @inductionHypothesis (fun index => words (index + 1)) accepted
        exact ⟨result, drawn.later again⟩
      · exact ⟨_, drawnFrom_first again⟩

/-- Drawing again comes to the first word that is not drawn again, if that comes before the
limit. -/
private theorem redraw_drawnFrom
    (fuel : Nat) (twister : Twister)
    (ends : ∃ index ≤ fuel, ¬ Redrawn range (twister.word index)) :
    DrawnFrom twister.word range
      (redraw range ((UInt64.size - range) % range) fuel twister.next.1 twister.next.2).1 := by
  induction fuel generalizing twister with
  | zero =>
      obtain ⟨index, none, accepted⟩ := ends
      have first : index = 0 := Nat.le_zero.1 none
      subst first
      exact drawnFrom_first accepted
  | succ fuel inductionHypothesis =>
      unfold redraw
      by_cases again : Redrawn range (twister.word 0)
      · rw [if_pos (show twister.next.1.toNat * range % UInt64.size < _ from again)]
        refine DrawnFrom.later (inductionHypothesis twister.next.2 ?_) again
        obtain ⟨index, before, accepted⟩ := ends
        cases index with
        | zero => exact absurd again accepted
        | succ index => exact ⟨index, by omega, accepted⟩
      · rw [if_neg (show ¬ twister.next.1.toNat * range % UInt64.size < _ from again)]
        exact drawnFrom_first again

theorem drawBelow_drawnFrom
    (positive : 0 < range) (twister : Twister)
    (ends : ∃ index ≤ redrawLimit, ¬ Redrawn range (twister.word index)) :
    DrawnFrom twister.word range (drawBelow range twister).1 := by
  unfold drawBelow
  dsimp only
  split
  case isTrue _ => exact redraw_drawnFrom redrawLimit twister ends
  case isFalse large =>
    -- The threshold is below the range, so a low half that is not is large enough.
    refine drawnFrom_first fun again => large ?_
    exact Nat.lt_trans again (Nat.mod_lt _ positive)

end PageWalk.Replacement
