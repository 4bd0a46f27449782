import Mathlib.Data.Int.ModEq
import Mathlib.Tactic.ByContra
import PageWalk.RoundRobin

/-!
# Fairness of the round-robin arbiter

The search meets every input once, at its distance behind the last grant. So it finds a
requesting input if there is one, and of several the nearest. A grant to another input brings
an input nearer, so one that keeps requesting is granted in as many rounds as there are inputs.
-/

namespace PageWalk.RoundRobin

/-! ## Distances -/

/-- The arbiter has inputs, and no position behind its last grant overflows 32 bits. -/
structure InRange (arbiter : RoundRobin) : Prop where
  positive : 1 ≤ arbiter.inputs
  least : -2 ^ 31 ≤ arbiter.lastGrant
  most : arbiter.lastGrant + arbiter.inputs < 2 ^ 31

/-- How far an input lies behind the last grant, the next one at distance 1. -/
def distance (arbiter : RoundRobin) (input : Nat) : Nat :=
  ((input - arbiter.lastGrant - 1) % arbiter.inputs).toNat + 1

variable {arbiter : RoundRobin} {input other offset : Nat}

/-- Without an overflow the position is a remainder that is not negative. -/
theorem InRange.position_eq
    (range : arbiter.InRange) (near : offset ≤ arbiter.inputs) :
    (arbiter.position offset : Int) = (arbiter.lastGrant + offset) % arbiter.inputs := by
  obtain ⟨positive, least, most⟩ := range
  have sum : (arbiter.lastGrant + offset).bmod UInt32.size = arbiter.lastGrant + offset := by
    have size : (UInt32.size : Int) = 2 ^ 32 := rfl
    refine Int.bmod_eq_of_le ?_ ?_
    · rw [size]
      omega
    · rw [size]
      omega
  have above := Int.emod_nonneg (arbiter.lastGrant + offset) (by omega : arbiter.inputs ≠ 0)
  have below := Int.emod_lt_of_pos (arbiter.lastGrant + offset) (by omega : 0 < arbiter.inputs)
  unfold position
  dsimp only
  rw [sum, Int.tmod_eq_emod]
  split
  · rw [if_neg (by omega)]
    omega
  · rename_i negative
    have some : (arbiter.lastGrant + offset) % arbiter.inputs ≠ 0 := fun zero =>
      negative (Or.inr (Int.dvd_of_emod_eq_zero zero))
    rw [if_pos (by omega)]
    omega

theorem distance_pos (arbiter : RoundRobin) (input : Nat) : 1 ≤ arbiter.distance input :=
  Nat.le_add_left 1 _

/-- The distance of an input, as a number of positions. -/
private theorem distance_cast (positive : 1 ≤ arbiter.inputs) (input : Nat) :
    (arbiter.distance input : Int) = (input - arbiter.lastGrant - 1) % arbiter.inputs + 1 := by
  have above := Int.emod_nonneg (input - arbiter.lastGrant - 1)
    (by omega : arbiter.inputs ≠ 0)
  unfold distance
  omega

theorem distance_le (positive : 1 ≤ arbiter.inputs) (input : Nat) :
    arbiter.distance input ≤ arbiter.inputs := by
  have below := Int.emod_lt_of_pos (input - arbiter.lastGrant - 1)
    (by omega : 0 < arbiter.inputs)
  rw [distance_cast positive]
  omega

/-- Going the distance of an input leads to it. -/
theorem modEq_distance (positive : 1 ≤ arbiter.inputs) (input : Nat) :
    arbiter.lastGrant + arbiter.distance input ≡ input [ZMOD arbiter.inputs] := by
  rw [distance_cast positive]
  calc
    arbiter.lastGrant + ((input - arbiter.lastGrant - 1) % arbiter.inputs + 1)
        ≡ arbiter.lastGrant + ((input - arbiter.lastGrant - 1) + 1) [ZMOD arbiter.inputs] :=
      ((Int.mod_modEq _ _).add_right 1).add_left _
    _ = input := by omega

private theorem eq_of_modEq {count left right : Int}
    (same : left ≡ right [ZMOD count]) (leftLeast : 0 ≤ left) (leftBelow : left < count)
    (rightLeast : 0 ≤ right) (rightBelow : right < count) : left = right := by
  have remainder : left % count = right % count := same
  rwa [Int.emod_eq_of_lt leftLeast leftBelow, Int.emod_eq_of_lt rightLeast rightBelow]
    at remainder

/-- Two inputs at the same distance are the same. -/
theorem eq_of_distance_eq (positive : 1 ≤ arbiter.inputs)
    (inside : (input : Int) < arbiter.inputs) (otherInside : (other : Int) < arbiter.inputs)
    (same : arbiter.distance input = arbiter.distance other) : input = other := by
  have here := modEq_distance positive input
  rw [same] at here
  have inputs := here.symm.trans (modEq_distance positive other)
  exact Int.ofNat_inj.1 (eq_of_modEq inputs (by omega) inside (by omega) otherInside)

/-- Distances from an input that is granted are what is left of the old ones. -/
theorem distance_grant (positive : 1 ≤ arbiter.inputs)
    (nearer : arbiter.distance input < arbiter.distance other) :
    (arbiter.grant input).distance other + arbiter.distance input = arbiter.distance other := by
  have granted : 1 ≤ (arbiter.grant input).inputs := positive
  have whole := distance_le positive other
  have left : (((arbiter.grant input).distance other : Nat) : Int) ≤ arbiter.inputs :=
    distance_le granted other
  have some := (arbiter.grant input).distance_pos other
  have steps : (arbiter.grant input).distance other + arbiter.distance input ≡
      arbiter.distance other [ZMOD arbiter.inputs] := by
    refine Int.ModEq.add_left_cancel' arbiter.lastGrant ?_
    calc
      arbiter.lastGrant +
            ((arbiter.grant input).distance other + arbiter.distance input : Int)
          = (arbiter.lastGrant + arbiter.distance input) +
              (arbiter.grant input).distance other := by omega
      _ ≡ input + (arbiter.grant input).distance other [ZMOD arbiter.inputs] :=
        (modEq_distance positive input).add_right _
      _ ≡ other [ZMOD arbiter.inputs] := modEq_distance granted other
      _ ≡ arbiter.lastGrant + arbiter.distance other [ZMOD arbiter.inputs] :=
        (modEq_distance positive other).symm
  have rest : (arbiter.grant input).distance other ≡
      (arbiter.distance other - arbiter.distance input : Int) [ZMOD arbiter.inputs] := by
    refine Int.ModEq.add_right_cancel' (arbiter.distance input) ?_
    rwa [Int.sub_add_cancel]
  have fewer := eq_of_modEq (rest.sub_right 1) (by omega) (by omega) (by omega) (by omega)
  omega

/-! ## The search -/

theorem InRange.position_lt (range : arbiter.InRange) (near : offset ≤ arbiter.inputs) :
    (arbiter.position offset : Int) < arbiter.inputs := by
  have positive := range.positive
  rw [range.position_eq near]
  exact Int.emod_lt_of_pos _ (by omega)

theorem InRange.position_distance
    (range : arbiter.InRange) (inside : (input : Int) < arbiter.inputs) :
    arbiter.position (arbiter.distance input) = input := by
  have near := distance_le range.positive input
  refine Int.ofNat_inj.1 (eq_of_modEq ?_ (by omega) (range.position_lt near) (by omega) inside)
  rw [range.position_eq near]
  exact (Int.mod_modEq _ _).trans (modEq_distance range.positive input)

/-- The input at a position lies at its offset. -/
theorem InRange.distance_position
    (range : arbiter.InRange) (near : offset < arbiter.inputs) :
    arbiter.distance (arbiter.position (offset + 1)) = offset + 1 := by
  have far : ((offset + 1 : Nat) : Int) ≤ arbiter.inputs := by omega
  have here := modEq_distance range.positive (arbiter.position (offset + 1))
  have there := distance_le range.positive (arbiter.position (offset + 1))
  have some := arbiter.distance_pos (arbiter.position (offset + 1))
  rw [range.position_eq far] at here
  have steps := Int.ModEq.add_left_cancel' _ (here.trans (Int.mod_modEq _ _))
  have fewer := eq_of_modEq (steps.sub_right 1) (by omega) (by omega) (by omega) (by omega)
  omega

/-- The search meets every input. -/
theorem InRange.mem_searchOrder (range : arbiter.InRange) :
    input ∈ arbiter.searchOrder ↔ (input : Int) < arbiter.inputs := by
  simp only [searchOrder, List.mem_map, List.mem_range]
  constructor
  · rintro ⟨offset, near, rfl⟩
    exact range.position_lt (by omega)
  · intro inside
    have some := arbiter.distance_pos input
    have near := distance_le range.positive input
    refine ⟨arbiter.distance input - 1, by omega, ?_⟩
    rw [Nat.sub_add_cancel some]
    exact range.position_distance inside

/-- Of the requesting inputs the search finds the nearest. -/
theorem InRange.distance_le_of_pick (range : arbiter.InRange) {requests : Nat → Bool}
    (picked : arbiter.pick requests = some input)
    (inside : (other : Int) < arbiter.inputs) (requesting : requests other = true) :
    arbiter.distance input ≤ arbiter.distance other := by
  simp only [pick, searchOrder, List.find?_map, Option.map_eq_some_iff] at picked
  obtain ⟨offset, found, rfl⟩ := picked
  rw [List.find?_range_eq_some, List.mem_range] at found
  obtain ⟨-, near, earlier⟩ := found
  rw [range.distance_position (by omega)]
  by_contra farther
  have some := arbiter.distance_pos other
  have passed := earlier (arbiter.distance other - 1) (by omega)
  rw [Function.comp_apply, Nat.sub_add_cancel some, range.position_distance inside,
    requesting] at passed
  contradiction

/-- What the arbiter chooses: an input that requests, the nearest of them. -/
structure Chosen (arbiter : RoundRobin) (requests : List Bool) (input : Nat) : Prop where
  inside : (input : Int) < arbiter.inputs
  requesting : requests[input]? = some true
  nearest : ∀ other, requests[other]? = some true →
    arbiter.distance input ≤ arbiter.distance other

/-- A grant to another input brings one that requests nearer. -/
theorem Chosen.distance_grant_lt
    {requests : List Bool} {winner : Nat} (chosen : arbiter.Chosen requests winner)
    (positive : 1 ≤ arbiter.inputs) (inside : (input : Int) < arbiter.inputs)
    (requesting : requests[input]? = some true) (other : winner ≠ input) :
    (arbiter.grant winner).distance input < arbiter.distance input := by
  have apart : arbiter.distance winner ≠ arbiter.distance input := fun same =>
    other (eq_of_distance_eq positive chosen.inside inside same)
  have nearer := Nat.lt_of_le_of_ne (chosen.nearest input requesting) apart
  have left := distance_grant positive nearer
  have some := arbiter.distance_pos winner
  omega

private theorem inside_of_bit {requests : List Bool} {bit : Bool}
    (whole : requests.length = arbiter.inputs) (found : requests[input]? = some bit) :
    (input : Int) < arbiter.inputs := by
  obtain ⟨reached, -⟩ := List.getElem?_eq_some_iff.1 found
  omega

/-- A vector with a bit for each input is searched without a fault. -/
theorem InRange.choose_cases (range : arbiter.InRange) {requests : List Bool}
    (whole : requests.length = arbiter.inputs) :
    (arbiter.choose requests = .ok none ∧ ∀ request ∈ requests, request = false) ∨
      ∃ input, arbiter.choose requests = .ok (some input) ∧ arbiter.Chosen requests input := by
  have asks (input : Nat) (inside : (input : Int) < arbiter.inputs) :
      requests.getD input true = true ↔ requests[input]? = some true := by
    have reached : input < requests.length := by omega
    simp [List.getD_eq_getElem?_getD, reached]
  unfold choose
  cases picked : arbiter.pick (fun input => requests.getD input true) with
  | none =>
    refine Or.inl ⟨rfl, fun request listed => ?_⟩
    obtain ⟨input, reached, rfl⟩ := List.getElem_of_mem listed
    have inside : (input : Int) < arbiter.inputs := by omega
    have unset := List.find?_eq_none.1 picked input (range.mem_searchOrder.2 inside)
    simpa [List.getD_eq_getElem?_getD, reached] using unset
  | some input =>
    have inside := range.mem_searchOrder.1 (List.mem_of_find?_eq_some picked)
    have set := List.find?_some picked
    have reached : input < requests.length := by omega
    refine Or.inr ⟨input, if_pos reached, inside, (asks input inside).1 set,
      fun other otherSet => ?_⟩
    have otherInside := inside_of_bit whole otherSet
    exact range.distance_le_of_pick picked otherInside ((asks other otherInside).2 otherSet)

/-! ## Rounds -/

/-- One round after another: a choice, and its grant. -/
def takeAll (arbiter : RoundRobin) :
    List (List Bool) → Except Fault (List (Option Nat) × RoundRobin)
  | [] => .ok ([], arbiter)
  | requests :: rounds => do
    let (granted, next) ← arbiter.take requests
    let (others, last) ← next.takeAll rounds
    return (granted :: others, last)

/-- No position overflows in any of the rounds. -/
def InRangeThrough (arbiter : RoundRobin) : List (List Bool) → Prop
  | [] => True
  | requests :: rounds => arbiter.InRange ∧
    ∀ granted next, arbiter.take requests = .ok (granted, next) → next.InRangeThrough rounds

/-- What a round leaves: nobody requests and nothing changes, or a grant to whom it chose. -/
theorem InRange.take_cases (range : arbiter.InRange) {requests : List Bool}
    (whole : requests.length = arbiter.inputs) :
    (arbiter.take requests = .ok (none, arbiter) ∧ ∀ request ∈ requests, request = false) ∨
      ∃ input, arbiter.take requests = .ok (some input, arbiter.grant input) ∧
        arbiter.Chosen requests input := by
  rcases range.choose_cases whole with ⟨chosen, silent⟩ | ⟨input, chosen, nearest⟩
  · refine Or.inl ⟨?_, silent⟩
    simp only [take, chosen]
    rfl
  · refine Or.inr ⟨input, ?_, nearest⟩
    simp only [take, chosen]
    rfl

theorem takeAll_cons {next last : RoundRobin} {requests : List Bool} {rounds : List (List Bool)}
    {granted : Option Nat} {others : List (Option Nat)}
    (taken : arbiter.take requests = .ok (granted, next))
    (rest : next.takeAll rounds = .ok (others, last)) :
    arbiter.takeAll (requests :: rounds) = .ok (granted :: others, last) := by
  simp only [takeAll, taken]
  change (next.takeAll rounds >>= fun taken => pure (granted :: taken.1, taken.2)) = _
  rw [rest]
  rfl

/-- After a grant to one of at most `2 ^ 30` inputs no position overflows. -/
theorem InRange.grant (range : arbiter.InRange) (small : arbiter.inputs ≤ 2 ^ 30)
    (inside : (input : Int) < arbiter.inputs) : (arbiter.grant input).InRange where
  positive := range.positive
  least := by
    change (-2 ^ 31 : Int) ≤ input
    omega
  most := by
    change (input : Int) + arbiter.inputs < 2 ^ 31
    omega

/-- With at most `2 ^ 30` inputs only the first round can be out of range. -/
theorem InRange.through (range : arbiter.InRange) (small : arbiter.inputs ≤ 2 ^ 30)
    {rounds : List (List Bool)}
    (whole : ∀ requests ∈ rounds, requests.length = arbiter.inputs) :
    arbiter.InRangeThrough rounds := by
  induction rounds generalizing arbiter with
  | nil => trivial
  | cons requests rounds ih =>
    refine ⟨range, fun granted next taken => ?_⟩
    obtain ⟨bits, others⟩ := List.forall_mem_cons.1 whole
    rcases range.take_cases bits with ⟨silent, -⟩ | ⟨input, granting, chosen⟩
    · cases silent.symm.trans taken
      exact ih range small others
    · cases granting.symm.trans taken
      exact ih (range.grant small chosen.inside) small others

/-- An input that requests in as many rounds as its distance is granted in one of them. -/
theorem InRangeThrough.granted {rounds : List (List Bool)}
    (through : arbiter.InRangeThrough rounds)
    (whole : ∀ requests ∈ rounds, requests.length = arbiter.inputs) :
    ∃ grants last, arbiter.takeAll rounds = .ok (grants, last) ∧
      ∀ input, (∀ requests ∈ rounds, requests[input]? = some true) →
        arbiter.distance input ≤ rounds.length → some input ∈ grants := by
  induction rounds generalizing arbiter with
  | nil =>
    refine ⟨[], arbiter, rfl, fun input _ near => ?_⟩
    exact absurd (arbiter.distance_pos input) (Nat.not_le_of_gt (Nat.lt_succ_of_le near))
  | cons requests rounds ih =>
    obtain ⟨range, later⟩ := through
    obtain ⟨bits, others⟩ := List.forall_mem_cons.1 whole
    rcases range.take_cases bits with ⟨taken, silent⟩ | ⟨winner, taken, chosen⟩
    · obtain ⟨grants, last, rest, -⟩ := ih (later _ _ taken) others
      refine ⟨none :: grants, last, takeAll_cons taken rest, fun input requesting _ => ?_⟩
      have set := requesting requests List.mem_cons_self
      cases silent true (List.mem_of_getElem? set)
    · obtain ⟨grants, last, rest, served⟩ := ih (later _ _ taken) others
      refine ⟨some winner :: grants, last, takeAll_cons taken rest,
        fun input requesting near => ?_⟩
      obtain ⟨set, requestingLater⟩ := List.forall_mem_cons.1 requesting
      by_cases won : winner = input
      · rw [won]
        exact List.mem_cons_self
      · -- What is left of the distance fits into the rounds that are left.
        have inside := inside_of_bit bits set
        have nearer := chosen.distance_grant_lt range.positive inside set won
        rw [List.length_cons] at near
        exact List.mem_cons_of_mem _ (served input requestingLater (by omega))

/-- A choice is `none` just if no input requests, and otherwise an input that does. In as many
rounds as there are inputs, an input that requests in each of them is granted. With more than
`2 ^ 30` inputs a grant may be so far up that the next search overflows: then the rounds are
those in which none does. -/
theorem grants_of_rounds (range : arbiter.InRange) :
    (∀ requests : List Bool, requests.length = arbiter.inputs →
      ∃ chosen, arbiter.choose requests = .ok chosen ∧
        (chosen = none ↔ ∀ request ∈ requests, request = false) ∧
        ∀ input, chosen = some input →
          (input : Int) < arbiter.inputs ∧ requests[input]? = some true) ∧
      ∀ rounds : List (List Bool), rounds.length = arbiter.inputs →
        (∀ requests ∈ rounds, requests.length = arbiter.inputs) →
        (arbiter.inputs ≤ 2 ^ 30 ∨ arbiter.InRangeThrough rounds) →
        ∃ grants last, arbiter.takeAll rounds = .ok (grants, last) ∧
          ∀ input, (∀ requests ∈ rounds, requests[input]? = some true) → some input ∈ grants := by
  constructor
  · intro requests whole
    rcases range.choose_cases whole with ⟨chosen, silent⟩ | ⟨winner, chosen, set⟩
    · exact ⟨none, chosen, iff_of_true rfl silent, nofun⟩
    · refine ⟨some winner, chosen, iff_of_false nofun fun silent => ?_, ?_⟩
      · cases silent true (List.mem_of_getElem? set.requesting)
      · rintro _ ⟨⟩
        exact ⟨set.inside, set.requesting⟩
  · intro rounds long whole fits
    have through : arbiter.InRangeThrough rounds :=
      fits.elim (fun small => range.through small whole) id
    obtain ⟨grants, last, taken, served⟩ := through.granted whole
    refine ⟨grants, last, taken, fun input requesting => served input requesting ?_⟩
    have near := distance_le range.positive input
    omega

/-- Two of three inputs keep requesting, after a grant far below the inputs. -/
theorem grants_of_three_rounds :
    (⟨3, -7⟩ : RoundRobin).InRange ∧
      ∃ grants last,
        (⟨3, -7⟩ : RoundRobin).takeAll (List.replicate 3 [true, false, true]) =
          .ok (grants, last) ∧
        some 0 ∈ grants ∧ some 2 ∈ grants := by
  have range : (⟨3, -7⟩ : RoundRobin).InRange := ⟨by decide, by decide, by decide⟩
  have bits : ∀ requests ∈ List.replicate 3 [true, false, true],
      (requests.length : Int) = 3 := by decide
  obtain ⟨grants, last, taken, served⟩ := (grants_of_rounds range).2
    (List.replicate 3 [true, false, true]) rfl bits (Or.inl (by decide))
  exact ⟨range, grants, last, taken, served 0 (by decide), served 2 (by decide)⟩

end PageWalk.RoundRobin
