import Mathlib.Algebra.Group.Nat.Defs
import Mathlib.Data.List.DropRight
import PageWalk.Watchdog

/-!
# Reports of a watchdog

A watchdog has counted the busy steps since the latest idle step or reset, or since the start,
and reports the one that goes over the threshold. So a busy period is reported once if it is
longer than the threshold, and otherwise not at all.
-/

namespace PageWalk

/-! ## What a watchdog has counted -/

/-- The watchdog has counted `count` busy steps since it started over, and has reported the
one that went over the threshold. No count goes over the greatest threshold. -/
structure Watchdog.HasCounted (threshold : Word) (count : Nat) (watchdog : Watchdog) : Prop where
  busySteps : watchdog.busySteps = UInt64.ofNat count
  reported : watchdog.reported = true ↔
    threshold.toNat < count ∧ threshold.toNat + 1 < UInt64.size

namespace Watchdog

variable {threshold : Word} {count : Nat} {watchdog : Watchdog}

theorem hasCounted_new (threshold : Word) : HasCounted threshold 0 {} :=
  ⟨rfl, by simp⟩

theorem fires_idle (watchdog : Watchdog) (threshold : Word) :
    watchdog.fires threshold false = false := rfl

/-- Up to the threshold the count has not wrapped, and only one step goes over it. -/
private theorem lt_ofNat_add_one_iff (early : count ≤ threshold.toNat) :
    threshold < UInt64.ofNat count + 1 ↔
      count = threshold.toNat ∧ threshold.toNat + 1 < UInt64.size := by
  have bound : threshold.toNat < 2 ^ 64 := threshold.toNat_lt
  have one : (1 : Word).toNat = 1 := rfl
  have size : UInt64.size = 2 ^ 64 := rfl
  rw [UInt64.lt_iff_toNat_lt, UInt64.toNat_add, UInt64.toNat_ofNat', one, size]
  by_cases last : threshold.toNat + 1 < 2 ^ 64
  · rw [Nat.mod_eq_of_lt (by omega : count < 2 ^ 64), Nat.mod_eq_of_lt (by omega)]
    omega
  · omega

theorem HasCounted.fires_iff (counted : watchdog.HasCounted threshold count) :
    watchdog.fires threshold true = true ↔
      count = threshold.toNat ∧ threshold.toNat + 1 < UInt64.size := by
  have reported := counted.reported
  simp only [fires, counted.busySteps, Bool.true_and, Bool.and_eq_true, decide_eq_true_eq,
    Bool.not_eq_true']
  by_cases early : count ≤ threshold.toNat
  · have silent : watchdog.reported = false := by
      rw [← Bool.not_eq_true, reported]
      omega
    rw [lt_ofNat_add_one_iff early]
    simp [silent]
  · by_cases last : threshold.toNat + 1 < UInt64.size
    · have spoken : watchdog.reported = true := reported.2 ⟨by omega, last⟩
      simp only [spoken, Bool.true_eq_false, and_false, false_iff]
      omega
    · have greatest : ¬ threshold < UInt64.ofNat count + 1 := by
        have bound := (UInt64.ofNat count + 1).toNat_lt
        have size : UInt64.size = 2 ^ 64 := rfl
        rw [UInt64.lt_iff_toNat_lt]
        omega
      simp only [greatest, false_and, false_iff]
      omega

theorem HasCounted.tick (counted : watchdog.HasCounted threshold count) :
    (watchdog.tick threshold true).HasCounted threshold (count + 1) where
  busySteps := by
    change watchdog.busySteps + 1 = _
    rw [counted.busySteps, UInt64.ofNat_add]
    rfl
  reported := by
    have fires := counted.fires_iff
    have reported := counted.reported
    change (watchdog.reported || decide (threshold < watchdog.busySteps + 1)) = true ↔ _
    cases spoken : watchdog.reported with
    | true =>
        have before := reported.1 spoken
        simp only [Bool.true_or, true_iff]
        omega
    | false =>
        have silent : ¬ (threshold.toNat < count ∧ threshold.toNat + 1 < UInt64.size) := by
          rw [← reported, spoken]
          exact Bool.false_ne_true
        have crosses : watchdog.fires threshold true =
            decide (threshold < watchdog.busySteps + 1) := by
          simp [Watchdog.fires, spoken]
        rw [Bool.false_or, ← crosses, fires]
        omega

/-! ## Inputs -/

/-- The watchdog after an input. -/
def next (watchdog : Watchdog) (threshold : Word) : Input → Watchdog
  | .step busy => watchdog.tick threshold busy
  | .reset => {}

/-- What is answered to an input. -/
def answer (watchdog : Watchdog) (threshold : Word) : Input → Option Bool × Word
  | .step busy =>
      (some (watchdog.fires threshold busy), (watchdog.tick threshold busy).busySteps)
  | .reset => (none, 0)

/-- The watchdog after all inputs. -/
def nextAll (watchdog : Watchdog) (threshold : Word) (inputs : List Input) : Watchdog :=
  inputs.foldl (fun watchdog input => watchdog.next threshold input) watchdog

/-- The busy steps at the end of the inputs: those since the latest idle step or reset, or
since the start. -/
def busyStreak (inputs : List Input) : Nat :=
  (inputs.rtakeWhile (· == .step true)).length

theorem busyStreak_concat (inputs : List Input) (input : Input) :
    busyStreak (inputs ++ [input]) =
      if input = .step true then busyStreak inputs + 1 else 0 := by
  by_cases busy : input = .step true
  · simp [busyStreak, busy]
  · simp [busyStreak, busy]

theorem busyStreak_le (inputs : List Input) : busyStreak inputs ≤ inputs.length :=
  (List.rtakeWhile_suffix _ inputs).length_le

theorem run_cons (input : Input) (inputs : List Input) :
    watchdog.run threshold (input :: inputs) =
      watchdog.answer threshold input :: (watchdog.next threshold input).run threshold inputs := by
  cases input <;> rfl

theorem length_run (inputs : List Input) :
    (watchdog.run threshold inputs).length = inputs.length := by
  induction inputs generalizing watchdog with
  | nil => rfl
  | cons input inputs inductionHypothesis =>
      rw [run_cons, List.length_cons, inductionHypothesis, List.length_cons]

theorem run_append (before after : List Input) :
    watchdog.run threshold (before ++ after) =
      watchdog.run threshold before ++
        (watchdog.nextAll threshold before).run threshold after := by
  induction before generalizing watchdog with
  | nil => rfl
  | cons input before inductionHypothesis =>
      rw [List.cons_append, run_cons, run_cons, inductionHypothesis, List.cons_append]
      rfl

/-! ## Runs -/

theorem HasCounted.next
    {before : List Input} (counted : watchdog.HasCounted threshold (busyStreak before))
    (input : Input) :
    (watchdog.next threshold input).HasCounted threshold (busyStreak (before ++ [input])) := by
  rw [busyStreak_concat]
  by_cases busy : input = .step true
  · rw [if_pos busy, busy]
    exact counted.tick
  · rw [if_neg busy]
    cases input with
    | reset => exact hasCounted_new threshold
    | step isBusy =>
        obtain rfl : isBusy = false := by simpa using busy
        exact hasCounted_new threshold

theorem hasCounted_nextAll (threshold : Word) (inputs : List Input) :
    (({} : Watchdog).nextAll threshold inputs).HasCounted threshold (busyStreak inputs) := by
  induction inputs using List.reverseRecOn with
  | nil => exact hasCounted_new threshold
  | append_singleton before input inductionHypothesis =>
      rw [nextAll, List.foldl_append]
      exact inductionHypothesis.next input

/-- An input is answered with the busy steps up to it, and a step reports if these go over the
threshold for the first time. -/
theorem HasCounted.answer
    {before : List Input} (counted : watchdog.HasCounted threshold (busyStreak before))
    (few : before.length + 1 < 2 ^ 64) (input : Input) :
    let streak := busyStreak (before ++ [input])
    watchdog.answer threshold input =
      (if input = .reset then none else some (decide (streak = threshold.toNat + 1)),
        UInt64.ofNat streak) := by
  intro streak
  have size : UInt64.size = 2 ^ 64 := rfl
  have bound := busyStreak_le before
  have length : streak = if input = .step true then busyStreak before + 1 else 0 :=
    busyStreak_concat before input
  cases input with
  | reset => rw [length]; rfl
  | step busy =>
      cases busy with
      | false => simp [Watchdog.answer, Watchdog.fires, Watchdog.tick, length]
      | true =>
          rw [if_pos rfl] at length
          have fires : watchdog.fires threshold true = decide (streak = threshold.toNat + 1) := by
            rw [Bool.eq_iff_iff, counted.fires_iff, decide_eq_true_eq]
            omega
          rw [Watchdog.answer, fires, counted.tick.busySteps, ← length, if_neg (by simp)]

/-- Of busy steps one after the other, the one that goes over the threshold reports. -/
theorem HasCounted.reports_of_busy
    (counted : watchdog.HasCounted threshold count) (busy : Nat) :
    (watchdog.run threshold (List.replicate busy (.step true))).countP (·.1 == some true) =
      if count ≤ threshold.toNat ∧ threshold.toNat < count + busy ∧
          threshold.toNat + 1 < UInt64.size then
        1
      else
        0 := by
  induction busy generalizing watchdog count with
  | zero =>
      rw [if_neg (by omega)]
      rfl
  | succ busy inductionHypothesis =>
      have first : ((watchdog.answer threshold (.step true)).1 == some true) = true ↔
          count = threshold.toNat ∧ threshold.toNat + 1 < UInt64.size := by
        rw [← counted.fires_iff]
        simp [Watchdog.answer]
      have others : ((watchdog.next threshold (.step true)).run threshold
          (List.replicate busy (.step true))).countP (·.1 == some true) = _ :=
        inductionHypothesis counted.tick
      rw [List.replicate_succ, run_cons, List.countP_cons, others]
      by_cases here : count = threshold.toNat ∧ threshold.toNat + 1 < UInt64.size
      · rw [if_pos (first.2 here), if_neg (by omega), if_pos (by omega)]
      · rw [if_neg (mt first.1 here), Nat.add_zero]
        by_cases later : count + 1 ≤ threshold.toNat ∧
            threshold.toNat < count + 1 + busy ∧ threshold.toNat + 1 < UInt64.size
        · rw [if_pos later, if_pos (by omega)]
        · rw [if_neg later, if_neg (by omega)]

/-- Every input is answered with the number of busy steps since the latest idle step or reset,
or since the start, and a step reports just if this is the first number over the threshold. So
the busy steps of one period make one report if they are more than the threshold, and otherwise
none. -/
theorem reports_of_run (threshold : Word) (inputs : List Input) (few : inputs.length < 2 ^ 64) :
    (∀ before input after, inputs = before ++ input :: after →
      let streak := busyStreak (before ++ [input])
      (run threshold {} inputs)[before.length]? =
        some (if input = .reset then none else some (decide (streak = threshold.toNat + 1)),
          UInt64.ofNat streak)) ∧
      ∀ before busy after, inputs = before ++ List.replicate busy (.step true) ++ after →
        busyStreak before = 0 →
        (((run threshold {} inputs).drop before.length).take busy).countP (·.1 == some true) =
          if threshold.toNat < busy then 1 else 0 := by
  have size : UInt64.size = 2 ^ 64 := rfl
  constructor
  · rintro before input after rfl
    intro streak
    have short : before.length + 1 < 2 ^ 64 := by
      rw [List.length_append, List.length_cons] at few
      omega
    have answered := (hasCounted_nextAll threshold before).answer short input
    have position : (run threshold {} before).length = before.length := length_run before
    rw [run_append, run_cons, answered, List.getElem?_append_right (Nat.le_of_eq position),
      position, Nat.sub_self, List.getElem?_cons_zero]
  · rintro before busy after rfl started
    have counted := hasCounted_nextAll threshold before
    rw [started] at counted
    have position : (run threshold {} before).length = before.length := length_run before
    have period : ((({} : Watchdog).nextAll threshold before).run threshold
        (List.replicate busy (.step true))).length = busy := by
      rw [length_run, List.length_replicate]
    have short : busy < 2 ^ 64 := by
      simp only [List.length_append, List.length_replicate] at few
      omega
    rw [List.append_assoc, run_append, run_append, List.drop_left' position,
      List.take_left' period, counted.reports_of_busy busy]
    by_cases longer : threshold.toNat < busy
    · rw [if_pos (by omega), if_pos longer]
    · rw [if_neg (by omega), if_neg longer]

/-- Two busy periods, one of which is as long as the threshold and the other one longer, with an
idle step and a reset between them. -/
theorem reports_of_small_run :
    let inputs : List Input :=
      [.step true, .step true, .step false, .step true, .reset, .step true, .step true,
        .step true, .step true]
    inputs.length < 2 ^ 64 ∧
      (run 2 {} inputs)[7]? = some (some true, 3) ∧
      ((run 2 {} inputs).drop 0 |>.take 2).countP (·.1 == some true) = 0 ∧
      busyStreak (inputs.take 5) = 0 ∧
      ((run 2 {} inputs).drop 5 |>.take 4).countP (·.1 == some true) = 1 := by
  intro inputs
  obtain ⟨answers, periods⟩ := reports_of_run 2 inputs (by decide)
  exact ⟨by decide, answers (inputs.take 7) (.step true) [.step true] rfl,
    periods [] 2 (inputs.drop 2) rfl rfl, by decide, periods (inputs.take 5) 4 [] rfl (by decide)⟩

end Watchdog

end PageWalk
