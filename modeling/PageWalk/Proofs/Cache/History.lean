import PageWalk.Proofs.Cache.Stock
import Mathlib.Data.List.Forall2

/-!
# Histories of the cache

What can be done to a cache, in any order, and what an observer writes down: what was
written to the storages and fenced, and for every lookup on its way when the storages
were read for it and which refills have landed since it was accepted. What holds of the
lookups and of what their stages hold is followed through every move.
-/

namespace PageWalk

/-- A refill of the mode of a request and of a region that covers it: the sector of a leaf
block, and the region of a pointer, a superpage or a page fault. -/
structure Refill.Concerns (refill : Refill) (request : Request) : Prop where
  mode : refill.request.mode = request.mode
  sector : refill.level = leafLevel → sectorTag refill.request.vpn = sectorTag request.vpn
  region : refill.level < leafLevel →
    regionTag refill.request.vpn refill.level = regionTag request.vpn refill.level

theorem Refill.concerns_iff
    {refill : Refill} (level : refill.level ≤ leafLevel) (request : Request) :
    refill.Concerns request ↔
      refill.request.mode = request.mode ∧
        Cache.refillRegion refill.request.vpn refill.level =
          Cache.refillRegion request.vpn refill.level := by
  unfold Cache.refillRegion
  by_cases last : refill.level = leafLevel
  · rw [if_pos last, if_pos last]
    exact ⟨fun concerns => ⟨concerns.mode, concerns.sector last⟩,
      fun ⟨mode, sector⟩ => ⟨mode, fun _ => sector, fun upper => by omega⟩⟩
  · rw [if_neg last, if_neg last]
    exact ⟨fun concerns => ⟨concerns.mode, concerns.region (by omega)⟩,
      fun ⟨mode, region⟩ => ⟨mode, fun here => absurd here last, fun _ => region⟩⟩

namespace Cache

/-! ## Moves -/

/-- What can be done to a cache and to the registers that it reads. -/
inductive Move
  | send (lookup : Lookup)
  | tick
  /-- Takes the answer. -/
  | pop
  | refill (refill : Refill)
  | fence (fence : Fence)
  | flush
  | install (registers : Registers)
  | corrupt (level : Nat) (set way : UInt32)

/-- A refill that was written or a fence, and the registers of that moment. -/
inductive Change
  | refilled (registers : Registers) (refill : Refill)
  | fenced (registers : Registers) (fence : Fence)

/-- When the storages were read for a lookup. -/
structure Reading where
  registers : Registers
  /-- How many changes had come before. -/
  changes : Nat
deriving DecidableEq, Repr

/-- What an observer knows of a lookup on its way. -/
structure Passage where
  lookup : Lookup
  reading : Option Reading := none
  /-- The refills that were written since the lookup was accepted. -/
  landed : List Refill := []
deriving DecidableEq, Repr

/-- The lookup has left the stage in which it waits, if it had not before. -/
def Passage.read (registers : Registers) (changes : Nat) (passage : Passage) : Passage :=
  { passage with reading := some (passage.reading.getD ⟨registers, changes⟩) }

def Passage.land (refill : Refill) (passage : Passage) : Passage :=
  { passage with landed := passage.landed ++ [refill] }

/-- A cache and the registers, the lookups on their way, oldest first, and what has
changed the storages. -/
structure History where
  cache : Cache
  registers : Registers
  passages : List Passage := []
  changes : List Change := []

/-- Whether a refill is written. -/
def takes (params : Params) (refill : Refill) (cache : Cache) : Bool :=
  !cache.flushed && !refill.request.mode.accessFault refill.selected params.addressBits &&
    decide (refill.level ≤ leafLevel)

namespace History

/-- Makes a move and writes down what it did. -/
def perform (params : Params) (move : Move) (history : History) : Outcome History :=
  let cache := history.cache
  let registers := history.registers
  match move with
  | .send lookup =>
      let (accepted, outcome) := Cache.send params lookup cache
      outcome.map fun cache =>
        { history with
          cache := cache
          passages :=
            if accepted then history.passages ++ [{ lookup := lookup }]
            else history.passages }
  | .tick =>
      (Cache.tick params registers cache).map fun cache =>
        { history with
          cache := cache
          passages :=
            if cache.waiting.isNone then
              history.passages.map (·.read registers history.changes.length)
            else
              history.passages }
  | .pop =>
      (Cache.pop params cache).map fun after =>
        { history with
          cache := after
          passages := if cache.answer.isSome then history.passages.tail else history.passages }
  | .refill refill =>
      (Cache.refill params registers refill cache).map fun after =>
        if cache.takes params refill then
          { history with
            cache := after
            passages := history.passages.map (·.land refill)
            changes := history.changes ++ [.refilled registers refill] }
        else
          { history with cache := after }
  | .fence fence =>
      (Cache.fence params registers fence cache).map fun after =>
        { history with
          cache := after
          passages := []
          changes := history.changes ++ [.fenced registers fence] }
  | .flush => { state := { history with cache := cache.flush, passages := [] } }
  | .install registers => { state := { history with registers := registers } }
  | .corrupt level set way =>
      (Cache.corrupt params level set way cache).map fun after =>
        { history with cache := after }

/-- Makes moves until one of them stops the cache. -/
def run (params : Params) (moves : List Move) (history : History) : Outcome History :=
  Outcome.forEach (perform params) moves history

end History

/-! ## Stages -/

/-- A stage of the pipeline with what it holds. -/
inductive Stage
  | waiting (held : WaitingLookup)
  | reading (held : ReadLookup)
  | checked (held : CheckedLookup)
  | answer (held : CacheAnswer)

/-- The stages that hold a lookup, the oldest lookup first. -/
def stages (cache : Cache) : List Stage :=
  (cache.answer.map .answer).toList ++ (cache.checked.map .checked).toList ++
    (cache.reading.map .reading).toList ++ (cache.waiting.map .waiting).toList

/-- The storages have been read for the lookup of a stage. -/
def Stage.isRead : Stage → Bool
  | .waiting _ => false
  | .reading _ | .checked _ | .answer _ => true

/-- What a stage holds after a refill was written. -/
def Stage.mark (refill : Refill) : Stage → Stage
  | .waiting held => .waiting { held with bypass := markBypass refill held.lookup held.bypass }
  | .reading held => .reading { held with bypass := markBypass refill held.lookup held.bypass }
  | .checked held => .checked { held with bypass := markBypass refill held.lookup held.bypass }
  | .answer held => .answer (markAnswer refill held)

theorem SameStages.stages
    {cache after : Cache} (same : SameStages cache after) : after.stages = cache.stages := by
  unfold Cache.stages
  rw [same.waiting, same.reading, same.checked, same.answer]

theorem stages_markLookups (refill : Refill) (cache : Cache) :
    (markLookups refill cache).stages = cache.stages.map (Stage.mark refill) := by
  unfold stages markLookups
  cases cache.answer <;> cases cache.checked <;> cases cache.reading <;>
    cases cache.waiting <;> rfl

/-- A refill is written, and the lookups on their way are marked, or it leaves the storages
and the stages as they are. -/
theorem refill_cases
    (params : Params) (registers : Registers) (refill : Refill) (cache : Cache) :
    (cache.takes params refill = true ∧ refill.level ≤ leafLevel ∧
        (Cache.refill params registers refill cache).state =
          markLookups refill
            (store params registers refill { cache with refilled := true }).state) ∨
      (cache.takes params refill = false ∧ ∃ counters refilled,
        (Cache.refill params registers refill cache).state =
          { cache with counters := counters, refilled := refilled }) := by
  unfold Cache.refill takes
  by_cases flushed : cache.flushed = true
  · rw [if_pos flushed]
    exact .inr ⟨by simp [flushed], _, _, rfl⟩
  · rw [if_neg flushed]
    dsimp only
    by_cases fault : refill.request.mode.accessFault refill.selected params.addressBits = true
    · rw [if_pos fault]
      exact .inr ⟨by simp [fault], _, _, rfl⟩
    · rw [if_neg fault]
      by_cases level : refill.level ≤ leafLevel
      · have stored := (store_spec params registers { cache with refilled := true } level).2
        rw [Outcome.andThen_state_of_running _ stored.running]
        exact .inl ⟨by simp [flushed, fault, level], level, rfl⟩
      · have stopped :
            store params registers refill { cache with refilled := true } =
              .stop { cache with refilled := true }
                (.misuse params.cacheName (.refillLevel refill.level)) := by
          unfold store
          rw [if_neg fun upper => level (Nat.le_of_lt upper),
            if_neg fun last => level (Nat.le_of_eq last)]
        rw [stopped]
        exact .inr ⟨by simp [level], _, _, rfl⟩

/-- A refill that is written marks all lookups on their way. -/
theorem stages_refill
    (params : Params) (registers : Registers) (refill : Refill) (cache : Cache) :
    (Cache.refill params registers refill cache).state.stages =
      if cache.takes params refill then cache.stages.map (Stage.mark refill)
      else cache.stages := by
  rcases refill_cases params registers refill cache with
    ⟨taken, level, state⟩ | ⟨dropped, _, _, state⟩
  · have same := (store_spec params registers { cache with refilled := true } level).1
    rw [state, if_pos taken, stages_markLookups]
    exact congrArg _ same.stages
  · rw [state, if_neg (by rw [dropped]; exact Bool.noConfusion)]
    rfl

/-- What is written down of a refill is nothing to the cache. -/
theorem cache_perform_refill (params : Params) (refill : Refill) (history : History) :
    (history.perform params (.refill refill)).state.cache =
      (Cache.refill params history.registers refill history.cache).state := by
  unfold History.perform
  rw [Outcome.map_state]
  split
  · rfl
  · rfl

theorem isRead_of_stages
    {cache : Cache} (free : cache.waiting = none) {stage : Stage}
    (member : stage ∈ cache.stages) : stage.isRead = true := by
  unfold stages at member
  rw [free] at member
  cases stage with
  | waiting held => simp at member
  | reading held => rfl
  | checked held => rfl
  | answer held => rfl

/-! ## Lookups followed through a move -/

/-- The storages as a step reads them for the lookup that waits. -/
def beforeRead (params : Params) (registers : Registers) (cache : Cache) : Cache :=
  (checkStage params (respondStage params registers cache).state).state

namespace History

/-- The lookups that were written down are those in the stages, and the fact holds of
each of them and of what its stage holds. -/
def Tracks (fact : List Change → Stage → Passage → Prop) (history : History) : Prop :=
  List.Forall₂ (fact history.changes) history.cache.stages history.passages

/-- A fact comes about when a lookup is accepted, and stays when the lookup goes on to its
next stage and when a refill is written. -/
structure Carries (params : Params) (fact : List Change → Stage → Passage → Prop)
    (history : History) : Prop where
  accept : ∀ lookup,
    fact history.changes (.waiting { lookup := lookup }) { lookup := lookup }
  read : ∀ held passage, fact history.changes (.waiting held) passage →
    fact history.changes
      (.reading (Cache.read params history.registers held
        (history.cache.beforeRead params history.registers)))
      (passage.read history.registers history.changes.length)
  check : ∀ held passage cache, fact history.changes (.reading held) passage →
    fact history.changes (.checked (checkedOf params held cache)) passage
  respond : ∀ held passage, held.sector = none ∨ held.superpage = none →
    fact history.changes (.checked held) passage →
    fact history.changes (.answer (answerOf history.registers held)) passage
  stay : ∀ stage passage, stage.isRead = true → fact history.changes stage passage →
    fact history.changes stage (passage.read history.registers history.changes.length)
  land : ∀ refill stage passage, refill.level ≤ leafLevel →
    fact history.changes stage passage →
    fact (history.changes ++ [.refilled history.registers refill]) (stage.mark refill)
      (passage.land refill)

section Lists

variable {Item : Type} {holds : Stage → Item → Prop} {items : List Item} {update : Item → Item}

private theorem forall₂_update
    {stages : List Stage} (tracked : List.Forall₂ holds stages items)
    (each : ∀ stage ∈ stages, ∀ item, holds stage item → holds stage (update item)) :
    List.Forall₂ holds stages (items.map update) := by
  induction tracked with
  | nil => exact .nil
  | cons first _ inductionHypothesis =>
      refine .cons (each _ List.mem_cons_self _ first) (inductionHypothesis ?_)
      exact fun stage member => each stage (List.mem_cons_of_mem _ member)

/-- One stage goes on while something is written down of all lookups. -/
private theorem forall₂_replace
    {left right : List Stage} {old new : Stage}
    (tracked : List.Forall₂ holds (left ++ old :: right) items)
    (others : ∀ stage ∈ left ++ right, ∀ item, holds stage item →
      holds stage (update item))
    (here : ∀ item, holds old item → holds new (update item)) :
    List.Forall₂ holds (left ++ new :: right) (items.map update) := by
  induction left generalizing items with
  | nil =>
      cases tracked with
      | cons first rest => exact .cons (here _ first) (forall₂_update rest others)
  | cons stage left inductionHypothesis =>
      cases tracked with
      | cons first rest =>
          refine .cons (others stage List.mem_cons_self _ first) (inductionHypothesis rest ?_)
          exact fun other member => others other (List.mem_cons_of_mem stage member)

/-- One stage goes on. -/
theorem forall₂_advance
    {left right : List Stage} {old new : Stage}
    (tracked : List.Forall₂ holds (left ++ old :: right) items)
    (here : ∀ item, holds old item → holds new item) :
    List.Forall₂ holds (left ++ new :: right) items := by
  have replaced := forall₂_replace tracked (fun _ _ _ before => before) here
  rwa [List.map_id'] at replaced

end Lists

section Moves

variable {params : Params} {fact : List Change → Stage → Passage → Prop} {history : History}

private theorem forall₂_respondStage
    (carries : Carries params fact history) {cache : Cache} {passages : List Passage}
    (tracked : List.Forall₂ (fact history.changes) cache.stages passages) :
    List.Forall₂ (fact history.changes)
      (respondStage params history.registers cache).state.stages passages := by
  unfold respondStage
  split
  · rename_i held free found
    unfold respond
    split
    · exact tracked
    · rename_i once
      have before : cache.stages = [] ++ .checked held :: ((cache.reading.map .reading).toList ++
          (cache.waiting.map .waiting).toList) := by
        simp [stages, free, found]
      rw [before] at tracked
      have single : held.sector = none ∨ held.superpage = none := by
        simpa only [Bool.and_eq_true, Option.isSome_iff_ne_none, ne_eq, not_and_or,
          Decidable.not_not] using once
      have after := forall₂_advance tracked fun passage =>
        carries.respond held passage single
      simpa [stages] using after
  · exact tracked

private theorem forall₂_checkStage
    (carries : Carries params fact history) {cache : Cache} {passages : List Passage}
    (tracked : List.Forall₂ (fact history.changes) cache.stages passages) :
    List.Forall₂ (fact history.changes) (checkStage params cache).state.stages passages := by
  unfold checkStage
  split
  · rename_i held free found
    have before : cache.stages = (cache.answer.map .answer).toList ++
        .reading held :: (cache.waiting.map .waiting).toList := by
      simp [stages, free, found]
    rw [before] at tracked
    have after := forall₂_advance tracked fun passage =>
      carries.check held passage { cache with reading := none }
    have same := afterCheck_stages params held { cache with reading := none }
    rw [(check_spec params held _).1]
    simpa [stages, same.waiting, same.reading, same.answer] using after
  · exact tracked

/-- What is written down after a step changes nothing for the lookups that had been read
before. -/
private theorem forall₂_read
    (carries : Carries params fact history) {cache : Cache} {passages : List Passage}
    (tracked : List.Forall₂ (fact history.changes) cache.stages passages) :
    List.Forall₂ (fact history.changes) cache.stages
      (if cache.waiting.isNone then
        passages.map (·.read history.registers history.changes.length)
      else
        passages) := by
  split
  · rename_i free
    refine forall₂_update tracked fun stage member passage => ?_
    exact carries.stay stage passage
      (isRead_of_stages (Option.isNone_iff_eq_none.1 free) member)
  · exact tracked

private theorem forall₂_readStage
    (carries : Carries params fact history) {cache : Cache} {passages : List Passage}
    (reads : ∀ held passage, fact history.changes (.waiting held) passage →
      fact history.changes (.reading (Cache.read params history.registers held cache))
        (passage.read history.registers history.changes.length))
    (tracked : List.Forall₂ (fact history.changes) cache.stages passages) :
    List.Forall₂ (fact history.changes) (readStage params history.registers cache).stages
      (if (readStage params history.registers cache).waiting.isNone then
        passages.map (·.read history.registers history.changes.length)
      else
        passages) := by
  unfold readStage
  split
  · rename_i held free found
    let older := (cache.answer.map Stage.answer).toList ++
      (cache.checked.map Stage.checked).toList
    have before : cache.stages = older ++ .waiting held :: [] := by
      simp [older, stages, free, found]
    have olderRead (stage : Stage) (member : stage ∈ older ++ []) : stage.isRead = true := by
      cases stage with
      | waiting held => simp [older] at member
      | reading held => rfl
      | checked held => rfl
      | answer held => rfl
    rw [before] at tracked
    have after := forall₂_replace tracked
      (fun stage member passage => carries.stay stage passage (olderRead stage member))
      (reads held)
    simpa [older, stages] using after
  · exact forall₂_read carries tracked

/-- A step follows the lookups to their next stages. -/
private theorem Tracks.tick
    (carries : Carries params fact history) (tracks : history.Tracks fact) :
    (history.perform params .tick).state.Tracks fact := by
  have answered := forall₂_respondStage carries tracks
  have checked := forall₂_checkStage carries answered
  change List.Forall₂ (fact history.changes)
    (Cache.tick params history.registers history.cache).state.stages
    (if (Cache.tick params history.registers history.cache).state.waiting.isNone then _ else _)
  unfold Cache.tick
  cases stopped : (respondStage params history.registers history.cache).fault with
  | some fault =>
      rw [Outcome.andThen_of_stopped _ stopped]
      exact forall₂_read carries answered
  | none =>
      have second :=
        (checkStage_lookups params (respondStage params history.registers history.cache).state).2
      rw [Outcome.andThen_state_of_running _ stopped,
        Outcome.andThen_state_of_running _ second.running]
      exact forall₂_readStage carries carries.read checked

private theorem Tracks.send
    (carries : Carries params fact history) (tracks : history.Tracks fact) (lookup : Lookup) :
    (history.perform params (.send lookup)).state.Tracks fact := by
  change List.Forall₂ (fact history.changes)
    (Cache.send params lookup history.cache).2.state.stages
    (if (Cache.send params lookup history.cache).1 then _ else _)
  obtain ⟨_, ⟨accepted, free, state⟩ | ⟨refused, _, state⟩⟩ :=
    send_cases params lookup history.cache
  · have after := List.rel_append tracks (.cons (carries.accept lookup) .nil)
    rw [accepted, state]
    simpa [stages, free] using after
  · rw [refused, state]
    exact tracks

private theorem Tracks.pop (tracks : history.Tracks fact) :
    (history.perform params .pop).state.Tracks fact := by
  change List.Forall₂ (fact history.changes) (Cache.pop params history.cache).state.stages
    (if history.cache.answer.isSome then _ else _)
  unfold Tracks at tracks
  cases found : history.cache.answer with
  | none =>
      unfold Cache.pop
      rw [found]
      exact tracks
  | some answer =>
      have before : history.cache.stages = .answer answer ::
          (Cache.pop params history.cache).state.stages := by
        rw [(pop_spec params found).2.1]
        simp [stages, found, withoutAnswer]
      rw [before] at tracks
      cases passages : history.passages with
      | nil =>
          rw [passages] at tracks
          cases tracks
      | cons passage others =>
          rw [passages] at tracks
          cases tracks with
          | cons first rest => exact rest

private theorem Tracks.refill
    (carries : Carries params fact history) (tracks : history.Tracks fact) (refill : Refill) :
    (history.perform params (.refill refill)).state.Tracks fact := by
  unfold Tracks perform
  rw [Outcome.map_state]
  have stages := stages_refill params history.registers refill history.cache
  by_cases taken : history.cache.takes params refill = true
  · have level : refill.level ≤ leafLevel := by
      unfold takes at taken
      simp only [Bool.and_eq_true, decide_eq_true_eq] at taken
      exact taken.2
    rw [if_pos taken] at stages ⊢
    dsimp only
    rw [stages]
    exact List.rel_map (fun stage passage => carries.land refill stage passage level) tracks
  · rw [if_neg taken] at stages ⊢
    dsimp only
    rw [stages]
    exact tracks

/-- A move follows the lookups on their way. -/
theorem Tracks.perform
    (carries : Carries params fact history) (tracks : history.Tracks fact) (move : Move) :
    (history.perform params move).state.Tracks fact := by
  cases move with
  | send lookup => exact tracks.send carries lookup
  | tick => exact tracks.tick carries
  | pop => exact tracks.pop
  | refill refill => exact tracks.refill carries refill
  | fence fence => exact .nil
  | flush => exact .nil
  | install registers => exact tracks
  | corrupt level set way =>
      change List.Forall₂ (fact history.changes)
        (Cache.corrupt params level set way history.cache).state.stages history.passages
      rw [(corrupt_stages params level set way history.cache).stages]
      exact tracks

/-- The answer is that of the oldest lookup. -/
theorem Tracks.answer
    (tracks : history.Tracks fact) {answer : CacheAnswer}
    (found : history.cache.answer = some answer) :
    ∃ passage, history.passages.head? = some passage ∧
      fact history.changes (.answer answer) passage := by
  unfold Tracks at tracks
  have before : ∃ rest, history.cache.stages = .answer answer :: rest := by
    simp [stages, found]
  obtain ⟨rest, same⟩ := before
  rw [same] at tracks
  obtain ⟨passage, others, first, _, passages⟩ := List.forall₂_cons_left_iff.1 tracks
  exact ⟨passage, by rw [passages]; rfl, first⟩

/-- The history of a new cache, in which nothing is on its way. -/
theorem tracks_of_create
    {cache : Cache} (created : Cache.create params = .ok cache) (registers : Registers) :
    Tracks fact ⟨cache, registers, [], []⟩ := by
  have empty : cache.lookups = [] := lookups_of_create created
  have none : cache.stages = [] := by
    simp only [lookups, List.append_eq_nil_iff, Option.toList_eq_nil_iff,
      Option.map_eq_none_iff] at empty
    obtain ⟨⟨⟨answer, checked⟩, reading⟩, waiting⟩ := empty
    simp [stages, answer, checked, reading, waiting]
  unfold Tracks
  rw [none]
  exact .nil

end Moves

end History

end Cache

end PageWalk
