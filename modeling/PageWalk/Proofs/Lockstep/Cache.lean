import PageWalk.Cache.Invalidate
import PageWalk.Cache.Pipeline
import PageWalk.Cache.Refill
import PageWalk.Proofs.Lockstep.Walkers

/-!
# Caches in lockstep

Two caches with the same storages and the same lookups on their way do the same,
whatever they have counted. A flush in the current step matters to refills alone.
-/

namespace PageWalk.Cache

open Outcome (Matched)

/-- Two caches have the same lines, the same replacement state and the same lookups on
their way. -/
def Twins (cache other : Cache) : Prop :=
  ∃ cycle flushed counters,
    other = { cache with cycle := cycle, flushed := flushed, counters := counters }

variable {cache other : Cache}

theorem Twins.ready (twins : Twins cache other) (params : Params) :
    other.ready params = cache.ready params := by
  obtain ⟨_, _, _, rfl⟩ := twins
  rfl

theorem Twins.answer (twins : Twins cache other) : other.answer = cache.answer := by
  obtain ⟨_, _, _, rfl⟩ := twins
  rfl

theorem Twins.send (twins : Twins cache other) (params : Params) (lookup : Lookup) :
    (send params lookup other).1 = (send params lookup cache).1 ∧
      Matched Twins (send params lookup cache).2 (send params lookup other).2 := by
  have ready := twins.ready params
  obtain ⟨_, _, _, rfl⟩ := twins
  unfold Cache.send
  rw [ready]
  dsimp only
  split
  · exact ⟨rfl, ⟨_, _, _, rfl⟩, rfl⟩
  · split
    · exact ⟨rfl, ⟨_, _, _, rfl⟩, rfl⟩
    · exact ⟨rfl, ⟨_, _, _, rfl⟩, rfl⟩

theorem Twins.pop (twins : Twins cache other) (params : Params) :
    Matched Twins (pop params cache) (pop params other) := by
  unfold Cache.pop
  rw [twins.answer]
  obtain ⟨_, _, _, rfl⟩ := twins
  split
  · exact ⟨⟨_, _, _, rfl⟩, rfl⟩
  · exact ⟨⟨_, _, _, rfl⟩, rfl⟩

/-! ## Refills -/

private theorem Twins.store
    (twins : Twins cache other) (params : Params) (registers : Registers) (refill : Refill) :
    Matched Twins (store params registers refill cache)
      (store params registers refill other) := by
  obtain ⟨_, _, _, rfl⟩ := twins
  unfold Cache.store
  split
  · split
    · exact ⟨⟨_, _, _, rfl⟩, rfl⟩
    · split
      · exact ⟨⟨_, _, _, rfl⟩, rfl⟩
      · exact ⟨⟨_, _, _, rfl⟩, rfl⟩
  · split
    · exact ⟨⟨_, _, _, rfl⟩, rfl⟩
    · exact ⟨⟨_, _, _, rfl⟩, rfl⟩

theorem Twins.refill
    (twins : Twins cache other) (flushed : other.flushed = cache.flushed) (params : Params)
    (registers : Registers) (refill : Refill) :
    Matched Twins (Cache.refill params registers refill cache)
      (Cache.refill params registers refill other) := by
  obtain ⟨_, stage, _, rfl⟩ := twins
  have same : stage = cache.flushed := flushed
  subst same
  unfold Cache.refill
  dsimp only
  split
  · exact ⟨⟨_, _, _, rfl⟩, rfl⟩
  · split
    · exact ⟨⟨_, _, _, rfl⟩, rfl⟩
    · refine Matched.andThen (Twins.store ⟨_, _, _, rfl⟩ params registers refill) ?_
      rintro state _ ⟨_, _, _, rfl⟩
      exact ⟨⟨_, _, _, rfl⟩, rfl⟩

/-! ## Steps -/

private theorem Twins.respondStage
    (twins : Twins cache other) (params : Params) (registers : Registers) :
    Matched Twins (cache.respondStage params registers)
      (other.respondStage params registers) := by
  obtain ⟨_, _, _, rfl⟩ := twins
  unfold Cache.respondStage
  dsimp only
  split
  · unfold respond
    split
    · exact ⟨⟨_, _, _, rfl⟩, rfl⟩
    · exact ⟨⟨_, _, _, rfl⟩, rfl⟩
  · exact ⟨⟨_, _, _, rfl⟩, rfl⟩

/-- What two checks of a coded storage found, and what they left. -/
private structure CodeCheck.Twins {Line : Type} (code other : CodeCheck Line) : Prop where
  line : other.line = code.line
  corrupted : other.corrupted = code.corrupted
  states : Cache.Twins code.outcome.state other.outcome.state

private theorem Twins.checkMiddle
    (twins : Twins cache other) (params : Params) (request : Request)
    (hit : Option (Hit PointerLine)) :
    CodeCheck.Twins (checkMiddle params request hit cache)
      (checkMiddle params request hit other) := by
  obtain ⟨_, _, _, rfl⟩ := twins
  cases hit with
  | none => exact ⟨rfl, rfl, _, _, _, rfl⟩
  | some hit =>
      unfold Cache.checkMiddle
      dsimp only
      split
      · exact ⟨rfl, rfl, _, _, _, rfl⟩
      · exact ⟨rfl, rfl, _, _, _, rfl⟩

private theorem Twins.checkSector
    (twins : Twins cache other) (params : Params) (request : Request)
    (hit : Option (Hit SectorLine)) :
    CodeCheck.Twins (checkSector params request hit cache)
      (checkSector params request hit other) := by
  obtain ⟨_, _, _, rfl⟩ := twins
  cases hit with
  | none => exact ⟨rfl, rfl, _, _, _, rfl⟩
  | some hit =>
      unfold Cache.checkSector
      dsimp only
      split
      · exact ⟨rfl, rfl, _, _, _, rfl⟩
      · exact ⟨rfl, rfl, _, _, _, rfl⟩

private theorem Twins.touchRoot
    (twins : Twins cache other) (hit : Option (Hit PointerLine)) :
    Twins (touchRoot hit cache) (touchRoot hit other) := by
  obtain ⟨_, _, _, rfl⟩ := twins
  cases hit with
  | none => exact ⟨_, _, _, rfl⟩
  | some hit => exact ⟨_, _, _, rfl⟩

private theorem Twins.touchSuperpage
    (twins : Twins cache other) (hit : Option (Hit SuperpageLine)) :
    Twins (touchSuperpage hit cache) (touchSuperpage hit other) := by
  obtain ⟨_, _, _, rfl⟩ := twins
  cases hit with
  | none => exact ⟨_, _, _, rfl⟩
  | some hit => exact ⟨_, _, _, rfl⟩

private theorem Twins.check
    (twins : Twins cache other) (params : Params) (read : ReadLookup) :
    Matched Twins (check params read cache) (check params read other) := by
  have middle :=
    (twins.touchRoot read.root).checkMiddle params read.lookup.request read.middle
  have sector := middle.states.checkSector params read.lookup.request read.sector
  obtain ⟨_, _, _, same⟩ := sector.states.touchSuperpage read.superpage
  unfold Cache.check
  dsimp only
  rw [same, middle.line, middle.corrupted, sector.line, sector.corrupted]
  exact ⟨⟨_, _, _, rfl⟩, rfl⟩

private theorem Twins.checkStage (twins : Twins cache other) (params : Params) :
    Matched Twins (cache.checkStage params) (other.checkStage params) := by
  obtain ⟨_, _, _, rfl⟩ := twins
  unfold Cache.checkStage
  dsimp only
  split
  · exact Twins.check ⟨_, _, _, rfl⟩ params _
  · exact ⟨⟨_, _, _, rfl⟩, rfl⟩

private theorem Twins.readStage
    (twins : Twins cache other) (params : Params) (registers : Registers) :
    Twins (cache.readStage params registers).endStep
      (other.readStage params registers).endStep := by
  obtain ⟨_, _, _, rfl⟩ := twins
  unfold Cache.readStage
  dsimp only
  split
  · exact ⟨_, _, _, rfl⟩
  · exact ⟨_, _, _, rfl⟩

theorem Twins.tick (twins : Twins cache other) (params : Params) (registers : Registers) :
    Matched Twins (tick params registers cache) (tick params registers other) := by
  refine (twins.respondStage params registers).andThen fun _ _ responded => ?_
  refine (responded.checkStage params).andThen fun _ _ checked => ?_
  exact ⟨checked.readStage params registers, rfl⟩

/-! ## Invalidation -/

theorem Twins.flush (twins : Twins cache other) : Twins cache.flush other.flush := by
  obtain ⟨_, _, _, rfl⟩ := twins
  exact ⟨_, _, _, rfl⟩

theorem Twins.fence
    (twins : Twins cache other) (params : Params) (registers : Registers) (fence : Fence) :
    Matched Twins (Cache.fence params registers fence cache)
      (Cache.fence params registers fence other) := by
  obtain ⟨_, _, _, rfl⟩ := twins
  exact ⟨⟨_, _, _, rfl⟩, rfl⟩

theorem Twins.corrupt
    (twins : Twins cache other) (params : Params) (level : Nat) (set way : UInt32) :
    Matched Twins (Cache.corrupt params level set way cache)
      (Cache.corrupt params level set way other) := by
  obtain ⟨_, _, _, rfl⟩ := twins
  unfold Cache.corrupt
  split
  · split
    · exact ⟨⟨_, _, _, rfl⟩, rfl⟩
    · exact ⟨⟨_, _, _, rfl⟩, rfl⟩
  · split
    · split
      · exact ⟨⟨_, _, _, rfl⟩, rfl⟩
      · exact ⟨⟨_, _, _, rfl⟩, rfl⟩
    · exact ⟨⟨_, _, _, rfl⟩, rfl⟩

end PageWalk.Cache
