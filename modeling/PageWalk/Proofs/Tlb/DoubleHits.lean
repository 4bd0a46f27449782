import PageWalk.Proofs.Tlb.Translations

/-!
# Sectors and superpages

A sector and a superpage of one page number would say that its walk ends at two levels.
As long as the memory and the registers stay as they are, the cache never holds both,
whichever addresses are protected, so no lookup stops the TLB by hitting twice.
-/

namespace PageWalk

namespace Cache

variable {setting : Setting} {params : Params} {registers : Registers} {cache : Cache}

/-- No request finds a sector and a superpage in the storages, and no lookup on its way
has found both. -/
structure HitsOnce (params : Params) (registers : Registers) (cache : Cache) : Prop where
  stored : ∀ request, cache.findSector params registers request = none ∨
    cache.findSuperpage registers request = none
  reading : ∀ read, cache.reading = some read → read.sector = none ∨ read.superpage = none
  checked : ∀ checked, cache.checked = some checked →
    checked.sector = none ∨ checked.superpage = none
  answer : ∀ answer, cache.answer = some answer →
    answer.sectorHit = false ∨ answer.superpageHit = false

/-- A cache whose lines are true never hits twice. -/
theorem Stocked.hitsOnce (stocked : cache.Stocked setting.facts) :
    cache.HitsOnce params registers := by
  refine ⟨fun request => ?_, fun read found => ?_, fun checked found => ?_,
    fun answer found => ?_⟩
  · have backed := stocked.shelved.read params registers { lookup := { request := request } }
    simpa using (backed.imp (setting.facts.serving_implies _ _)).sector_or_superpage
  · simpa using (stocked.piped.reading read found).sector_or_superpage
  · exact (stocked.piped.checked checked found).sector_or_superpage
  · obtain ⟨checked, backed, registers, bypassed, same⟩ := stocked.piped.answer answer found
    rw [same]
    refine backed.sector_or_superpage.imp (fun missed => ?_) fun missed => ?_
    all_goals
      unfold answerOf
      dsimp only
      rw [missed]
      rfl

/-- A cache that never hits twice does not stop. -/
theorem HitsOnce.tick_running (once : cache.HitsOnce params registers) :
    (tick params registers cache).fault = none := by
  have answered : (respondStage params registers cache).fault = none := by
    unfold respondStage
    split
    · rename_i checked _ found
      unfold respond
      rw [if_neg ?_]
      rcases once.checked checked found with missed | missed <;> simp [missed]
    · rfl
  have second := (checkStage_lookups params (respondStage params registers cache).state).2
  unfold tick
  rw [Outcome.andThen_fault_of_running _ answered,
    Outcome.andThen_fault_of_running _ second.running]

end Cache

namespace Tlb

variable {readsBefore : Nat} {setting : Setting} {clear : Prop} {tlb : Tlb} {name : String}
  {request : Request}

/-- No phase stops a sound state for a lookup that hits twice. -/
theorem Sound.phase_fault
    {phase : Tlb → Outcome Tlb} (member : phase ∈ phases) (sound : Sound setting clear tlb)
    (coherent : Coherent readsBefore tlb) :
    (phase tlb).fault ≠ some (.misuse name (.doubleHit request)) := by
  obtain ⟨ticket, tracked⟩ := coherent.pages
  have running {outcome : Outcome Tlb} (none : outcome.fault = none) :
      outcome.fault ≠ some (.misuse name (.doubleHit request)) :=
    Outcome.fault_ne_of_running none _
  simp only [phases, List.mem_cons, List.not_mem_nil, or_false] at member
  rcases member with rfl | rfl | rfl | rfl | rfl | rfl | rfl | rfl | rfl | rfl | rfl | rfl
  · cases receiveBlock_cases coherent.reads tracked.upper tracked.stageTwo with
    | nothing _ _ uneventful => exact running uneventful.running
    | overflow _ _ _ _ _ fault _ =>
        rw [fault]
        intro same
        cases same
    | stale _ _ _ _ _ _ _ uneventful => exact running uneventful.running
    | live _ _ _ _ _ _ _ uneventful => exact running uneventful.running
  · exact running (routeReply_cases tracked).2.running
  · exact running (dispatch_cases tlb).2
  · exact running (routeAnswer_cases tracked coherent.queues).2
  · exact running (collectUpper_cases tlb).2.running
  · exact running (collectLeaf_cases tlb).2.running
  · exact running (tickWalkers_spec tlb).2.running
  · exact running (sendRead_cases tlb).2.running
  · exact running (startGuestPage_cases tlb).2.running
  · exact running (feedCache_cases tlb).2.running
  · exact running sound.cache.hitsOnce.tick_running
  · exact running rfl

/-- A step does not stop a sound state for a lookup that hits twice. -/
theorem Sound.tick_fault (sound : Sound setting clear tlb) (coherent : Coherent readsBefore tlb) :
    tlb.tick.fault ≠ some (.misuse name (.doubleHit request)) := by
  have each (phase : Tlb → Outcome Tlb) (member : phase ∈ phases) (current : Tlb)
      (before : Coherent readsBefore current ∧ Sound setting clear current) :
      (phase current).fault ≠ some (.misuse name (.doubleHit request)) :=
    before.2.phase_fault member before.1
  exact Outcome.forEach_fault_ne each phase_coherent_and_sound ⟨coherent, sound⟩

end Tlb

end PageWalk
