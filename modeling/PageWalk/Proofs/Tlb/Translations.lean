import PageWalk.Proofs.Tlb.Runs
import PageWalk.Proofs.Tlb.Sound

/-!
# Translations of a run

As long as the memory and the registers stay as they are, every response of a TLB shows
the plain walk of its lookup, whichever unit has made it and whatever else was going on.
-/

namespace PageWalk

/-- Whether a command leaves the memory and the registers as they are. -/
def Command.keeps (registers : Registers) : Command → Bool
  | .install others => others.settled == registers.settled
  | .write _ _ | .corrupt _ _ _ => false
  | .send _ | .receive | .fence _ | .tick => true

namespace Tlb

variable {readsBefore : Nat} {setting : Setting} {clear : Prop} {tlb : Tlb}

/-! ## Commands -/

/-- A flush, whatever true lines it leaves in the cache, makes a sound state. -/
private theorem Sound.flush
    (sound : Sound setting clear tlb) {cache : Cache} (stocked : cache.Stocked setting.facts) :
    Sound setting clear (Tlb.flush { tlb with cache := cache }) := by
  have idle (index : Nat) : tlb.leaf.flush.entry index = {} :=
    LeafWalker.entry_flush tlb.leaf index
  exact
    { follows := { sound.follows with }
      cache := stocked.flush
      probes := fun _ member => (by cases member)
      pages := fun _ member => (by cases member)
      upper := trivial
      leaf := LeafWalker.onTrack_of_idle idle
      stageTwo := trivial
      reads := fun id _ _ => .of_quiet rfl rfl (LeafWalker.awaitsBlock_of_idle idle id)
      answers := sound.answers }

private theorem Sound.send
    (sound : Sound setting clear tlb) (request : Request) :
    Sound setting clear ((tlb.send? request).getD { state := tlb }).state := by
  unfold send?
  split
  · cases tlb.inputs.send? request with
    | none => exact sound
    | some inputs => exact sound.withQueues
  · exact sound

private theorem Sound.receive (sound : Sound setting clear tlb) :
    Sound setting clear ((tlb.receive?.map (·.2)).getD tlb) := by
  unfold receive?
  split
  · exact sound
  · rename_i response responses found
    refine sound.withResponses fun unprotected other member => ?_
    exact sound.answers unprotected other
      (by rw [found]; exact List.mem_cons_of_mem response member)

/-- Whether or not a register has changed, the state is as sound as it is with the new
registers. -/
private theorem Sound.install
    {registers : Registers}
    (sound : Sound setting clear { tlb with registers := registers.settled }) :
    Sound setting clear (Tlb.install registers tlb).state := by
  unfold Tlb.install
  dsimp only
  split
  · exact sound.flush sound.cache
  · exact sound

/-- A command that keeps the memory and the registers keeps the state sound. -/
theorem Sound.perform
    (sound : Sound setting clear tlb) (coherent : Coherent readsBefore tlb)
    {registers : Registers} (same : registers.settled = setting.registers) {command : Command}
    (keeps : command.keeps registers = true) : Sound setting clear (tlb.perform command).state := by
  cases command with
  | send request => exact sound.send request
  | receive => exact sound.receive
  | fence fence => exact sound.flush (sound.cache.fence tlb.params tlb.registers fence)
  | install others =>
      have alike : others.settled = tlb.registers :=
        (eq_of_beq keeps).trans (same.trans sound.follows.registers.symm)
      have installed : Sound setting clear { tlb with registers := others.settled } := by
        rw [alike]
        exact sound
      exact installed.install
  | write address data => cases keeps
  | corrupt level set way => cases keeps
  | tick => exact sound.tick coherent

/-! ## Runs -/

/-- A coherent state that says only what is true of the setting. -/
structure Steady (setting : Setting) (clear : Prop) (tlb : Tlb) : Prop where
  coherent : ∃ readsBefore, Coherent readsBefore tlb
  sound : Sound setting clear tlb

theorem Steady.perform
    (steady : Steady setting clear tlb) {registers : Registers}
    (same : registers.settled = setting.registers) {command : Command}
    (keeps : command.keeps registers = true) :
    Steady setting clear (tlb.perform command).state := by
  obtain ⟨readsBefore, coherent⟩ := steady.coherent
  exact ⟨coherent.perform command, steady.sound.perform coherent same keeps⟩

/-- A run that keeps the memory and the registers stays steady. -/
theorem Steady.run
    (steady : Steady setting clear tlb) {registers : Registers}
    (same : registers.settled = setting.registers) {commands : List Command}
    (keeps : ∀ command ∈ commands, command.keeps registers = true) :
    Steady setting clear (Outcome.forEach Tlb.perform commands tlb).state :=
  Outcome.forEach_state_induction
    (fun command member _ before => before.perform same (keeps command member)) steady

end Tlb

end PageWalk
