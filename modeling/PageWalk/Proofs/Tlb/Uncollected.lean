import Mathlib.Data.List.Perm.Subperm
import PageWalk.Proofs.Tlb.Runs

/-!
# Responses that were not taken

A flush drops every lookup that the TLB holds, but it leaves the responses that wait to be
taken. These come out first, whatever was invalidated in the meantime. All others answer
lookups that were accepted since the flush: what was still on its way never comes out.
-/

namespace PageWalk

/-! ## What a command takes and appends -/

namespace Tlb

/-- The response that a command takes. -/
def takes (command : Command) (tlb : Tlb) : List Response :=
  match command with
  | .receive => tlb.responses.head?.toList
  | _ => []

private theorem responses_of_install (registers : Registers) (tlb : Tlb) :
    (Tlb.install registers tlb).state.responses = tlb.responses := by
  unfold Tlb.install
  split <;> rfl

/-- A flush leaves the responses as they are. -/
theorem responses_of_flush
    (tlb : Tlb) {command : Command} (flushes : command.flushes = true) :
    (tlb.perform command).state.responses = tlb.responses := by
  cases command with
  | fence fence => rfl
  | install registers => exact responses_of_install registers tlb
  | send _ | receive | write _ _ | corrupt _ _ _ | tick => cases flushes

/-- A response is taken from the front, and new ones are appended. -/
theorem Coherent.responses_of_perform
    {readsBefore : Nat} {tlb : Tlb} (coherent : Coherent readsBefore tlb) (command : Command) :
    tlb.takes command ++ (tlb.perform command).state.responses =
      tlb.responses ++ (tlb.perform command).state.responses.drop tlb.responses.length := by
  have quiet (takes : tlb.takes command = [])
      (same : (tlb.perform command).state.responses = tlb.responses) :
      tlb.takes command ++ (tlb.perform command).state.responses =
        tlb.responses ++ (tlb.perform command).state.responses.drop tlb.responses.length := by
    rw [takes, same, List.drop_length, List.append_nil]
    rfl
  cases command with
  | send request =>
      refine quiet rfl ?_
      change ((tlb.send? request).getD { state := tlb }).state.responses = tlb.responses
      cases sent : tlb.send? request with
      | none => rfl
      | some outcome => exact (coherent.send sent).2.2.1
  | receive =>
      rw [perform_receive]
      change tlb.responses.head?.toList ++ tlb.responses.tail =
        tlb.responses ++ tlb.responses.tail.drop tlb.responses.length
      cases tlb.responses with
      | nil => rfl
      | cons response responses =>
          have shorter : responses.drop (response :: responses).length = [] :=
            List.drop_eq_nil_of_le (Nat.le_succ responses.length)
          rw [List.tail_cons, shorter, List.append_nil]
          rfl
  | fence fence => exact quiet rfl rfl
  | install registers => exact quiet rfl (responses_of_install registers tlb)
  | write address data => exact quiet rfl (coherent.write address data).2.2.1
  | corrupt level set way => exact quiet rfl (coherent.corrupt level set way).2.2.1
  | tick =>
      obtain ⟨answered, responses, _⟩ := coherent.tick.accounts
      change tlb.tick.state.responses =
        tlb.responses ++ tlb.tick.state.responses.drop tlb.responses.length
      rw [responses, List.drop_left]

end Tlb

/-! ## The docket -/

/-- A journal with the responses that waited when the last flush came, and those taken since
then, both oldest first. -/
structure Docket where
  journal : Journal
  waiting : List Response := []
  taken : List Response := []

namespace Docket

def start (tlb : Tlb) : Docket where
  journal := .start tlb
  waiting := tlb.responses

def perform (command : Command) (docket : Docket) : Outcome Docket :=
  (docket.journal.perform command).map fun journal =>
    if command.flushes then
      { journal := journal, waiting := docket.journal.tlb.responses }
    else
      { journal := journal
        waiting := docket.waiting
        taken := docket.taken ++ docket.journal.tlb.takes command }

/-- Performs commands until one of them stops the TLB. -/
def run (commands : List Command) (docket : Docket) : Outcome Docket :=
  Outcome.forEach perform commands docket

/-- The responses that waited when the last flush came, and then the answers given since,
were taken or still wait. -/
structure InOrder (docket : Docket) : Prop where
  balanced : docket.journal.Balanced
  order : ∃ later : List Response,
    docket.taken ++ docket.journal.tlb.responses = docket.waiting ++ later ∧
      later.map (·.request) = docket.journal.answered

theorem InOrder.perform
    {docket : Docket} (inOrder : docket.InOrder) (command : Command) :
    (docket.perform command).state.InOrder := by
  have balanced := inOrder.balanced.perform command
  obtain ⟨later, order, answered⟩ := inOrder.order
  unfold Docket.perform
  rw [Outcome.map_state]
  cases flushes : command.flushes with
  | true =>
      -- The docket starts anew with what waits, and nothing was answered since.
      rw [if_pos rfl]
      refine ⟨balanced, [], ?_, ?_⟩
      · change (docket.journal.advance command _).tlb.responses = _
        rw [Journal.advance_tlb, List.append_nil]
        exact docket.journal.tlb.responses_of_flush flushes
      · change [] = (docket.journal.advance command _).answered
        unfold Journal.advance
        rw [if_pos flushes]
        rfl
  | false =>
      let before := docket.journal.tlb
      let after := (before.perform command).state
      let appended := after.responses.drop before.responses.length
      have reached : (docket.journal.perform command).state.tlb = after :=
        Journal.advance_tlb docket.journal command (before.perform command)
      have moved : before.takes command ++ after.responses = before.responses ++ appended :=
        inOrder.balanced.coherent.responses_of_perform command
      rw [if_neg Bool.false_ne_true]
      refine ⟨balanced, later ++ appended, ?_, ?_⟩
      · calc
          docket.taken ++ before.takes command ++
              (docket.journal.perform command).state.tlb.responses
          _ = docket.taken ++ (before.responses ++ appended) := by
            rw [reached, List.append_assoc, moved]
          _ = docket.waiting ++ (later ++ appended) := by
            rw [← List.append_assoc, order, List.append_assoc]
      · change _ = (docket.journal.advance command _).answered
        unfold Journal.advance
        rw [if_neg (Bool.eq_false_iff.1 flushes), List.map_append, answered]

/-! ## Runs -/

/-- Every response taken since the last flush answers a lookup accepted since then. -/
def Fresh (docket : Docket) : Prop :=
  (docket.taken.map (·.request)).Subperm docket.journal.accepted

/-- Where no lookup was accepted since the last flush, a response taken since is an old one. -/
theorem not_fresh
    {docket : Docket} (accepted : docket.journal.accepted = []) (taken : docket.taken ≠ []) :
    ¬ docket.Fresh := by
  intro fresh
  have fewer := fresh.length_le
  rw [accepted, List.length_map] at fewer
  exact taken (List.eq_nil_of_length_eq_zero (Nat.le_zero.1 fewer))

/-- The response taken right after a flush is one from before it, unless none waited. -/
theorem fresh_iff_of_flush
    (docket : Docket) {command : Command} (flushes : command.flushes = true) :
    ((docket.perform command).state.perform .receive).state.Fresh ↔
      docket.journal.tlb.responses = [] := by
  let flushed := (docket.perform command).state
  have start : flushed.journal = .start (docket.journal.tlb.perform command).state ∧
      flushed.taken = [] := by
    unfold flushed Docket.perform
    rw [Outcome.map_state, if_pos flushes]
    exact ⟨if_pos flushes, rfl⟩
  have accepted : (flushed.perform .receive).state.journal.accepted = [] := by
    change flushed.journal.accepted ++ [] = []
    rw [start.1]
    rfl
  have taken : (flushed.perform .receive).state.taken =
      docket.journal.tlb.responses.head?.toList := by
    change flushed.taken ++ flushed.journal.tlb.responses.head?.toList = _
    rw [start.1, start.2, List.nil_append]
    change (docket.journal.tlb.perform command).state.responses.head?.toList = _
    rw [docket.journal.tlb.responses_of_flush flushes]
  cases waiting : docket.journal.tlb.responses with
  | nil =>
      refine ⟨fun _ => rfl, fun _ => ?_⟩
      unfold Fresh
      rw [taken, waiting]
      exact List.nil_subperm
  | cons response responses =>
      refine ⟨fun fresh => absurd fresh (not_fresh accepted ?_), nofun⟩
      rw [taken, waiting]
      nofun

/-- Which responses come out after a flush. -/
structure LeftoversFirst (docket : Docket) : Prop where
  /-- Those that waited when it came, come first. All others, taken or not, answer lookups
  accepted since: each of these is answered once, was dropped as a prefetch, or is still
  held. -/
  order : ∃ later : List Response,
    docket.taken ++ docket.journal.tlb.responses = docket.waiting ++ later ∧
      docket.journal.accepted.Perm
        (later.map (·.request) ++ docket.journal.discarded ++ docket.journal.tlb.held)
  /-- Where nothing waited, nothing comes out of a lookup from before the flush. -/
  fresh : docket.waiting = [] → docket.Fresh

/-- At every point of a run the responses that waited when the last flush came, come first,
and all later ones are those of lookups accepted since. -/
theorem responses_of_run
    {params : Params} {protection : Protection} {memory : Memory} {tlb : Tlb}
    (created : Tlb.create params protection memory = .ok tlb)
    (unread : memory.pending = []) (commands : List Command) :
    LeftoversFirst ((start tlb).run commands).state := by
  have first : InOrder (start tlb) :=
    ⟨Journal.balanced_of_create created unread, [], (List.append_nil _).symm, rfl⟩
  have last : ((start tlb).run commands).state.InOrder :=
    Outcome.forEach_state_induction (fun command _ _ before => before.perform command) first
  generalize ((start tlb).run commands).state = docket at last ⊢
  obtain ⟨later, order, answered⟩ := last.order
  have accounts := last.balanced.accounts
  rw [← answered] at accounts
  refine ⟨⟨later, order, accounts⟩, fun none => ?_⟩
  rw [none, List.nil_append] at order
  have taken : (docket.taken.map (·.request)).Sublist (later.map (·.request)) := by
    rw [← order]
    exact (List.sublist_append_left _ _).map _
  have among : (later.map (·.request)).Subperm docket.journal.accepted := by
    rw [accounts.subperm_left, List.append_assoc]
    exact (List.sublist_append_left _ _).subperm
  exact taken.subperm.trans among

/-- The page of a lookup is mapped anew and fenced while its response waits. The first
response taken after that still has the old page, and the second one, of a lookup accepted
after the fence, has the new page. -/
theorem responses_of_small_run :
    let memory : Memory :=
      [(0x1000, 0x801), (0x2000, 0xc01), (0x3028, 0x20000cf)].foldl
        (fun memory (address, word) => memory.setWord address word) {}
    let lookup : List Command := .send { vpn := 5 } :: List.replicate 34 .tick
    let commands : List Command :=
      [.install { satp := { ppn := 1, changed := true } }] ++ lookup ++
        [.write 0x3028 0x24000cf, .fence {}] ++ lookup ++ [.receive, .receive]
    ∃ tlb, Tlb.create .small .allowAll memory = .ok tlb ∧
      let docket := ((start tlb).run commands).state
      docket.taken.map (fun response => response.stageOne.translate response.request.vpn) =
          [0x8000, 0x9000] ∧
        docket.LeftoversFirst := by
  intro memory lookup commands
  have created : Tlb.create .small .allowAll memory = .ok _ := rfl
  exact ⟨_, created, by decide +kernel, responses_of_run created rfl commands⟩

/-- A response that waits when a fence comes is taken after it, although no lookup was
accepted since: its page is no longer the one that the memory maps. -/
theorem notFresh_of_small_run :
    let memory : Memory :=
      [(0x1000, 0x801), (0x2000, 0xc01), (0x3028, 0x20000cf)].foldl
        (fun memory (address, word) => memory.setWord address word) {}
    let commands : List Command :=
      [.install { satp := { ppn := 1, changed := true } }, .send { vpn := 5 }] ++
        List.replicate 34 .tick ++ [.write 0x3028 0x24000cf, .fence {}, .receive]
    ∃ tlb, Tlb.create .small .allowAll memory = .ok tlb ∧
      let docket := ((start tlb).run commands).state
      docket.taken.map (fun response =>
          (response.request.vpn, response.stageOne.translate response.request.vpn)) =
          [(5, 0x8000)] ∧
        docket.journal.accepted = [] ∧ ¬ docket.Fresh := by
  intro memory commands
  have created : Tlb.create .small .allowAll memory = .ok _ := rfl
  exact ⟨_, created, by decide +kernel, by decide +kernel,
    not_fresh (by decide +kernel) (by decide +kernel)⟩

end Docket

end PageWalk
