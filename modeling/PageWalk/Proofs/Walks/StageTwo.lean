import PageWalk.Proofs.Cache.Facts
import PageWalk.Proofs.StageTwoWalker

/-!
# Second-stage walks on track

Under one setting the second-stage walker is always where the plain walk of its guest page
comes along, and what it reads brings true lines. Its reply equals that walk, unless a
protected address has stopped it. Whether no address is protected, is left open: what this
would decide is stated under the assumption `clear`.
-/

namespace PageWalk

/-- The walk is where the plain walk of its guest page comes along. -/
def GuestWalk.OnTrack (setting : Setting) (walk : GuestWalk) : Prop :=
  setting.guestTree.tableAt? walk.request.gvpn walk.level = some walk.table

/-- A result equals the walk of its guest page, unless it is the fault of an address that
may be protected. -/
def StageTwoResult.Trusted
    (setting : Setting) (clear : Prop) (result : StageTwoResult) (gvpn : Word) : Prop :=
  clear ∨ result.fault = false → result.Equals (setting.guestWalk gvpn)

def StageTwoState.OnTrack (setting : Setting) (clear : Prop) : StageTwoState → Prop
  | .idle => True
  | .addressCheck walk => walk.OnTrack setting
  | .memoryRequest walk address | .memoryWait walk address =>
      walk.OnTrack setting ∧ address = walk.address
  | .respond reply => reply.result.Trusted setting clear reply.result.tag

/-- Where the request says that its walk can resume, it has come. -/
def StageTwoRequest.Hinted (setting : Setting) (request : StageTwoRequest) : Prop :=
  setting.Hints .stageTwo request.gvpn ⟨request.rootHit, request.middleHit, request.ppn⟩

/-- The page of a table is itself. -/
private theorem pteAt_of_onTrack
    {setting : Setting} {walk : GuestWalk} (track : walk.OnTrack setting) :
    setting.guestTree.pteAt? walk.request.gvpn walk.level =
      some (setting.guestTree.entry walk.table walk.request.gvpn walk.level) :=
  TableTree.pteAt_of_tableAt track rfl

namespace StageTwoWalker

variable {setting : Setting} {clear : Prop} {walker : StageTwoWalker}

private theorem isWide_eq (setting : Setting) (walk : GuestWalk) :
    walk.isWide = !setting.guestTree.covers walk.request.gvpn := by
  unfold GuestWalk.isWide TableTree.covers
  have guest : setting.guestTree.guest = true := rfl
  rw [guest]
  rfl

private theorem start_onTrack
    {request : StageTwoRequest} (hinted : request.Hinted setting)
    (covered : setting.guestTree.covers request.gvpn = true) :
    (GuestWalk.start setting.registers request).OnTrack setting := by
  unfold GuestWalk.start
  split
  · rename_i middle
    exact hinted.middle middle
  · rename_i middle
    split
    · rename_i root
      exact hinted.root (Bool.eq_false_iff.2 middle) root
    · exact TableTree.tableAt_zero covered

/-- A guest page that is too wide has no hints, so its walk starts at the root. -/
private theorem start_of_wide
    {request : StageTwoRequest} (hinted : request.Hinted setting)
    (wide : setting.guestTree.covers request.gvpn = false) :
    (GuestWalk.start setting.registers request).level = 0 := by
  unfold GuestWalk.start
  split
  · rename_i middle
    have covered := TableTree.covers_of_tableAt (hinted.middle middle)
    rw [setting.tree_stageTwo, wide] at covered
    cases covered
  · rename_i middle
    split
    · rename_i root
      have covered :=
        TableTree.covers_of_tableAt (hinted.root (Bool.eq_false_iff.2 middle) root)
      rw [setting.tree_stageTwo, wide] at covered
      cases covered
    · rfl

theorem accept_onTrack
    (params : Params) {request : StageTwoRequest} (hinted : request.Hinted setting)
    (ready : walker.ready = true) :
    (accept params setting.registers request walker).state.state.OnTrack setting clear := by
  have same := start_request setting.registers request
  have width := isWide_eq setting (GuestWalk.start setting.registers request)
  rw [same] at width
  obtain ⟨_, ⟨wide, state⟩ | ⟨covered, state⟩⟩ :=
    accept_cases params setting.registers request ready
  · rw [state]
    rw [wide] at width
    have out : setting.guestTree.covers request.gvpn = false := by simpa using width.symm
    have level := start_of_wide hinted out
    unfold StageTwoState.OnTrack GuestWalk.reply
    rw [same, level]
    have walked : setting.guestTree.walk request.gvpn =
        ⟨.pageFault, 0, setting.guestTree.root, {}⟩ := TableTree.walk_of_wide out
    have tag :
        (StageTwoResult.ofPte request.gvpn {} 0 true false setting.registers.vmid).tag =
          request.gvpn := rfl
    dsimp only
    rw [tag]
    intro _
    unfold Setting.guestWalk
    rw [walked]
    exact ⟨rfl, rfl, rfl, rfl, rfl, rfl⟩
  · rw [state]
    rw [covered] at width
    have inside : setting.guestTree.covers request.gvpn = true := by simpa using width.symm
    exact start_onTrack hinted inside

/-- The walk reads the entry of its guest page. -/
private theorem entryAt_read
    {walk : GuestWalk} {address : Word} {memory : Memory}
    (words : setting.word = memory.readWord) (here : address = walk.address) :
    (⟨entryAt (memory.readBlock address) address⟩ : Pte) =
      setting.guestTree.entry walk.table walk.request.gvpn walk.level := by
  rw [here]
  unfold GuestWalk.address TableTree.entry
  rw [entryAt_readBlock]
  have guest : setting.guestTree.guest = true := rfl
  have word : setting.guestTree.word = setting.word := rfl
  rw [guest, word, words]

theorem takeBlock_onTrack
    {params : Params} (bits : params.addressBits = setting.addressBits) {memory : Memory}
    (words : setting.word = memory.readWord) {walk : GuestWalk} {address : Word}
    (waits : walker.state = .memoryWait walk address) (bounded : walker.Bounded)
    (track : walker.state.OnTrack setting clear) :
    (takeBlock params setting.registers (memory.readBlock address)
      walker).state.state.OnTrack setting clear := by
  have bound : walk.level ≤ leafLevel := bounded walk (by rw [waits]; rfl)
  rw [waits] at track
  obtain ⟨track, here⟩ := track
  have found := pteAt_of_onTrack track
  have read := entryAt_read words here
  obtain ⟨followed, _⟩ :=
    takeBlock_cases params setting.registers (memory.readBlock address) waits
  rw [read] at followed
  generalize setting.guestTree.entry walk.table walk.request.gvpn walk.level = pte
    at found followed
  have beyond : setting.guestTree.outside pte = pte.beyond params.addressBits := by
    rw [bits]
    rfl
  generalize (takeBlock params setting.registers (memory.readBlock address)
    walker).state.state = after at followed
  cases followed with
  | accessFault outside =>
      exact fun _ => StageTwoResult.equals_of_pte bound found
        (TableTree.ending_of_outside (beyond.trans outside)) _
  | pageFault inside fault =>
      exact fun _ => StageTwoResult.equals_of_pte bound found
        (TableTree.ending_of_pageFault (beyond.trans inside) fault) _
  | leaf inside sound leaf =>
      exact fun _ => StageTwoResult.equals_of_pte bound found
        (TableTree.ending_of_leaf (beyond.trans inside) sound leaf) _
  | descend inside sound pointer =>
      exact TableTree.tableAt_succ found
        (TableTree.ending_eq_none_iff.2 ⟨beyond.trans inside, sound, pointer⟩)

/-- What the walk reads brings true lines. -/
theorem refill_brings
    {params : Params} (bits : params.addressBits = setting.addressBits) {memory : Memory}
    (words : setting.word = memory.readWord) {walk : GuestWalk} {address : Word}
    (waits : walker.state = .memoryWait walk address) (bounded : walker.Bounded)
    (track : walker.state.OnTrack setting clear) :
    (walk.refill address (memory.readBlock address)).Brings setting.facts params
      setting.registers := by
  have bound : walk.level ≤ leafLevel := bounded walk (by rw [waits]; rfl)
  rw [waits] at track
  obtain ⟨track, here⟩ := track
  have found := pteAt_of_onTrack track
  refine Setting.brings bits ?_ bound ?_ _
  · unfold GuestWalk.refill
    rw [entryAt_read words here]
    exact found
  · intro leaf
    have level : walk.level = leafLevel := leaf
    have reached : (setting.tree .stageTwo).tableAt? walk.request.gvpn leafLevel =
        some walk.table := by
      rw [← level]
      exact track
    have held := Setting.holds_of_read words reached rfl
    unfold GuestWalk.address at here
    rw [level, tableIndex_leafLevel] at here
    rw [here]
    exact held

theorem tick_onTrack
    (params : Params) {protection : Protection}
    (allows : clear → ∀ address, (protection address).accessFault = false)
    (track : walker.state.OnTrack setting clear) :
    (tick params setting.registers protection walker).state.state.OnTrack setting clear := by
  refine (tick_cases params setting.registers protection walker).1.keeps
    (fun walk fault _ => ?_) (fun _ _ track => ⟨track, rfl⟩) track
  rintro (unprotected | sound)
  · rw [allows unprotected] at fault
    cases fault
  · cases sound

theorem fireMemory_onTrack
    (params : Params) {request : MemoryRequest}
    (wanted : walker.memoryRequest? params = some request)
    (track : walker.state.OnTrack setting clear) :
    (fireMemory params walker).state.state.OnTrack setting clear := by
  obtain ⟨walk, state, _, next, _⟩ := fireMemory_spec params wanted
  rw [state] at track
  rw [next]
  exact track

end StageTwoWalker

end PageWalk
