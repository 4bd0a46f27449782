import PageWalk.Proofs.StageTwoWalker
import PageWalk.Proofs.UpperWalker
import PageWalk.Proofs.Watchdog

/-!
# Timeouts

What the watchdog of a walker has counted and reported at any point of its service, in
whatever order the walker is called. The count starts over with a flush and with a step that
finds no walk, but not with a new walk: one that is accepted before the next step goes on
from the count of the walk before it. Its report comes early by the steps that it has
inherited, or not at all.
-/

namespace PageWalk

/-! ## Calls and reports -/

/-- The reports that an operation has made. -/
def Outcome.reports {State : Type} (outcome : Outcome State) : List Word :=
  outcome.notes.filterMap Note.overdueSteps?

theorem Outcome.andThen_reports_of_running
    {State : Type} {outcome : Outcome State} (next : State → Outcome State)
    (running : outcome.fault = none) :
    (outcome.andThen next).reports = outcome.reports ++ (next outcome.state).reports := by
  rw [andThen_of_running next running]
  exact List.filterMap_append

/-- The parts of a walker that its watchdog has to do with. -/
structure WatchedParts (Walker : Type) where
  isIdle : Walker → Bool
  watchdog : Walker → Watchdog
  timeouts : Walker → Nat

namespace WatchedParts

variable {Walker : Type} (parts : WatchedParts Walker)

/-- The operation leaves the count alone and reports nothing. -/
structure Quiet (walker : Walker) (outcome : Outcome Walker) : Prop where
  watchdog : parts.watchdog outcome.state = parts.watchdog walker
  timeouts : parts.timeouts outcome.state = parts.timeouts walker
  reports : outcome.reports = []

/-- The operation is one step of the watchdog, which counts if it finds a walk. -/
structure Counts (threshold : Word) (walker : Walker) (outcome : Outcome Walker) : Prop where
  watchdog : parts.watchdog outcome.state =
    (parts.watchdog walker).tick threshold (!parts.isIdle walker)
  reports : outcome.reports =
    if (parts.watchdog walker).fires threshold (!parts.isIdle walker) then
      [(parts.watchdog outcome.state).busySteps]
    else
      []
  timeouts : parts.timeouts outcome.state = parts.timeouts walker + outcome.reports.length

variable {parts} {threshold : Word} {walker : Walker} {outcome : Outcome Walker}
  {next : Walker → Outcome Walker}

theorem Quiet.andThen_counts
    (quiet : parts.Quiet walker outcome) (running : outcome.fault = none)
    (idle : parts.isIdle outcome.state = parts.isIdle walker)
    (counts : parts.Counts threshold outcome.state (next outcome.state)) :
    parts.Counts threshold walker (outcome.andThen next) where
  watchdog := by
    rw [Outcome.andThen_state_of_running _ running, counts.watchdog, quiet.watchdog, idle]
  reports := by
    rw [Outcome.andThen_reports_of_running _ running,
      Outcome.andThen_state_of_running _ running, quiet.reports, List.nil_append,
      counts.reports, quiet.watchdog, idle]
  timeouts := by
    rw [Outcome.andThen_reports_of_running _ running,
      Outcome.andThen_state_of_running _ running, quiet.reports, List.nil_append,
      counts.timeouts, quiet.timeouts]

theorem Counts.andThen_quiet
    (counts : parts.Counts threshold walker outcome) (running : outcome.fault = none)
    (quiet : parts.Quiet outcome.state (next outcome.state)) :
    parts.Counts threshold walker (outcome.andThen next) where
  watchdog := by
    rw [Outcome.andThen_state_of_running _ running, quiet.watchdog, counts.watchdog]
  reports := by
    rw [Outcome.andThen_reports_of_running _ running,
      Outcome.andThen_state_of_running _ running, quiet.reports, List.append_nil,
      quiet.watchdog, counts.reports]
  timeouts := by
    rw [Outcome.andThen_reports_of_running _ running,
      Outcome.andThen_state_of_running _ running, quiet.reports, List.append_nil,
      quiet.timeouts, counts.timeouts]

end WatchedParts

/-- What a call is to the walk that a walker serves. -/
inductive CallRole
  /-- It brings the walk. -/
  | begins
  /-- It is a step. -/
  | steps
  /-- It drops the walk. -/
  | drops
  /-- It serves the walk or hands its answer over. -/
  | serves
deriving DecidableEq

/-- Walkers that serve one walk at a time, their calls, and what their watchdogs and their
reports have to do with the calls. -/
structure WatchedKind (Walker Call : Type) extends WatchedParts Walker where
  fresh : Walker
  role : Call → CallRole
  perform : Params → Call → Walker → Outcome Walker
  watchdog_fresh : watchdog fresh = {}
  /-- Steps and flushes are never out of turn. -/
  running : ∀ params call walker, role call = .steps ∨ role call = .drops →
    (perform params call walker).fault = none
  counts : ∀ params call walker, role call = .steps →
    toWatchedParts.Counts params.timeoutThreshold walker (perform params call walker)
  drops : ∀ params call walker, role call = .drops →
    watchdog (perform params call walker).state = {}
  quiet : ∀ params call walker, role call = .begins ∨ role call = .serves →
    toWatchedParts.Quiet walker (perform params call walker)

/-- A walker, and what an observer has written down of the walk that it serves. -/
structure Shift (Walker : Type) where
  walker : Walker
  /-- The steps that have found the walk unfinished since it was accepted. -/
  own : Nat := 0
  /-- The busy steps of the walks before it, up to the last idle step or flush. -/
  inherited : Nat := 0
  /-- The busy steps that were reported since the walk was accepted. -/
  reports : List Word := []

namespace Shift

variable {Walker Call : Type} (kind : WatchedKind Walker Call) (params : Params)

/-- Calls the walker and writes down what the call was to its walk. A call out of turn
stops the walker and is not counted. -/
def perform (call : Call) (shift : Shift Walker) : Outcome (Shift Walker) :=
  let outcome := kind.perform params call shift.walker
  outcome.map fun walker =>
    if outcome.fault.isSome then
      { shift with walker := walker }
    else
      match kind.role call with
      | .begins => { walker := walker, inherited := shift.inherited + shift.own }
      | .steps =>
          if kind.isIdle shift.walker then
            { walker := walker }
          else
            { shift with
              walker := walker
              own := shift.own + 1
              reports := shift.reports ++ outcome.reports }
      | .drops => { walker := walker }
      | .serves =>
          { shift with walker := walker, reports := shift.reports ++ outcome.reports }

/-- Calls the walker until a call out of turn stops it. -/
def run (calls : List Call) (shift : Shift Walker) : Outcome (Shift Walker) :=
  Outcome.forEach (perform kind params) calls shift

end Shift

/-! ## What holds at every point of a service -/

namespace Shift

variable {Walker Call : Type} {kind : WatchedKind Walker Call} {params : Params}
  {shift : Shift Walker}

/-- When the walker reports: at the step that takes the steps of the walk, together with those
that it has inherited, over the threshold, and with that number. -/
structure Timed (kind : WatchedKind Walker Call) (params : Params) (shift : Shift Walker) :
    Prop where
  /-- What the next step reports, and its counter counts. -/
  next : ∀ call, kind.role call = .steps →
    let outcome := kind.perform params call shift.walker
    outcome.reports =
        (if kind.isIdle shift.walker = false ∧
            shift.inherited + shift.own = params.timeoutThreshold.toNat ∧
            params.timeoutThreshold.toNat + 1 < UInt64.size then
          [UInt64.ofNat (shift.inherited + shift.own + 1)]
        else
          []) ∧
      kind.timeouts outcome.state = kind.timeouts shift.walker + outcome.reports.length
  /-- The walk is reported at most once. -/
  reports : shift.reports =
    if shift.inherited ≤ params.timeoutThreshold.toNat ∧
        params.timeoutThreshold.toNat < shift.inherited + shift.own ∧
        params.timeoutThreshold.toNat + 1 < UInt64.size then
      [UInt64.ofNat (params.timeoutThreshold.toNat + 1)]
    else
      []

/-- The watchdog has counted the steps of the walk and those that it has inherited. -/
structure Counted (kind : WatchedKind Walker Call) (params : Params) (shift : Shift Walker) :
    Prop where
  watchdog : (kind.watchdog shift.walker).HasCounted params.timeoutThreshold
    (shift.inherited + shift.own)
  reports : shift.reports =
    if shift.inherited ≤ params.timeoutThreshold.toNat ∧
        params.timeoutThreshold.toNat < shift.inherited + shift.own ∧
        params.timeoutThreshold.toNat + 1 < UInt64.size then
      [UInt64.ofNat (params.timeoutThreshold.toNat + 1)]
    else
      []

/-- A walk without a step of its own has not been reported. -/
theorem counted_of_begun
    {walker : Walker} {inherited : Nat}
    (watchdog : (kind.watchdog walker).HasCounted params.timeoutThreshold inherited) :
    Counted kind params { walker := walker, inherited := inherited } where
  watchdog := watchdog
  reports := by
    rw [if_neg]
    rintro ⟨early, late, _⟩
    exact absurd early (Nat.not_le_of_lt late)

theorem counted_of_new
    {walker : Walker} (started : kind.watchdog walker = {}) :
    Counted kind params { walker := walker } :=
  counted_of_begun (by rw [started]; exact Watchdog.hasCounted_new _)

/-- What a step reports follows from what the watchdog has counted. -/
theorem Counted.next
    (counted : shift.Counted kind params) {call : Call} (steps : kind.role call = .steps) :
    (kind.perform params call shift.walker).reports =
      if kind.isIdle shift.walker = false ∧
          shift.inherited + shift.own = params.timeoutThreshold.toNat ∧
          params.timeoutThreshold.toNat + 1 < UInt64.size then
        [UInt64.ofNat (shift.inherited + shift.own + 1)]
      else
        [] := by
  have counts := kind.counts params call shift.walker steps
  rw [counts.reports, counts.watchdog]
  cases idle : kind.isIdle shift.walker with
  | true => simp [Watchdog.fires_idle]
  | false =>
      have ticked := counted.watchdog.tick.busySteps
      have fires := counted.watchdog.fires_iff
      rw [Bool.not_false, ticked]
      simp only [fires, true_and]

/-- A step that finds the walk counts for it. -/
theorem Counted.step
    (counted : shift.Counted kind params) {call : Call} (steps : kind.role call = .steps)
    (busy : kind.isIdle shift.walker = false) :
    Counted kind params
      { shift with
        walker := (kind.perform params call shift.walker).state
        own := shift.own + 1
        reports := shift.reports ++ (kind.perform params call shift.walker).reports } where
  watchdog := by
    change (kind.watchdog (kind.perform params call shift.walker).state).HasCounted _ _
    rw [(kind.counts params call shift.walker steps).watchdog, busy, Bool.not_false,
      ← Nat.add_assoc]
    exact counted.watchdog.tick
  reports := by
    rw [counted.next steps, counted.reports, busy]
    simp only [true_and]
    by_cases last : params.timeoutThreshold.toNat + 1 < UInt64.size
    · rcases Nat.lt_trichotomy (shift.inherited + shift.own) params.timeoutThreshold.toNat with
        before | here | after
      · rw [if_neg (by omega), if_neg (by omega), if_neg (by omega)]
        rfl
      · rw [if_neg (by omega), if_pos (by omega), if_pos (by omega), here]
        rfl
      · by_cases early : shift.inherited ≤ params.timeoutThreshold.toNat
        · rw [if_pos (by omega), if_neg (by omega), if_pos (by omega)]
          rfl
        · rw [if_neg (by omega), if_neg (by omega), if_neg (by omega)]
          rfl
    · simp [last]

theorem Counted.perform
    (counted : shift.Counted kind params) (call : Call) :
    (shift.perform kind params call).state.Counted kind params := by
  simp only [Shift.perform, Outcome.map_state]
  cases role : kind.role call with
  | begins =>
      have kept := counted.watchdog
      rw [← (kind.quiet params call shift.walker (.inl role)).watchdog] at kept
      split
      · exact ⟨kept, counted.reports⟩
      · exact counted_of_begun kept
  | steps =>
      have running := kind.running params call shift.walker (.inl role)
      rw [running]
      cases idle : kind.isIdle shift.walker with
      | true =>
          have watchdog := (kind.counts params call shift.walker role).watchdog
          rw [idle] at watchdog
          exact counted_of_new watchdog
      | false => exact counted.step role idle
  | drops =>
      have running := kind.running params call shift.walker (.inr role)
      rw [running]
      exact counted_of_new (kind.drops params call shift.walker role)
  | serves =>
      have quiet := kind.quiet params call shift.walker (.inr role)
      have kept := counted.watchdog
      rw [← quiet.watchdog] at kept
      rw [quiet.reports, List.append_nil]
      split
      · exact ⟨kept, counted.reports⟩
      · exact ⟨kept, counted.reports⟩

/-- What a watchdog has counted decides what the walker reports. -/
theorem Counted.timed (counted : shift.Counted kind params) : shift.Timed kind params where
  next := by
    intro call steps
    exact ⟨counted.next steps, (kind.counts params call shift.walker steps).timeouts⟩
  reports := counted.reports

theorem counted_of_run
    (kind : WatchedKind Walker Call) (params : Params) (calls : List Call) :
    (run kind params calls { walker := kind.fresh }).state.Counted kind params :=
  Outcome.forEach_state_induction (fun call _ _ counted => counted.perform call)
    (counted_of_new kind.watchdog_fresh)

end Shift

/-! ## Steps of walkers with one walk at a time -/

namespace WalkerKind

variable {Walker State Walk : Type} (kind : WalkerKind Walker State Walk)

def watchedParts : WatchedParts Walker where
  isIdle walker := kind.isIdle (kind.state walker)
  watchdog walker := (kind.core walker).watchdog
  timeouts walker := (kind.core walker).timeouts

variable (params : Params) (registers : Registers) (protection : Protection) (walker : Walker)

/-- The check of an address neither begins nor ends a busy period: its answer is still to be
taken. -/
theorem checkAddress_quiet :
    kind.watchedParts.Quiet walker (kind.checkAddress params registers protection walker) ∧
      kind.watchedParts.isIdle (kind.checkAddress params registers protection walker).state =
        kind.watchedParts.isIdle walker := by
  simp only [checkAddress]
  split
  · rename_i walk stage
    have busy : kind.watchedParts.isIdle walker = false := kind.busy_of_stage (by simp [stage])
    rw [busy]
    split
    · refine ⟨⟨?_, ?_, ?_⟩, ?_⟩
      · simp only [watchedParts, kind.core_withCore]
      · simp only [watchedParts, kind.core_withCore]
      · simp [Outcome.reports, note, kind.event_overdue, StepEvent.overdueSteps?]
      · simp only [watchedParts, state, kind.core_withCore, kind.busy_denied]
    · refine ⟨⟨?_, ?_, rfl⟩, ?_⟩
      · simp only [watchedParts, kind.core_withCore]
      · simp only [watchedParts, kind.core_withCore]
      · refine kind.busy_of_stage ?_
        simp [state, kind.core_withCore, (kind.request_iff _ walk _).2 rfl]
  · exact ⟨⟨rfl, rfl, rfl⟩, rfl⟩

theorem watch_counts :
    kind.watchedParts.Counts params.timeoutThreshold walker (kind.watch params walker) where
  watchdog := by simp only [watchedParts, watch, state, kind.core_withCore]
  reports := by
    simp only [watchedParts, watch, state, Outcome.reports, kind.core_withCore]
    split
    · simp [note, kind.event_overdue, StepEvent.overdueSteps?]
    · rfl
  timeouts := by
    simp only [watchedParts, watch, Outcome.reports, kind.core_withCore]
    split
    · rename_i fires
      simp [note, kind.event_overdue, StepEvent.overdueSteps?, fires]
    · rename_i silent
      simp [silent]

theorem advance_quiet : kind.watchedParts.Quiet walker { state := kind.advance walker } where
  watchdog := by simp only [watchedParts, advance, kind.core_withCore]
  timeouts := by simp only [watchedParts, advance, kind.core_withCore]
  reports := rfl

theorem tick_counts :
    kind.watchedParts.Counts params.timeoutThreshold walker
      (kind.tick params registers protection walker) := by
  have running := (kind.checkAddress_cases params registers protection walker).2.running
  obtain ⟨quiet, idle⟩ := kind.checkAddress_quiet params registers protection walker
  exact quiet.andThen_counts running idle
    ((kind.watch_counts params _).andThen_quiet rfl (kind.advance_quiet _))

end WalkerKind

/-! ## The upper walker -/

namespace UpperWalker

inductive Call
  | accept (registers : Registers) (request : UpperRequest)
  | tick (registers : Registers) (protection : Protection)
  | fireMemory
  | takeBlock (registers : Registers) (block : Block)
  | fireStageTwo
  | takeStageTwo (registers : Registers) (result : StageTwoResult)
  | takeResponse
  | takeDispatch
  | flush

def Call.role : Call → CallRole
  | .accept _ _ => .begins
  | .tick _ _ => .steps
  | .flush => .drops
  | .fireMemory | .takeBlock _ _ | .fireStageTwo | .takeStageTwo _ _ | .takeResponse
  | .takeDispatch => .serves

def perform (params : Params) (call : Call) (walker : UpperWalker) : Outcome UpperWalker :=
  match call with
  | .accept registers request => walker.accept params registers request
  | .tick registers protection => walker.tick params registers protection
  | .fireMemory => walker.fireMemory params
  | .takeBlock registers block => walker.takeBlock params registers block
  | .fireStageTwo => walker.fireStageTwo params
  | .takeStageTwo registers result => walker.takeStageTwo params registers result
  | .takeResponse => walker.takeResponse params
  | .takeDispatch => walker.takeDispatch params
  | .flush => { state := walker.flush }

def watchedParts : WatchedParts UpperWalker where
  isIdle := isIdle
  watchdog := UpperWalker.watchdog
  timeouts := UpperWalker.timeouts

variable (params : Params) (registers : Registers) (walker : UpperWalker)

private theorem accept_quiet (request : UpperRequest) :
    watchedParts.Quiet walker (walker.accept params registers request) := by
  simp only [accept]
  split
  · split <;> exact ⟨rfl, rfl, rfl⟩
  · exact ⟨rfl, rfl, rfl⟩

private theorem finish_quiet
    (walk : UpperWalk) (pageFault accessFault : Bool) (stageTwo : Option StageTwoResult) :
    watchedParts.Quiet walker
      (walker.finish params registers walk pageFault accessFault stageTwo) :=
  ⟨rfl, rfl, rfl⟩

private theorem follow_quiet (walk : UpperWalk) :
    watchedParts.Quiet walker (walker.follow params registers walk) := by
  simp only [follow]
  split
  · exact finish_quiet params registers walker walk false true none
  · split
    · exact finish_quiet params registers walker walk true false none
    · split
      · split
        · exact ⟨rfl, rfl, rfl⟩
        · exact finish_quiet params registers walker walk false false none
      · split
        · exact ⟨rfl, rfl, rfl⟩
        · exact ⟨rfl, rfl, rfl⟩

private theorem takeBlock_quiet (block : Block) :
    watchedParts.Quiet walker (walker.takeBlock params registers block) := by
  simp only [takeBlock]
  split
  · rename_i walk address _
    have followed :=
      follow_quiet params registers walker { walk with pte := ⟨entryAt block address⟩ }
    exact ⟨followed.watchdog, followed.timeouts, followed.reports⟩
  · exact ⟨rfl, rfl, rfl⟩

private theorem takeStageTwo_quiet (result : StageTwoResult) :
    watchedParts.Quiet walker (walker.takeStageTwo params registers result) := by
  simp only [takeStageTwo]
  split
  · exact finish_quiet params registers walker _ false false (some result)
  · split
    · exact ⟨rfl, rfl, rfl⟩
    · split
      · exact ⟨rfl, rfl, rfl⟩
      · exact ⟨rfl, rfl, rfl⟩
  · exact ⟨rfl, rfl, rfl⟩

/-- The upper walker as a walker with a watchdog. -/
def watched : WatchedKind UpperWalker Call where
  fresh := {}
  toWatchedParts := watchedParts
  role := Call.role
  perform := perform
  watchdog_fresh := rfl
  running := by
    intro params call walker role
    cases call with
    | tick registers protection =>
        exact (tick_cases params registers protection walker).2.running
    | flush => rfl
    | _ => simp [Call.role] at role
  counts := by
    intro params call walker role
    cases call with
    | tick registers protection =>
        simp only [perform, tick_eq_kind]
        exact kind.tick_counts params registers protection walker
    | _ => simp [Call.role] at role
  drops := by
    intro params call walker role
    cases call with
    | flush => rfl
    | _ => simp [Call.role] at role
  quiet := by
    intro params call walker role
    cases call with
    | accept registers request => exact accept_quiet params registers walker request
    | fireMemory =>
        simp only [perform, fireMemory]
        split <;> exact ⟨rfl, rfl, rfl⟩
    | takeBlock registers block => exact takeBlock_quiet params registers walker block
    | fireStageTwo =>
        simp only [perform, fireStageTwo]
        split <;> exact ⟨rfl, rfl, rfl⟩
    | takeStageTwo registers result =>
        exact takeStageTwo_quiet params registers walker result
    | takeResponse =>
        simp only [perform, takeResponse]
        split <;> exact ⟨rfl, rfl, rfl⟩
    | takeDispatch =>
        simp only [perform, takeDispatch]
        split <;> exact ⟨rfl, rfl, rfl⟩
    | tick | flush => simp [Call.role] at role

end UpperWalker

/-! ## The second-stage walker -/

namespace StageTwoWalker

inductive Call
  | accept (registers : Registers) (request : StageTwoRequest)
  | tick (registers : Registers) (protection : Protection)
  | fireMemory
  | takeBlock (registers : Registers) (block : Block)
  | takeReply
  | flush

def Call.role : Call → CallRole
  | .accept _ _ => .begins
  | .tick _ _ => .steps
  | .flush => .drops
  | .fireMemory | .takeBlock _ _ | .takeReply => .serves

def perform (params : Params) (call : Call) (walker : StageTwoWalker) :
    Outcome StageTwoWalker :=
  match call with
  | .accept registers request => walker.accept params registers request
  | .tick registers protection => walker.tick params registers protection
  | .fireMemory => walker.fireMemory params
  | .takeBlock registers block => walker.takeBlock params registers block
  | .takeReply => walker.takeReply params
  | .flush => { state := walker.flush }

def watchedParts : WatchedParts StageTwoWalker where
  isIdle := isIdle
  watchdog := StageTwoWalker.watchdog
  timeouts := StageTwoWalker.timeouts

variable (params : Params) (registers : Registers) (walker : StageTwoWalker)

private theorem finish_quiet
    (walk : GuestWalk) (pte : Pte) (pageFault accessFault : Bool) :
    watchedParts.Quiet walker
      (walker.finish params registers walk pte pageFault accessFault) :=
  ⟨rfl, rfl, rfl⟩

private theorem accept_quiet (request : StageTwoRequest) :
    watchedParts.Quiet walker (walker.accept params registers request) := by
  simp only [accept]
  split
  · simp only [Outcome.andThen]
    split <;> exact ⟨rfl, rfl, rfl⟩
  · exact ⟨rfl, rfl, rfl⟩

private theorem follow_quiet (walk : GuestWalk) (pte : Pte) :
    watchedParts.Quiet walker (walker.follow params registers walk pte) := by
  simp only [follow]
  split
  · exact finish_quiet params registers walker walk pte false true
  · split
    · exact finish_quiet params registers walker walk pte true false
    · split
      · exact finish_quiet params registers walker walk pte false false
      · exact ⟨rfl, rfl, rfl⟩

private theorem takeBlock_quiet (block : Block) :
    watchedParts.Quiet walker (walker.takeBlock params registers block) := by
  simp only [takeBlock]
  split
  · rename_i walk address _
    have followed := follow_quiet params registers walker walk ⟨entryAt block address⟩
    exact ⟨followed.watchdog, followed.timeouts, followed.reports⟩
  · exact ⟨rfl, rfl, rfl⟩

/-- The second-stage walker as a walker with a watchdog. -/
def watched : WatchedKind StageTwoWalker Call where
  fresh := {}
  toWatchedParts := watchedParts
  role := Call.role
  perform := perform
  watchdog_fresh := rfl
  running := by
    intro params call walker role
    cases call with
    | tick registers protection =>
        exact (tick_cases params registers protection walker).2.running
    | flush => rfl
    | _ => simp [Call.role] at role
  counts := by
    intro params call walker role
    cases call with
    | tick registers protection =>
        simp only [perform, tick_eq_kind]
        exact kind.tick_counts params registers protection walker
    | _ => simp [Call.role] at role
  drops := by
    intro params call walker role
    cases call with
    | flush => rfl
    | _ => simp [Call.role] at role
  quiet := by
    intro params call walker role
    cases call with
    | accept registers request => exact accept_quiet params registers walker request
    | fireMemory =>
        simp only [perform, fireMemory]
        split <;> exact ⟨rfl, rfl, rfl⟩
    | takeBlock registers block => exact takeBlock_quiet params registers walker block
    | takeReply =>
        simp only [perform, takeReply]
        split <;> exact ⟨rfl, rfl, rfl⟩
    | tick | flush => simp [Call.role] at role

end StageTwoWalker

namespace Shift

/-- At every point of their service both walkers report a walk when its steps, together with
those that it has inherited from the walks before it, go over the threshold. -/
theorem timed_of_run (params : Params) :
    (∀ calls, (run UpperWalker.watched params calls { walker := {} }).state.Timed
      UpperWalker.watched params) ∧
    (∀ calls, (run StageTwoWalker.watched params calls { walker := {} }).state.Timed
      StageTwoWalker.watched params) :=
  ⟨fun calls => (counted_of_run UpperWalker.watched params calls).timed,
    fun calls => (counted_of_run StageTwoWalker.watched params calls).timed⟩

/-- Two lookups of the second stage right after one another, with one step each. -/
def touchingLookups : List UpperWalker.Call :=
  [.accept {} { request := { vpn := 5, mode := .stageTwo } }, .tick {} .allowAll,
    .fireStageTwo, .takeStageTwo {} {}, .takeResponse,
    .accept {} { request := { vpn := 6, mode := .stageTwo } }, .tick {} .allowAll]

/-- Two guest pages that are too wide right after one another, with one step each. -/
def touchingPages : List StageTwoWalker.Call :=
  [.accept {} { gvpn := 0x20000000 }, .tick {} .allowAll, .takeReply,
    .accept {} { gvpn := 0x20000001 }, .tick {} .allowAll]

/-- A second walk is reported at its first step, with the steps of the walk before it. -/
theorem early_report :
    let params := { Params.small with timeoutThreshold := 1 }
    let lookup := (run UpperWalker.watched params touchingLookups { walker := {} }).state
    let page := (run StageTwoWalker.watched params touchingPages { walker := {} }).state
    (lookup.own = 1 ∧ lookup.reports = [2]) ∧ (page.own = 1 ∧ page.reports = [2]) := by
  decide +kernel

end Shift

end PageWalk
