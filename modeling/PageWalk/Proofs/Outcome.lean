import PageWalk.Outcome

/-!
# Sequences of operations

How outcomes compose: what an operation keeps, a sequence of operations keeps, and
a sequence of operations that cannot stop does not stop. Most operations are
uneventful: they neither stop nor drop a prefetch.
-/

namespace PageWalk

/-- The prefetch that a note reports as dropped. -/
def Note.droppedPrefetch? (note : Note) : Option Request :=
  match note.event with
  | .leaf (.droppedPrefetch request _) => some request
  | _ => none

namespace Outcome

variable {State Larger Item : Type}

/-! ## Sequencing -/

@[simp]
theorem map_state (outcome : Outcome State) (embed : State → Larger) :
    (outcome.map embed).state = embed outcome.state := rfl

theorem andThen_of_running
    {outcome : Outcome State} (next : State → Outcome State)
    (running : outcome.fault = none) :
    outcome.andThen next =
      { next outcome.state with
        notes := outcome.notes ++ (next outcome.state).notes } := by
  unfold andThen
  rw [running]

theorem andThen_of_stopped
    {outcome : Outcome State} {fault : Fault} (next : State → Outcome State)
    (stopped : outcome.fault = some fault) :
    outcome.andThen next = outcome := by
  unfold andThen
  rw [stopped]

theorem andThen_state_of_running
    {outcome : Outcome State} (next : State → Outcome State)
    (running : outcome.fault = none) :
    (outcome.andThen next).state = (next outcome.state).state := by
  rw [andThen_of_running next running]

theorem andThen_fault_of_running
    {outcome : Outcome State} (next : State → Outcome State)
    (running : outcome.fault = none) :
    (outcome.andThen next).fault = (next outcome.state).fault := by
  rw [andThen_of_running next running]

theorem running_of_andThen
    {outcome : Outcome State} {next : State → Outcome State}
    (running : (outcome.andThen next).fault = none) :
    outcome.fault = none ∧ (next outcome.state).fault = none := by
  cases stopped : outcome.fault with
  | none =>
      rw [andThen_fault_of_running next stopped] at running
      exact ⟨rfl, running⟩
  | some fault =>
      rw [andThen_of_stopped next stopped, stopped] at running
      cases running

theorem andThen_assoc
    (outcome : Outcome State) (next last : State → Outcome State) :
    (outcome.andThen next).andThen last =
      outcome.andThen fun state => (next state).andThen last := by
  cases stopped : outcome.fault with
  | some fault =>
      rw [andThen_of_stopped _ stopped, andThen_of_stopped _ stopped,
        andThen_of_stopped _ stopped]
  | none =>
      rw [andThen_of_running _ stopped, andThen_of_running _ stopped]
      cases later : (next outcome.state).fault with
      | some fault => simp only [andThen, later]
      | none => simp only [andThen, later, List.append_assoc]

theorem forEach_append
    (operation : Item → State → Outcome State) (items others : List Item) (state : State) :
    forEach operation (items ++ others) state =
      (forEach operation items state).andThen (forEach operation others) := by
  induction items generalizing state with
  | nil => rfl
  | cons item items inductionHypothesis =>
      simp only [List.cons_append, forEach]
      rw [andThen_assoc]
      exact congrArg _ (funext inductionHypothesis)

/-- A sequence that was not stopped went through its first operation. -/
theorem running_of_cons
    {operation : Item → State → Outcome State} {item : Item} {items : List Item} {state : State}
    (running : (forEach operation (item :: items) state).fault = none) :
    (operation item state).fault = none ∧
      (forEach operation items (operation item state).state).fault = none ∧
      (forEach operation (item :: items) state).state =
        (forEach operation items (operation item state).state).state := by
  obtain ⟨first, others⟩ := running_of_andThen running
  exact ⟨first, others, andThen_state_of_running _ first⟩

theorem running_of_append
    {operation : Item → State → Outcome State} {items others : List Item} {state : State}
    (running : (forEach operation (items ++ others) state).fault = none) :
    (forEach operation items state).fault = none ∧
      (forEach operation others (forEach operation items state).state).fault = none ∧
      (forEach operation (items ++ others) state).state =
        (forEach operation others (forEach operation items state).state).state := by
  rw [forEach_append] at running ⊢
  obtain ⟨first, second⟩ := running_of_andThen running
  exact ⟨first, second, andThen_state_of_running _ first⟩

/-! ## What a sequence keeps -/

/-- What both operations keep, the sequence of them keeps, also when the first one
stops. -/
theorem andThen_state_induction
    {holds : State → Prop} {outcome : Outcome State} {next : State → Outcome State}
    (before : holds outcome.state)
    (after : outcome.fault = none → holds outcome.state → holds (next outcome.state).state) :
    holds (outcome.andThen next).state := by
  cases stopped : outcome.fault with
  | none =>
      rw [andThen_state_of_running next stopped]
      exact after stopped before
  | some fault =>
      rw [andThen_of_stopped next stopped]
      exact before

theorem forEach_state_induction
    {holds : State → Prop} {operation : Item → State → Outcome State} {items : List Item}
    (step : ∀ item ∈ items, ∀ state, holds state → holds (operation item state).state)
    {state : State} (start : holds state) :
    holds (forEach operation items state).state := by
  induction items generalizing state with
  | nil =>
      exact start
  | cons item items inductionHypothesis =>
      have first : holds (operation item state).state :=
        step item List.mem_cons_self state start
      exact andThen_state_induction first fun _ reached =>
        inductionHypothesis
          (fun other member => step other (List.mem_cons_of_mem item member)) reached

/-- Operations that leave alone what belongs to other items find it untouched. -/
theorem forEach_visits
    {holds : State → Prop} {untouched : Item → State → Prop}
    {operation : Item → State → Outcome State} {items : List Item} (nodup : items.Nodup)
    (step : ∀ item ∈ items, ∀ state, holds state → untouched item state →
      holds (operation item state).state ∧
        ∀ other, other ≠ item → untouched other state →
          untouched other (operation item state).state)
    {state : State} (start : holds state) (fresh : ∀ item ∈ items, untouched item state) :
    holds (forEach operation items state).state := by
  induction items generalizing state with
  | nil => exact start
  | cons item items inductionHypothesis =>
      obtain ⟨absent, distinct⟩ := List.nodup_cons.1 nodup
      obtain ⟨first, others⟩ :=
        step item List.mem_cons_self state start (fresh item List.mem_cons_self)
      refine andThen_state_induction first fun _ _ => inductionHypothesis distinct ?_ first ?_
      · exact fun other member => step other (List.mem_cons_of_mem item member)
      · intro other member
        refine others other ?_ (fresh other (List.mem_cons_of_mem item member))
        rintro rfl
        exact absent member

theorem fault_ne_of_running
    {outcome : Outcome State} (running : outcome.fault = none) (fault : Fault) :
    outcome.fault ≠ some fault := by
  rw [running]
  exact nofun

/-- The outcome stops, if at all, with a fault of one kind. -/
def FaultsIn (kind : Fault → Prop) (outcome : Outcome State) : Prop :=
  ∀ fault, outcome.fault = some fault → kind fault

theorem faultsIn_of_running
    {kind : Fault → Prop} {outcome : Outcome State} (running : outcome.fault = none) :
    outcome.FaultsIn kind := by
  intro fault stopped
  rw [running] at stopped
  cases stopped

theorem faultsIn_stop
    {kind : Fault → Prop} (state : State) {fault : Fault} (here : kind fault) :
    (stop state fault).FaultsIn kind := by
  intro other stopped
  cases stopped
  exact here

theorem FaultsIn.map
    {kind : Fault → Prop} {outcome : Outcome State} (faults : outcome.FaultsIn kind)
    (embed : State → Larger) : (outcome.map embed).FaultsIn kind :=
  faults

theorem FaultsIn.andThen
    {kind : Fault → Prop} {outcome : Outcome State} {next : State → Outcome State}
    (first : outcome.FaultsIn kind)
    (second : outcome.fault = none → (next outcome.state).FaultsIn kind) :
    (outcome.andThen next).FaultsIn kind := by
  intro fault stopped
  cases earlier : outcome.fault with
  | some cause =>
      rw [andThen_of_stopped next earlier] at stopped
      exact first fault stopped
  | none =>
      rw [andThen_fault_of_running next earlier] at stopped
      exact second earlier fault stopped

/-- Operations that keep something, and where it holds stop with faults of one kind only, do
so one after the other. -/
theorem forEach_keeps
    {kind : Fault → Prop} {holds : State → Prop} {operation : Item → State → Outcome State}
    {items : List Item}
    (step : ∀ item ∈ items, ∀ state, holds state →
      holds (operation item state).state ∧ (operation item state).FaultsIn kind)
    {state : State} (start : holds state) :
    holds (forEach operation items state).state ∧
      (forEach operation items state).FaultsIn kind := by
  refine ⟨forEach_state_induction
    (fun item member state before => (step item member state before).1) start, ?_⟩
  induction items generalizing state with
  | nil =>
      exact faultsIn_of_running rfl
  | cons item items inductionHypothesis =>
      obtain ⟨next, faults⟩ := step item List.mem_cons_self state start
      refine faults.andThen fun _ => ?_
      exact inductionHypothesis
        (fun other member => step other (List.mem_cons_of_mem item member)) next

/-- A sequence does not stop with a fault that none of its operations can stop with. -/
theorem forEach_fault_ne
    {holds : State → Prop} {operation : Item → State → Outcome State} {items : List Item}
    {fault : Fault}
    (each : ∀ item ∈ items, ∀ state, holds state →
      (operation item state).fault ≠ some fault)
    (step : ∀ item ∈ items, ∀ state, holds state → holds (operation item state).state)
    {state : State} (start : holds state) :
    (forEach operation items state).fault ≠ some fault := by
  have next (item : Item) (member : item ∈ items) (current : State) (before : holds current) :
      holds (operation item current).state ∧ (operation item current).FaultsIn (· ≠ fault) := by
    refine ⟨step item member current before, fun cause stopped same => ?_⟩
    rw [same] at stopped
    exact each item member current before stopped
  intro stopped
  exact (forEach_keeps next start).2 fault stopped rfl

/-! ## Uneventful operations -/

/-- The prefetches that an operation dropped. -/
def discarded (outcome : Outcome State) : List Request :=
  outcome.notes.filterMap Note.droppedPrefetch?

/-- The operation neither stopped nor dropped a prefetch. -/
structure Uneventful (outcome : Outcome State) : Prop where
  running : outcome.fault = none
  keeps : outcome.discarded = []

theorem andThen_discarded_of_running
    {outcome : Outcome State} (next : State → Outcome State)
    (running : outcome.fault = none) :
    (outcome.andThen next).discarded =
      outcome.discarded ++ (next outcome.state).discarded := by
  rw [andThen_of_running next running]
  exact List.filterMap_append

/-- What holds of every prefetch that one of the operations drops, holds of those that the
sequence drops. -/
theorem forEach_discarded
    {kind : Request → Prop} {holds : State → Prop} {operation : Item → State → Outcome State}
    {items : List Item}
    (each : ∀ item ∈ items, ∀ state, holds state →
      ∀ request ∈ (operation item state).discarded, kind request)
    (step : ∀ item ∈ items, ∀ state, holds state → holds (operation item state).state)
    {state : State} (start : holds state) :
    ∀ request ∈ (forEach operation items state).discarded, kind request := by
  induction items generalizing state with
  | nil =>
      intro request member
      cases member
  | cons item items inductionHypothesis =>
      have first := each item List.mem_cons_self state start
      simp only [forEach]
      cases stopped : (operation item state).fault with
      | some fault =>
          rw [andThen_of_stopped _ stopped]
          exact first
      | none =>
          rw [andThen_discarded_of_running _ stopped]
          intro request member
          rcases List.mem_append.1 member with here | later
          · exact first request here
          · exact inductionHypothesis
              (fun other member => each other (List.mem_cons_of_mem item member))
              (fun other member => step other (List.mem_cons_of_mem item member))
              (step item List.mem_cons_self state start) request later

theorem Uneventful.map
    {outcome : Outcome State} (uneventful : outcome.Uneventful) (embed : State → Larger) :
    (outcome.map embed).Uneventful :=
  ⟨uneventful.running, uneventful.keeps⟩

theorem Uneventful.andThen
    {outcome : Outcome State} {next : State → Outcome State}
    (first : outcome.Uneventful) (second : (next outcome.state).Uneventful) :
    (outcome.andThen next).Uneventful := by
  constructor
  · rw [andThen_fault_of_running next first.running]
    exact second.running
  · rw [andThen_discarded_of_running next first.running, first.keeps, second.keeps]
    rfl

/-- Operations that are uneventful where something holds, and keep it, are uneventful
one after the other. -/
theorem forEach_uneventful
    {holds : State → Prop} {operation : Item → State → Outcome State} {items : List Item}
    (each : ∀ item ∈ items, ∀ state, holds state → (operation item state).Uneventful)
    (step : ∀ item ∈ items, ∀ state, holds state → holds (operation item state).state)
    {state : State} (start : holds state) :
    (forEach operation items state).Uneventful := by
  induction items generalizing state with
  | nil =>
      exact ⟨rfl, rfl⟩
  | cons item items inductionHypothesis =>
      refine (each item List.mem_cons_self state start).andThen ?_
      exact inductionHypothesis
        (fun other member => each other (List.mem_cons_of_mem item member))
        (fun other member => step other (List.mem_cons_of_mem item member))
        (step item List.mem_cons_self state start)

/-- What every operation brings about for its own item, and no other operation
undoes, holds of all items in the end. -/
theorem forEach_reaches
    {holds : State → Prop} {reached : Item → State → Prop}
    {operation : Item → State → Outcome State} {items : List Item}
    (each : ∀ item ∈ items, ∀ state, holds state → (operation item state).Uneventful)
    (step : ∀ item ∈ items, ∀ state, holds state → holds (operation item state).state)
    (reach : ∀ item ∈ items, ∀ state, holds state →
      reached item (operation item state).state)
    (stay : ∀ item ∈ items, ∀ other state, holds state → reached other state →
      reached other (operation item state).state)
    {state : State} (start : holds state) :
    ∀ item ∈ items, reached item (forEach operation items state).state := by
  induction items generalizing state with
  | nil =>
      intro item member
      cases member
  | cons head tail inductionHypothesis =>
      have later :=
        inductionHypothesis
          (fun other member => each other (List.mem_cons_of_mem head member))
          (fun other member => step other (List.mem_cons_of_mem head member))
          (fun other member => reach other (List.mem_cons_of_mem head member))
          (fun other member => stay other (List.mem_cons_of_mem head member))
          (step head List.mem_cons_self state start)
      have running := (each head List.mem_cons_self state start).running
      intro item member
      simp only [forEach]
      rw [andThen_state_of_running _ running]
      rcases List.mem_cons.1 member with here | tailMember
      · let settled (state : State) : Prop := holds state ∧ reached head state
        have keeps (other : Item) (member : other ∈ tail) (state : State)
            (before : settled state) : settled (operation other state).state :=
          ⟨step other (List.mem_cons_of_mem head member) state before.1,
            stay other (List.mem_cons_of_mem head member) head state before.1 before.2⟩
        have kept : settled (forEach operation tail (operation head state).state).state :=
          forEach_state_induction keeps
            ⟨step head List.mem_cons_self state start, reach head List.mem_cons_self state start⟩
        rw [here]
        exact kept.2
      · exact later item tailMember

end Outcome

end PageWalk
