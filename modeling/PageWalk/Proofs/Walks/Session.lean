import PageWalk.Proofs.Journey
import PageWalk.Proofs.Outcome

/-!
# Sessions with a walker

A walker among the units around it. A memory answers its reads, a second stage translates
the guest pages that it asks for, and its answer is taken, all of it at any time, with steps
of the walker in between. What passes between them is written down in order.
-/

namespace PageWalk

/-- What a walker does that the units around it see. -/
inductive Deed (Answer : Type)
  | asks (request : StageTwoRequest)
  | hears (result : StageTwoResult)
  | reads (request : MemoryRequest)
  | refills (refill : Refill)
  | answers (answer : Answer)
deriving DecidableEq, Repr

/-- A walker as the units around it use it. -/
structure Service (Walker Answer : Type) where
  tick : Walker → Outcome Walker
  read? : Walker → Option MemoryRequest
  sendRead : Walker → Outcome Walker
  refill? : Block → Walker → Option Refill
  takeBlock : Block → Walker → Outcome Walker
  page? : Walker → Option StageTwoRequest
  sendPage : Walker → Outcome Walker
  takePage : StageTwoResult → Walker → Outcome Walker
  answer? : Walker → Option Answer
  takeAnswer : Walker → Outcome Walker

/-- What answers a walker: every block comes from a memory that stays as it is, and every
guest page has one translation. -/
structure Partners where
  memory : Memory
  translate : Word → StageTwoResult := fun _ => {}

structure Session (Walker Answer : Type) where
  walker : Walker
  deeds : List (Deed Answer) := []
  /-- The read that is not yet answered. -/
  read : Option MemoryRequest := none
  /-- The translation that is not yet answered. -/
  page : Option StageTwoRequest := none

namespace Session

/-- What can happen next. A move that is not due does nothing. -/
inductive Move
  | tick
  | sendRead
  | answerRead
  | sendPage
  | answerPage
  | takeAnswer
deriving DecidableEq, Repr

variable {Walker Answer : Type}

def perform (service : Service Walker Answer) (partners : Partners) (move : Move)
    (session : Session Walker Answer) : Outcome (Session Walker Answer) :=
  let walker := session.walker
  match move with
  | .tick => (service.tick walker).map fun after => { session with walker := after }
  | .sendRead =>
      match service.read? walker with
      | some request =>
          (service.sendRead walker).map fun after =>
            { session with
              walker := after
              deeds := session.deeds ++ [.reads request]
              read := some request }
      | none => { state := session }
  | .answerRead =>
      match session.read with
      | some request =>
          let block := partners.memory.readBlock request.address
          (service.takeBlock block walker).map fun after =>
            { session with
              walker := after
              deeds := session.deeds ++ ((service.refill? block walker).map .refills).toList
              read := none }
      | none => { state := session }
  | .sendPage =>
      match service.page? walker with
      | some request =>
          (service.sendPage walker).map fun after =>
            { session with
              walker := after
              deeds := session.deeds ++ [.asks request]
              page := some request }
      | none => { state := session }
  | .answerPage =>
      match session.page with
      | some request =>
          let result := partners.translate request.gvpn
          (service.takePage result walker).map fun after =>
            { session with
              walker := after
              deeds := session.deeds ++ [.hears result]
              page := none }
      | none => { state := session }
  | .takeAnswer =>
      match service.answer? walker with
      | some answer =>
          (service.takeAnswer walker).map fun after =>
            { session with walker := after, deeds := session.deeds ++ [.answers answer] }
      | none => { state := session }

def run (service : Service Walker Answer) (partners : Partners) (moves : List Move)
    (session : Session Walker Answer) : Outcome (Session Walker Answer) :=
  Outcome.forEach (perform service partners) moves session

/-- What a session comes to that starts with a walk, whatever has happened and in whatever
order: the walker has done nothing but what the walk asks for, one thing after the other, and
all of it once the moves that this needs have been made. -/
structure Served (idle : Walker → Prop) (course : List (Deed Answer)) (enough moves : List Move)
    (outcome : Outcome (Session Walker Answer)) : Prop where
  running : outcome.fault = none
  begun : outcome.state.deeds <+: course
  done : enough.Sublist moves → outcome.state.deeds = course ∧ idle outcome.state.walker

/-! ## Moves that are still needed -/

/-- A move leaves no more moves needed than before, and one less if it was the next one. -/
def Progress (move : Move) (before after : List Move) : Prop :=
  ∀ moves, before.Sublist (move :: moves) → after.Sublist moves

theorem progress_of_due
    (move : Move) {rest after : List Move} (fewer : after.Sublist rest) :
    Progress move (move :: rest) after :=
  fun _ enough => fewer.trans (List.cons_sublist_cons.1 enough)

theorem progress_of_early
    {move : Move} {needed : List Move} (early : needed.head? ≠ some move) :
    Progress move needed needed := by
  intro moves enough
  rcases List.sublist_cons_iff.1 enough with still | ⟨rest, due, _⟩
  · exact still
  · rw [due] at early
    exact absurd rfl early

/-! ## Sessions on course -/

section Course

variable (fits : Session Walker Answer → Prop) (ahead : Walker → List (Deed Answer))
  (needed : Walker → List Move)

/-- A move of a session on course does not stop it and keeps it on course: what has been done
and what lies ahead stay the same together. -/
structure Advances (move : Move) (session : Session Walker Answer)
    (outcome : Outcome (Session Walker Answer)) : Prop where
  running : outcome.fault = none
  fits : fits outcome.state
  course : outcome.state.deeds ++ ahead outcome.state.walker =
    session.deeds ++ ahead session.walker
  progress : Progress move (needed session.walker) (needed outcome.state.walker)

variable {fits ahead needed}

/-- A move that is not due leaves the session on course. -/
theorem advances_of_early
    {move : Move} {session : Session Walker Answer} (fit : fits session)
    (early : (needed session.walker).head? ≠ some move) :
    Advances fits ahead needed move session { state := session } where
  running := rfl
  fits := fit
  course := rfl
  progress := progress_of_early early

/-- If every move keeps a session on course, any number of moves does, and the moves that are
needed bring it to its end. -/
theorem run_of_advances
    {service : Service Walker Answer} {partners : Partners}
    (step : ∀ move session, fits session →
      Advances fits ahead needed move session (perform service partners move session))
    (moves : List Move) {session : Session Walker Answer} (fit : fits session) :
    let outcome := run service partners moves session
    outcome.fault = none ∧
      outcome.state.deeds ++ ahead outcome.state.walker =
        session.deeds ++ ahead session.walker ∧
      ((needed session.walker).Sublist moves → needed outcome.state.walker = []) := by
  induction moves generalizing session with
  | nil => exact ⟨rfl, rfl, List.sublist_nil.1⟩
  | cons move moves inductionHypothesis =>
      have advances := step move session fit
      obtain ⟨running, course, done⟩ := inductionHypothesis advances.fits
      simp only [run, Outcome.forEach] at running course done ⊢
      rw [Outcome.andThen_fault_of_running _ advances.running,
        Outcome.andThen_state_of_running _ advances.running]
      exact ⟨running, course.trans advances.course,
        fun enough => done (advances.progress moves enough)⟩

/-- If every move keeps a session on course, the session serves the walk that it starts
with. -/
theorem served_of_advances
    {service : Service Walker Answer} {partners : Partners} {idle : Walker → Prop}
    (step : ∀ move session, fits session →
      Advances fits ahead needed move session (perform service partners move session))
    (ended : ∀ walker, needed walker = [] → ahead walker = [] ∧ idle walker)
    {walker : Walker} (fit : fits { walker := walker }) {course : List (Deed Answer)}
    (all : ahead walker = course) {enough : List Move}
    (fewer : (needed walker).Sublist enough) (moves : List Move) :
    Served idle course enough moves (run service partners moves { walker := walker }) := by
  obtain ⟨running, kept, done⟩ := run_of_advances step moves fit
  rw [List.nil_append, all] at kept
  refine ⟨running, ?_, fun made => ?_⟩
  · rw [← kept]
    exact List.prefix_append ..
  · obtain ⟨nothing, idle⟩ := ended _ (done (fewer.trans made))
    rw [nothing, List.append_nil] at kept
    exact ⟨kept, idle⟩

end Course

end Session

/-! ## What a journey makes a walker do -/

section Errands

variable {Answer : Type} (partners : Partners) (reader : Nat) (lookup : Request)

/-- The translation of a guest page for a lookup, by the walker that reads under the number
`reader`. -/
def Request.translation (page : Word) : List (Deed Answer) :=
  [.asks { id := reader, gvpn := page, source := lookup.source },
    .hears (partners.translate page)]

/-- An errand for a lookup. Every block that is read is shown to the cache. -/
def Errand.deeds : Errand → List (Deed Answer)
  | .translate _ table => lookup.translation partners reader table
  | .read level address pte =>
      [.reads ⟨address, reader⟩,
        .refills
          { block := partners.memory.readBlock address
            level := level
            request := lookup
            selected := pte }]

/-- The errands of a journey, and what its finish brings. -/
def Journey.deeds (conclude : Finish → List (Deed Answer)) (journey : Journey) :
    List (Deed Answer) :=
  journey.errands.flatMap (Errand.deeds partners reader lookup) ++ conclude journey.finish

theorem Journey.deeds_after
    (conclude : Finish → List (Deed Answer)) (journey : Journey) (errands : List Errand) :
    (journey.after errands).deeds partners reader lookup conclude =
      errands.flatMap (Errand.deeds partners reader lookup) ++
        journey.deeds partners reader lookup conclude := by
  simp only [deeds, after, List.flatMap_append, List.append_assoc]

variable (conclude : Finish → List (Deed Answer)) {tree : GuardedTree} {vpn table host : Word}
  {level : Nat} {onward : Pte → Journey}

theorem GuardedTree.deeds_visit_of_denied
    (denied : tree.denied (tree.address host vpn level) = true) :
    (tree.visit vpn level table host onward).deeds partners reader lookup conclude =
      conclude (.ended ⟨.accessFault, level, table, {}⟩) := by
  rw [visit_of_denied denied]
  rfl

/-- An entry that may be read comes with its block, which the cache is shown. -/
theorem GuardedTree.deeds_visit_of_allowed
    (words : tree.word = partners.memory.readWord)
    (allowed : tree.denied (tree.address host vpn level) = false) :
    let address := tree.address host vpn level
    let block := partners.memory.readBlock address
    let pte : Pte := ⟨entryAt block address⟩
    (tree.visit vpn level table host onward).deeds partners reader lookup conclude =
      .reads ⟨address, reader⟩ ::
        .refills { block := block, level := level, request := lookup, selected := pte } ::
        (tree.follow level table pte onward).deeds partners reader lookup conclude := by
  intro address block pte
  have entry : tree.entry host vpn level = pte := by
    rw [TableTree.entry, words]
    exact congrArg Pte.mk (entryAt_readBlock partners.memory host _).symm
  rw [visit_of_allowed allowed, entry, Journey.deeds_after]
  rfl

end Errands

end PageWalk
