import PageWalk.Proofs.Cache.History

/-!
# The order of the answers

The pipeline is a queue of four places. What was answered since the last flush and what is
on its way, oldest first, are together the lookups that were accepted since then, in the
order in which they came. The four hand-overs of a step may be held up one by one by an
answer that nobody takes: none of them lets a lookup pass another.
-/

namespace PageWalk.Cache

/-! ## What a move does to the pipeline -/

/-- The move drops all lookups on their way. -/
def Move.flushes : Move → Bool
  | .fence _ | .flush => true
  | _ => false

/-- What a move brings into the pipeline: the lookup that is offered, if it is accepted. -/
def Move.accepts (params : Params) (cache : Cache) : Move → List Lookup
  | .send lookup => if (Cache.send params lookup cache).1 then [lookup] else []
  | _ => []

/-- What a move takes out of the pipeline. -/
def Move.answers (cache : Cache) : Move → List CacheAnswer
  | .pop => cache.answer.toList
  | _ => []

/-- A refill marks lookups but moves none, whatever its level. -/
theorem lookups_refill
    (params : Params) (registers : Registers) (refill : Refill) (cache : Cache) :
    (Cache.refill params registers refill cache).state.lookups = cache.lookups := by
  rcases refill_cases params registers refill cache with
    ⟨_, level, state⟩ | ⟨_, _, _, state⟩
  · have stored := (store_spec params registers { cache with refilled := true } level).1
    rw [state, markLookups_lookups]
    exact stored.lookups
  · rw [state]
    rfl

/-- A move that is no flush takes answers from the front of the pipeline and adds lookups at
its end. -/
theorem History.lookups_perform
    (params : Params) (history : History) {move : Move} (keeps : move.flushes = false) :
    (move.answers history.cache).map (·.lookup) ++
        (history.perform params move).state.cache.lookups =
      history.cache.lookups ++ move.accepts params history.cache := by
  cases move with
  | send lookup =>
      change (Cache.send params lookup history.cache).2.state.lookups =
        history.cache.lookups ++
          if (Cache.send params lookup history.cache).1 then [lookup] else []
      obtain ⟨_, ⟨accepted, free, state⟩ | ⟨refused, _, state⟩⟩ :=
        send_cases params lookup history.cache
      · rw [state, accepted, lookups_of_accepted free]
        rfl
      · rw [state, refused]
        exact (List.append_nil _).symm
  | tick =>
      exact (tick_lookups params history.registers history.cache).trans
        (List.append_nil _).symm
  | pop =>
      change history.cache.answer.toList.map _ ++ (Cache.pop params history.cache).state.lookups =
        history.cache.lookups ++ []
      rw [List.append_nil]
      cases found : history.cache.answer with
      | some answer => exact (pop_spec params found).1.symm
      | none =>
          unfold Cache.pop
          rw [found]
          rfl
  | refill refill =>
      have stays := lookups_refill params history.registers refill history.cache
      have same : (history.perform params (.refill refill)).state.cache =
          (Cache.refill params history.registers refill history.cache).state := by
        unfold perform
        rw [Outcome.map_state]
        split <;> rfl
      rw [same, stays]
      exact (List.append_nil _).symm
  | fence _ | flush => cases keeps
  | install registers => exact (List.append_nil _).symm
  | corrupt level set way =>
      exact (corrupt_stages params level set way history.cache).lookups.trans
        (List.append_nil _).symm

/-- A flush leaves no lookup on its way. -/
theorem History.lookups_of_flushes
    (params : Params) (history : History) {move : Move} (flushes : move.flushes = true) :
    (history.perform params move).state.cache.lookups = [] := by
  cases move with
  | fence _ | flush => rfl
  | send _ | tick | pop | refill _ | install _ | corrupt _ _ _ => cases flushes

/-! ## The ledger -/

/-- A history with the lookups that were accepted and the answers that were taken since the
last flush, each in the order in which they came. -/
structure Ledger where
  history : History
  accepted : List Lookup := []
  answered : List CacheAnswer := []

namespace Ledger

def perform (params : Params) (move : Move) (ledger : Ledger) : Outcome Ledger :=
  let cache := ledger.history.cache
  (ledger.history.perform params move).map fun after =>
    if move.flushes then
      { history := after }
    else
      { history := after
        accepted := ledger.accepted ++ move.accepts params cache
        answered := ledger.answered ++ move.answers cache }

/-- Makes moves until one of them stops the cache. -/
def run (params : Params) (moves : List Move) (ledger : Ledger) : Outcome Ledger :=
  Outcome.forEach (perform params) moves ledger

/-- The lookups of the answers, followed by those on their way, are the accepted ones. -/
def InOrder (ledger : Ledger) : Prop :=
  ledger.answered.map (·.lookup) ++ ledger.history.cache.lookups = ledger.accepted

/-- Every move keeps the order, also one that stops the cache. -/
theorem InOrder.perform
    {ledger : Ledger} (inOrder : ledger.InOrder) (params : Params) (move : Move) :
    (ledger.perform params move).state.InOrder := by
  unfold InOrder Ledger.perform
  rw [Outcome.map_state]
  cases flushes : move.flushes with
  | true => exact History.lookups_of_flushes params ledger.history flushes
  | false =>
      have moved := History.lookups_perform params ledger.history flushes
      calc
        (ledger.answered ++ move.answers ledger.history.cache).map (·.lookup) ++
            (ledger.history.perform params move).state.cache.lookups
        _ = ledger.answered.map (·.lookup) ++
              ((move.answers ledger.history.cache).map (·.lookup) ++
                (ledger.history.perform params move).state.cache.lookups) := by
          rw [List.map_append, List.append_assoc]
        _ = ledger.answered.map (·.lookup) ++ ledger.history.cache.lookups ++
              move.accepts params ledger.history.cache := by
          rw [moved, List.append_assoc]
        _ = ledger.accepted ++ move.accepts params ledger.history.cache :=
          congrArg (· ++ _) inOrder

end Ledger

/-! ## Runs -/

/-- Whatever is done to a cache, in any order: the lookups answered since the last flush and
those in the four stages, the last stage first, are the lookups accepted since then, in
order, each with all that it came with. A run ends where the cache stops, and its last move
counts. -/
theorem order_of_run
    {params : Params} {cache : Cache} (created : Cache.create params = .ok cache)
    (registers : Registers) (moves : List Move) :
    let ledger := (Ledger.run params moves ⟨⟨cache, registers, [], []⟩, [], []⟩).state
    ledger.answered.map (·.lookup) ++ ledger.history.cache.lookups = ledger.accepted := by
  have start : Ledger.InOrder ⟨⟨cache, registers, [], []⟩, [], []⟩ := lookups_of_create created
  exact Outcome.forEach_state_induction
    (fun move _ _ before => before.perform params move) start

/-- A lookup that was accepted before the flush is not answered. Of the two that come after
it the first is answered while the second one waits for its turn. -/
theorem order_of_small_run :
    let first : Lookup := { request := { vpn := 5 }, first := true }
    let second : Lookup := { request := { vpn := 5 }, probe := true, id := 1 }
    let moves : List Move :=
      [.send { request := { vpn := 9 } }, .tick, .flush, .send first, .tick, .send second,
        .tick, .tick, .tick, .pop, .tick]
    ∃ cache, Cache.create .small = .ok cache ∧
      let ledger := (Ledger.run .small moves ⟨⟨cache, {}, [], []⟩, [], []⟩).state
      ledger.answered.map (·.lookup) = [first] ∧ ledger.accepted = [first, second] ∧
        ledger.answered.map (·.lookup) ++ ledger.history.cache.lookups = ledger.accepted := by
  intro first second moves
  have created : Cache.create .small = .ok _ := rfl
  exact ⟨_, created, by decide +kernel, by decide +kernel, order_of_run created {} moves⟩

end PageWalk.Cache
