import AgentRuntime.Security.SingleExecution

/-!
# Results served from the cache

A result is saved under a hash of a text made of the tool's name, the arguments and the
action or call id.  A later call with the same hash is answered with it.
-/

namespace AgentRuntime

open AgentRuntime.Security

mutual

/-- The value with the fields of its objects in the order of their names. -/
def Json.sortKeys : Json → Json
  | .null => .null
  | .bool value => .bool value
  | .num value => .num value
  | .str value => .str value
  | .arr items => .arr (Json.sortItems items)
  | .obj fields => .obj ((Json.sortFields fields).mergeSort fun left right =>
      decide (codeUnits left.1 ≤ codeUnits right.1))

def Json.sortItems : List Json → List Json
  | [] => []
  | item :: rest => item.sortKeys :: Json.sortItems rest

def Json.sortFields : List (String × Json) → List (String × Json)
  | [] => []
  | (name, value) :: rest => (name, value.sortKeys) :: Json.sortFields rest

end

end AgentRuntime

namespace AgentRuntime.Security

open AgentRuntime.Library

/-! ## Which call a result belongs to -/

/-- The id of the action, or of the call when there is no action. -/
def ExecuteCall.discriminator (options : SecureToolExecutorOptions) (record : ExecuteCall) :
    String :=
  (if NeedsApproval options record.toolCall then record.approvedActionId else none).getD
    record.toolCall.id

/-- Two calls of one tool with the same arguments up to the order of keys and the same
discriminator. -/
structure SameAction (options : SecureToolExecutorOptions) (left right : ExecuteCall) : Prop where
  name : left.toolCall.name = right.toolCall.name
  arguments : left.toolCall.arguments.sortKeys = right.toolCall.arguments.sortKeys
  discriminator : left.discriminator options = right.discriminator options

/-- The checks that lead a call to the cache, with the action that it presents. -/
structure Admitted (options : SecureToolExecutorOptions) (toolCall : AgentToolCall)
    (approvedActionId aborted : Option String) (stores : ExecutorStores)
    (action : Option PendingAction) : Prop where
  live : aborted = none
  enabled : (decideToolPermission toolCall.name options.permissionRules).status ≠ .denied
  authorized : ∀ decision, checkAuthorization options.authorization toolCall = some decision →
    decision.allowed = true
  presented : ∀ presented, action = some presented →
    ∃ id, approvedActionId = some id ∧ id ≠ "" ∧ stores.approvals.get id = some presented ∧
      sameToolCall presented.toolCall toolCall = true ∧
      (presented.status = .approved ∨ presented.status = .executed)
  needed : action.isSome = true ↔ NeedsApproval options toolCall

/-- The call as it ends when it is answered from the cache. -/
def servedCall (toolCall : AgentToolCall) (approvedActionId : Option String) (result : Json)
    (key : String) : ExecuteCall where
  toolCall := toolCall
  approvedActionId := approvedActionId
  phase := .ended (.ok (.executed result key true))

section Lookup

variable {options : SecureToolExecutorOptions} {toolCall : AgentToolCall}
  {approvedActionId aborted : Option String} {id : String} {now : Int} {stores : ExecutorStores}

theorem invoke_served {action : Option PendingAction} {policy : Option String} {result : Json}
    {key : String} :
    SecureToolExecutor.invoke options toolCall action policy stores =
        .ended (.ok (.executed result key true)) ↔
      key = createIdempotencyKey options.numberText toolCall (action.map PendingAction.id) ∧
        (stores.results.get key).map IdempotencyRecord.result = some result := by
  simp only [SecureToolExecutor.invoke]
  constructor
  · intro served
    split at served
    next cached found =>
      cases served
      exact ⟨rfl, by rw [found, Option.map_some]⟩
    next =>
      split at served
      · cases served
      · cases served
  · rintro ⟨rfl, saved⟩
    obtain ⟨cached, found, rfl⟩ := Option.map_eq_some_iff.mp saved
    rw [found]

/-- A call that is answered from the cache passed the checks. -/
theorem admitted_of_served {result : Json} {key : String}
    (served : (SecureToolExecutor.execute options toolCall approvedActionId aborted id now
      stores).1 = .ended (.ok (.executed result key true))) :
    ∃ action, Admitted options toolCall approvedActionId aborted stores action ∧
      key = createIdempotencyKey options.numberText toolCall (action.map PendingAction.id) ∧
      (stores.results.get key).map IdempotencyRecord.result = some result := by
  have gate : SecureToolExecutor.Gated options toolCall approvedActionId aborted id now stores
      (SecureToolExecutor.execute options toolCall approvedActionId aborted id now stores) :=
    SecureToolExecutor.gated
  generalize SecureToolExecutor.execute options toolCall approvedActionId aborted id now stores =
    outcome at gate served
  cases gate with
  | ended unserved => exact absurd (ExecutePhase.ended.inj served) (unserved result key)
  | audits | created => cases served
  | @invokes action policy reaches =>
      obtain ⟨known, saved⟩ := invoke_served.mp served
      exact ⟨action, ⟨reaches.live, reaches.enabled, reaches.authorized, reaches.presented,
        reaches.needed⟩, known, saved⟩

/-- A call that passes the checks is answered from the cache when its key has a result. -/
theorem served_of_admitted {action : Option PendingAction} {saved : IdempotencyRecord}
    (admitted : Admitted options toolCall approvedActionId aborted stores action)
    (found : stores.results.get
      (createIdempotencyKey options.numberText toolCall (action.map PendingAction.id)) =
        some saved) :
    (SecureToolExecutor.execute options toolCall approvedActionId aborted id now stores).1 =
      .ended (.ok (.executed saved.result
        (createIdempotencyKey options.numberText toolCall (action.map PendingAction.id)) true)) := by
  obtain ⟨policy, reached⟩ : ∃ policy,
      SecureToolExecutor.execute options toolCall approvedActionId aborted id now stores =
        (SecureToolExecutor.invoke options toolCall action policy stores, stores) :=
    SecureToolExecutor.execute_of_reaches ⟨admitted.live, admitted.enabled, admitted.authorized,
      admitted.presented, admitted.needed⟩
  rw [reached]
  exact invoke_served.mpr ⟨rfl, by rw [found, Option.map_some]⟩

end Lookup

/-! ## Which call saved a result -/

/-- The transition goes on with a call whose handler returned the result, and saves it
as the first one under its key. -/
def Produces (transition : Transition ExecutorWorld ExecutorEvent ExecutorReply) (key : String)
    (result : Json) (producer : ExecuteCall) : Prop :=
  ∃ call now, transition.input = .resume call now ∧
    transition.before.calls[call]? = some producer ∧
    (∃ action policy, producer.phase = .settled key action policy (.ok result)) ∧
    transition.before.stores.results.get key = none

def ProducedBy (past : ExecutorHistory) (key : String) (result : Json) (producer : ExecuteCall) :
    Prop :=
  ∃ transition ∈ past, Produces transition key result producer

theorem Produces.unique {transition : Transition ExecutorWorld ExecutorEvent ExecutorReply}
    {key : String} {result other : Json} {producer rival : ExecuteCall}
    (first : Produces transition key result producer)
    (second : Produces transition key other rival) : producer = rival := by
  obtain ⟨call, now, input, found, -⟩ := first
  obtain ⟨call', now', input', found', -⟩ := second
  rw [input] at input'
  cases input'
  exact Option.some.inj (found.symm.trans found')

section Steps

variable {options : SecureToolExecutorOptions} {past : ExecutorHistory} {world : ExecutorWorld}
  {event : ExecutorEvent}

/-- A step saves the result of a call that it resumes, or leaves the results alone. -/
theorem results_step (world : ExecutorWorld) (event : ExecutorEvent) :
    ((secureExecutor options).step world event).2.stores.results = world.stores.results ∨
      ∃ call now record key action policy result, event = .resume call now ∧
        world.calls[call]? = some record ∧
        record.phase = .settled key action policy (.ok result) ∧
        ((secureExecutor options).step world event).2.stores.results =
          world.stores.results.save key result now := by
  cases event with
  | create | approve | reject =>
      left
      simp only [secureExecutor, ExecutorEvent.run, ExecutorWorld.review]
      try split
      all_goals rfl
  | execute toolCall approvedActionId aborted id now =>
      left
      have started := @SecureToolExecutor.started options toolCall approvedActionId aborted id now
        world.stores
      simp only [secureExecutor, ExecutorEvent.run]
      generalize SecureToolExecutor.execute options toolCall approvedActionId aborted id now
        world.stores = start at started
      cases started <;> rfl
  | settle | audited =>
      left
      simp only [secureExecutor, ExecutorEvent.run]
      split <;> rfl
  | resume call now =>
      simp only [secureExecutor, ExecutorEvent.run]
      split
      next key action policy outcome found =>
        obtain ⟨record, called, settled⟩ := Option.map_eq_some_iff.mp found
        cases outcome with
        | error message => exact Or.inl rfl
        | ok result =>
            right
            refine ⟨call, now, record, key, action, policy, result, rfl, called, settled, ?_⟩
            simp only [SecureToolExecutor.resume]
            split
            · rfl
            · split <;> rfl
      next => exact Or.inl rfl

theorem IdempotencyStore.get_save (store : IdempotencyStore) (key other : String) (result : Json)
    (now : Int) : (store.save key result now).get other =
      if other = key ∧ store.get key = none then some ⟨key, result, now⟩ else store.get other := by
  rw [IdempotencyStore.save]
  split
  next saved found =>
    simp [found]
  next missing =>
    simp only [Function.update_apply]
    by_cases same : other = key <;> simp [same, missing]

/-- Every result in the cache was saved by one call of the past, under its key. -/
structure Sourced (options : SecureToolExecutorOptions) (past : ExecutorHistory)
    (world : ExecutorWorld) : Prop where
  tracked : Tracked options past world
  produced : ∀ key saved, world.stores.results.get key = some saved →
    ∃ producer, ProducedBy past key saved.result producer
  stored : ∀ key result producer, ProducedBy past key result producer →
    producer.key options = key ∧
      (world.stores.results.get key).map IdempotencyRecord.result = some result
  unique : ∀ key result other producer rival, ProducedBy past key result producer →
    ProducedBy past key other rival → producer = rival

theorem sourced_initial : Sourced options [] (freshExecutor {}) where
  tracked := {
    approvals := fun id action found => by cases found
    keys := fun call record found => by cases found
    returned := fun call record found => by cases found
    kept := fun transition member => by cases member }
  produced _ _ found := by cases found
  stored _ _ _ produced := by
    obtain ⟨transition, member, -⟩ := produced
    cases member
  unique _ _ _ _ _ produced := by
    obtain ⟨transition, member, -⟩ := produced
    cases member

/-- What a step that saves a result leaves under its key. -/
theorem Produces.saved {key : String} {result : Json} {producer : ExecuteCall}
    (produces : Produces ((secureExecutor options).fire world event) key result producer) :
    (((secureExecutor options).step world event).2.stores.results.get key).map
      IdempotencyRecord.result = some result := by
  obtain ⟨call, now, input, found, ⟨action, policy, settled⟩, missing⟩ := produces
  rw [System.fire_before] at found missing
  have resumed : event = .resume call now := input
  subst resumed
  have phase : (world.calls[call]?).map ExecuteCall.phase =
      some (.settled key action policy (.ok result)) := by
    rw [found, Option.map_some, settled]
  have reached : ((secureExecutor options).step world (.resume call now)).2.stores.results =
      world.stores.results.save key result now := by
    simp only [secureExecutor, ExecutorEvent.run, phase, SecureToolExecutor.resume]
    split
    · rfl
    · split <;> rfl
  rw [reached, IdempotencyStore.get_save, if_pos ⟨rfl, missing⟩, Option.map_some]

/-- A result is produced by the last step or before it. -/
theorem ProducedBy.split {key : String} {result : Json} {producer : ExecuteCall}
    (produced : ProducedBy (past ++ [(secureExecutor options).fire world event]) key result
      producer) :
    ProducedBy past key result producer ∨
      Produces ((secureExecutor options).fire world event) key result producer := by
  obtain ⟨transition, member, produces⟩ := produced
  rcases List.mem_append.mp member with member | member
  · exact Or.inl ⟨transition, member, produces⟩
  · rw [List.mem_singleton] at member
    exact Or.inr (member ▸ produces)

/-- A stored result is never replaced. -/
theorem result_kept {key : String} {result : Json}
    (stored : (world.stores.results.get key).map IdempotencyRecord.result = some result) :
    (((secureExecutor options).step world event).2.stores.results.get key).map
      IdempotencyRecord.result = some result := by
  rcases @results_step options world event with same | ⟨_, now, _, other, _, _, value, -, -, -, saved⟩
  · rw [same, stored]
  · rw [saved, IdempotencyStore.get_save, if_neg, stored]
    rintro ⟨rfl, missing⟩
    rw [missing] at stored
    cases stored

/-- Nothing is produced under a key that has a result. -/
theorem Sourced.fresh (sourced : Sourced options past world) {key : String} {result other : Json}
    {producer rival : ExecuteCall} (old : ProducedBy past key result producer)
    (new : Produces ((secureExecutor options).fire world event) key other rival) : False := by
  obtain ⟨-, stored⟩ := sourced.stored key result producer old
  obtain ⟨call, now, -, -, -, missing⟩ := new
  rw [System.fire_before] at missing
  rw [missing] at stored
  cases stored

theorem Sourced.step (sourced : Sourced options past world) :
    Sourced options (past ++ [(secureExecutor options).fire world event])
      ((secureExecutor options).step world event).2 := by
  constructor
  case tracked => exact sourced.tracked.step (worldStep world event) rfl rfl
  case produced =>
    intro key saved found
    have older (before : world.stores.results.get key = some saved) :
        ∃ producer, ProducedBy (past ++ [(secureExecutor options).fire world event]) key
          saved.result producer := by
      obtain ⟨producer, transition, member, produces⟩ := sourced.produced key saved before
      exact ⟨producer, transition, List.mem_append_left _ member, produces⟩
    rcases @results_step options world event with same |
      ⟨call, now, record, other, action, policy, result, input, called, settled, reached⟩
    · exact older (same ▸ found)
    · rw [reached, IdempotencyStore.get_save] at found
      split at found
      next first =>
        cases found
        obtain ⟨rfl, missing⟩ := first
        exact ⟨record, _, List.mem_append_right _ List.mem_cons_self, call, now, input, called,
          ⟨action, policy, settled⟩, missing⟩
      next => exact older found
  case stored =>
    intro key result producer produced
    rcases produced.split with old | new
    · obtain ⟨own, stored⟩ := sourced.stored key result producer old
      exact ⟨own, result_kept stored⟩
    · refine ⟨?_, new.saved⟩
      obtain ⟨call, now, -, found, ⟨action, policy, settled⟩, -⟩ := new
      exact (sourced.tracked.keys call producer found key (by rw [settled]; rfl)).symm
  case unique =>
    intro key result other producer rival first second
    rcases first.split with old | new
    · rcases second.split with old' | new'
      · exact sourced.unique key result other producer rival old old'
      · exact (sourced.fresh old new').elim
    · rcases second.split with old' | new'
      · exact (sourced.fresh old' new).elim
      · exact new.unique new'

end Steps

/-! ## Runs -/

section Runs

variable (options : SecureToolExecutorOptions)

theorem sourced (events : List ExecutorEvent) :
    Sourced options (executorPast options {} events) (executorAfter options {} events) :=
  (secureExecutor options).exec_history (fun _ _ _ known => known.step) sourced_initial events

/-- Every result that is served from the cache was produced by an earlier execution of
the same action. -/
def ServesOwnResults (events : List ExecutorEvent) : Prop :=
  ∀ earlier later toolCall approvedActionId aborted id now result key,
    events = earlier ++ .execute toolCall approvedActionId aborted id now :: later →
    (SecureToolExecutor.execute options toolCall approvedActionId aborted id now
      (executorAfter options {} earlier).stores).1 = .ended (.ok (.executed result key true)) →
    ∃ producer, ProducedBy (executorPast options {} earlier) key result producer ∧
      SameAction options producer (servedCall toolCall approvedActionId result key)

/-- A call passes the checks after a call for another action was the first to save its
result under the same key. -/
def Colliding (past : ExecutorHistory) (world : ExecutorWorld) (event : ExecutorEvent) : Prop :=
  ∃ toolCall approvedActionId aborted id now action result producer,
    event = .execute toolCall approvedActionId aborted id now ∧
    Admitted options toolCall approvedActionId aborted world.stores action ∧
    ProducedBy past (producer.key options) result producer ∧
    producer.key options =
      createIdempotencyKey options.numberText toolCall (action.map PendingAction.id) ∧
    ¬ SameAction options producer
      (servedCall toolCall approvedActionId result (producer.key options))

/-- A collision is answered with the other call's result. -/
theorem ServesOwnResults.not_colliding {events earlier later : List ExecutorEvent}
    {event : ExecutorEvent} (serves : ServesOwnResults options events)
    (split : events = earlier ++ event :: later) :
    ¬ Colliding options (executorPast options {} earlier) (executorAfter options {} earlier)
      event := by
  rintro ⟨toolCall, approvedActionId, aborted, id, now, action, result, producer, rfl, admitted,
    produced, same, different⟩
  have sourced := sourced options earlier
  obtain ⟨-, stored⟩ := sourced.stored _ _ _ produced
  obtain ⟨saved, found, rfl⟩ := Option.map_eq_some_iff.mp stored
  have served := @served_of_admitted options toolCall approvedActionId aborted id now _ action
    saved admitted (same ▸ found)
  rw [← same] at served
  obtain ⟨other, rival, own⟩ := serves earlier later toolCall approvedActionId aborted id now
    saved.result (producer.key options) split served
  rw [sourced.unique _ _ _ _ _ rival produced] at own
  exact different own

/-- The cache serves a call only with results of its own action exactly when no call
collides with the one that saved the result. -/
theorem serves_own_results_iff (events : List ExecutorEvent) :
    ServesOwnResults options events ↔
      ∀ earlier event later, events = earlier ++ event :: later →
        ¬ Colliding options (executorPast options {} earlier) (executorAfter options {} earlier)
          event := by
  constructor
  · intro serves earlier event later split
    exact serves.not_colliding options split
  · intro separate earlier later toolCall approvedActionId aborted id now result key split served
    have sourced := sourced options earlier
    obtain ⟨action, admitted, known, stored⟩ := admitted_of_served served
    obtain ⟨saved, found, rfl⟩ := Option.map_eq_some_iff.mp stored
    obtain ⟨producer, produced⟩ := sourced.produced key saved found
    obtain ⟨own, -⟩ := sourced.stored key saved.result producer produced
    refine ⟨producer, produced, ?_⟩
    by_contra different
    apply separate earlier _ later split
    subst own
    exact ⟨toolCall, approvedActionId, aborted, id, now, action, saved.result, producer, rfl,
      admitted, produced, known, different⟩

end Runs

/-- A search for a customer. -/
def customerSearch (id customerId : String) : AgentToolCall where
  id := id
  name := "search_customer"
  arguments := .obj [("customerId", .str customerId)]

/-- The first search is executed and its result is saved. -/
def firstSearch : List ExecutorEvent :=
  [.execute (customerSearch "call_76133" "customer_001") none none "action_1" 1,
    .settle 0 (.ok (.str "customer_001 found")), .resume 0 2]

/-- The second search has the same hash. -/
def secondSearch : ExecutorEvent :=
  .execute (customerSearch "call_7d0f2" "customer_002") none none "action_2" 3

/-- The first search when its handler has returned. -/
def searched : ExecuteCall where
  toolCall := customerSearch "call_76133" "customer_001"
  approvedActionId := none
  phase := .settled (createIdempotencyKey demoOptions.numberText
    (customerSearch "call_76133" "customer_001") none) none none (.ok (.str "customer_001 found"))

theorem searched_produces : ProducedBy (executorPast demoOptions {} firstSearch)
    (searched.key demoOptions) (.str "customer_001 found") searched := by
  refine ⟨_, List.mem_cons_of_mem _ (List.mem_cons_of_mem _ List.mem_cons_self), 0, 2, rfl, ?_,
    ⟨none, none, ?_⟩, ?_⟩
  · rfl
  · rfl
  · rfl

theorem secondSearch_admitted : Admitted demoOptions (customerSearch "call_7d0f2" "customer_002")
    none none (executorAfter demoOptions {} firstSearch).stores none where
  live := rfl
  enabled := by decide
  authorized _ configured := by cases configured
  presented _ presents := by cases presents
  needed := by decide

/-- The search for one customer is answered with the other customer. -/
theorem search_answered_with_other_customer :
    (SecureToolExecutor.execute demoOptions (customerSearch "call_7d0f2" "customer_002") none none
      "action_2" 3 (executorAfter demoOptions {} firstSearch).stores).1 =
        .ended (.ok (.executed (.str "customer_001 found") "idem_017845ce" true)) ∧
      ¬ ServesOwnResults demoOptions (firstSearch ++ [secondSearch]) := by
  have same : createIdempotencyKey demoOptions.numberText
      (customerSearch "call_7d0f2" "customer_002") none = "idem_017845ce" := by
    decide +kernel
  have known : searched.key demoOptions = "idem_017845ce" := by decide +kernel
  have saved : (executorAfter demoOptions {} firstSearch).stores.results.get "idem_017845ce" =
      some ⟨"idem_017845ce", .str "customer_001 found", 2⟩ := by
    decide +kernel
  constructor
  · have served := @served_of_admitted demoOptions _ _ _ "action_2" 3 _ _ _ secondSearch_admitted
      ((congrArg _ same).trans saved)
    rw [Option.map_none, same] at served
    exact served
  · intro serves
    apply serves.not_colliding demoOptions rfl
    refine ⟨_, _, _, _, _, none, _, searched, rfl, secondSearch_admitted, searched_produces,
      known.trans same.symm, ?_⟩
    intro own
    have different : searched.discriminator demoOptions ≠ "call_7d0f2" := by decide
    exact different own.discriminator

end AgentRuntime.Security
