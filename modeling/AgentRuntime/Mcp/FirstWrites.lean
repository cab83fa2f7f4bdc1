import AgentRuntime.Mcp.Servers

/-!
# Repeated calls of the servers

A call that is repeated under its idempotency key changes nothing and is answered as the
first one, whoever repeats it and whatever happens in between.
-/

namespace AgentRuntime.Mcp

open AgentRuntime.Library

/-! ## What is written -/

/-- The reminder that a call creates if its key is new. -/
def McpRequest.reminderWrite? (request : McpRequest) : Option (String × Reminder) :=
  match request.call with
  | .createReminder customerId topic time idempotencyKey =>
      some (idempotencyKey, ⟨request.id, customerId, topic, time, idempotencyKey⟩)
  | _ => none

def McpRequest.logWrite? (request : McpRequest) : Option (String × CrmLog) :=
  match request.call with
  | .writeCrmLog customerId message idempotencyKey =>
      some (idempotencyKey, ⟨customerId, message, idempotencyKey, request.now⟩)
  | _ => none

def reminderWrites (requests : List McpRequest) : List (String × Reminder) :=
  requests.filterMap (·.reminderWrite?)

def logWrites (requests : List McpRequest) : List (String × CrmLog) :=
  requests.filterMap (·.logWrite?)

/-- The servers hold the first write to every key. -/
structure McpServers.HoldFirst (servers : McpServers) (requests : List McpRequest) : Prop where
  reminders : servers.reminderByKey.HoldsFirst (reminderWrites requests)
  logs : servers.logs.HoldsFirst (logWrites requests)

/-- The answer to a call that was made after these requests, among all of these. -/
def AnsweredByFirst (earlier all : List McpRequest) (request : McpRequest) (answer : McpAnswer) :
    Prop :=
  match request.call with
  | .searchCustomer keyword =>
      (∃ customer ∈ customers, answer = .customer customer ∧
        (includes customer.name keyword || includes customer.phone keyword) = true) ∨
      answer = .text "null"
  | .writeCrmLog _ _ key => ∃ log, firstWrite (logWrites all) key = some log ∧ answer = .log log
  | .checkFollowup customerId =>
      ∃ reminder, answer = .followup reminder.isSome reminder ∧
        (∀ found, reminder = some found → found.customerId = customerId ∧
          ∃ key, firstWrite (reminderWrites earlier) key = some found) ∧
        (reminder = none → ∀ key found, firstWrite (reminderWrites earlier) key = some found →
          found.customerId ≠ customerId)
  | .createReminder _ _ _ key =>
      ∃ reminder, firstWrite (reminderWrites all) key = some reminder ∧
        answer = .reminder reminder

/-! ## One call -/

section Call

variable {servers : McpServers} {requests : List McpRequest}

theorem reminderWrites_snoc (request : McpRequest) :
    reminderWrites (requests ++ [request]) =
      reminderWrites requests ++ request.reminderWrite?.toList := by
  rw [reminderWrites, List.filterMap_append]
  cases found : request.reminderWrite? <;> simp [reminderWrites, found]

theorem logWrites_snoc (request : McpRequest) :
    logWrites (requests ++ [request]) = logWrites requests ++ request.logWrite?.toList := by
  rw [logWrites, List.filterMap_append]
  cases found : request.logWrite? <;> simp [logWrites, found]

theorem handle_holdFirst (holds : servers.HoldFirst requests) (request : McpRequest) :
    (servers.handle request).2.HoldFirst (requests ++ [request]) := by
  obtain ⟨call, id, now⟩ := request
  cases call with
  | searchCustomer keyword =>
      have kept : (servers.handle ⟨.searchCustomer keyword, id, now⟩).2 = servers := by
        simp only [McpServers.handle]
        split <;> rfl
      rw [kept]
      constructor
      · rw [reminderWrites_snoc]
        simpa [McpRequest.reminderWrite?] using holds.reminders
      · rw [logWrites_snoc]
        simpa [McpRequest.logWrite?] using holds.logs
  | writeCrmLog customerId message key =>
      constructor
      · rw [reminderWrites_snoc]
        simpa [McpRequest.reminderWrite?, McpServers.handle] using holds.reminders
      · rw [logWrites_snoc]
        exact holds.logs.getOrSet key _
  | checkFollowup customerId =>
      constructor
      · rw [reminderWrites_snoc]
        simpa [McpRequest.reminderWrite?, McpServers.handle] using holds.reminders
      · rw [logWrites_snoc]
        simpa [McpRequest.logWrite?, McpServers.handle] using holds.logs
  | createReminder customerId topic time key =>
      constructor
      · rw [reminderWrites_snoc]
        exact holds.reminders.getOrSet key _
      · rw [logWrites_snoc]
        simpa [McpRequest.logWrite?, McpServers.handle] using holds.logs

theorem search_answer (keyword id : String) (now : Timestamp) :
    (∃ customer ∈ customers,
      (servers.handle ⟨.searchCustomer keyword, id, now⟩).1 = .customer customer ∧
        (includes customer.name keyword || includes customer.phone keyword) = true) ∨
    (servers.handle ⟨.searchCustomer keyword, id, now⟩).1 = .text "null" := by
  simp only [McpServers.handle]
  split
  next customer found =>
    have accepted := List.find?_some found
    exact .inl ⟨customer, List.mem_of_find?_eq_some found, rfl, accepted⟩
  next => exact .inr rfl

theorem followup_answer (holds : servers.HoldFirst requests) (customerId id : String)
    (now : Timestamp) :
    ∃ reminder, (servers.handle ⟨.checkFollowup customerId, id, now⟩).1 =
        .followup reminder.isSome reminder ∧
      (∀ found, reminder = some found → found.customerId = customerId ∧
        ∃ key, firstWrite (reminderWrites requests) key = some found) ∧
      (reminder = none → ∀ key found, firstWrite (reminderWrites requests) key = some found →
        found.customerId ≠ customerId) := by
  refine ⟨_, rfl, ?_, ?_⟩
  · intro found first
    have member := List.mem_of_find?_eq_some first
    obtain ⟨key, held⟩ := OrderedMap.mem_values_iff.mp member
    constructor
    · simpa using List.find?_some first
    · exact ⟨key, by rw [← holds.reminders key, held]⟩
  · intro missing key found written
    have held : servers.reminderByKey.get key = some found := by
      rw [holds.reminders key, written]
    have listed := OrderedMap.mem_values_iff.mpr ⟨key, held⟩
    simpa using List.find?_eq_none.mp missing found listed

/-- What a call is answered is known from the writes so far, and later ones do not matter. -/
theorem handle_answered (holds : servers.HoldFirst requests) (request : McpRequest)
    (later : List McpRequest) :
    AnsweredByFirst requests (requests ++ request :: later) request
      (servers.handle request).1 := by
  have after := handle_holdFirst holds request
  have whole : requests ++ request :: later = requests ++ [request] ++ later := by simp
  rw [whole]
  obtain ⟨call, id, now⟩ := request
  cases call with
  | searchCustomer keyword => exact search_answer keyword id now
  | writeCrmLog customerId message key =>
      have answer := (after.logs key).symm.trans OrderedMap.getOrSet_answer.symm
      refine ⟨_, ?_, rfl⟩
      rw [logWrites, List.filterMap_append]
      exact firstWrite_kept answer _
  | checkFollowup customerId => exact followup_answer holds customerId id now
  | createReminder customerId topic time key =>
      have answer := (after.reminders key).symm.trans OrderedMap.getOrSet_answer.symm
      refine ⟨_, ?_, rfl⟩
      rw [reminderWrites, List.filterMap_append]
      exact firstWrite_kept answer _

end Call

/-! ## Any sequence of calls -/

theorem holdFirst_new : McpServers.HoldFirst {} [] :=
  ⟨fun _ => rfl, fun _ => rfl⟩

theorem exec_holdFirst (requests : List McpRequest) :
    (mcpServers.exec {} requests).HoldFirst requests := by
  induction requests using List.reverseRecOn with
  | nil => exact holdFirst_new
  | append_singleton earlier request ih =>
      rw [System.exec_append]
      exact handle_holdFirst ih request

/-- After any calls of any callers, each idempotency key holds the reminder or the log of the
first call that used it, and every call with this key is answered with that one, also before
and after others.  A check finds a follow-up exactly if a reminder for the customer is held. -/
theorem servers_answer_by_first_write (requests : List McpRequest) :
    (mcpServers.exec {} requests).HoldFirst requests ∧
    ∀ earlier request later, requests = earlier ++ request :: later →
      AnsweredByFirst earlier requests request
        (mcpServers.step (mcpServers.exec {} earlier) request).1 := by
  constructor
  · exact exec_holdFirst requests
  · intro earlier request later split
    rw [split]
    exact handle_answered (exec_holdFirst earlier) request later

end AgentRuntime.Mcp
