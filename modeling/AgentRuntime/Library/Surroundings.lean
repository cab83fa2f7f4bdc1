import AgentRuntime.Library.Async

/-!
# Asynchronous functions in their surroundings

The surroundings of an asynchronous function settle every call that it starts, and change
the memory while it waits.  What they do may depend on everything that was started before.
In given surroundings a function comes to its end.
-/

namespace AgentRuntime.Library

universe u

variable {interface : Interface.{u}} {Memory Result Next : Type u}

/-- How a call settles that was started after these ones, and what others do to the memory
in the meantime. -/
structure Surroundings (interface : Interface.{u}) (Memory : Type u) where
  settle : List interface.Action → (call : interface.Action) →
    Except interface.Error (interface.Answer call)
  meanwhile : List interface.Action → interface.Action → Memory → Memory

/-- How a function ended, the memory then, and all calls that were started. -/
structure Conclusion (interface : Interface.{u}) (Memory Result : Type u) where
  outcome : Except interface.Error Result
  memory : Memory
  calls : List interface.Action

variable (surroundings : Surroundings interface Memory)

def Suspension.concludes :
    List interface.Action → Suspension interface Memory Result →
      Conclusion interface Memory Result
  | past, .halt outcome memory => ⟨outcome, memory, past⟩
  | past, .await call memory resume =>
      (resume (surroundings.settle past call) (surroundings.meanwhile past call memory)).concludes
        (past ++ [call])

/-- The conclusion of a function that starts after these calls on this memory. -/
def Async.concludes (past : List interface.Action) (memory : Memory)
    (function : Async interface Memory Result) : Conclusion interface Memory Result :=
  (function memory).concludes surroundings past

/-! ## Equations -/

namespace Async

variable {surroundings} {past : List interface.Action} {memory : Memory}

@[simp] theorem concludes_pure (result : Result) :
    (pure result : Async interface Memory Result).concludes surroundings past memory =
      ⟨.ok result, memory, past⟩ := rfl

@[simp] theorem concludes_throw (error : interface.Error) :
    (throw error : Async interface Memory Result).concludes surroundings past memory =
      ⟨.error error, memory, past⟩ := rfl

@[simp] theorem concludes_read :
    (read : Async interface Memory Memory).concludes surroundings past memory =
      ⟨.ok memory, memory, past⟩ := rfl

@[simp] theorem concludes_write (written : Memory) :
    (write written : Async interface Memory PUnit).concludes surroundings past memory =
      ⟨.ok ⟨⟩, written, past⟩ := rfl

@[simp] theorem concludes_ofExcept (outcome : Except interface.Error Result) :
    (ofExcept outcome : Async interface Memory Result).concludes surroundings past memory =
      ⟨outcome, memory, past⟩ := rfl

@[simp] theorem concludes_await (call : interface.Action) :
    (await call : Async interface Memory _).concludes surroundings past memory =
      ⟨surroundings.settle past call, surroundings.meanwhile past call memory,
        past ++ [call]⟩ := rfl

theorem concludes_bind (first : Async interface Memory Result)
    (next : Result → Async interface Memory Next) :
    (first >>= next).concludes surroundings past memory =
      match first.concludes surroundings past memory with
      | ⟨.ok result, later, calls⟩ => (next result).concludes surroundings calls later
      | ⟨.error error, later, calls⟩ => ⟨.error error, later, calls⟩ := by
  have continued : ∀ (suspension : Suspension interface Memory Result) past,
      (suspension.bind next).concludes surroundings past =
        match suspension.concludes surroundings past with
        | ⟨.ok result, later, calls⟩ => (next result).concludes surroundings calls later
        | ⟨.error error, later, calls⟩ => ⟨.error error, later, calls⟩ := by
    intro suspension
    induction suspension with
    | halt outcome memory =>
        intro past
        cases outcome <;> rfl
    | await call memory resume ih => exact fun past => ih _ _ _
  exact continued _ _

/-- A function goes on where another one returned. -/
theorem concludes_bind_ok {first : Async interface Memory Result}
    {next : Result → Async interface Memory Next} {result : Result} {later : Memory}
    {calls : List interface.Action}
    (returned : first.concludes surroundings past memory = ⟨.ok result, later, calls⟩) :
    (first >>= next).concludes surroundings past memory =
      (next result).concludes surroundings calls later := by
  rw [concludes_bind, returned]

theorem concludes_tryCatch_ok {body : Async interface Memory Result}
    {handler : interface.Error → Async interface Memory Result} {result : Result}
    {later : Memory} {calls : List interface.Action}
    (returned : body.concludes surroundings past memory = ⟨.ok result, later, calls⟩) :
    (tryCatch body handler : Async interface Memory Result).concludes surroundings past memory =
      ⟨.ok result, later, calls⟩ := by
  have handled : ∀ (suspension : Suspension interface Memory Result) past,
      suspension.concludes surroundings past = ⟨.ok result, later, calls⟩ →
        (suspension.tryCatch handler).concludes surroundings past =
          ⟨.ok result, later, calls⟩ := by
    intro suspension
    induction suspension with
    | halt outcome memory =>
        intro past ended
        cases outcome with
        | ok result => exact ended
        | error error => cases ended
    | await call memory resume ih => exact fun past ended => ih _ _ _ ended
  exact handled _ _ returned

theorem concludes_wait (turn : interface.Action) (body : Async interface Memory Result) :
    (wait turn body).concludes surroundings past memory =
      match body.concludes surroundings past memory with
      | ⟨outcome, later, calls⟩ =>
          ⟨outcome, surroundings.meanwhile calls turn later, calls ++ [turn]⟩ := by
  have delayed : ∀ (suspension : Suspension interface Memory Result) past,
      (suspension.delay turn).concludes surroundings past =
        match suspension.concludes surroundings past with
        | ⟨outcome, later, calls⟩ =>
            ⟨outcome, surroundings.meanwhile calls turn later, calls ++ [turn]⟩ := by
    intro suspension
    induction suspension with
    | halt outcome memory => exact fun past => rfl
    | await call memory resume ih => exact fun past => ih _ _ _
  exact delayed _ _

/-- Calls are only added. -/
theorem prefix_concludes (function : Async interface Memory Result) :
    past <+: (function.concludes surroundings past memory).calls := by
  have grows : ∀ (suspension : Suspension interface Memory Result) past,
      past <+: (suspension.concludes surroundings past).calls := by
    intro suspension
    induction suspension with
    | halt outcome memory => exact fun past => List.prefix_rfl
    | await call memory resume ih =>
        intro past
        exact (List.prefix_append past [call]).trans (ih _ _ _)
  exact grows _ _

/-- What a function obeys in all surroundings holds at its end in those that keep the rely. -/
theorem Obeys.concludes {discipline : Discipline interface Memory}
    {post : Ending interface Memory Result} {function : Async interface Memory Result}
    (obeys : function.Obeys discipline post past memory)
    (relies : ∀ past call memory,
      discipline.rely memory (surroundings.meanwhile past call memory)) :
    post (function.concludes surroundings past memory).calls
      (function.concludes surroundings past memory).outcome
      (function.concludes surroundings past memory).memory := by
  have ends : ∀ (suspension : Suspension interface Memory Result) past entry,
      suspension.Obeys discipline post past entry →
        post (suspension.concludes surroundings past).calls
          (suspension.concludes surroundings past).outcome
          (suspension.concludes surroundings past).memory := by
    intro suspension
    induction suspension with
    | halt outcome memory => exact fun past _ obeys => obeys.2
    | await call memory resume ih =>
        exact fun past _ obeys => ih _ _ _ _ (obeys.2.2 _ _ (relies past call memory))
  exact ends _ _ _ obeys

/-! ## Functions that return -/

/-- In these surroundings the function returns, and its ending satisfies the postcondition. -/
def Returns (surroundings : Surroundings interface Memory) (past : List interface.Action)
    (memory : Memory) (function : Async interface Memory Result)
    (post : Result → Memory → List interface.Action → Prop) : Prop :=
  ∃ result later calls, function.concludes surroundings past memory =
    ⟨.ok result, later, calls⟩ ∧ post result later calls

variable {post middle : Result → Memory → List interface.Action → Prop}
variable {final : Next → Memory → List interface.Action → Prop}

theorem returns_pure {result : Result} (holds : post result memory past) :
    Returns surroundings past memory (pure result) post :=
  ⟨result, memory, past, rfl, holds⟩

theorem returns_read {next : Memory → Async interface Memory Next}
    (goesOn : Returns surroundings past memory (next memory) final) :
    Returns surroundings past memory (read >>= next) final :=
  goesOn

theorem returns_write {written : Memory} {next : Async interface Memory Next}
    (goesOn : Returns surroundings past written next final) :
    Returns surroundings past memory (write written >>= fun _ => next) final :=
  goesOn

theorem returns_await {call : interface.Action} {answer : interface.Answer call}
    {next : interface.Answer call → Async interface Memory Next}
    (settles : surroundings.settle past call = .ok answer)
    (goesOn : Returns surroundings (past ++ [call]) (surroundings.meanwhile past call memory)
      (next answer) final) :
    Returns surroundings past memory (await call >>= next) final := by
  unfold Returns
  rw [concludes_bind, concludes_await, settles]
  exact goesOn

theorem Returns.bind {first : Async interface Memory Result}
    {next : Result → Async interface Memory Next}
    (returns : Returns surroundings past memory first middle)
    (goesOn : ∀ result later calls, middle result later calls →
      Returns surroundings calls later (next result) final) :
    Returns surroundings past memory (first >>= next) final := by
  obtain ⟨result, later, calls, concluded, holds⟩ := returns
  unfold Returns
  rw [concludes_bind, concluded]
  exact goesOn result later calls holds

theorem Returns.wait {turn : interface.Action} {body : Async interface Memory Result}
    (returns : Returns surroundings past memory body middle)
    (handed : ∀ result later calls, middle result later calls →
      post result (surroundings.meanwhile calls turn later) (calls ++ [turn])) :
    Returns surroundings past memory (wait turn body) post := by
  obtain ⟨result, later, calls, concluded, holds⟩ := returns
  unfold Returns
  rw [concludes_wait, concluded]
  exact ⟨result, _, _, rfl, handed result later calls holds⟩

theorem Returns.tryCatch {body : Async interface Memory Result}
    {handler : interface.Error → Async interface Memory Result}
    (returns : Returns surroundings past memory body post) :
    Returns surroundings past memory (tryCatch body handler) post := by
  obtain ⟨result, later, calls, concluded, holds⟩ := returns
  exact ⟨result, later, calls, concludes_tryCatch_ok concluded, holds⟩

theorem Returns.mono {function : Async interface Memory Result}
    (returns : Returns surroundings past memory function middle)
    (implies : ∀ result later calls, middle result later calls → post result later calls) :
    Returns surroundings past memory function post := by
  obtain ⟨result, later, calls, concluded, holds⟩ := returns
  exact ⟨result, later, calls, concluded, implies result later calls holds⟩

/-! ## Functions that end -/

theorem concludes_tryCatch (body : Async interface Memory Result)
    (handler : interface.Error → Async interface Memory Result) :
    (tryCatch body handler : Async interface Memory Result).concludes surroundings past memory =
      match body.concludes surroundings past memory with
      | ⟨.ok result, later, calls⟩ => ⟨.ok result, later, calls⟩
      | ⟨.error error, later, calls⟩ => (handler error).concludes surroundings calls later := by
  have handled : ∀ (suspension : Suspension interface Memory Result) past,
      (suspension.tryCatch handler).concludes surroundings past =
        match suspension.concludes surroundings past with
        | ⟨.ok result, later, calls⟩ => ⟨.ok result, later, calls⟩
        | ⟨.error error, later, calls⟩ => (handler error).concludes surroundings calls later := by
    intro suspension
    induction suspension with
    | halt outcome memory =>
        intro past
        cases outcome <;> rfl
    | await call memory resume ih => exact fun past => ih _ _ _
  exact handled _ _

/-- In these surroundings the function ends, and the calls that it has started satisfy the
postcondition with its outcome. -/
def Ends (surroundings : Surroundings interface Memory) (past : List interface.Action)
    (memory : Memory) (function : Async interface Memory Result)
    (post : Ending interface Memory Result) : Prop :=
  ∃ outcome later started, function.concludes surroundings past memory =
    ⟨outcome, later, past ++ started⟩ ∧ post started outcome later

section Ends

variable {post middle : Ending interface Memory Result} {final : Ending interface Memory Next}

theorem Ends.conclusion {function : Async interface Memory Result}
    (ends : Ends surroundings [] memory function post) :
    post (function.concludes surroundings [] memory).calls
      (function.concludes surroundings [] memory).outcome
      (function.concludes surroundings [] memory).memory := by
  obtain ⟨outcome, later, started, concluded, holds⟩ := ends
  rw [concluded]
  exact holds

theorem ends_pure {result : Result} (holds : post [] (.ok result) memory) :
    Ends surroundings past memory (pure result) post :=
  ⟨.ok result, memory, [], by simp, holds⟩

theorem ends_throw {error : interface.Error} (holds : post [] (.error error) memory) :
    Ends surroundings past memory (throw error) post :=
  ⟨.error error, memory, [], by simp, holds⟩

theorem ends_read {next : Memory → Async interface Memory Next}
    (goesOn : Ends surroundings past memory (next memory) final) :
    Ends surroundings past memory (read >>= next) final :=
  goesOn

theorem ends_write {written : Memory} {next : Async interface Memory Next}
    (goesOn : Ends surroundings past written next final) :
    Ends surroundings past memory (write written >>= fun _ => next) final :=
  goesOn

theorem Ends.mono {function : Async interface Memory Result}
    (ends : Ends surroundings past memory function middle)
    (implies : ∀ started outcome later, middle started outcome later →
      post started outcome later) :
    Ends surroundings past memory function post := by
  obtain ⟨outcome, later, started, concluded, holds⟩ := ends
  exact ⟨outcome, later, started, concluded, implies started outcome later holds⟩

/-- A function goes on with the result of another one, after the calls of that one. -/
theorem Ends.bind {first : Async interface Memory Result}
    {next : Result → Async interface Memory Next}
    (ends : Ends surroundings past memory first middle)
    (goesOn : ∀ started result later, middle started (.ok result) later →
      Ends surroundings (past ++ started) later (next result)
        fun more => final (started ++ more))
    (fails : ∀ started error later, middle started (.error error) later →
      final started (.error error) later) :
    Ends surroundings past memory (first >>= next) final := by
  obtain ⟨outcome, later, started, concluded, holds⟩ := ends
  unfold Ends
  rw [concludes_bind, concluded]
  cases outcome with
  | ok result =>
      obtain ⟨outcome, last, more, concluded, holds⟩ := goesOn started result later holds
      exact ⟨outcome, last, started ++ more, by simp [concluded], holds⟩
  | error error => exact ⟨.error error, later, started, rfl, fails started error later holds⟩

theorem Ends.tryCatch {body : Async interface Memory Result}
    {handler : interface.Error → Async interface Memory Result}
    (ends : Ends surroundings past memory body middle)
    (returns : ∀ started result later, middle started (.ok result) later →
      post started (.ok result) later)
    (caught : ∀ started error later, middle started (.error error) later →
      Ends surroundings (past ++ started) later (handler error)
        fun more => post (started ++ more)) :
    Ends surroundings past memory (tryCatch body handler) post := by
  obtain ⟨outcome, later, started, concluded, holds⟩ := ends
  unfold Ends
  rw [concludes_tryCatch, concluded]
  cases outcome with
  | ok result => exact ⟨.ok result, later, started, rfl, returns started result later holds⟩
  | error error =>
      obtain ⟨outcome, last, more, concluded, holds⟩ := caught started error later holds
      exact ⟨outcome, last, started ++ more, by simp [concluded], holds⟩

/-- A call settles as the surroundings say. -/
theorem ends_await {call : interface.Action}
    {next : interface.Answer call → Async interface Memory Next}
    (answers : ∀ answer later, surroundings.settle past call = .ok answer →
      Ends surroundings (past ++ [call]) later (next answer) fun more => final (call :: more))
    (fails : ∀ error later, surroundings.settle past call = .error error →
      final [call] (.error error) later) :
    Ends surroundings past memory (await call >>= next) final := by
  unfold Ends
  rw [concludes_bind, concludes_await]
  cases settled : surroundings.settle past call with
  | ok answer =>
      obtain ⟨outcome, last, more, concluded, holds⟩ :=
        answers answer (surroundings.meanwhile past call memory) settled
      exact ⟨outcome, last, call :: more, by simp [concluded], holds⟩
  | error error => exact ⟨.error error, _, [call], rfl, fails error _ settled⟩

theorem Ends.wait {turn : interface.Action} {body : Async interface Memory Result}
    (ends : Ends surroundings past memory body middle)
    (handed : ∀ started outcome memory later, middle started outcome memory →
      post (started ++ [turn]) outcome later) :
    Ends surroundings past memory (wait turn body) post := by
  obtain ⟨outcome, later, started, concluded, holds⟩ := ends
  unfold Ends
  rw [concludes_wait, concluded]
  refine ⟨outcome, surroundings.meanwhile (past ++ started) turn later, started ++ [turn], ?_,
    handed started outcome later _ holds⟩
  rw [← List.append_assoc]

end Ends

end Async

/-! ## Conclusions as runs -/

namespace AsyncRun

/-- Others change the memory in any way. -/
def anything (change : Memory → Memory) : Memory → Memory := change

variable {surroundings} {body : Async interface Memory Result}

/-- A run that has ended as concluded. -/
def concluded (conclusion : Conclusion interface Memory Result) :
    AsyncRun interface Memory Result where
  memory := conclusion.memory
  suspension := some (.halt conclusion.outcome conclusion.memory)
  started := conclusion.calls

/-- The run of a function reaches its conclusion when its calls settle and the memory changes
as the surroundings say. -/
theorem exec_concludes (memory : Memory) :
    ∃ events, (system anything body).exec ⟨memory, none, []⟩ events =
      concluded (body.concludes surroundings [] memory) := by
  have reaches : ∀ (suspension : Suspension interface Memory Result) past,
      ∃ events, (system anything body).exec
        ⟨suspension.memory, some suspension, past ++ suspension.pending⟩ events =
          concluded (suspension.concludes surroundings past) := by
    intro suspension
    induction suspension with
    | halt outcome memory =>
        intro past
        refine ⟨[], ?_⟩
        simp [concluded, Suspension.concludes, Suspension.memory, Suspension.pending]
    | await call memory resume ih =>
        intro past
        obtain ⟨events, reached⟩ := ih (surroundings.settle past call)
          (surroundings.meanwhile past call memory) (past ++ [call])
        exact ⟨.outside (surroundings.meanwhile past call) ::
          .settle (surroundings.settle past) :: events, reached⟩
  obtain ⟨events, reached⟩ := reaches (body memory) []
  exact ⟨.begin :: events, reached⟩

end AsyncRun

end AgentRuntime.Library
