import AgentRuntime.Runtime.RunAdmission
import Mathlib.Data.List.Nodup

/-!
# The law of run admission

Slots are counted by the permits that are out, the queue holds the pending waiters
in the order of their arrival, and nobody waits while a slot is free.
-/

namespace AgentRuntime.Runtime

open AgentRuntime.Library

namespace RunAdmission

/-! ## Waiters -/

@[simp] theorem settle_waiters_length (controller : RunAdmission) (waiter : Nat)
    (state : WaiterState) :
    (controller.settle waiter state).waiters.length = controller.waiters.length := by
  simp [settle]

theorem isPending_settle (controller : RunAdmission) {waiter : Nat} {state : WaiterState}
    (final : state ≠ .pending) (other : Nat) :
    (controller.settle waiter state).isPending other =
      (controller.isPending other && !decide (other = waiter)) := by
  simp only [isPending, settle, List.getElem?_set]
  by_cases same : waiter = other
  · subst same
    by_cases inside : waiter < controller.waiters.length
    · simp [inside, final]
    · simp [inside]
  · simp [same, Ne.symm same]

theorem lt_of_isPending {controller : RunAdmission} {waiter : Nat}
    (pending : controller.isPending waiter = true) : waiter < controller.waiters.length := by
  by_contra outside
  rw [isPending, List.getElem?_eq_none (Nat.le_of_not_lt outside)] at pending
  cases pending

theorem isPending_append (controller : RunAdmission) (timer : Option Rat) (onAbort : Bool)
    (queue : List Nat) (other : Nat) :
    isPending { controller with
        waiters := controller.waiters ++ [⟨.pending, timer, onAbort⟩], queue } other =
      (controller.isPending other || decide (other = controller.waiters.length)) := by
  simp only [isPending]
  by_cases inside : other < controller.waiters.length
  · simp [List.getElem?_append_left inside, Nat.ne_of_lt inside]
  · rw [List.getElem?_append_right (Nat.le_of_not_lt inside),
      List.getElem?_eq_none (Nat.le_of_not_lt inside)]
    by_cases newest : other = controller.waiters.length
    · simp [newest]
    · have beyond : other - controller.waiters.length ≠ 0 := by omega
      simp [newest, beyond]

/-! ## The invariant -/

/-- The queue and the waiters of the controller agree, and nobody waits for a slot
that is free. -/
structure Sound (options : RunAdmissionControllerOptions) (controller : RunAdmission) : Prop where
  bounded : controller.activeRuns ≤ options.maxConcurrentRuns
  room : controller.queue.length ≤ options.maxQueuedRuns
  pending : ∀ waiter, waiter ∈ controller.queue ↔ controller.isPending waiter = true
  ordered : controller.queue.Pairwise (· < ·)
  busy : controller.accepting = true → controller.queue ≠ [] →
    controller.activeRuns = options.maxConcurrentRuns
  closed : controller.accepting = false → controller.queue = []

theorem sound_new (options : RunAdmissionControllerOptions) : Sound options {} where
  bounded := Int.natCast_nonneg _
  room := Nat.zero_le _
  pending := by simp [isPending]
  ordered := .nil
  busy := by simp
  closed := by simp

theorem Sound.nodup {options : RunAdmissionControllerOptions} {controller : RunAdmission}
    (sound : Sound options controller) : controller.queue.Nodup :=
  sound.ordered.imp Nat.ne_of_lt

/-- What `close` does to the waiters it finds in the queue. -/
theorem rejectAll_spec (queue : List Nat) (controller : RunAdmission)
    (pending : ∀ waiter ∈ queue, controller.isPending waiter = true) (nodup : queue.Nodup) :
    (rejectAll queue controller).1 = queue.map (fun waiter => (waiter, .rejected .closed)) ∧
      (∃ waiters, (rejectAll queue controller).2 = { controller with waiters } ∧
        waiters.length = controller.waiters.length) ∧
      ∀ other, (rejectAll queue controller).2.isPending other =
        (controller.isPending other && !decide (other ∈ queue)) := by
  induction queue generalizing controller with
  | nil => exact ⟨rfl, ⟨controller.waiters, rfl, rfl⟩, fun other => by simp [rejectAll]⟩
  | cons waiter rest ih =>
      obtain ⟨fresh, restNodup⟩ := List.nodup_cons.mp nodup
      have first := pending waiter List.mem_cons_self
      have restPending : ∀ other ∈ rest,
          (controller.settle waiter .draining).isPending other = true := by
        intro other member
        have different : other ≠ waiter := fun same => fresh (same ▸ member)
        rw [isPending_settle controller (by decide)]
        simp [pending other (List.mem_cons_of_mem _ member), different]
      obtain ⟨settled, ⟨waiters, rest', length⟩, after⟩ := ih _ restPending restNodup
      have unfolded : rejectAll (waiter :: rest) controller =
          ((waiter, .rejected .closed) ::
              (rejectAll rest (controller.settle waiter .draining)).1,
            (rejectAll rest (controller.settle waiter .draining)).2) := by
        rw [rejectAll, if_pos first]
      refine ⟨?_, ⟨waiters, ?_, ?_⟩, ?_⟩
      · rw [unfolded, settled, List.map_cons]
      · rw [unfolded, rest']
        rfl
      · rw [length, settle_waiters_length]
      · intro other
        rw [unfolded, after, isPending_settle controller (by decide)]
        by_cases same : other = waiter <;> simp [same]

end RunAdmission

open RunAdmission

/-! ## Steps -/

/-- The promises that a reply settles. -/
def AdmissionReply.settlements : AdmissionReply → List Settled
  | .acquired _ => []
  | .settled settlements => settlements

/-- The permit of a settlement that admits a waiter. -/
def admits? (settled : Settled) : Option Nat :=
  match settled.2 with
  | .resolved permit => some permit
  | .rejected _ => none

/-- The permits that a reply grants. -/
def AdmissionReply.permits : AdmissionReply → List Nat
  | .acquired (.granted permit) => [permit]
  | .acquired _ => []
  | .settled settlements => settlements.filterMap admits?

/-- The waiter that a reply puts in the queue. -/
def AdmissionReply.arrival? : AdmissionReply → Option Nat
  | .acquired (.queued waiter) => some waiter
  | _ => none

/-- What one event does to a sound controller. -/
inductive AdmissionStep (options : RunAdmissionControllerOptions) (controller : RunAdmission) :
    AdmissionEvent → AdmissionReply → RunAdmission → Prop
  | refused {timeoutMs : Option TimeoutMs} {signal : Option Bool} {error : RunAdmissionError} :
      AdmissionStep options controller (.acquire timeoutMs signal) (.acquired (.refused error))
        controller
  | idle {event : AdmissionEvent}
      (unheld : ∀ permit, event = .release permit → controller.released[permit]? ≠ some false)
      (shut : event = .close → controller.accepting = false) :
      AdmissionStep options controller event (.settled []) controller
  | granted {timeoutMs : Option TimeoutMs} {signal : Option Bool}
      (accepting : controller.accepting = true)
      (free : controller.activeRuns < options.maxConcurrentRuns) :
      AdmissionStep options controller (.acquire timeoutMs signal)
        (.acquired (.granted controller.released.length))
        { controller with
          activeRuns := controller.activeRuns + 1
          released := controller.released ++ [false] }
  | queued {timeoutMs : Option TimeoutMs} {signal : Option Bool} {timer : Option Rat}
      (accepting : controller.accepting = true)
      (busy : ¬ controller.activeRuns < options.maxConcurrentRuns)
      (room : controller.queue.length < options.maxQueuedRuns) :
      AdmissionStep options controller (.acquire timeoutMs signal)
        (.acquired (.queued controller.waiters.length))
        { controller with
          waiters := controller.waiters ++ [⟨.pending, timer, signal.isSome⟩]
          queue := controller.queue ++ [controller.waiters.length] }
  | handedOver {permit waiter : Nat} {rest : List Nat} (accepting : controller.accepting = true)
      (held : controller.released[permit]? = some false)
      (first : controller.queue = waiter :: rest) :
      AdmissionStep options controller (.release permit)
        (.settled [(waiter, .resolved controller.released.length)])
        ({ controller with
          queue := rest
          released := controller.released.set permit true ++ [false] }.settle waiter .admitted)
  | freed {permit : Nat} (held : controller.released[permit]? = some false)
      (empty : controller.queue = []) :
      AdmissionStep options controller (.release permit) (.settled [])
        { controller with
          activeRuns := controller.activeRuns - 1
          released := controller.released.set permit true }
  | failed {event : AdmissionEvent} {waiter : Nat} {state : WaiterState}
      {error : RunAdmissionError} (final : state ≠ .pending)
      (kind : (∀ permit, event ≠ .release permit) ∧ event ≠ .close)
      (pending : controller.isPending waiter = true) :
      AdmissionStep options controller event (.settled [(waiter, .rejected error)])
        ({ controller with queue := controller.queue.erase waiter }.settle waiter state)
  | closed {waiters : List Waiter} (accepting : controller.accepting = true)
      (length : waiters.length = controller.waiters.length)
      (drained : ∀ waiter, isPending { controller with waiters } waiter = false) :
      AdmissionStep options controller .close
        (.settled (controller.queue.map fun waiter => (waiter, .rejected .closed)))
        { controller with accepting := false, queue := [], waiters }

theorem admissionStep_fail {options : RunAdmissionControllerOptions} {controller : RunAdmission}
    {event : AdmissionEvent} {waiter : Nat} {state : WaiterState} {error : RunAdmissionError}
    (final : state ≠ .pending) (kind : (∀ permit, event ≠ .release permit) ∧ event ≠ .close) :
    AdmissionStep options controller event
      (.settled (fail waiter state error controller).1)
      (fail waiter state error controller).2 := by
  unfold fail
  split
  next pending => exact .failed final kind pending
  next =>
    exact .idle (fun permit isRelease => absurd isRelease (kind.1 permit))
      fun isClose => absurd isClose kind.2

theorem admissionStep_acquire {options : RunAdmissionControllerOptions}
    (controller : RunAdmission) (timeoutMs : Option TimeoutMs) (signal : Option Bool) :
    AdmissionStep options controller (.acquire timeoutMs signal)
      (.acquired (controller.acquire options timeoutMs signal).1)
      (controller.acquire options timeoutMs signal).2 := by
  unfold acquire
  split
  next => exact .refused
  next accepting =>
    rw [Bool.not_eq_false] at accepting
    split
    next => exact .refused
    next =>
      split
      next => exact .refused
      next timer _ =>
        split
        next free => exact .granted accepting free
        next busy =>
          split
          next => exact .refused
          next room => exact .queued accepting busy (Nat.lt_of_not_le room)

theorem admissionStep_release {options : RunAdmissionControllerOptions}
    {controller : RunAdmission} (sound : Sound options controller) (permit : Nat) :
    AdmissionStep options controller (.release permit) (.settled (controller.release permit).1)
      (controller.release permit).2 := by
  unfold release
  split
  next held =>
    simp only
    split
    next accepting =>
      cases queue : controller.queue with
      | nil =>
          have freed := @AdmissionStep.freed options _ _ held queue
          rw [wake]
          simpa only [queue] using freed
      | cons waiter rest =>
          have pending := (sound.pending waiter).mp (by rw [queue]; exact List.mem_cons_self)
          rw [wake, if_pos (by exact pending)]
          simpa only [createRelease, settle, List.length_set] using
            @AdmissionStep.handedOver options _ _ _ _ accepting held queue
    next refusing =>
      rw [Bool.not_eq_true] at refusing
      exact .freed held (sound.closed refusing)
  next unheld =>
    refine .idle ?_ (fun isClose => by cases isClose)
    intro released isRelease
    cases isRelease
    exact unheld

theorem admissionStep_close {options : RunAdmissionControllerOptions}
    {controller : RunAdmission} (sound : Sound options controller) :
    AdmissionStep options controller .close (.settled controller.close.1) controller.close.2 := by
  unfold close
  split
  next accepting =>
    obtain ⟨settled, ⟨waiters, rest, length⟩, after⟩ := rejectAll_spec controller.queue
      { controller with accepting := false, queue := [] }
      (fun waiter member => (sound.pending waiter).mp member) sound.nodup
    rw [settled, rest]
    refine .closed accepting length ?_
    intro waiter
    have drained := after waiter
    rw [rest] at drained
    have isPending : isPending { controller with waiters } waiter =
        (controller.isPending waiter && !decide (waiter ∈ controller.queue)) := drained
    by_cases member : waiter ∈ controller.queue
    · simp [isPending, member]
    · have settledBefore : controller.isPending waiter = false := by
        rw [← Bool.not_eq_true]
        exact fun pending => member ((sound.pending waiter).mpr pending)
      simp [isPending, settledBefore]
  next refusing =>
    rw [Bool.not_eq_true] at refusing
    exact .idle (fun _ isRelease => by cases isRelease) (fun _ => refusing)

theorem admissionStep {options : RunAdmissionControllerOptions} {controller : RunAdmission}
    (sound : Sound options controller) (event : AdmissionEvent) :
    AdmissionStep options controller event ((admission options).step controller event).1
      ((admission options).step controller event).2 := by
  cases event with
  | acquire timeoutMs signal => exact admissionStep_acquire controller timeoutMs signal
  | release permit => exact admissionStep_release sound permit
  | timeout waiter =>
      show AdmissionStep options controller (.timeout waiter) (.settled (timeout waiter controller).1)
        (timeout waiter controller).2
      unfold timeout
      split
      next => exact admissionStep_fail (by decide) ⟨fun _ => by simp, by simp⟩
      next =>
        exact .idle (fun _ isRelease => by cases isRelease)
          (fun isClose => by cases isClose)
  | abort waiter =>
      show AdmissionStep options controller (.abort waiter) (.settled (abort waiter controller).1)
        (abort waiter controller).2
      unfold abort
      split
      next => exact admissionStep_fail (by decide) ⟨fun _ => by simp, by simp⟩
      next =>
        exact .idle (fun _ isRelease => by cases isRelease)
          (fun isClose => by cases isClose)
  | close => exact admissionStep_close sound

/-! ## Every step keeps the controller consistent -/

section Kept

variable {options : RunAdmissionControllerOptions} {controller next : RunAdmission}
  {event : AdmissionEvent} {reply : AdmissionReply}

theorem AdmissionStep.sound (step : AdmissionStep options controller event reply next)
    (sound : Sound options controller) : Sound options next := by
  cases step with
  | refused | idle => exact sound
  | granted accepting free =>
      exact {
        bounded := by simp only; omega
        room := sound.room
        pending := sound.pending
        ordered := sound.ordered
        busy := fun accepting waiting => absurd (sound.busy accepting waiting) (Int.ne_of_lt free)
        closed := sound.closed }
  | @queued timeoutMs signal timer accepting busy room =>
      exact {
        bounded := sound.bounded
        room := by
          rw [List.length_append]
          exact room
        pending := by
          intro waiter
          rw [isPending_append]
          simp [sound.pending waiter]
        ordered := by
          simp only [List.pairwise_append, List.pairwise_singleton, List.mem_singleton,
            forall_eq, true_and]
          exact ⟨sound.ordered, fun waiter member => lt_of_isPending ((sound.pending waiter).mp member)⟩
        busy := fun _ _ => Int.le_antisymm sound.bounded (Int.not_lt.mp busy)
        closed := fun refusing => by rw [accepting] at refusing; cases refusing }
  | @handedOver permit waiter rest accepting held first =>
      have ordered := sound.ordered
      have room := sound.room
      rw [first, List.pairwise_cons] at ordered
      rw [first, List.length_cons] at room
      exact {
        bounded := sound.bounded
        room := Nat.le_of_succ_le room
        pending := by
          intro other
          rw [isPending_settle _ (by decide)]
          have waiting := sound.pending other
          rw [first, List.mem_cons] at waiting
          change other ∈ rest ↔ (controller.isPending other && !decide (other = waiter)) = true
          by_cases same : other = waiter
          · simpa [same] using fun member => Nat.lt_irrefl _ (ordered.1 waiter (same ▸ member))
          · simpa [same] using waiting
        ordered := ordered.2
        busy := fun accepting _ => sound.busy accepting (by rw [first]; simp)
        closed := fun refusing => by rw [settle, accepting] at refusing; cases refusing }
  | freed held empty =>
      exact {
        bounded := Int.le_trans (Int.sub_le_self _ (by decide)) sound.bounded
        room := sound.room
        pending := sound.pending
        ordered := sound.ordered
        busy := fun _ waiting => absurd empty waiting
        closed := sound.closed }
  | @failed event waiter state error final kind pending =>
      have member := (sound.pending waiter).mpr pending
      have waiting : controller.queue ≠ [] := List.ne_nil_of_mem member
      exact {
        bounded := sound.bounded
        room := Nat.le_trans (List.length_erase_le) sound.room
        pending := by
          intro other
          rw [isPending_settle _ final]
          change other ∈ controller.queue.erase waiter ↔
            (controller.isPending other && !decide (other = waiter)) = true
          rw [sound.nodup.mem_erase_iff, sound.pending other]
          simp [and_comm]
        ordered := sound.ordered.sublist List.erase_sublist
        busy := fun accepting _ => sound.busy accepting waiting
        closed := fun refusing => absurd (sound.closed refusing) waiting }
  | closed accepting length drained =>
      exact {
        bounded := sound.bounded
        room := Nat.zero_le _
        pending := by
          intro waiter
          have final := drained waiter
          simp only [isPending] at final
          simp [isPending, final]
        ordered := .nil
        busy := by simp
        closed := fun _ => rfl }

/-- A permit that was released stays released. -/
theorem AdmissionStep.released_stays (step : AdmissionStep options controller event reply next)
    {permit : Nat} (released : controller.released[permit]? = some true) :
    next.released[permit]? = some true := by
  have inside : permit < controller.released.length := (List.getElem?_eq_some_iff.mp released).1
  have set (other : Nat) : (controller.released.set other true)[permit]? = some true := by
    rw [List.getElem?_set]
    split <;> simp_all
  cases step with
  | refused | idle | queued | failed | closed => exact released
  | granted => simpa [List.getElem?_append_left inside] using released
  | handedOver =>
      simpa [settle, List.getElem?_append_left, inside] using set _
  | freed => exact set _

/-- The permit that was just released is marked. -/
theorem AdmissionStep.released_marked {permit : Nat}
    (step : AdmissionStep options controller (.release permit) reply next)
    (granted : permit < controller.released.length) : next.released[permit]? = some true := by
  cases step with
  | idle unheld =>
      have flag : controller.released[permit]? = some controller.released[permit] :=
        List.getElem?_eq_getElem granted
      have notHeld := unheld permit rfl
      cases value : controller.released[permit] with
      | true => rw [flag, value]
      | false => exact absurd (value ▸ flag) notHeld
  | handedOver => simp [settle, List.getElem?_append_left, granted]
  | freed => simp [granted]
  | failed _ kind => exact absurd rfl (kind.1 permit)

/-- Releasing a permit again does nothing. -/
theorem AdmissionStep.release_again {permit : Nat}
    (step : AdmissionStep options controller (.release permit) reply next)
    (released : controller.released[permit]? = some true) :
    next = controller ∧ reply.settlements = [] := by
  cases step with
  | idle => exact ⟨rfl, rfl⟩
  | handedOver _ held => cases released.symm.trans held
  | freed held => cases released.symm.trans held
  | failed _ kind => exact absurd rfl (kind.1 permit)

/-- A controller that is closed admits nobody. -/
theorem AdmissionStep.closed_stays (step : AdmissionStep options controller event reply next)
    (sound : Sound options controller) (refusing : controller.accepting = false) :
    next.accepting = false ∧ reply.permits = [] := by
  cases step with
  | refused | idle => exact ⟨refusing, rfl⟩
  | granted accepting | queued accepting | handedOver accepting | closed accepting =>
      cases refusing.symm.trans accepting
  | freed => exact ⟨refusing, rfl⟩
  | @failed _ waiter _ _ _ _ pending =>
      have waiting := (sound.pending waiter).mpr pending
      rw [sound.closed refusing] at waiting
      cases waiting

theorem AdmissionStep.close_refuses (step : AdmissionStep options controller .close reply next) :
    next.accepting = false := by
  cases step with
  | idle _ shut => exact shut rfl
  | failed _ kind => exact absurd rfl kind.2
  | closed => rfl

end Kept

/-! ## Histories -/

abbrev AdmissionHistory := List (Transition RunAdmission AdmissionEvent AdmissionReply)

/-- The promises that were settled, oldest first. -/
def settlements (past : AdmissionHistory) : List Settled :=
  past.flatMap fun transition => transition.output.settlements

/-- The waiters that were settled. -/
def settledWaiters (past : AdmissionHistory) : List Nat := (settlements past).map Prod.fst

/-- The waiters that were granted a slot. -/
def admittedWaiters (past : AdmissionHistory) : List Nat :=
  ((settlements past).filter fun settled => (admits? settled).isSome).map Prod.fst

/-- The permits that were granted, to callers and to waiters. -/
def grantedPermits (past : AdmissionHistory) : List Nat :=
  past.flatMap fun transition => transition.output.permits

/-- The waiters that came to the queue. -/
def arrivedWaiters (past : AdmissionHistory) : List Nat :=
  past.filterMap fun transition => transition.output.arrival?

/-- The permits that are out after one more transition. -/
def holdPermits (held : List Nat)
    (transition : Transition RunAdmission AdmissionEvent AdmissionReply) : List Nat :=
  (match transition.input with
    | .release permit => held.erase permit
    | _ => held) ++ transition.output.permits

/-- The permits that were granted and not released since. -/
def outstanding (past : AdmissionHistory) : List Nat := past.foldl holdPermits []

section Appended

variable (past : AdmissionHistory)
  (transition : Transition RunAdmission AdmissionEvent AdmissionReply)

@[simp] theorem settlements_append :
    settlements (past ++ [transition]) = settlements past ++ transition.output.settlements := by
  simp [settlements]

@[simp] theorem settledWaiters_append :
    settledWaiters (past ++ [transition]) =
      settledWaiters past ++ transition.output.settlements.map Prod.fst := by
  simp [settledWaiters]

@[simp] theorem admittedWaiters_append :
    admittedWaiters (past ++ [transition]) =
      admittedWaiters past ++
        (transition.output.settlements.filter
          fun settled => (admits? settled).isSome).map Prod.fst := by
  simp [admittedWaiters]

@[simp] theorem arrivedWaiters_append :
    arrivedWaiters (past ++ [transition]) =
      arrivedWaiters past ++ transition.output.arrival?.toList := by
  cases arrival : transition.output.arrival? <;> simp [arrivedWaiters, arrival]

@[simp] theorem grantedPermits_append :
    grantedPermits (past ++ [transition]) = grantedPermits past ++ transition.output.permits := by
  simp [grantedPermits]

@[simp] theorem outstanding_append :
    outstanding (past ++ [transition]) = holdPermits (outstanding past) transition := by
  simp [outstanding]

end Appended

/-- Waiters are settled once, and admitted before all who wait behind them. -/
structure WaiterHistory (past : AdmissionHistory) (controller : RunAdmission) : Prop where
  arrived : arrivedWaiters past = List.range controller.waiters.length
  once : (settledWaiters past).Nodup
  final : ∀ waiter ∈ settledWaiters past,
    waiter < controller.waiters.length ∧ controller.isPending waiter = false
  ordered : (admittedWaiters past).Pairwise (· < ·)
  before : ∀ waiter ∈ admittedWaiters past, ∀ waiting ∈ controller.queue, waiter < waiting

/-- The permits that are out are the ones whose flag is not set. -/
structure HeldPermits (out : List Nat) (released : List Bool) : Prop where
  nodup : out.Nodup
  held : ∀ permit, permit ∈ out ↔ released[permit]? = some false

theorem HeldPermits.grant {out : List Nat} {released : List Bool}
    (permits : HeldPermits out released) :
    HeldPermits (out ++ [released.length]) (released ++ [false]) where
  nodup := by
    apply permits.nodup.append (List.nodup_singleton _)
    simp [permits.held]
  held := by
    intro permit
    rw [List.mem_append, List.mem_singleton, permits.held]
    by_cases inside : permit < released.length
    · simp [List.getElem?_append_left inside, Nat.ne_of_lt inside]
    · rw [List.getElem?_append_right (Nat.le_of_not_lt inside),
        List.getElem?_eq_none (Nat.le_of_not_lt inside)]
      by_cases newest : permit = released.length
      · simp [newest]
      · have beyond : permit - released.length ≠ 0 := by omega
        simp [newest, beyond]

theorem HeldPermits.giveBack {out : List Nat} {released : List Bool}
    (permits : HeldPermits out released) (permit : Nat) :
    HeldPermits (out.erase permit) (released.set permit true) where
  nodup := permits.nodup.erase permit
  held := by
    intro other
    rw [permits.nodup.mem_erase_iff, permits.held, List.getElem?_set]
    by_cases same : permit = other
    · simp [same]
    · simp [same, Ne.symm same]

/-- The permits of the controller are the ones its callers hold. -/
structure PermitHistory (past : AdmissionHistory) (controller : RunAdmission) : Prop where
  granted : grantedPermits past = List.range controller.released.length
  permits : HeldPermits (outstanding past) controller.released
  active : controller.activeRuns = (outstanding past).length

section Histories

variable {options : RunAdmissionControllerOptions} {past : AdmissionHistory}
  {controller next : RunAdmission} {event : AdmissionEvent} {reply : AdmissionReply}

theorem admitted_of_settled {waiter : Nat} (admitted : waiter ∈ admittedWaiters past) :
    waiter ∈ settledWaiters past := by
  rw [admittedWaiters, List.mem_map] at admitted
  obtain ⟨settled, member, same⟩ := admitted
  exact List.mem_map.mpr ⟨settled, (List.mem_filter.mp member).1, same⟩

/-- A pending waiter has not been settled. -/
theorem WaiterHistory.unsettled (history : WaiterHistory past controller) {waiter : Nat}
    (pending : controller.isPending waiter = true) : waiter ∉ settledWaiters past := by
  intro member
  rw [(history.final waiter member).2] at pending
  cases pending

/-- Pending waiters are rejected and nobody is admitted. -/
theorem WaiterHistory.reject (history : WaiterHistory past controller) {waiters : List Nat}
    (settled : reply.settlements.map Prod.fst = waiters)
    (nobody : reply.settlements.filter (fun settled => (admits? settled).isSome) = [])
    (unqueued : reply.arrival? = none)
    (length : next.waiters.length = controller.waiters.length) (distinct : waiters.Nodup)
    (pending : ∀ waiter ∈ waiters, controller.isPending waiter = true)
    (rejected : ∀ waiter ∈ waiters, next.isPending waiter = false)
    (stays : ∀ waiter, controller.isPending waiter = false → next.isPending waiter = false)
    (queue : ∀ waiter ∈ next.queue, waiter ∈ controller.queue) :
    WaiterHistory (past ++ [⟨controller, event, reply, next⟩]) next where
  arrived := by
    rw [arrivedWaiters_append, unqueued, Option.toList_none, List.append_nil, length,
      history.arrived]
  once := by
    rw [settledWaiters_append, settled]
    apply history.once.append distinct
    intro waiter earlier member
    exact history.unsettled (pending waiter member) earlier
  final := by
    intro waiter member
    rw [settledWaiters_append, settled, List.mem_append] at member
    rw [length]
    rcases member with member | member
    · exact ⟨(history.final waiter member).1, stays waiter (history.final waiter member).2⟩
    · exact ⟨lt_of_isPending (pending waiter member), rejected waiter member⟩
  ordered := by
    rw [admittedWaiters_append, nobody, List.map_nil, List.append_nil]
    exact history.ordered
  before := by
    intro waiter admitted waiting member
    rw [admittedWaiters_append, nobody, List.map_nil, List.append_nil] at admitted
    exact history.before waiter admitted waiting (queue waiting member)

/-- Nobody is settled, and the waiters stay as they are. -/
theorem WaiterHistory.silent (history : WaiterHistory past controller)
    (silent : reply.settlements = [])
    (unqueued : reply.arrival? = none) (waiters : next.waiters = controller.waiters)
    (queue : next.queue = controller.queue) :
    WaiterHistory (past ++ [⟨controller, event, reply, next⟩]) next := by
  have nobody (waiter : Nat) (member : waiter ∈ ([] : List Nat)) : False := List.not_mem_nil member
  refine history.reject (by rw [silent, List.map_nil]) (by rw [silent, List.filter_nil]) unqueued
    (by rw [waiters]) List.nodup_nil (fun waiter member => (nobody waiter member).elim)
    (fun waiter member => (nobody waiter member).elim) ?_ ?_
  · intro waiter
    rw [isPending, isPending, waiters]
    exact id
  · intro waiter
    rw [queue]
    exact id

theorem WaiterHistory.settle_once (history : WaiterHistory past controller) {waiter : Nat}
    (pending : controller.isPending waiter = true) :
    (settledWaiters past ++ [waiter]).Nodup := by
  apply history.once.append (List.nodup_singleton waiter)
  simpa using history.unsettled pending

theorem WaiterHistory.settle_final (history : WaiterHistory past controller)
    {waiter other : Nat} {state : WaiterState} (pending : controller.isPending waiter = true)
    (final : state ≠ .pending) (member : other ∈ settledWaiters past ++ [waiter]) :
    other < controller.waiters.length ∧ (controller.settle waiter state).isPending other = false := by
  rw [isPending_settle _ final]
  rw [List.mem_append, List.mem_singleton] at member
  rcases member with member | rfl
  · have settled := history.final other member
    simpa [settled.2] using settled.1
  · simpa using lt_of_isPending pending

/-- A waiter arrives behind the others. -/
theorem WaiterHistory.queued (history : WaiterHistory past controller) (timer : Option Rat)
    (onAbort : Bool)
    (arrived : next = { controller with
      waiters := controller.waiters ++ [⟨.pending, timer, onAbort⟩]
      queue := controller.queue ++ [controller.waiters.length] }) :
    WaiterHistory (past ++ [⟨controller, event, .acquired (.queued controller.waiters.length),
      next⟩]) next := by
  subst arrived
  constructor
  case arrived =>
    rw [arrivedWaiters_append, history.arrived, List.length_append]
    exact List.range_succ.symm
  case once => simpa [AdmissionReply.settlements] using history.once
  case final =>
    intro waiter member
    rw [settledWaiters_append, AdmissionReply.settlements, List.map_nil,
      List.append_nil] at member
    have final := history.final waiter member
    rw [isPending_append, final.2, Bool.false_or, decide_eq_false_iff_not,
      List.length_append]
    exact ⟨Nat.lt_succ_of_lt final.1, Nat.ne_of_lt final.1⟩
  case ordered => simpa [AdmissionReply.settlements] using history.ordered
  case before =>
    intro waiter admitted waiting member
    rw [admittedWaiters_append, AdmissionReply.settlements, List.filter_nil, List.map_nil,
      List.append_nil] at admitted
    rw [List.mem_append, List.mem_singleton] at member
    rcases member with member | rfl
    · exact history.before waiter admitted waiting member
    · exact (history.final waiter (admitted_of_settled admitted)).1

/-- A permit goes to the first waiter in the queue. -/
theorem WaiterHistory.handedOver (history : WaiterHistory past controller)
    (sound : Sound options controller) {waiter permit : Nat} {rest : List Nat}
    (first : controller.queue = waiter :: rest) (released : List Bool)
    (handed : next = { controller with queue := rest, released }.settle waiter .admitted) :
    WaiterHistory (past ++ [⟨controller, event, .settled [(waiter, .resolved permit)], next⟩])
      next := by
  have queued : waiter ∈ controller.queue := by rw [first]; exact List.mem_cons_self
  have pending := (sound.pending waiter).mp queued
  have ordered := sound.ordered
  rw [first, List.pairwise_cons] at ordered
  subst handed
  constructor
  case arrived =>
    rw [arrivedWaiters_append, settle_waiters_length, history.arrived]
    exact List.append_nil _
  case once =>
    rw [settledWaiters_append]
    exact history.settle_once pending
  case final =>
    intro other member
    rw [settledWaiters_append] at member
    rw [settle_waiters_length]
    exact history.settle_final pending (by decide) member
  case ordered =>
    simp only [admittedWaiters_append, AdmissionReply.settlements, List.pairwise_append]
    simpa [admits?, history.ordered] using
      fun other admitted => history.before other admitted waiter queued
  case before =>
    intro other admitted waiting member
    rw [admittedWaiters_append, List.mem_append] at admitted
    rcases admitted with admitted | admitted
    · exact history.before other admitted waiting
        (by rw [first]; exact List.mem_cons_of_mem _ member)
    · have same : other = waiter := by
        simpa [AdmissionReply.settlements, admits?] using admitted
      rw [same]
      exact ordered.1 waiting member

theorem WaiterHistory.step (history : WaiterHistory past controller)
    (sound : Sound options controller) (step : AdmissionStep options controller event reply next) :
    WaiterHistory (past ++ [⟨controller, event, reply, next⟩]) next := by
  cases step with
  | refused | idle | granted | freed => exact history.silent rfl rfl rfl rfl
  | queued => exact history.queued _ _ rfl
  | handedOver _ _ first => exact history.handedOver sound first _ rfl
  | @failed _ waiter state error final kind pending =>
      have length := settle_waiters_length { controller with queue := controller.queue.erase waiter }
        waiter state
      refine history.reject rfl rfl rfl length (List.nodup_singleton waiter) ?_ ?_ ?_ ?_
      · intro other member
        rw [List.mem_singleton.mp member]
        exact pending
      · intro other member
        rw [List.mem_singleton.mp member, isPending_settle _ final]
        simp
      · intro other settled
        have waiting : isPending { controller with queue := controller.queue.erase waiter } other =
            false := settled
        rw [isPending_settle _ final, waiting, Bool.false_and]
      · intro other member
        exact List.mem_of_mem_erase member
  | closed accepting length drained =>
      have rejected : (controller.queue.map fun waiter =>
          ((waiter, .rejected .closed) : Settled)).map Prod.fst = controller.queue := by
        simp [Function.comp_def]
      have nobody : (controller.queue.map fun waiter =>
          ((waiter, .rejected .closed) : Settled)).filter
            (fun settled => (admits? settled).isSome) = [] := by
        simp [List.filter_eq_nil_iff, admits?]
      refine history.reject rejected nobody rfl length sound.nodup ?_ ?_ ?_ ?_
      · intro waiter queued
        exact (sound.pending waiter).mp queued
      · intro waiter _
        exact drained waiter
      · intro waiter _
        exact drained waiter
      · simp

/-- No permit is granted or released. -/
theorem PermitHistory.silent (history : PermitHistory past controller)
    (ungranted : reply.permits = [])
    (unheld : ∀ permit, event = .release permit → controller.released[permit]? ≠ some false)
    (released : next.released = controller.released)
    (active : next.activeRuns = controller.activeRuns) :
    PermitHistory (past ++ [⟨controller, event, reply, next⟩]) next := by
  have same : outstanding (past ++ [⟨controller, event, reply, next⟩]) = outstanding past := by
    rw [outstanding_append, holdPermits, ungranted, List.append_nil]
    split
    next permit isRelease =>
      apply List.erase_of_not_mem
      rw [history.permits.held permit]
      exact unheld permit isRelease
    next => rfl
  exact {
    granted := by rw [grantedPermits_append, ungranted, List.append_nil, released, history.granted]
    permits := by rw [same, released]; exact history.permits
    active := by rw [same, active]; exact history.active }

theorem PermitHistory.step (history : PermitHistory past controller)
    (step : AdmissionStep options controller event reply next) :
    PermitHistory (past ++ [⟨controller, event, reply, next⟩]) next := by
  cases step with
  | idle unheld => exact history.silent rfl unheld rfl rfl
  | refused | queued | closed =>
      exact history.silent (by simp [AdmissionReply.permits, List.filterMap_map, admits?])
        (fun _ isRelease => by cases isRelease) rfl rfl
  | failed final kind pending =>
      exact history.silent rfl (fun permit isRelease => absurd isRelease (kind.1 permit)) rfl rfl
  | granted accepting free =>
      exact {
        granted := by
          rw [grantedPermits_append, history.granted, List.length_append]
          exact List.range_succ.symm
        permits := by
          rw [outstanding_append]
          exact history.permits.grant
        active := by
          rw [outstanding_append, holdPermits, List.length_append, history.active]
          rfl }
  | @handedOver permit waiter rest accepting held first =>
      have out : permit ∈ outstanding past := (history.permits.held permit).mpr held
      exact {
        granted := by
          rw [grantedPermits_append, history.granted, settle, List.length_append, List.length_set]
          exact List.range_succ.symm
        permits := by
          rw [outstanding_append]
          have granted := (history.permits.giveBack permit).grant
          rw [List.length_set] at granted
          exact granted
        active := by
          have positive := List.length_pos_of_mem out
          rw [outstanding_append, holdPermits, List.length_append, List.length_erase_of_mem out]
          simp only [AdmissionReply.permits, settle, admits?, List.filterMap_cons,
            List.filterMap_nil, List.length_singleton, history.active]
          omega }
  | @freed permit held empty =>
      have out : permit ∈ outstanding past := (history.permits.held permit).mpr held
      exact {
        granted := by
          rw [grantedPermits_append, history.granted, List.length_set]
          exact List.append_nil _
        permits := by
          rw [outstanding_append, holdPermits, AdmissionReply.permits, List.filterMap_nil,
            List.append_nil]
          exact history.permits.giveBack permit
        active := by
          have positive := List.length_pos_of_mem out
          rw [outstanding_append, holdPermits, AdmissionReply.permits, List.filterMap_nil,
            List.append_nil, List.length_erase_of_mem out]
          simp only [history.active]
          omega }

/-- What a release and a close leave behind for the events after them. -/
structure EventHistory (past : AdmissionHistory) (controller : RunAdmission) : Prop where
  marked : ∀ transition ∈ past, ∀ permit, transition.input = .release permit →
    permit < transition.before.released.length → controller.released[permit]? = some true
  again : past.Pairwise fun earlier later => ∀ permit, earlier.input = .release permit →
    permit < earlier.before.released.length → later.input = .release permit →
      later.after = later.before ∧ later.output.settlements = []
  shut : ∀ transition ∈ past, transition.input = .close →
    transition.after.queue = [] ∧ controller.accepting = false
  refuses : past.Pairwise fun earlier later => earlier.input = .close →
    later.after.queue = [] ∧ later.output.permits = []

theorem EventHistory.step (history : EventHistory past controller)
    (sound : Sound options controller) (step : AdmissionStep options controller event reply next) :
    EventHistory (past ++ [⟨controller, event, reply, next⟩]) next where
  marked := by
    intro transition member permit isRelease granted
    rw [List.mem_append, List.mem_singleton] at member
    rcases member with member | rfl
    · exact step.released_stays (history.marked transition member permit isRelease granted)
    · cases isRelease
      exact step.released_marked granted
  again := by
    rw [List.pairwise_append]
    refine ⟨history.again, List.pairwise_singleton _ _, ?_⟩
    intro earlier member later isLast permit isRelease granted repeated
    rw [List.mem_singleton] at isLast
    subst isLast
    cases repeated
    exact step.release_again (history.marked earlier member permit isRelease granted)
  shut := by
    intro transition member isClose
    rw [List.mem_append, List.mem_singleton] at member
    rcases member with member | rfl
    · have closed := history.shut transition member isClose
      exact ⟨closed.1, (step.closed_stays sound closed.2).1⟩
    · cases isClose
      exact ⟨(step.sound sound).closed step.close_refuses, step.close_refuses⟩
  refuses := by
    rw [List.pairwise_append]
    refine ⟨history.refuses, List.pairwise_singleton _ _, ?_⟩
    intro earlier member later isLast isClose
    rw [List.mem_singleton] at isLast
    subst isLast
    have closed := step.closed_stays sound (history.shut earlier member isClose).2
    exact ⟨(step.sound sound).closed closed.1, closed.2⟩

/-- What holds of the controller and its past after every event. -/
structure AdmissionInvariant (options : RunAdmissionControllerOptions) (past : AdmissionHistory)
    (controller : RunAdmission) : Prop where
  sound : Sound options controller
  waiters : WaiterHistory past controller
  permits : PermitHistory past controller
  events : EventHistory past controller

theorem admissionInvariant_new (options : RunAdmissionControllerOptions) :
    AdmissionInvariant options [] {} where
  sound := sound_new options
  waiters := ⟨rfl, .nil, by simp [settledWaiters, settlements], .nil,
    by simp [admittedWaiters, settlements]⟩
  permits := ⟨rfl, ⟨.nil, by simp [outstanding]⟩, rfl⟩
  events := ⟨by simp, .nil, by simp, .nil⟩

theorem AdmissionInvariant.step (invariant : AdmissionInvariant options past controller)
    (event : AdmissionEvent) :
    AdmissionInvariant options (past ++ [(admission options).fire controller event])
      ((admission options).step controller event).2 := by
  have step := admissionStep invariant.sound event
  exact ⟨step.sound invariant.sound, invariant.waiters.step invariant.sound step,
    invariant.permits.step step, invariant.events.step invariant.sound step⟩

end Histories

/-- Admission of runs after any sequence of events: slots are the permits that are
out, the queue holds waiters that are pending and is empty while a slot is free,
waiters are admitted in the order of their arrival and settled once, a permit is
given back once, and a closed controller grants nothing. -/
theorem run_admission (options : RunAdmissionControllerOptions) (events : List AdmissionEvent) :
    let past := (admission options).trace {} events
    let controller := (admission options).exec {} events
    (controller.activeRuns = (outstanding past).length ∧
      0 ≤ controller.activeRuns ∧ controller.activeRuns ≤ options.maxConcurrentRuns) ∧
    (controller.queue.length ≤ options.maxQueuedRuns ∧
      ∀ waiter, waiter ∈ controller.queue ↔ controller.isPending waiter = true) ∧
    (controller.accepting = true → controller.queue ≠ [] →
      controller.activeRuns = options.maxConcurrentRuns) ∧
    (arrivedWaiters past = List.range controller.waiters.length ∧
      (admittedWaiters past).Pairwise (· < ·)) ∧
    ((settledWaiters past).Nodup ∧
      ∀ waiter ∈ settledWaiters past, controller.isPending waiter = false) ∧
    (grantedPermits past = List.range controller.released.length ∧
      past.Pairwise fun earlier later => ∀ permit, earlier.input = .release permit →
        permit < earlier.before.released.length → later.input = .release permit →
          later.after = later.before ∧ later.output.settlements = []) ∧
    (∀ transition ∈ past, transition.input = .close → transition.after.queue = []) ∧
      past.Pairwise fun earlier later => earlier.input = .close →
        later.after.queue = [] ∧ later.output.permits = [] := by
  intro past controller
  have invariant : AdmissionInvariant options past controller :=
    (admission options).exec_history (fun _ _ event invariant => invariant.step event)
      (admissionInvariant_new options) events
  have ⟨sound, waiters, permits, history⟩ := invariant
  have active : 0 ≤ controller.activeRuns := by
    rw [permits.active]
    exact Int.natCast_nonneg _
  exact ⟨⟨permits.active, active, sound.bounded⟩, ⟨sound.room, sound.pending⟩, sound.busy,
    ⟨waiters.arrived, waiters.ordered⟩,
    ⟨waiters.once, fun waiter member => (waiters.final waiter member).2⟩,
    ⟨permits.granted, history.again⟩,
    fun transition member isClose => (history.shut transition member isClose).1, history.refuses⟩

end AgentRuntime.Runtime
