import AgentRuntime.Library.Sequence
import AgentRuntime.Runtime.RunAdmissionLaw
import AgentRuntime.Runtime.RuntimeLifecycle

/-!
# The law of draining

Every run that is queued or admitted has entered the lifecycle and did not leave it, so a
runtime that has stopped has none.  A drain closes the admission, and its callers are told
when the last run leaves.
-/

namespace AgentRuntime.Runtime

open AgentRuntime.Library RunAdmission

/-! ## Runs -/

/-- The permit that a run holds. -/
def RunPhase.permit? : RunPhase → Option Nat
  | .admitted permit => some permit
  | _ => none

/-- The waiter that a run waits for. -/
def RunPhase.waiter? : RunPhase → Option Nat
  | .waiting waiter => some waiter
  | _ => none

/-- The run has not left the lifecycle. -/
def RunPhase.live : RunPhase → Bool
  | .ended => false
  | _ => true

theorem RunPhase.settle_nil (phase : RunPhase) : phase.settle [] = phase := by
  cases phase <;> rfl

@[simp] theorem RunPhase.live_settle (settled : List Settled) (phase : RunPhase) :
    (phase.settle settled).live = phase.live := by
  cases phase with
  | waiting waiter =>
      rw [RunPhase.settle]
      split <;> rfl
  | admitted | rejected | ended => rfl

/-- The runs that still wait are the ones whose waiters are not settled. -/
theorem waiters_settle (settled : List Settled) (runs : List RunPhase) :
    (runs.map (RunPhase.settle settled)).filterMap RunPhase.waiter? =
      (runs.filterMap RunPhase.waiter?).filter fun waiter => (settled.lookup waiter).isNone := by
  induction runs with
  | nil => rfl
  | cons phase rest ih =>
      cases phase with
      | waiting waiter =>
          simp only [List.map_cons, RunPhase.settle, List.filterMap_cons]
          cases found : settled.lookup waiter with
          | none => simpa [RunPhase.waiter?, found] using ih
          | some settlement => cases settlement <;> simpa [RunPhase.waiter?, found] using ih
      | admitted | rejected | ended => exact ih

/-- The permits of the runs are the ones that they had and the ones that they are given. -/
theorem permits_settle (settled : List Settled) (runs : List RunPhase) :
    ((runs.map (RunPhase.settle settled)).filterMap RunPhase.permit?).Perm
      (runs.filterMap RunPhase.permit? ++ (runs.filterMap RunPhase.waiter?).filterMap fun waiter =>
        (settled.lookup waiter).bind fun settlement => admits? (waiter, settlement)) := by
  induction runs with
  | nil => rfl
  | cons phase rest ih =>
      cases phase with
      | waiting waiter =>
          simp only [List.map_cons, RunPhase.settle, List.filterMap_cons, RunPhase.waiter?]
          cases found : settled.lookup waiter with
          | none => exact ih
          | some settlement =>
              cases settlement with
              | resolved permit => exact (ih.cons permit).trans List.perm_middle.symm
              | rejected error => exact ih
      | admitted permit => exact ih.cons permit
      | rejected | ended => exact ih

/-- A run is queued or admitted only while it is live. -/
theorem placed_le_live (runs : List RunPhase) :
    (runs.filterMap RunPhase.permit?).length + (runs.filterMap RunPhase.waiter?).length ≤
      runs.countP RunPhase.live := by
  induction runs with
  | nil => exact Nat.le_refl 0
  | cons phase rest ih =>
      cases phase <;>
        simp only [RunPhase.permit?, RunPhase.waiter?, RunPhase.live, List.filterMap_cons,
          List.length_cons, List.countP_cons] <;> simp <;> omega

theorem HeldPermits.perm {out other : List Nat} {released : List Bool}
    (permits : HeldPermits out released) (same : other.Perm out) : HeldPermits other released where
  nodup := same.nodup_iff.mpr permits.nodup
  held permit := same.mem_iff.trans (permits.held permit)

/-! ## The runs and the admission -/

/-- The runs and the controller agree about who waits and who holds a permit. -/
structure Placed (options : RunAdmissionControllerOptions) (runs : List RunPhase)
    (controller : RunAdmission) : Prop where
  sound : Sound options controller
  queued : (runs.filterMap RunPhase.waiter?).Perm controller.queue
  permits : HeldPermits (runs.filterMap RunPhase.permit?) controller.released
  active : controller.activeRuns = (runs.filterMap RunPhase.permit?).length

section Placed

variable {options : RunAdmissionControllerOptions} {runs : List RunPhase}
  {controller next : RunAdmission} {event : AdmissionEvent} {settled : List Settled}

/-- No waiter is admitted when none is in the list. -/
theorem rejecting_lookup (rejects : ∀ settlement ∈ settled, admits? settlement = none) :
    ∀ waiter settlement, settled.lookup waiter = some settlement →
      admits? (waiter, settlement) = none := by
  intro waiter settlement found
  obtain ⟨before, after, split, -⟩ := List.lookup_eq_some_iff.mp found
  exact rejects _ (by rw [split]; simp)

theorem lookup_other {waiter other : Nat} {settlement : Settlement} (different : other ≠ waiter) :
    List.lookup other [(waiter, settlement)] = none := by
  simpa [List.lookup_eq_none_iff] using different

/-- One settled waiter is taken out of the queue. -/
theorem filter_lookup {queue : List Nat} {waiter : Nat} {settlement : Settlement}
    (nodup : queue.Nodup) :
    (queue.filter fun other => (List.lookup other [(waiter, settlement)]).isNone) =
      queue.erase waiter := by
  rw [nodup.erase_eq_filter]
  apply List.filter_congr
  intro other _
  by_cases same : other = waiter
  · subst same
    simp
  · simp [lookup_other same, same]

/-- Settling without a permit keeps the permits. -/
theorem permits_kept (rejects : ∀ waiter settlement, settled.lookup waiter = some settlement →
      admits? (waiter, settlement) = none) :
    ((runs.map (RunPhase.settle settled)).filterMap RunPhase.permit?).Perm
      (runs.filterMap RunPhase.permit?) := by
  have nobody : ((runs.filterMap RunPhase.waiter?).filterMap fun waiter =>
      (settled.lookup waiter).bind fun settlement => admits? (waiter, settlement)) = [] := by
    rw [List.filterMap_eq_nil_iff]
    intro waiter _
    cases found : settled.lookup waiter with
    | none => rfl
    | some settlement => exact rejects waiter settlement found
  have kept := permits_settle settled runs
  rwa [nobody, List.append_nil] at kept

/-- The waiters that are left in the queue, and the runs that hold the same permits. -/
theorem Placed.rejecting (placed : Placed options runs controller)
    (sound : Sound options next)
    (rejects : ∀ waiter settlement, settled.lookup waiter = some settlement →
      admits? (waiter, settlement) = none)
    (queue : next.queue = controller.queue.filter fun waiter => (settled.lookup waiter).isNone)
    (released : next.released = controller.released)
    (active : next.activeRuns = controller.activeRuns) :
    Placed options (runs.map (RunPhase.settle settled)) next where
  sound := sound
  queued := by
    rw [waiters_settle, queue]
    exact placed.queued.filter _
  permits := by
    rw [released]
    exact placed.permits.perm (permits_kept rejects)
  active := by rw [active, (permits_kept rejects).length_eq, placed.active]

/-- A waiter that is rejected leaves the queue. -/
theorem Placed.reject (placed : Placed options runs controller)
    (step : AdmissionStep options controller event (.settled settled) next)
    (kind : ∀ permit, event ≠ .release permit) :
    Placed options (runs.map (RunPhase.settle settled)) next := by
  have sound := step.sound placed.sound
  cases step with
  | idle => exact placed.rejecting sound (fun _ _ found => by cases found) (by simp) rfl rfl
  | handedOver => exact absurd rfl (kind _)
  | freed => exact absurd rfl (kind _)
  | @failed _ waiter state error final _ pending =>
      refine placed.rejecting sound (rejecting_lookup (by simp [admits?])) ?_ rfl rfl
      exact (filter_lookup placed.sound.nodup).symm
  | closed accepting length drained =>
      refine placed.rejecting sound (rejecting_lookup (by simp [admits?])) ?_ rfl rfl
      symm
      rw [List.filter_eq_nil_iff]
      intro waiter member
      simpa [List.lookup_eq_none_iff] using member

/-- A run that ends takes its permit out of the held ones. -/
theorem permits_end {run permit : Nat} (found : runs[run]? = some (.admitted permit)) :
    (permit :: (runs.set run .ended).filterMap RunPhase.permit?).Perm
      (runs.filterMap RunPhase.permit?) :=
  (perm_set found .ended).filterMap RunPhase.permit?

theorem waiters_end {run : Nat} {phase : RunPhase} (found : runs[run]? = some phase)
    (idle : phase.waiter? = none) :
    ((runs.set run .ended).filterMap RunPhase.waiter?).Perm (runs.filterMap RunPhase.waiter?) := by
  have same := (perm_set found .ended).filterMap RunPhase.waiter?
  rwa [List.filterMap_cons, idle] at same

/-- A settled run is no other run. -/
theorem settle_admitted {run permit : Nat} (found : runs[run]? = some (.admitted permit)) :
    (runs.map (RunPhase.settle settled))[run]? = some (.admitted permit) := by
  rw [List.getElem?_map, found]
  rfl

/-- The first waiter is given the permit. -/
theorem Placed.permits_given (placed : Placed options runs controller) {waiter permit : Nat}
    {rest : List Nat} (first : controller.queue = waiter :: rest) :
    ((runs.filterMap RunPhase.waiter?).filterMap fun other =>
      (List.lookup other [(waiter, Settlement.resolved permit)]).bind fun settlement =>
        admits? (other, settlement)).Perm [permit] := by
  have nodup := placed.sound.nodup
  rw [first, List.nodup_cons] at nodup
  refine (placed.queued.filterMap _).trans ?_
  have others : rest.filterMap (fun other =>
      (List.lookup other [(waiter, Settlement.resolved permit)]).bind fun settlement =>
        admits? (other, settlement)) = [] := by
    rw [List.filterMap_eq_nil_iff]
    intro other member
    rw [lookup_other fun (same : other = waiter) => nodup.1 (same ▸ member)]
    rfl
  rw [first, List.filterMap_cons, others, List.lookup_cons_self]
  rfl

/-- A run gives its permit back: the first waiter is admitted, or the slot is free. -/
theorem Placed.release (placed : Placed options runs controller) {run permit : Nat}
    (found : runs[run]? = some (.admitted permit))
    (step : AdmissionStep options controller (.release permit) (.settled settled) next) :
    Placed options ((runs.map (RunPhase.settle settled)).set run .ended) next := by
  have sound := step.sound placed.sound
  have out : permit ∈ runs.filterMap RunPhase.permit? :=
    (permits_end found).mem_iff.mp List.mem_cons_self
  have held := (placed.permits.held permit).mp out
  have waiting : (((runs.map (RunPhase.settle settled)).set run .ended).filterMap
      RunPhase.waiter?).Perm
        (controller.queue.filter fun waiter => (settled.lookup waiter).isNone) := by
    refine (waiters_end (settle_admitted found) rfl).trans ?_
    rw [waiters_settle]
    exact placed.queued.filter _
  cases step with
  | idle unheld => exact absurd held (unheld permit rfl)
  | failed _ kind => exact absurd rfl (kind.1 permit)
  | @handedOver _ waiter rest accepting _ first =>
      have kept : (((runs.map (RunPhase.settle
          [(waiter, .resolved controller.released.length)])).set run .ended).filterMap
            RunPhase.permit?).Perm
              ((runs.filterMap RunPhase.permit?).erase permit ++ [controller.released.length]) := by
        apply List.Perm.cons_inv (a := permit)
        calc
          List.Perm _ _ := permits_end (settle_admitted found)
          List.Perm _ _ := permits_settle _ runs
          List.Perm _ (runs.filterMap RunPhase.permit? ++ [controller.released.length]) :=
            (placed.permits_given first).append_left _
          List.Perm _ _ := (List.perm_cons_erase out).append_right _
      have granted := (placed.permits.giveBack permit).grant
      rw [List.length_set] at granted
      exact {
        sound := sound
        queued := by
          rw [filter_lookup placed.sound.nodup, first, List.erase_cons_head] at waiting
          exact waiting
        permits := granted.perm kept
        active := by
          have positive := List.length_pos_of_mem out
          rw [kept.length_eq, List.length_append, List.length_erase_of_mem out,
            List.length_singleton]
          simp only [settle, placed.active]
          omega }
  | freed _ empty =>
      have kept : (((runs.map (RunPhase.settle [])).set run .ended).filterMap
          RunPhase.permit?).Perm ((runs.filterMap RunPhase.permit?).erase permit) := by
        rw [funext RunPhase.settle_nil, List.map_id']
        exact (List.Perm.cons_inv ((permits_end found).trans (List.perm_cons_erase out)))
      exact {
        sound := sound
        queued := by simpa [empty] using waiting
        permits := (placed.permits.giveBack permit).perm kept
        active := by
          rw [kept.length_eq, List.length_erase_of_mem out]
          have positive := List.length_pos_of_mem out
          simp only [placed.active]
          omega }

theorem filterMap_concat (read : RunPhase → Option Nat) (phase : RunPhase) :
    (runs ++ [phase]).filterMap read = runs.filterMap read ++ (read phase).toList := by
  rw [List.filterMap_append]
  cases found : read phase <;> simp [found]

/-- A new run is admitted, queued or rejected. -/
theorem Placed.acquire (placed : Placed options runs controller) {timeoutMs : Option TimeoutMs}
    {signal : Option Bool} {acquired : Acquired}
    (step : AdmissionStep options controller (.acquire timeoutMs signal) (.acquired acquired) next) :
    Placed options (runs ++ [.acquired acquired]) next := by
  have sound := step.sound placed.sound
  constructor
  case sound => exact sound
  all_goals rw [filterMap_concat]
  case queued =>
    cases step with
    | refused | granted => simpa [RunPhase.acquired, RunPhase.waiter?] using placed.queued
    | queued => exact placed.queued.append_right _
  case permits =>
    cases step with
    | refused | queued => simpa [RunPhase.acquired, RunPhase.permit?] using placed.permits
    | granted => simpa [RunPhase.acquired, RunPhase.permit?] using placed.permits.grant
  case active =>
    cases step with
    | refused | queued => simpa [RunPhase.acquired, RunPhase.permit?] using placed.active
    | granted => simp [RunPhase.acquired, RunPhase.permit?, placed.active]

/-- A run whose `acquire` threw leaves. -/
theorem Placed.leave (placed : Placed options runs controller) {run : Nat}
    {error : RunAdmissionError} (found : runs[run]? = some (.rejected error)) :
    Placed options (runs.set run .ended) controller where
  sound := placed.sound
  queued := (waiters_end found rfl).trans placed.queued
  permits := placed.permits.perm ((perm_set found .ended).filterMap RunPhase.permit?)
  active := by
    rw [placed.active]
    exact congrArg _ ((perm_set found .ended).filterMap RunPhase.permit?).length_eq.symm

end Placed

/-! ## The lifecycle -/

/-- A draining runtime still has runs, a stopped one has none. -/
structure LifecycleSound (lifecycle : RuntimeLifecycle) : Prop where
  draining : lifecycle.state = .draining → lifecycle.activeRuns ≠ 0
  stopped : lifecycle.state = .stopped → lifecycle.activeRuns = 0

/-- The callers that wait for the drain, and the ones that were told: all of them once the
runtime has stopped, and none before. -/
structure Told (drains : Nat) (told : List Nat) (lifecycle : RuntimeLifecycle) : Prop where
  waiting : lifecycle.drainWaiters = if lifecycle.state = .stopped then [] else List.range drains
  told : told = if lifecycle.state = .stopped then List.range drains else []

/-- The lifecycle goes on from running to draining to stopped. -/
structure LifecycleStep (lifecycle next : RuntimeLifecycle) (drained : List Nat) : Prop where
  stopped : lifecycle.state = .stopped → next.state = .stopped
  running : next.state = .running → lifecycle.state = .running
  told : ∀ drains told, Told drains told lifecycle → Told drains (told ++ drained) next

section Lifecycle

variable {lifecycle : RuntimeLifecycle}

theorem finishDrain_step :
    LifecycleStep lifecycle lifecycle.finishDrainIfPossible.2 lifecycle.finishDrainIfPossible.1 := by
  rw [RuntimeLifecycle.finishDrainIfPossible]
  split
  next =>
    exact ⟨id, id, fun drains told known => by simpa using known⟩
  next finishes =>
    simp only [not_or, ne_eq, Decidable.not_not] at finishes
    refine ⟨fun _ => rfl, fun running => (by cases running), fun drains told known => ?_⟩
    have waiting := known.waiting
    have silent := known.told
    rw [finishes.1] at waiting silent
    exact ⟨rfl, by rw [silent, waiting]; rfl⟩

/-- A drain that can finish has finished. -/
theorem finishDrain_sound (stopped : lifecycle.state = .stopped → lifecycle.activeRuns = 0) :
    LifecycleSound lifecycle.finishDrainIfPossible.2 := by
  rw [RuntimeLifecycle.finishDrainIfPossible]
  split
  next unfinished =>
    refine ⟨fun draining => ?_, stopped⟩
    rcases unfinished with other | active
    · exact absurd draining other
    · exact active
  next finishes =>
    simp only [not_or, ne_eq, Decidable.not_not] at finishes
    exact ⟨fun draining => (by cases draining), fun _ => finishes.2⟩

@[simp] theorem finishDrain_activeRuns :
    lifecycle.finishDrainIfPossible.2.activeRuns = lifecycle.activeRuns := by
  rw [RuntimeLifecycle.finishDrainIfPossible]
  split <;> rfl

@[simp] theorem finishDrain_left :
    lifecycle.finishDrainIfPossible.2.left = lifecycle.left := by
  rw [RuntimeLifecycle.finishDrainIfPossible]
  split <;> rfl

theorem LifecycleStep.of_change {changed next : RuntimeLifecycle} {drained : List Nat}
    (step : LifecycleStep changed next drained)
    (state : changed.state = .stopped ↔ lifecycle.state = .stopped)
    (running : changed.state = .running → lifecycle.state = .running)
    (waiters : changed.drainWaiters = lifecycle.drainWaiters) :
    LifecycleStep lifecycle next drained where
  stopped stopped := step.stopped (state.mpr stopped)
  running stays := running (step.running stays)
  told drains told known := by
    apply step.told drains told
    exact ⟨by rw [waiters, known.waiting]; simp only [state], by
      rw [known.told]; simp only [state]⟩

theorem leave_step (run : Nat) :
    LifecycleStep lifecycle (lifecycle.leave run).2 (lifecycle.leave run).1 := by
  rw [RuntimeLifecycle.leave]
  split
  next => exact finishDrain_step.of_change Iff.rfl id rfl
  next => exact ⟨id, id, fun drains told known => by simpa using known⟩

theorem beginDrain_step :
    LifecycleStep lifecycle lifecycle.beginDrain.2 lifecycle.beginDrain.1 ∧
      lifecycle.beginDrain.2.state ≠ .running := by
  rw [RuntimeLifecycle.beginDrain]
  split
  next stopped =>
    exact ⟨⟨id, id, fun drains told known => by simpa using known⟩, by simp [stopped]⟩
  next alive =>
    have step := @finishDrain_step { lifecycle with state := .draining }
    refine ⟨step.of_change (by simp [alive]) (fun running => by cases running) rfl, ?_⟩
    intro running
    cases step.running running

theorem waitForDrain_told {drains : Nat} {told : List Nat} (known : Told drains told lifecycle) :
    Told (drains + 1) (told ++ (lifecycle.waitForDrain drains).1)
      (lifecycle.waitForDrain drains).2 := by
  have begun := beginDrain_step.1.told drains told known
  simp only [RuntimeLifecycle.waitForDrain]
  split
  next stopped =>
    have waiting := begun.waiting
    have all := begun.told
    rw [if_pos stopped] at waiting all
    refine ⟨by rw [if_pos stopped, waiting], ?_⟩
    rw [if_pos stopped, List.range_succ, ← List.append_assoc, all]
  next alive =>
    have waiting := begun.waiting
    have nobody := begun.told
    rw [if_neg alive] at waiting nobody
    refine ⟨by rw [if_neg alive, List.range_succ, waiting], ?_⟩
    rw [if_neg alive, nobody]

theorem leave_running (run : Nat) (running : lifecycle.state = .running) :
    (lifecycle.leave run).2.state = .running := by
  rw [RuntimeLifecycle.leave]
  split
  next =>
    rw [RuntimeLifecycle.finishDrainIfPossible, if_pos (Or.inl (by simp [running]))]
    exact running
  next => exact running

/-- What beginning a drain keeps. -/
theorem beginDrain_kept (sound : LifecycleSound lifecycle) :
    LifecycleSound lifecycle.beginDrain.2 ∧
      lifecycle.beginDrain.2.activeRuns = lifecycle.activeRuns ∧
      lifecycle.beginDrain.2.left = lifecycle.left := by
  rw [RuntimeLifecycle.beginDrain]
  split
  next => exact ⟨sound, rfl, rfl⟩
  next =>
    refine ⟨finishDrain_sound (fun stopped => by cases stopped), ?_, ?_⟩
    · exact finishDrain_activeRuns
    · exact finishDrain_left

/-- A caller only adds itself to the ones that wait. -/
theorem waitForDrain_eq (caller : Nat) :
    ∃ drainWaiters, (lifecycle.waitForDrain caller).2 =
      { lifecycle.beginDrain.2 with drainWaiters } := by
  simp only [RuntimeLifecycle.waitForDrain]
  split
  next => exact ⟨_, rfl⟩
  next => exact ⟨_, rfl⟩

end Lifecycle

/-! ## The runtime -/

/-- The permits that an event grants. -/
def RuntimeReply.permits (reply : RuntimeReply) : List Nat :=
  (reply.acquired.map fun acquired => (AdmissionReply.acquired acquired).permits).getD [] ++
    reply.settled.filterMap admits?

/-- The event begins a drain. -/
def RuntimeEvent.begins : RuntimeEvent → Bool
  | .beginDrain | .drain => true
  | _ => false

/-- The event is a call of `drain`. -/
def RuntimeEvent.waits : RuntimeEvent → Bool
  | .drain => true
  | _ => false

/-- The runs agree with the admission and with the lifecycle, and only a running runtime
accepts runs. -/
structure RuntimeSound (options : RunAdmissionControllerOptions)
    (runtime : ProductionAgentRuntime) : Prop where
  placed : Placed options runtime.runs runtime.admission
  left : runtime.lifecycle.left = runtime.runs.map fun phase => !phase.live
  entered : runtime.lifecycle.activeRuns = runtime.runs.countP RunPhase.live
  closed : runtime.lifecycle.state ≠ .running → runtime.admission.accepting = false
  lifecycle : LifecycleSound runtime.lifecycle

/-- What an event does. -/
structure RuntimeStep (options : RunAdmissionControllerOptions) (runtime : ProductionAgentRuntime)
    (event : RuntimeEvent) (reply : RuntimeReply) (next : ProductionAgentRuntime) : Prop where
  sound : RuntimeSound options next
  stopped : runtime.lifecycle.state = .stopped → next.lifecycle.state = .stopped
  running : next.lifecycle.state = .running →
    runtime.lifecycle.state = .running ∧ event.begins = false
  refuses : runtime.lifecycle.state ≠ .running ∨ event.begins = true → reply.permits = []
  callers : next.drains = runtime.drains + if event.waits then 1 else 0
  told : ∀ told, Told runtime.drains told runtime.lifecycle →
    Told next.drains (told ++ reply.drained) next.lifecycle

section Runtime

variable {options : RunAdmissionControllerOptions} {runtime : ProductionAgentRuntime}

theorem runtimeStep_idle {event : RuntimeEvent} (sound : RuntimeSound options runtime)
    (idle : event.begins = false) : RuntimeStep options runtime event {} runtime where
  sound := sound
  stopped := id
  running running := ⟨running, idle⟩
  refuses _ := rfl
  callers := by cases event <;> first | rfl | cases idle
  told told known := by simpa using known

theorem runtimeStep_run (sound : RuntimeSound options runtime) {timeoutMs : Option TimeoutMs}
    {signal : Option Bool} :
    RuntimeStep options runtime (.run timeoutMs signal)
      (runtime.enter options timeoutMs signal).1 (runtime.enter options timeoutMs signal).2 := by
  by_cases running : runtime.lifecycle.state = .running
  · have entered : runtime.lifecycle.enterRun = some (runtime.lifecycle.left.length,
        { runtime.lifecycle with
          activeRuns := runtime.lifecycle.activeRuns + 1
          left := runtime.lifecycle.left ++ [false] }) := if_neg (not_not.mpr running)
    have step := @admissionStep_acquire options runtime.admission timeoutMs signal
    simp only [ProductionAgentRuntime.enter, entered]
    generalize runtime.admission.acquire options timeoutMs signal = result at step
    obtain ⟨acquired, admission⟩ := result
    have live : (RunPhase.acquired acquired).live = true := by cases acquired <;> rfl
    exact {
      sound := {
        placed := sound.placed.acquire step
        left := by simp [sound.left, live]
        entered := by simp [sound.entered, live]
        closed := fun drained => absurd running drained
        lifecycle := ⟨fun draining => (by cases running.symm.trans draining),
          fun stopped => (by cases running.symm.trans stopped)⟩ }
      stopped := fun stopped => (by cases running.symm.trans stopped)
      running := fun _ => ⟨running, rfl⟩
      refuses := by
        rintro (drained | begins)
        · exact absurd running drained
        · cases begins
      callers := rfl
      told := fun told known =>
        ⟨known.waiting, (List.append_nil told).trans known.told⟩ }
  · have refused : runtime.lifecycle.enterRun = none := if_pos running
    simp only [ProductionAgentRuntime.enter, refused]
    exact runtimeStep_idle sound rfl

/-- A waiter is rejected, which no run of a drained runtime waits for. -/
theorem runtimeStep_reject (sound : RuntimeSound options runtime) {event : RuntimeEvent}
    {label : AdmissionEvent} {settled : List Settled} {admission : RunAdmission}
    (idle : event.begins = false) (kind : ∀ permit, label ≠ .release permit)
    (step : AdmissionStep options runtime.admission label (.settled settled) admission) :
    RuntimeStep options runtime event (runtime.reject (settled, admission)).1
      (runtime.reject (settled, admission)).2 where
  sound := {
    placed := sound.placed.reject step kind
    left := by simp [ProductionAgentRuntime.reject, ProductionAgentRuntime.settle, sound.left]
    entered := by
      simp [ProductionAgentRuntime.reject, ProductionAgentRuntime.settle, sound.entered,
        List.countP_map, Function.comp_def]
    closed := fun drained => (step.closed_stays sound.placed.sound (sound.closed drained)).1
    lifecycle := sound.lifecycle }
  stopped := id
  running running := ⟨running, idle⟩
  refuses := by
    rintro (drained | begins)
    · exact (step.closed_stays sound.placed.sound (sound.closed drained)).2
    · rw [idle] at begins
      cases begins
  callers := by cases event <;> first | rfl | cases idle
  told told known := ⟨known.waiting, (List.append_nil told).trans known.told⟩

/-- A run that has ended its `acquire` or its work leaves. -/
theorem runtimeStep_leave (sound : RuntimeSound options runtime) {event : RuntimeEvent} {run : Nat}
    {phase : RunPhase} {settled : List Settled} {admission : RunAdmission}
    (idle : event.begins = false) (found : runtime.runs[run]? = some phase)
    (live : phase.live = true) (still : phase.settle settled = phase)
    (placed : Placed options ((runtime.settle settled).set run .ended) admission)
    (closed : runtime.admission.accepting = false →
      admission.accepting = false ∧ settled.filterMap admits? = []) :
    RuntimeStep options runtime event ⟨none, settled, (runtime.lifecycle.leave run).1⟩
      { runtime with
        lifecycle := (runtime.lifecycle.leave run).2
        admission
        runs := (runtime.settle settled).set run .ended } := by
  have unsettled : (runtime.settle settled)[run]? = some phase := by
    rw [ProductionAgentRuntime.settle, List.getElem?_map, found, Option.map_some, still]
  have inside : runtime.lifecycle.left[run]? = some false := by
    rw [sound.left, List.getElem?_map, found, Option.map_some, live]
    rfl
  have count : ((runtime.settle settled).set run .ended).countP RunPhase.live + 1 =
      runtime.runs.countP RunPhase.live := by
    have same := (perm_set unsettled .ended).countP_eq RunPhase.live
    have kept : (runtime.settle settled).countP RunPhase.live =
        runtime.runs.countP RunPhase.live := by
      simp [ProductionAgentRuntime.settle, List.countP_map, Function.comp_def]
    rw [List.countP_cons_of_pos live, List.countP_cons_of_neg (by simp [RunPhase.live])] at same
    exact same.trans kept
  have left : runtime.lifecycle.left.set run true =
      ((runtime.settle settled).set run .ended).map fun phase => !phase.live := by
    have same : (fun phase : RunPhase => !phase.live) ∘ RunPhase.settle settled =
        fun phase => !phase.live := funext fun phase => by simp
    rw [List.map_set, sound.left, ProductionAgentRuntime.settle, List.map_map, same]
    rfl
  have leaves : runtime.lifecycle.leave run = RuntimeLifecycle.finishDrainIfPossible
      { runtime.lifecycle with
        activeRuns := runtime.lifecycle.activeRuns - 1
        left := runtime.lifecycle.left.set run true } := if_pos inside
  have unstopped : runtime.lifecycle.state ≠ .stopped := by
    intro stopped
    have none_active := sound.lifecycle.stopped stopped
    rw [sound.entered] at none_active
    omega
  have step := @leave_step runtime.lifecycle run
  exact {
    sound := {
      placed := placed
      left := by simp only [leaves, finishDrain_left, left]
      entered := by
        simp only [leaves, finishDrain_activeRuns, sound.entered]
        omega
      closed := by
        intro drained
        apply (closed (sound.closed _)).1
        exact fun running => drained (leave_running run running)
      lifecycle := by
        simp only [leaves]
        exact finishDrain_sound fun stopped => absurd stopped unstopped }
    stopped := step.stopped
    running := fun running => ⟨step.running running, idle⟩
    refuses := by
      rintro (drained | begins)
      · exact (closed (sound.closed drained)).2
      · rw [idle] at begins
        cases begins
    callers := by cases event <;> first | rfl | cases idle
    told := fun told known => step.told _ told known }

theorem runtimeStep_exit (sound : RuntimeSound options runtime) {event : RuntimeEvent} {run : Nat}
    (idle : event.begins = false) :
    RuntimeStep options runtime event (runtime.exit run).1 (runtime.exit run).2 := by
  simp only [ProductionAgentRuntime.exit]
  split
  next permit found =>
    have step := @admissionStep_release options runtime.admission sound.placed.sound permit
    exact runtimeStep_leave sound idle found rfl rfl (sound.placed.release found step)
      fun refusing => step.closed_stays sound.placed.sound refusing
  next error found =>
    have unsettled : runtime.settle [] = runtime.runs := by
      rw [ProductionAgentRuntime.settle, funext RunPhase.settle_nil, List.map_id']
    refine runtimeStep_leave sound idle found rfl rfl ?_ fun refusing => ⟨refusing, rfl⟩
    rw [unsettled]
    exact sound.placed.leave found
  next => exact runtimeStep_idle sound idle

/-- A drain closes the admission and rejects the runs that wait. -/
theorem runtimeSound_beginDrain (sound : RuntimeSound options runtime) :
    RuntimeSound options runtime.beginDrain.2 ∧ runtime.beginDrain.1.permits = [] := by
  obtain ⟨lifecycle, active, left⟩ := beginDrain_kept sound.lifecycle
  have step := admissionStep_close sound.placed.sound
  have rejects : runtime.admission.close.1.filterMap admits? = [] := by
    generalize runtime.admission.close = result at step
    obtain ⟨settled, admission⟩ := result
    cases step with
    | idle => rfl
    | failed _ kind => exact absurd rfl kind.2
    | closed => simp [List.filterMap_map, admits?]
  refine ⟨?_, rejects⟩
  exact {
    placed := sound.placed.reject step (fun _ same => by cases same)
    left := by
      simp [ProductionAgentRuntime.beginDrain, ProductionAgentRuntime.settle, left, sound.left]
    entered := by
      simp [ProductionAgentRuntime.beginDrain, ProductionAgentRuntime.settle, active, sound.entered,
        List.countP_map, Function.comp_def]
    closed := fun _ => step.close_refuses
    lifecycle := lifecycle }

theorem runtimeStep_beginDrain (sound : RuntimeSound options runtime) :
    RuntimeStep options runtime .beginDrain runtime.beginDrain.1 runtime.beginDrain.2 := by
  obtain ⟨begun, silent⟩ := runtimeSound_beginDrain sound
  obtain ⟨step, drained⟩ := @beginDrain_step runtime.lifecycle
  exact {
    sound := begun
    stopped := step.stopped
    running := fun running => absurd running drained
    refuses := fun _ => silent
    callers := rfl
    told := step.told _ }

/-- A caller of `drain` begins the drain and waits for its end. -/
theorem runtimeStep_drain (sound : RuntimeSound options runtime) :
    RuntimeStep options runtime .drain runtime.drain.1 runtime.drain.2 := by
  have begun := runtimeStep_beginDrain sound
  obtain ⟨again, kept, left⟩ := beginDrain_kept begun.sound.lifecycle
  obtain ⟨step, drained⟩ := @beginDrain_step runtime.beginDrain.2.lifecycle
  obtain ⟨drainWaiters, after⟩ :=
    @waitForDrain_eq runtime.beginDrain.2.lifecycle runtime.beginDrain.2.drains
  have lifecycle : runtime.drain.2.lifecycle =
    { runtime.beginDrain.2.lifecycle.beginDrain.2 with drainWaiters } := after
  exact {
    sound := {
      placed := begun.sound.placed
      left := by
        rw [lifecycle]
        exact left.trans begun.sound.left
      entered := by
        rw [lifecycle]
        exact kept.trans begun.sound.entered
      closed := fun _ => (runtimeSound_beginDrain sound).1.closed beginDrain_step.2
      lifecycle := by
        rw [lifecycle]
        exact ⟨again.draining, again.stopped⟩ }
    stopped := fun stopped => by
      rw [lifecycle]
      exact step.stopped (begun.stopped stopped)
    running := fun running => by
      rw [lifecycle] at running
      exact absurd running drained
    refuses := begun.refuses
    callers := rfl
    told := fun told known => by
      have waited := waitForDrain_told (begun.told told known)
      rw [List.append_assoc] at waited
      exact waited }

theorem runtimeStep (sound : RuntimeSound options runtime) (event : RuntimeEvent) :
    RuntimeStep options runtime event ((productionRuntime options).step runtime event).1
      ((productionRuntime options).step runtime event).2 := by
  cases event with
  | run => exact runtimeStep_run sound
  | timeout waiter =>
      exact runtimeStep_reject sound rfl (fun _ => by simp)
        (admissionStep sound.placed.sound (.timeout waiter))
  | abort waiter =>
      exact runtimeStep_reject sound rfl (fun _ => by simp)
        (admissionStep sound.placed.sound (.abort waiter))
  | finish run =>
      simp only [productionRuntime, ProductionAgentRuntime.step]
      split
      next => exact runtimeStep_exit sound rfl
      next => exact runtimeStep_idle sound rfl
  | fail run =>
      simp only [productionRuntime, ProductionAgentRuntime.step]
      split
      next => exact runtimeStep_exit sound rfl
      next => exact runtimeStep_idle sound rfl
  | beginDrain => exact runtimeStep_beginDrain sound
  | drain => exact runtimeStep_drain sound

end Runtime

/-! ## Histories -/

abbrev RuntimeHistory := List (Transition ProductionAgentRuntime RuntimeEvent RuntimeReply)

/-- The calls of `drain`. -/
def drainCalls (past : RuntimeHistory) : Nat :=
  past.countP fun transition => transition.input.waits

/-- The callers of `drain` whose promises are resolved, oldest first. -/
def drainedCallers (past : RuntimeHistory) : List Nat :=
  past.flatMap fun transition => transition.output.drained

/-- What holds of the runtime and its past after every event. -/
structure DrainHistory (options : RunAdmissionControllerOptions) (past : RuntimeHistory)
    (runtime : ProductionAgentRuntime) : Prop where
  sound : RuntimeSound options runtime
  begun : ∀ transition ∈ past, transition.input.begins = true ∨
    transition.after.lifecycle.state ≠ .running → runtime.lifecycle.state ≠ .running
  stopped : ∀ transition ∈ past, transition.after.lifecycle.state = .stopped →
    runtime.lifecycle.state = .stopped
  final : past.Pairwise fun earlier later => earlier.after.lifecycle.state = .stopped →
    later.after.lifecycle.state = .stopped
  silent : past.Pairwise fun earlier later => earlier.input.begins = true ∨
    earlier.after.lifecycle.state ≠ .running → later.output.permits = []
  refuses : ∀ transition ∈ past, transition.input.begins = true → transition.output.permits = []
  callers : runtime.drains = drainCalls past
  told : Told runtime.drains (drainedCallers past) runtime.lifecycle

theorem drainHistory_new (options : RunAdmissionControllerOptions) :
    DrainHistory options [] {} where
  sound := {
    placed := ⟨sound_new options, .nil, ⟨.nil, by simp⟩, rfl⟩
    left := rfl
    entered := rfl
    closed := fun drained => absurd rfl drained
    lifecycle := ⟨fun draining => (by cases draining), fun _ => rfl⟩ }
  begun := by simp
  stopped := by simp
  final := .nil
  silent := .nil
  refuses := by simp
  callers := rfl
  told := ⟨rfl, rfl⟩

theorem DrainHistory.step {options : RunAdmissionControllerOptions} {past : RuntimeHistory}
    {runtime : ProductionAgentRuntime} (history : DrainHistory options past runtime)
    (event : RuntimeEvent) :
    DrainHistory options (past ++ [(productionRuntime options).fire runtime event])
      ((productionRuntime options).step runtime event).2 := by
  have step := runtimeStep history.sound event
  exact {
    sound := step.sound
    begun := by
      intro transition member begins running
      rw [List.mem_append, List.mem_singleton] at member
      rcases member with member | rfl
      · exact history.begun transition member begins (step.running running).1
      · rcases begins with begins | drained
        · exact Bool.false_ne_true ((step.running running).2.symm.trans begins)
        · exact drained running
    stopped := by
      intro transition member stopped
      rw [List.mem_append, List.mem_singleton] at member
      rcases member with member | rfl
      · exact step.stopped (history.stopped transition member stopped)
      · exact stopped
    final := by
      rw [List.pairwise_append]
      refine ⟨history.final, List.pairwise_singleton _ _, ?_⟩
      intro earlier member later isLast done
      rw [List.mem_singleton] at isLast
      subst isLast
      exact step.stopped (history.stopped earlier member done)
    silent := by
      rw [List.pairwise_append]
      refine ⟨history.silent, List.pairwise_singleton _ _, ?_⟩
      intro earlier member later isLast begins
      rw [List.mem_singleton] at isLast
      subst isLast
      exact step.refuses (.inl (history.begun earlier member begins))
    refuses := by
      intro transition member begins
      rw [List.mem_append, List.mem_singleton] at member
      rcases member with member | rfl
      · exact history.refuses transition member begins
      · exact step.refuses (.inr begins)
    callers := by
      rw [step.callers, history.callers, drainCalls, drainCalls, List.countP_append,
        List.countP_singleton]
      rfl
    told := by
      have told := step.told _ history.told
      rwa [drainedCallers, List.flatMap_append, List.flatMap_singleton] }

/-- Draining after any sequence of events: an admitted or queued run is active in the
lifecycle, a stopped runtime has neither, nothing is granted once a drain has begun, and the
callers of `drain` are told when the last active run has left. -/
theorem runtime_drain (options : RunAdmissionControllerOptions) (events : List RuntimeEvent) :
    let past := (productionRuntime options).trace {} events
    let runtime := (productionRuntime options).exec {} events
    runtime.admission.activeRuns + runtime.admission.queue.length ≤
      runtime.lifecycle.activeRuns ∧
    (runtime.lifecycle.state = .stopped → runtime.lifecycle.activeRuns = 0 ∧
      runtime.admission.activeRuns = 0 ∧ runtime.admission.queue = [] ∧
      ∀ phase ∈ runtime.runs, phase = .ended) ∧
    (past.Pairwise fun earlier later => earlier.after.lifecycle.state = .stopped →
      later.after.lifecycle.state = .stopped ∧ later.output.permits = []) ∧
    (∀ transition ∈ past, transition.input.begins = true →
      transition.output.permits = [] ∧ runtime.lifecycle.state ≠ .running ∧
        (runtime.lifecycle.state = .stopped ↔ runtime.lifecycle.activeRuns = 0)) ∧
    (past.Pairwise fun earlier later => earlier.input.begins = true ∨
      earlier.after.lifecycle.state ≠ .running → later.output.permits = []) ∧
    drainedCallers past =
      if runtime.lifecycle.state = .stopped then List.range (drainCalls past) else [] := by
  intro past runtime
  have history : DrainHistory options past runtime :=
    (productionRuntime options).exec_history (fun _ _ event history => history.step event)
      (drainHistory_new options) events
  have ⟨⟨placed, _, entered, _, lifecycle⟩, begun, _, final, silent, refuses,
    callers, told⟩ := history
  have fits := placed_le_live runtime.runs
  have bounded : runtime.admission.activeRuns + runtime.admission.queue.length ≤
      runtime.lifecycle.activeRuns := by
    rw [placed.active, ← placed.queued.length_eq, entered]
    exact_mod_cast fits
  refine ⟨bounded, fun done => ?_, ?_, fun transition member begins => ?_, silent, ?_⟩
  · have nobody := lifecycle.stopped done
    have active : 0 ≤ runtime.admission.activeRuns := by
      rw [placed.active]
      exact Int.natCast_nonneg _
    refine ⟨nobody, by omega, List.eq_nil_of_length_eq_zero (by omega), fun phase member => ?_⟩
    rw [nobody] at entered
    have dead := List.countP_eq_zero.mp (Int.natCast_eq_zero.mp entered.symm) phase member
    cases phase with
    | ended => rfl
    | waiting | admitted | rejected => exact absurd rfl dead
  · refine final.imp₂ ?_ silent
    intro earlier later stays grants done
    exact ⟨stays done, grants (.inr fun running => by cases done.symm.trans running)⟩
  · have drained := begun transition member (.inl begins)
    refine ⟨refuses transition member begins, drained, lifecycle.stopped, fun nobody => ?_⟩
    cases state : runtime.lifecycle.state with
    | running => exact absurd state drained
    | draining => exact absurd nobody (lifecycle.draining state)
    | stopped => rfl
  · rw [told.told, callers]

end AgentRuntime.Runtime
