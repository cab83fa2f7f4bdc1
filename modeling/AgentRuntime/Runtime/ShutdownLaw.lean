import AgentRuntime.Runtime.Shutdown

/-!
# The law of shutdown

In any order of signals, calls, timers, runs and settled promises, the server is closed
once, the runtime is drained only after that, a coordinator that has stopped has no run left
and admits none, and the exit code tells of every failure that someone was told of.
-/

namespace AgentRuntime.Runtime

open AgentRuntime.Library

/-! ## The invariant -/

namespace ShutdownProgress

/-- The coordinator has called `drain`. -/
def drains : ShutdownProgress → Bool
  | .draining _ | .stopped => true
  | _ => false

def fails : ShutdownProgress → Bool
  | .failed _ => true
  | _ => false

end ShutdownProgress

/-- The result tells how the shutdown ended, or that it had not ended by the deadline. -/
def ShutdownDeadlineResult.Tells (progress : ShutdownProgress) : ShutdownDeadlineResult → Prop
  | .completed _ => progress = .stopped
  | .failed _ error => progress = .failed error
  | .deadlineExceeded _ => True

/-- Someone was told that the shutdown failed or is late. -/
def ShutdownHost.failureTold (host : ShutdownHost) : Bool :=
  host.watches.any (·.fails) || (host.progress.fails && !host.signals.isEmpty)

structure HostSound (options : RunAdmissionControllerOptions) (host : ShutdownHost) : Prop where
  runtime : RuntimeSound options host.runtime
  told : Told host.runtime.drains host.told host.runtime.lifecycle
  closes : host.closes = if host.progress = .idle then 0 else 1
  caller : ∀ caller, host.progress = .draining caller → caller < host.runtime.drains
  begun : host.progress.drains = true → host.runtime.lifecycle.state ≠ .running
  stopped : host.progress = .stopped → host.runtime.lifecycle.state = .stopped
  closed : host.progress.settled? ≠ none → ∀ watch ∈ host.watches, watch.result ≠ none
  tells : ∀ watch ∈ host.watches, ∀ result, watch.result = some result →
    result.Tells host.progress
  exitCode : host.exitCode = if host.failureTold = true then some 1 else none

/-- What a step never takes back. -/
structure HostMoves (host next : ShutdownHost) (permits : List Nat) : Prop where
  settled : host.progress.settled? ≠ none → next.progress = host.progress
  drains : host.progress.drains = true → next.progress.drains = true
  kept : ∀ (index : Nat) (watch : ShutdownWatch), host.watches[index]? = some watch →
    watch.result ≠ none → next.watches[index]? = some watch
  running : host.runtime.lifecycle.state ≠ .running →
    next.runtime.lifecycle.state ≠ .running ∧ permits = []

theorem HostMoves.refl (host : ShutdownHost) : HostMoves host host [] := by
  constructor
  · exact fun _ => rfl
  · exact id
  · exact fun _ _ found _ => found
  · exact fun drained => ⟨drained, rfl⟩

theorem HostMoves.trans {host between next : ShutdownHost} {earlier later : List Nat}
    (first : HostMoves host between earlier) (second : HostMoves between next later) :
    HostMoves host next later := by
  constructor
  · intro settled
    have same := first.settled settled
    rw [second.settled (same ▸ settled), same]
  · exact fun drains => second.drains (first.drains drains)
  · intro index watch found given
    exact second.kept index watch (first.kept index watch found given) given
  · exact fun drained => second.running (first.running drained).1

theorem HostMoves.quiet {host next : ShutdownHost} {permits : List Nat}
    (moves : HostMoves host next permits) : HostMoves host next [] :=
  ⟨moves.settled, moves.drains, moves.kept, fun drained => ⟨(moves.running drained).1, rfl⟩⟩

section Steps

variable {options : RunAdmissionControllerOptions} {host : ShutdownHost}

/-! ## Steps of the runtime -/

theorem told_step {event : RuntimeEvent} (sound : HostSound options host)
    (step : RuntimeStep options host.runtime event (host.runtime.step options event).1
      (host.runtime.step options event).2) :
    Told (host.runtime.step options event).2.drains
      (host.told ++ (host.runtime.step options event).1.drained)
      (host.runtime.step options event).2.lifecycle :=
  step.told host.told sound.told

theorem runtime_sound (sound : HostSound options host) (event : RuntimeEvent) :
    HostSound options (host.step options (.runtime event)).2 := by
  have step := runtimeStep sound.runtime event
  constructor
  · exact step.sound
  · exact told_step sound step
  · exact sound.closes
  · intro caller draining
    have before := sound.caller caller draining
    have callers := step.callers
    exact callers ▸ Nat.lt_add_right _ before
  · intro drains running
    exact sound.begun drains (step.running running).1
  · intro stopped
    exact step.stopped (sound.stopped stopped)
  · exact sound.closed
  · exact sound.tells
  · exact sound.exitCode

theorem runtime_moves (sound : HostSound options host) (event : RuntimeEvent) :
    HostMoves host (host.step options (.runtime event)).2
      (host.step options (.runtime event)).1.runtime.permits := by
  have step := runtimeStep sound.runtime event
  constructor
  · exact fun _ => rfl
  · exact id
  · exact fun _ _ found _ => found
  · intro drained
    constructor
    · intro running
      exact drained (step.running running).1
    · exact step.refuses (.inl drained)

/-! ## Calls of the coordinator -/

/-- A result that was given before the shutdown was settled tells only that it was late. -/
theorem tells_of_unsettled {progress other : ShutdownProgress} {result : ShutdownDeadlineResult}
    (unsettled : progress.settled? = none) (tells : result.Tells progress) :
    result.Tells other := by
  cases result with
  | completed elapsed =>
      rw [show progress = .stopped from tells] at unsettled
      cases unsettled
  | failed elapsed error =>
      rw [show progress = .failed error from tells] at unsettled
      cases unsettled
  | deadlineExceeded elapsed => trivial

theorem fails_of_unsettled {progress : ShutdownProgress} (unsettled : progress.settled? = none) :
    progress.fails = false := by
  cases progress <;> first | rfl | cases unsettled

theorem failureTold_of_unsettled (unsettled : host.progress.settled? = none) :
    host.failureTold = host.watches.any (·.fails) := by
  rw [ShutdownHost.failureTold, fails_of_unsettled unsettled, Bool.false_and, Bool.or_false]

theorem shutdown_sound (sound : HostSound options host) : HostSound options host.shutdown := by
  unfold ShutdownHost.shutdown
  split
  next idle =>
    have unsettled : host.progress.settled? = none := by rw [idle]; rfl
    constructor
    · exact sound.runtime
    · exact sound.told
    · have none_yet := sound.closes
      rw [if_pos idle] at none_yet
      simp [none_yet]
    · intro caller draining
      cases draining
    · intro drains
      cases drains
    · intro stopped
      cases stopped
    · intro settled
      exact absurd rfl settled
    · intro watch member result found
      exact tells_of_unsettled unsettled (sound.tells watch member result found)
    · rw [failureTold_of_unsettled (by rfl)]
      rw [← failureTold_of_unsettled unsettled]
      exact sound.exitCode
  next => exact sound

theorem shutdown_moves (host : ShutdownHost) : HostMoves host host.shutdown [] := by
  unfold ShutdownHost.shutdown
  split
  next idle =>
    constructor
    · intro settled
      rw [idle] at settled
      exact absurd rfl settled
    · intro drains
      rw [idle] at drains
      cases drains
    · exact fun _ _ found _ => found
    · exact fun drained => ⟨drained, rfl⟩
  next => exact .refl host

/-! ## The end of the shutdown -/

theorem raced?_fails (outcome : Except String Unit) (now : Int) (watch : ShutdownWatch) :
    ((watch.raced? outcome now).map (·.fails)).getD false =
      (watch.result.isNone && !outcome.isOk) := by
  unfold ShutdownWatch.raced?
  cases watch.result with
  | none => cases outcome <;> rfl
  | some result => rfl

theorem settle_fails (outcome : Except String Unit) (now : Int) (watch : ShutdownWatch) :
    (watch.settle outcome now).fails = (watch.fails || (watch.result.isNone && !outcome.isOk)) := by
  unfold ShutdownWatch.settle ShutdownWatch.fails ShutdownWatch.raced?
  cases watch.result with
  | none => cases outcome <;> rfl
  | some result => simp

theorem settle_result (outcome : Except String Unit) (now : Int) (watch : ShutdownWatch) :
    (watch.settle outcome now).result =
      some (watch.result.getD (.ofOutcome (elapsedMs watch.startedAt now) outcome)) := by
  unfold ShutdownWatch.settle ShutdownWatch.raced?
  cases watch.result <;> rfl

theorem settle_of_result {outcome : Except String Unit} {now : Int} {watch : ShutdownWatch}
    (given : watch.result ≠ none) : watch.settle outcome now = watch := by
  obtain ⟨startedAt, result⟩ := watch
  cases result with
  | none => exact absurd rfl given
  | some result => rfl

/-- A settled race fails exactly when the shutdown failed. -/
theorem settled_fail (outcome : Except String Unit) (now : Nat → Int)
    (watches : List ShutdownWatch) :
    (watches.mapIdx fun index watch => watch.settle outcome (now index)).any (·.fails) =
      (watches.any (·.fails) || (watches.any (·.result.isNone) && !outcome.isOk)) := by
  rw [Bool.eq_iff_iff]
  simp only [List.any_eq_true, List.mem_mapIdx, Bool.or_eq_true, Bool.and_eq_true]
  constructor
  · intro found
    obtain ⟨_, ⟨index, bound, rfl⟩, fails⟩ := found
    rw [settle_fails, Bool.or_eq_true, Bool.and_eq_true] at fails
    cases fails with
    | inl before => exact .inl ⟨_, List.getElem_mem bound, before⟩
    | inr now => exact .inr ⟨⟨_, List.getElem_mem bound, now.1⟩, now.2⟩
  · intro found
    have watched : ∃ watch ∈ watches, (watch.fails || (watch.result.isNone && !outcome.isOk)) := by
      cases found with
      | inl before =>
          obtain ⟨watch, member, fails⟩ := before
          exact ⟨watch, member, by simp [fails]⟩
      | inr now =>
          obtain ⟨⟨watch, member, raced⟩, failed⟩ := now
          exact ⟨watch, member, by simp [raced, failed]⟩
    obtain ⟨watch, member, fails⟩ := watched
    obtain ⟨index, bound, rfl⟩ := List.mem_iff_getElem.mp member
    exact ⟨_, ⟨index, bound, rfl⟩, by rw [settle_fails]; exact fails⟩

theorem raced_fail (outcome : Except String Unit) (now : Nat → Int)
    (watches : List ShutdownWatch) :
    (watches.zipIdx.filterMap fun (watch, index) => watch.raced? outcome (now index)).any
        (·.fails) =
      (watches.any (·.result.isNone) && !outcome.isOk) := by
  have each (index : Nat) (watch : ShutdownWatch) :
      ((watch.raced? outcome (now index)).any (·.fails)) =
        (watch.result.isNone && !outcome.isOk) := by
    rw [← raced?_fails outcome (now index) watch]
    cases watch.raced? outcome (now index) <;> rfl
  generalize 0 = start
  induction watches generalizing start with
  | nil => rfl
  | cons watch rest ih =>
      have first := each start watch
      simp only [List.zipIdx_cons, List.filterMap_cons, List.any_cons]
      cases raced : watch.raced? outcome (now start) with
      | none =>
          rw [raced] at first
          rw [ih (start + 1), Bool.and_or_distrib_right, ← first]
          rfl
      | some result =>
          rw [raced] at first
          rw [List.any_cons, ih (start + 1), Bool.and_or_distrib_right, ← first]
          rfl

theorem failIf_if (failing failed : Bool) :
    failIf failing (if failed = true then some 1 else none) =
      if (failed || failing) = true then some 1 else none := by
  cases failing <;> cases failed <;> rfl

/-- The exit code after the promise of the shutdown was settled. -/
theorem settle_exitCode {progress : ShutdownProgress} {outcome : Except String Unit}
    (settles : progress.settled? = some outcome)
    (exitCode : host.exitCode = if host.watches.any (·.fails) = true then some 1 else none)
    (now : Nat → Int) :
    (({ host with progress } : ShutdownHost).settle outcome now).2.exitCode =
      if (({ host with progress } : ShutdownHost).settle outcome now).2.failureTold = true
        then some 1 else none := by
  simp only [ShutdownHost.settle, ShutdownHost.failureTold, exitCode, failIf_if, raced_fail,
    settled_fail]
  cases progress with
  | stopped =>
      obtain rfl : outcome = .ok () := (Option.some.inj settles).symm
      simp [ShutdownProgress.fails, Except.isOk, Except.toBool]
  | failed error =>
      obtain rfl : outcome = .error error := (Option.some.inj settles).symm
      simp only [ShutdownProgress.fails, List.isEmpty_map, Except.isOk, Except.toBool,
        Bool.not_false, Bool.and_true, Bool.true_and]
      cases host.signals.isEmpty <;> simp
  | _ => cases settles

/-- The shutdown ends: every open watch gets its result. -/
theorem settle_sound (sound : HostSound options host) (unsettled : host.progress.settled? = none)
    (started : host.progress ≠ .idle) {progress : ShutdownProgress}
    {outcome : Except String Unit} (settles : progress.settled? = some outcome)
    (drained : progress = .stopped → host.runtime.lifecycle.state = .stopped)
    (now : Nat → Int) :
    HostSound options (({ host with progress } : ShutdownHost).settle outcome now).2 := by
  have ended : progress ≠ .idle := by
    intro idle
    rw [idle] at settles
    cases settles
  constructor
  · exact sound.runtime
  · exact sound.told
  · have once := sound.closes
    rw [if_neg started] at once
    simp only [ShutdownHost.settle, ended, if_false]
    exact once
  · intro caller draining
    rw [show progress = .draining caller from draining] at settles
    cases settles
  · intro drains running
    cases progress with
    | stopped => cases running.symm.trans (drained rfl)
    | draining caller => cases settles
    | _ => cases drains
  · exact drained
  · intro _ watch member
    obtain ⟨index, bound, rfl⟩ := List.mem_mapIdx.mp member
    simp [settle_result]
  · intro watch member result found
    obtain ⟨index, bound, rfl⟩ := List.mem_mapIdx.mp member
    rw [settle_result, Option.some.injEq] at found
    cases given : (host.watches[index]).result with
    | some before =>
        rw [given, Option.getD_some] at found
        have tells := sound.tells _ (List.getElem_mem bound) before given
        exact found ▸ tells_of_unsettled unsettled tells
    | none =>
        rw [given, Option.getD_none] at found
        rw [← found]
        cases progress with
        | stopped =>
            obtain rfl : outcome = .ok () := (Option.some.inj settles).symm
            rfl
        | failed error =>
            obtain rfl : outcome = .error error := (Option.some.inj settles).symm
            rfl
        | _ => cases settles
  · apply settle_exitCode settles
    rw [sound.exitCode, failureTold_of_unsettled unsettled]

theorem settle_moves (unsettled : host.progress.settled? = none) {progress : ShutdownProgress}
    (drains : host.progress.drains = true → progress.drains = true)
    (outcome : Except String Unit) (now : Nat → Int) :
    HostMoves host (({ host with progress } : ShutdownHost).settle outcome now).2 [] := by
  constructor
  · intro settled
    exact absurd unsettled settled
  · exact drains
  · intro index watch found given
    simp [ShutdownHost.settle, List.getElem?_mapIdx, found, settle_of_result given]
  · exact fun drained => ⟨drained, rfl⟩

/-- A caller of `drain` is told only when the runtime has stopped. -/
theorem stopped_of_told (sound : HostSound options host) {caller : Nat}
    (told : caller ∈ host.told) : host.runtime.lifecycle.state = .stopped := by
  by_contra alive
  have silent := sound.told.told
  rw [if_neg alive] at silent
  rw [silent] at told
  cases told

theorem told_of_stopped (sound : HostSound options host) {caller : Nat}
    (called : caller < host.runtime.drains) (stopped : host.runtime.lifecycle.state = .stopped) :
    caller ∈ host.told := by
  have all := sound.told.told
  rw [if_pos stopped] at all
  rw [all]
  exact List.mem_range.mpr called

theorem drained_step (sound : HostSound options host) (now : Nat → Int) :
    HostSound options (host.drained now).2 ∧
      HostMoves host (host.drained now).2 (host.drained now).1.runtime.permits := by
  unfold ShutdownHost.drained
  split
  next caller draining =>
    split
    next told =>
      have unsettled : host.progress.settled? = none := by rw [draining]; rfl
      have started : host.progress ≠ .idle := by rw [draining]; simp
      have stopped := stopped_of_told sound told
      constructor
      · exact settle_sound sound unsettled started rfl (fun _ => stopped) now
      · exact settle_moves unsettled (fun _ => rfl) (.ok ()) now
    next => exact ⟨sound, .refl host⟩
  next => exact ⟨sound, .refl host⟩

/-- The server was closed: the runtime is drained. -/
theorem close_sound (sound : HostSound options host) (closing : host.progress = .closing) :
    HostSound options { host with
      runtime := (host.runtime.step options .drain).2
      told := host.told ++ (host.runtime.step options .drain).1.drained
      progress := .draining host.runtime.drains } := by
  have unsettled : host.progress.settled? = none := by rw [closing]; rfl
  have step := runtimeStep sound.runtime .drain
  have after := runtime_sound sound .drain
  constructor
  · exact after.runtime
  · exact after.told
  · have once := sound.closes
    rw [closing] at once
    exact once
  · intro caller draining
    have same : host.runtime.drains = caller := ShutdownProgress.draining.inj draining
    have callers : (host.runtime.step options .drain).2.drains = host.runtime.drains + 1 :=
      step.callers
    rw [← same, callers]
    exact Nat.lt_succ_self _
  · intro _ running
    have begins := (step.running running).2
    cases begins
  · intro stopped
    cases stopped
  · intro settled
    exact absurd rfl settled
  · intro watch member result found
    exact tells_of_unsettled unsettled (sound.tells watch member result found)
  · have code := sound.exitCode
    rw [failureTold_of_unsettled unsettled] at code
    rw [failureTold_of_unsettled (by rfl)]
    exact code

theorem closed_step (sound : HostSound options host) (outcome : Except String Unit)
    (now : Nat → Int) :
    HostSound options (host.closed options outcome now).2 ∧
      HostMoves host (host.closed options outcome now).2
        (host.closed options outcome now).1.runtime.permits := by
  unfold ShutdownHost.closed
  split
  next closing =>
    have unsettled : host.progress.settled? = none := by rw [closing]; rfl
    cases outcome with
    | ok =>
        have moves := runtime_moves sound .drain
        constructor
        · exact close_sound sound closing
        · constructor
          · intro settled
            exact absurd unsettled settled
          · exact fun _ => rfl
          · exact moves.kept
          · exact moves.running
    | error error =>
        constructor
        · exact settle_sound sound unsettled (by rw [closing]; simp) rfl
            (fun stopped => by cases stopped) now
        · apply settle_moves unsettled
          intro drains
          rw [closing] at drains
          cases drains
  next => exact ⟨sound, .refl host⟩

/-! ## Signals and watches -/

theorem signals_sound (sound : HostSound options host) (signals : List ProcessSignal)
    (alive : host.progress.fails = false) : HostSound options { host with signals } := by
  constructor
  · exact sound.runtime
  · exact sound.told
  · exact sound.closes
  · exact sound.caller
  · exact sound.begun
  · exact sound.stopped
  · exact sound.closed
  · exact sound.tells
  · have code := sound.exitCode
    simp only [ShutdownHost.failureTold, alive, Bool.false_and, Bool.or_false] at code ⊢
    exact code

theorem signal_step (sound : HostSound options host) (signal : ProcessSignal) :
    HostSound options (host.onSignal signal).2 ∧
      HostMoves host (host.onSignal signal).2 (host.onSignal signal).1.runtime.permits := by
  have called := shutdown_sound sound
  have moves := shutdown_moves host
  unfold ShutdownHost.onSignal
  split
  next => exact ⟨sound, .refl host⟩
  next =>
    dsimp only
    split
    next error failed =>
      constructor
      · constructor
        · exact called.runtime
        · exact called.told
        · exact called.closes
        · exact called.caller
        · exact called.begun
        · exact called.stopped
        · exact called.closed
        · exact called.tells
        · have failing : host.shutdown.progress = .failed error := failed
          simp [ShutdownHost.failureTold, failing, ShutdownProgress.fails]
      · exact ⟨moves.settled, moves.drains, moves.kept, moves.running⟩
    next alive =>
      constructor
      · apply signals_sound called
        cases progress : host.shutdown.progress with
        | failed error => exact absurd progress (alive error)
        | _ => rfl
      · exact ⟨moves.settled, moves.drains, moves.kept, moves.running⟩

/-- The result of a shutdown that is settled already. -/
theorem ofOutcome_tells {progress : ShutdownProgress} {outcome : Except String Unit}
    (settles : progress.settled? = some outcome) (elapsed : Int) :
    (ShutdownDeadlineResult.ofOutcome elapsed outcome).Tells progress := by
  cases progress with
  | stopped =>
      obtain rfl : outcome = .ok () := (Option.some.inj settles).symm
      rfl
  | failed error =>
      obtain rfl : outcome = .error error := (Option.some.inj settles).symm
      rfl
  | _ => cases settles

/-- A watch is added. -/
theorem watched_sound (sound : HostSound options host) (startedAt elapsed : Int)
    {result : Option ShutdownDeadlineResult}
    (same : result =
      host.progress.settled?.map (ShutdownDeadlineResult.ofOutcome elapsed)) :
    HostSound options { host with
      watches := host.watches ++ [⟨startedAt, result⟩]
      exitCode := failIf ((result.map (·.fails)).getD false) host.exitCode } := by
  constructor
  · exact sound.runtime
  · exact sound.told
  · exact sound.closes
  · exact sound.caller
  · exact sound.begun
  · exact sound.stopped
  · intro settled watch member
    cases List.mem_append.mp member with
    | inl before => exact sound.closed settled watch before
    | inr last =>
        rw [List.mem_singleton.mp last, same]
        simpa using settled
  · intro watch member given found
    cases List.mem_append.mp member with
    | inl before => exact sound.tells watch before given found
    | inr last =>
        rw [List.mem_singleton.mp last] at found
        rw [same] at found
        obtain ⟨outcome, settles, rfl⟩ := Option.map_eq_some_iff.mp found
        exact ofOutcome_tells settles elapsed
  · rw [sound.exitCode, failIf_if]
    simp only [ShutdownHost.failureTold, List.any_append, List.any_cons, List.any_nil,
      Bool.or_false, ShutdownWatch.fails]
    congr 2
    rw [Bool.or_right_comm]

theorem watch_step (sound : HostSound options host) (timeoutMs : TimeoutMs)
    (startedAt now : Int) :
    HostSound options (host.watch timeoutMs startedAt now).2 ∧
      HostMoves host (host.watch timeoutMs startedAt now).2
        (host.watch timeoutMs startedAt now).1.runtime.permits := by
  have called := shutdown_sound sound
  have moves := shutdown_moves host
  unfold ShutdownHost.watch
  dsimp only
  split
  next => exact ⟨sound, .refl host⟩
  next =>
    constructor
    · exact watched_sound called startedAt (elapsedMs startedAt now) rfl
    · constructor
      · exact moves.settled
      · exact moves.drains
      · intro index watch found given
        have kept := moves.kept index watch found given
        have bound := (List.getElem?_eq_some_iff.mp kept).1
        rw [List.getElem?_append_left bound]
        exact kept
      · exact moves.running

/-- The deadline of a watch passes; nothing else changes. -/
theorem expire_step (sound : HostSound options host) (index : Nat) (now : Int) :
    HostSound options (host.expire index now).2 ∧
      HostMoves host (host.expire index now).2 (host.expire index now).1.runtime.permits := by
  unfold ShutdownHost.expire
  split
  next startedAt found =>
    have member := List.mem_of_getElem? found
    have unsettled : host.progress.settled? = none := by
      by_contra settled
      exact sound.closed settled _ member rfl
    have bound := (List.getElem?_eq_some_iff.mp found).1
    constructor
    · constructor
      · exact sound.runtime
      · exact sound.told
      · exact sound.closes
      · exact sound.caller
      · exact sound.begun
      · exact sound.stopped
      · intro settled
        exact absurd unsettled settled
      · intro watch changed result given
        cases List.mem_or_eq_of_mem_set changed with
        | inl before => exact sound.tells watch before result given
        | inr late =>
            rw [late] at given
            cases given
            trivial
      · have late : (host.watches.set index ⟨startedAt,
            some (.deadlineExceeded (elapsedMs startedAt now))⟩).any (·.fails) = true := by
          apply List.any_eq_true.mpr
          exact ⟨_, List.mem_set bound _, rfl⟩
        simp [ShutdownHost.failureTold, late]
    · constructor
      · intro settled
        exact absurd unsettled settled
      · exact id
      · intro other watch before given
        have different : index ≠ other := by
          intro same
          rw [same, before] at found
          rw [Option.some.inj found] at given
          exact given rfl
        simp only [List.getElem?_set_ne different]
        exact before
      · exact fun drained => ⟨drained, rfl⟩
  next => exact ⟨sound, .refl host⟩

theorem shutdown_step (sound : HostSound options host) (event : ShutdownEvent) :
    HostSound options ((shutdownHost options).step host event).2 ∧
      HostMoves host ((shutdownHost options).step host event).2
        ((shutdownHost options).step host event).1.runtime.permits := by
  cases event with
  | runtime event => exact ⟨runtime_sound sound event, runtime_moves sound event⟩
  | signal signal => exact signal_step sound signal
  | shutdown => exact ⟨shutdown_sound sound, shutdown_moves host⟩
  | watch timeoutMs startedAt now => exact watch_step sound timeoutMs startedAt now
  | closed outcome now => exact closed_step sound outcome now
  | drained now => exact drained_step sound now
  | expire index now => exact expire_step sound index now

end Steps

/-! ## Runs -/

theorem hostSound_new (options : RunAdmissionControllerOptions) : HostSound options {} := by
  have history := drainHistory_new options
  constructor
  · exact history.sound
  · exact history.told
  · rfl
  · intro caller draining
    cases draining
  · intro drains
    cases drains
  · intro stopped
    cases stopped
  · intro settled
    exact absurd rfl settled
  · intro watch member
    cases member
  · rfl

/-- No run is live in a runtime that has stopped. -/
theorem ended_of_stopped {options : RunAdmissionControllerOptions}
    {runtime : ProductionAgentRuntime} (sound : RuntimeSound options runtime) :
    runtime.lifecycle.state ≠ .running →
      (runtime.lifecycle.state = .stopped ↔ ∀ phase ∈ runtime.runs, phase = .ended) := by
  intro drained
  have dead : (∀ phase ∈ runtime.runs, phase = .ended) ↔
      runtime.runs.countP RunPhase.live = 0 := by
    rw [List.countP_eq_zero]
    apply forall₂_congr
    intro phase member
    cases phase <;> simp [RunPhase.live]
  rw [dead]
  have entered := sound.entered
  constructor
  · intro stopped
    have nobody := sound.lifecycle.stopped stopped
    omega
  · intro nobody
    cases state : runtime.lifecycle.state with
    | running => exact absurd state drained
    | draining =>
        have some_active := sound.lifecycle.draining state
        omega
    | stopped => rfl

/-- Shutdown in any order of events.  The server is closed once at most, and before the
runtime is drained; once the drain began nothing is admitted, and the coordinator can stop
exactly when the last run has ended.  Every watch that has a result keeps it, and it tells
how the shutdown ended; none is open once the shutdown has ended.  The exit code is 1 exactly
when a watch or the listener of a signal was told of a failure or of a missed deadline. -/
theorem shutdown_runs (options : RunAdmissionControllerOptions) (events : List ShutdownEvent) :
    let past := (shutdownHost options).trace {} events
    let host := (shutdownHost options).exec {} events
    host.closes = (if host.progress = .idle then 0 else 1) ∧
    (host.progress = .stopped → host.runtime.lifecycle.state = .stopped ∧
      ∀ phase ∈ host.runtime.runs, phase = .ended) ∧
    (∀ caller, host.progress = .draining caller → ∀ now,
      ((host.drained now).2.progress = .stopped ↔ ∀ phase ∈ host.runtime.runs, phase = .ended)) ∧
    (∀ watch ∈ host.watches,
      (watch.result = none → host.progress.settled? = none) ∧
      ∀ result, watch.result = some result → result.Tells host.progress) ∧
    host.exitCode = (if host.failureTold = true then some 1 else none) ∧
    past.Pairwise fun earlier later =>
      (earlier.after.progress.settled? ≠ none →
        later.after.progress = earlier.after.progress) ∧
      (earlier.after.progress.drains = true → later.output.runtime.permits = []) ∧
      ∀ (index : Nat) (watch : ShutdownWatch), earlier.after.watches[index]? = some watch →
        watch.result ≠ none → later.after.watches[index]? = some watch := by
  intro past host
  have kept (state : ShutdownHost) (event : ShutdownEvent) (sound : HostSound options state) :=
    (shutdown_step sound event).1
  have sound : HostSound options host :=
    (shutdownHost options).exec_invariant kept (hostSound_new options) events
  refine ⟨sound.closes, ?_, ?_, ?_, sound.exitCode, ?_⟩
  · intro ended
    have stopped := sound.stopped ended
    have drained : host.runtime.lifecycle.state ≠ .running := by rw [stopped]; simp
    exact ⟨stopped, (ended_of_stopped sound.runtime drained).mp stopped⟩
  · intro caller draining now
    have drained := sound.begun (by rw [draining]; rfl)
    rw [← ended_of_stopped sound.runtime drained]
    unfold ShutdownHost.drained
    rw [draining]
    constructor
    · intro stops
      dsimp only at stops
      split at stops
      next told => exact stopped_of_told sound told
      next => cases draining.symm.trans stops
    · intro stopped
      dsimp only
      rw [if_pos (told_of_stopped sound (sound.caller caller draining) stopped)]
      rfl
  · intro watch member
    constructor
    · intro unanswered
      by_contra settled
      exact sound.closed settled watch member unanswered
    · exact sound.tells watch member
  · have pairs := (shutdownHost options).trace_pairwise_of_step
      (fun host next => HostMoves host next []) HostMoves.refl HostMoves.trans kept
      (fun state event sound => (shutdown_step sound event).2.quiet)
      (hostSound_new options) events
    apply pairs.imp_of_mem
    intro earlier later early late between
    have before := (shutdownHost options).before_of_mem_trace kept (hostSound_new options) early
    have starts := (shutdownHost options).before_of_mem_trace kept (hostSound_new options) late
    have reached : HostSound options earlier.after := by
      rw [(shutdownHost options).eq_fire_of_mem_trace early]
      exact kept earlier.before earlier.input before
    have last : HostMoves later.before later.after later.output.runtime.permits := by
      rw [(shutdownHost options).eq_fire_of_mem_trace late]
      exact (shutdown_step starts later.input).2
    have moves := between.trans last
    refine ⟨moves.settled, ?_, moves.kept⟩
    intro drains
    exact (moves.running (reached.begun drains)).2

end AgentRuntime.Runtime
