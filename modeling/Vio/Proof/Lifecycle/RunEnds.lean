import Vio.Proof.Lifecycle.RecordingEffort
import Vio.Proof.Lifecycle.RunUnwinds

namespace Vio

/-- The steps of a thread up to its end. -/
def ThreadStage.left : ThreadStage → Nat
  | .running => 3
  | .catching _ => 2
  | .raising => 1
  | .ended => 0

/-- The steps of `run`, of the handlers of its threads, and of the recording without its storage. No
thread begins a new call, and none comes back from its loop. -/
def RunAction.Onward : RunAction → Prop
  | .openFile _ | .record _ _ | .launch _ | .clock _ | .proceed | .store _ | .raise _ => True
  | .recorder action => action.Onward
  | .returns _ | .throws _ _ | .fedImu _ | .framesDone | .requestStop => False

/-- A body comes back from its loop, where it may wait for a sensor or for the tracker. -/
def RunAction.ComesBack : RunAction → Prop
  | .returns _ | .throws _ _ => True
  | .openFile _ | .record _ _ | .launch _ | .clock _ | .proceed | .store _ | .raise _ | .recorder _
  | .fedImu _ | .framesDone | .requestStop => False

namespace CaptureRun

/-- A bound on the steps of `run` itself. The set-up leaves room for what it creates. -/
def stageLeft (run : CaptureRun) : Nat :=
  let fds := run.descriptors.length
  let setup := 40 + fds + 10 * run.plan.length
  match run.stage with
  | .opening left => setup + 21 + 2 * run.fifoPaths.length + 2 * left.length
  | .recording => setup + 20 + 2 * run.fifoPaths.length
  | .fifos left => setup + 2 * left.length
  | .launching left => 39 + fds + 10 * left.length
  | .starting => 38 + fds
  | .waking _ => 37 + fds
  | .timing _ => 36 + fds
  | .missing _ => 35 + fds
  | .aging _ => 34 + fds
  | .watching _ => 33 + fds
  | .stopping => 32 + fds
  | .joining => 31 + fds
  | .closing false => 30 + fds
  | .closing true => 24 + fds
  | .concluding => 23 + fds
  | .destroying => 22 + fds
  | .rejoining => 21 + fds
  | .discarding false => 20 + fds
  | .discarding true => 2 + fds
  | .releasing left => 1 + left.length
  | .left => 0

/-- A bound on the steps that need neither storage nor a sensor. -/
def effort (run : CaptureRun) : Nat :=
  run.stageLeft + run.joinable.length + (run.threads.map fun thread => thread.stage.left).sum +
    run.recording.elim 0 Recording.effort

/-- A call of `close` is in progress where `run` waits for it. -/
def Awaited (run : CaptureRun) : Prop :=
  ∀ recording, run.recording = some recording → recording.owner ≠ .idle →
    run.stage = .closing true ∨ run.stage = .discarding true

/-- `run` waits for a body that is neither in its handler nor in a call of the recording, and has not
come back. -/
def Blocked (run : CaptureRun) : Prop :=
  (run.stage = .joining ∨ run.stage = .rejoining) ∧
    ∃ body rest, run.joinable = body :: rest ∧ run.stands body .running ∧ run.idle body

/-- A body that has not come back can do so. -/
theorem Blocked.comes (run : CaptureRun) (blocked : run.Blocked) :
    ∃ action next, action.ComesBack ∧ run.step action = some next := by
  obtain ⟨_, body, _, _, here, idle⟩ := blocked
  exact ⟨.returns body, _, trivial, if_pos ⟨here, idle⟩⟩

variable {run next : CaptureRun}

/-- Once the flag is set, a step between stages is a step towards the end. -/
theorem Goes.less {stage : RunStage} (goes : run.Goes stage) (asked : run.stop = true) :
    ({ run with stage } : CaptureRun).stageLeft < run.stageLeft := by
  cases goes with
  | sleeps start here going =>
      rw [asked] at going
      cases going
  | closed called here | discarded called here =>
      cases called <;> simp only [stageLeft, here] <;> omega
  | joined here | opened here | unrecorded here | ready here | launched here | started start here
  | stops start here | finished start here | looks start here | early start here | late start here
  | seen start here | fresh start here | rejoined here | left here =>
      simp only [stageLeft, here, List.length_nil]
      omega

/-- An exception is a step towards the end. -/
theorem Leaves.less (leaves : run.Leaves) (thrown : Thrown) :
    (run.abandon thrown).stageLeft < run.stageLeft := by
  have before : 40 + run.descriptors.length ≤ run.stageLeft := by
    cases leaves with
    | opening path paths here | recording here | fifos path paths here =>
        simp only [stageLeft, here]
        omega
  have after : (run.abandon thrown).stageLeft ≤ 20 + run.descriptors.length := by
    unfold stageLeft abandon
    cases run.recording.isSome
    · simp only [Bool.false_eq_true, if_false]
      omega
    · simp only [if_true]
      omega
  omega

/-- Once the flag is set, each step of `run` leaves less to do. -/
theorem MainStep.less (step : run.MainStep next) (asked : run.stop = true) :
    next.effort < run.effort := by
  cases step with
  | goes stage goes =>
      have less := goes.less asked
      unfold effort
      dsimp only
      omega
  | abandons thrown leaves =>
      have less := leaves.less thrown
      unfold effort
      change (run.abandon thrown).stageLeft + _ + _ + _ < _
      dsimp only [abandon] at less ⊢
      omega
  | records files writerBusy slots recording here outputs created =>
      obtain ⟨_, made⟩ := openRecording_created created
      have fresh := (Recording.create_fresh made).1.effort
      simp only [effort, stageLeft, here, Option.elim_some]
      omega
  | launches body left here =>
      simp only [effort, stageLeft, here, List.length_append, List.map_append, List.sum_append,
        List.map_cons, List.map_nil, List.sum_cons, List.sum_nil, List.length_cons, List.length_nil,
        ThreadStage.left]
      omega
  | closes recording closing here found closes | discards recording closing here found closes =>
      have more := Recording.effort_close closes
      simp only [effort, stageLeft, here, found, Option.elim_some]
      omega
  | joins body left here queue ended =>
      simp only [effort, stageLeft, queue, List.length_cons]
      omega
  | stalls start here =>
      rcases here with here | here <;> simp only [effort, stageLeft, here] <;> omega
  | opens fd path paths here | opensFifo fd path paths here | releases fd fds here =>
      simp only [effort, stageLeft, here, List.length_append, List.length_cons, List.length_nil]
      omega
  | misses body left here | halts here | destroys here | concludes here =>
      simp only [effort, stageLeft, here]
      omega

/-- No step of `run` takes the flag back. -/
theorem MainStep.stop (step : run.MainStep next) (asked : run.stop = true) : next.stop = true := by
  cases step with
  | goes | opens | opensFifo | abandons | records | launches | misses | joins | closes | discards
  | concludes | releases => exact asked
  | stalls | halts | destroys => rfl

/-- A thread that gets ahead leaves less to do. -/
theorem effort_move (run : CaptureRun) {body : CaptureThread} {before after : ThreadStage}
    (here : run.stands body before) (less : after.left < before.left) (threads : run.Threads) :
    (run.move body after).effort < run.effort := by
  have steps : ((run.move body after).threads.map fun thread => thread.stage.left).sum <
      (run.threads.map fun thread => thread.stage.left).sum := by
    change ((run.threads.map _).map _).sum < _
    rw [List.map_map]
    refine List.sum_lt_sum _ _ (fun thread member => ?_) ⟨_, here, ?_⟩
    · rw [Function.comp_apply]
      split
      · rename_i same
        have stands : run.stands body thread.stage := same ▸ member
        rw [threads.unique stands here]
        exact Nat.le_of_lt less
      · exact Nat.le_refl _
    · rw [Function.comp_apply, if_pos rfl]
      exact less
  unfold effort
  change run.stageLeft + run.joinable.length + _ + run.recording.elim 0 Recording.effort < _
  omega

/-- `run` waits for a `close` that it has called. -/
theorem Awaited.main (awaited : run.Awaited) (step : run.MainStep next) : next.Awaited := by
  intro recording found busy
  cases step with
  | goes stage goes =>
      have waits := awaited recording found busy
      cases goes with
      | closed called here answered | discarded called here answered =>
          exact absurd (answered recording found).2 busy
      | joined here | opened here | unrecorded here | ready here | launched here | started start here
      | stops start here | sleeps start here | finished start here | looks start here | early start here
      | late start here | seen start here | fresh start here | rejoined here | left here =>
          rw [here] at waits
          rcases waits with waits | waits <;> cases waits
  | closes before closing here | discards before closing here =>
      first
        | exact .inl rfl
        | exact .inr rfl
  | records files writerBusy slots other here outputs created =>
      cases found
      obtain ⟨_, made⟩ := openRecording_created created
      exact absurd (Recording.create_fresh made).1.owner busy
  | joins body left here => exact awaited recording found busy
  | abandons thrown leaves =>
      have waits := awaited recording found busy
      cases leaves with
      | opening path paths here | recording here | fifos path paths here =>
          rw [here] at waits
          rcases waits with waits | waits <;> cases waits
  | stalls start here =>
      have waits := awaited recording found busy
      rcases here with here | here <;> rw [here] at waits <;> rcases waits with waits | waits <;>
        cases waits
  | opens fd path paths here | opensFifo fd path paths here | launches body left here
  | misses body left here | halts here | destroys here | concludes here | releases fd fds here =>
      have waits := awaited recording found busy
      rw [here] at waits
      rcases waits with waits | waits <;> cases waits

/-- Only a `close` that returns ends the wait for it. -/
theorem Awaited.step (awaited : run.Awaited) (recorded : run.Recorded) {action : RunAction}
    (moved : run.step action = some next) : next.Awaited := by
  cases action with
  | openFile result => exact awaited.main (openFile_main moved)
  | record writerBusy slots => exact awaited.main (record_main moved)
  | launch started => exact awaited.main (launch_main moved)
  | clock now => exact awaited.main (clock_main moved)
  | proceed => exact awaited.main (proceed_main moved)
  | recorder action =>
      simp only [CaptureRun.step] at moved
      split at moved
      · cases moved
      · rename_i recording found
        split at moved
        · rename_i allowed
          obtain ⟨after, moves, rfl⟩ := Option.map_eq_some_iff.mp moved
          obtain ⟨_, _, opened⟩ := (recorded recording found).opened
          have step := Recording.next_step opened.reached.sound.keyed moves
          rintro _ ⟨⟩ busy
          refine awaited recording found fun idle => busy (step.idle idle ?_)
          cases action with
          | submit record =>
              change recording.submit record = some after at moves
              unfold Recording.submit at moves
              split at moves <;> cases moves
              intro same
              cases (List.cons.inj same).1
          | close => exact allowed.elim
          | advance | work | write | finish | timeout | proceed =>
              exact (Recording.quiet_next rfl moves).unclosed
        · cases moved
  | fedImu time | framesDone | returns body | throws body thrown | raise body =>
      obtain ⟨_, ⟨⟩⟩ := Option.ite_none_right_eq_some.mp moved
      exact awaited
  | store body =>
      simp only [CaptureRun.step] at moved
      split at moved <;> cases moved
      exact awaited
  | requestStop =>
      cases moved
      exact awaited

/-- A run that was asked to stop. -/
structure Ending (run : CaptureRun) : Prop where
  threads : run.Threads
  recorded : run.Recorded
  awaited : run.Awaited
  asked : run.stop = true

/-- A step on the way out, or a body that comes back, uses up the effort. -/
theorem Ending.step (ending : run.Ending) {action : RunAction}
    (onward : action.Onward ∨ action.ComesBack)
    (moved : run.step action = some next) : next.Ending ∧ next.effort < run.effort := by
  have threads := ending.threads
  have later : next.stop = true ∧ next.effort < run.effort := by
    cases action with
    | openFile result => exact ⟨(openFile_main moved).stop ending.asked, (openFile_main moved).less ending.asked⟩
    | record writerBusy slots =>
        exact ⟨(record_main moved).stop ending.asked, (record_main moved).less ending.asked⟩
    | launch started => exact ⟨(launch_main moved).stop ending.asked, (launch_main moved).less ending.asked⟩
    | clock now => exact ⟨(clock_main moved).stop ending.asked, (clock_main moved).less ending.asked⟩
    | proceed => exact ⟨(proceed_main moved).stop ending.asked, (proceed_main moved).less ending.asked⟩
    | recorder action =>
        simp only [CaptureRun.step] at moved
        split at moved
        · cases moved
        · rename_i recording found
          split at moved
          · obtain ⟨after, moves, rfl⟩ := Option.map_eq_some_iff.mp moved
            obtain ⟨_, _, opened⟩ := (ending.recorded recording found).opened
            have less := Recording.effort_onward opened.reached.sound.keyed (onward.resolve_right id) moves
            refine ⟨ending.asked, ?_⟩
            simp only [effort, found, Option.elim_some, stageLeft]
            omega
          · cases moved
    | returns body =>
        obtain ⟨⟨here, _⟩, ⟨⟩⟩ := Option.ite_none_right_eq_some.mp moved
        exact ⟨ending.asked, effort_move run here (by decide) threads⟩
    | throws body thrown =>
        obtain ⟨⟨here, _⟩, ⟨⟩⟩ := Option.ite_none_right_eq_some.mp moved
        exact ⟨ending.asked, effort_move run here (Nat.lt_succ_self 2) threads⟩
    | store body =>
        simp only [CaptureRun.step] at moved
        split at moved
        · rename_i thread thrown found
          cases moved
          have here : run.stands body (.catching thrown) := by
            have same := List.find?_some found
            have same : thread = body := of_decide_eq_true same
            exact same ▸ List.mem_of_find?_eq_some found
          exact ⟨ending.asked, effort_move run here Nat.one_lt_two threads⟩
        · cases moved
    | raise body =>
        obtain ⟨here, ⟨⟩⟩ := Option.ite_none_right_eq_some.mp moved
        exact ⟨rfl, effort_move run here (by decide) threads⟩
    | fedImu | framesDone | requestStop => exact (onward.elim id id).elim
  exact ⟨⟨threads.step moved, ending.recorded.step threads moved,
    ending.awaited.step ending.recorded moved, later.1⟩, later.2⟩

/-- A thread that `run` waits for has ended, or it can go on, perhaps after another one, or it has not
come back. -/
theorem Ending.thread (ending : run.Ending) {body : CaptureThread} {rest : List CaptureThread}
    (queue : run.joinable = body :: rest) :
    (∃ thread ∈ run.threads, thread.body = body ∧ thread.stage = .ended) ∨
      (∃ action next, action.Onward ∧ run.step action = some next) ∨
      run.stands body .running ∧ run.idle body := by
  obtain ⟨joined, split, _⟩ := ending.threads.joined
  have listed : body ∈ run.bodies := by
    rw [split, queue]
    exact List.mem_append_right _ List.mem_cons_self
  obtain ⟨⟨name, stage⟩, member, same⟩ := List.mem_map.mp listed
  obtain rfl : body = name := same.symm
  have here : run.stands body stage := member
  cases stage with
  | ended => exact .inl ⟨_, member, rfl, rfl⟩
  | running =>
      right
      by_cases idle : run.idle body
      · exact .inr ⟨here, idle⟩
      · left
        simp only [CaptureRun.idle, not_forall] at idle
        obtain ⟨recording, found, stream, _, busy⟩ := idle
        have calls := ending.recorded recording found
        obtain ⟨_, _, opened⟩ := calls.opened
        obtain ⟨other, inside, after, advanced⟩ := opened.reached.paced.calls busy
        have allowed : run.allows (.advance other) := calls.owned other inside
        refine ⟨.recorder (.advance other), { run with recording := some after }, trivial, ?_⟩
        simp only [CaptureRun.step, Option.mem_def.mp found, if_pos allowed]
        change (recording.advance other).map _ = _
        rw [advanced]
        rfl
  | catching thrown =>
      refine .inr (.inl ?_)
      cases found : run.threads.find? fun thread => thread.body = body with
      | none => exact absurd (decide_eq_true rfl) (List.find?_eq_none.mp found _ member)
      | some thread =>
          have same := List.find?_some found
          have same : thread.body = body := of_decide_eq_true same
          have there : run.stands body thread.stage := same ▸ List.mem_of_find?_eq_some found
          have stage := ending.threads.unique there here
          refine ⟨.store body, ?_⟩
          obtain ⟨_, _⟩ := thread
          cases stage
          simp only [CaptureRun.step, found]
          exact ⟨_, trivial, rfl⟩
  | raising => exact .inr (.inl ⟨.raise body, _, trivial, if_pos here⟩)

/-- A join goes on, or waits for a body that has not come back. -/
theorem Ending.joins (ending : run.Ending) (here : run.stage = .joining ∨ run.stage = .rejoining) :
    (∃ action next, action.Onward ∧ run.step action = some next) ∨ run.Blocked := by
  cases queue : run.joinable with
  | nil =>
      refine .inl ⟨.proceed, ?_⟩
      rcases here with here | here <;> simp only [CaptureRun.step, proceed, here, join, queue] <;>
        exact ⟨_, trivial, rfl⟩
  | cons body rest =>
      rcases ending.thread queue with ended | onward | running
      · refine .inl ⟨.proceed, { run with joinable := rest }, trivial, ?_⟩
        rcases here with here | here <;>
          simp only [CaptureRun.step, proceed, here, join, queue, if_pos ended]
      · exact .inl onward
      · exact .inr ⟨here, body, rest, queue, running⟩

/-- A call of `close` goes on without the storage: its timeout is a step of the recording. -/
theorem Ending.closes (ending : run.Ending) {called : Bool}
    (here : run.stage = .closing called ∨ run.stage = .discarding called) :
    ∃ action next, action.Onward ∧ run.step action = some next := by
  cases found : run.recording with
  | none =>
      refine ⟨.proceed, ?_⟩
      rcases here with here | here <;> simp only [CaptureRun.step, proceed, here, close, found] <;>
        exact ⟨_, trivial, rfl⟩
  | some recording =>
      by_cases owner : recording.owner = .idle
      · refine ⟨.proceed, ?_⟩
        cases called <;> rcases here with here | here <;>
          simp only [CaptureRun.step, proceed, here, close, found, if_pos owner, Recording.close,
            Bool.false_eq_true, if_false, if_true, Option.map_some] <;>
          exact ⟨_, trivial, rfl⟩
      · have calls := ending.recorded recording found
        have joined : run.stage.Joined := by
          rcases here with here | here <;> rw [here] <;> trivial
        have ended := ending.threads.ended (ending.threads.after joined)
        have idle (stream : RecordingStream) : recording.submits stream = none := by
          by_contra busy
          obtain ⟨thread, member, running, _⟩ := calls.owned stream busy
          rw [ended thread member] at running
          cases running
        obtain ⟨_, _, opened⟩ := calls.opened
        have goes {action : RecordingAction fileSink} {after : Recording fileSink}
            (onward : action.Onward) (allowed : run.allows action)
            (moved : recording.next action = some after) :
            ∃ action next, action.Onward ∧ run.step action = some next := by
          refine ⟨.recorder action, { run with recording := some after }, onward, ?_⟩
          simp only [CaptureRun.step, found, if_pos allowed, moved, Option.map_some]
        rcases opened.reached.paced.closes opened.reached.sound.flow idle owner with
          ⟨after, moved⟩ | ⟨after, moved⟩ | ⟨after, moved⟩
        · exact @goes .work after trivial trivial moved
        · exact @goes .timeout after trivial trivial moved
        · exact @goes .proceed after trivial trivial moved

/-- `run` never waits for storage or in a circle, but only for a body that has not come back. -/
theorem Ending.progress (ending : run.Ending) : run.stage = .left ∨
    (∃ action next, action.Onward ∧ run.step action = some next) ∨ run.Blocked := by
  cases here : run.stage with
  | left => exact .inl rfl
  | joining => exact .inr (ending.joins (.inl here))
  | rejoining => exact .inr (ending.joins (.inr here))
  | closing called => exact .inr (.inl (ending.closes (.inl here)))
  | discarding called => exact .inr (.inl (ending.closes (.inr here)))
  | opening paths | fifos paths =>
      cases paths with
      | nil => exact .inr (.inl ⟨.proceed, by simp [RunAction.Onward, CaptureRun.step, proceed, here]⟩)
      | cons path paths =>
          refine .inr (.inl ⟨.openFile (.ok 0), ?_⟩)
          simp [RunAction.Onward, CaptureRun.step, openFile, here]
  | launching bodies =>
      cases bodies with
      | nil => exact .inr (.inl ⟨.proceed, by simp [RunAction.Onward, CaptureRun.step, proceed, here]⟩)
      | cons body bodies =>
          exact .inr (.inl ⟨.launch true, by simp [RunAction.Onward, CaptureRun.step, launch, here]⟩)
  | recording =>
      cases outputs : run.outputs with
      | none =>
          refine .inr (.inl ⟨.proceed, ?_⟩)
          simp [RunAction.Onward, CaptureRun.step, proceed, here, outputs]
      | some files =>
          refine .inr (.inl ⟨.record false false, ?_⟩)
          simp only [RunAction.Onward, CaptureRun.step, record, here, outputs]
          cases openRecording files false false <;> exact ⟨_, trivial, rfl⟩
  | starting | timing start =>
      exact .inr (.inl ⟨.clock 0, by simp [RunAction.Onward, CaptureRun.step, clock, here]⟩)
  | aging start =>
      refine .inr (.inl ⟨.clock 0, ?_⟩)
      simp only [RunAction.Onward, CaptureRun.step, clock, here]
      split <;> exact ⟨_, trivial, rfl⟩
  | missing start =>
      refine .inr (.inl ⟨.proceed, ?_⟩)
      simp only [RunAction.Onward, CaptureRun.step, proceed, here]
      split <;> exact ⟨_, trivial, rfl⟩
  | watching start | waking start | stopping | concluding | destroying =>
      exact .inr (.inl ⟨.proceed, by simp [RunAction.Onward, CaptureRun.step, proceed, here]⟩)
  | releasing fds =>
      refine .inr (.inl ⟨.proceed, ?_⟩)
      cases fds <;> simp [RunAction.Onward, CaptureRun.step, proceed, here]

variable {K : Type} {begun : Bool} {actions : List RunAction}

/-- In every run the wait is for a call in progress. -/
theorem Awaited.steps {inputs : CaptureInputs K}
    (ran : (start inputs begun).steps actions = some run) : run.Awaited := by
  have initial : (start inputs begun).Sound begun [] ∧ (start inputs begun).Awaited :=
    ⟨start_sound inputs begun, fun _ found => by cases found⟩
  have kept (seen : List RunAction) (before : CaptureRun) (action : RunAction) (after : CaptureRun)
      (moved : before.step action = some after)
      (held : before.Sound begun seen ∧ before.Awaited) :
      after.Sound begun (seen ++ [action]) ∧ after.Awaited :=
    ⟨held.1.step moved, held.2.step held.1.recorded moved⟩
  exact (PartialRun.traced (fun seen state => CaptureRun.Sound begun seen state ∧ state.Awaited) kept
    ran initial).2

/-- Once the stop flag is set, `run` comes to its end without the storage: it waits only for a body that
has not come back, and never in a circle. Where the bodies come back, each order of the steps leads to
the end, in a number of steps that is bounded. -/
theorem stop_never_waits [Field K] [LinearOrder K] {inputs : CaptureInputs K} {first : CaptureRun}
    (entered : enter inputs begun = .ok first) (ran : first.steps actions = some run)
    (asked : run.stop = true) :
    (∀ moves last, (∀ move ∈ moves, move.Onward) → run.steps moves = some last →
      moves.length ≤ run.effort ∧
        (last.stage = .left ∨ (∃ move next, move.Onward ∧ last.step move = some next) ∨
          last.Blocked)) ∧
    (∀ moves last, (∀ move ∈ moves, move.Onward ∨ move.ComesBack) → run.steps moves = some last →
      moves.length ≤ run.effort ∧
        (last.stage = .left ∨
          ∃ move next, (move.Onward ∨ move.ComesBack) ∧ last.step move = some next)) ∧
    ∃ moves last, (∀ move ∈ moves, move.Onward ∨ move.ComesBack) ∧ run.steps moves = some last ∧
      last.stage = .left := by
  obtain rfl := enter_start entered
  have sound := Sound.steps ran
  have ending : run.Ending := ⟨sound.threads, sound.recorded, Awaited.steps ran, asked⟩
  have kept (state : CaptureRun) (action : RunAction) (after : CaptureRun)
      (onward : action.Onward ∨ action.ComesBack) (moved : state.step action = some after)
      (held : state.Ending) : after.Ending ∧ after.effort < state.effort := held.step onward moved
  have progress (state : CaptureRun) (held : state.Ending) : state.stage = .left ∨
      ∃ move next, (move.Onward ∨ move.ComesBack) ∧ state.step move = some next := by
    rcases held.progress with left | ⟨move, next, onward, moved⟩ | blocked
    · exact .inl left
    · exact .inr ⟨move, next, .inl onward, moved⟩
    · obtain ⟨move, next, comes, moved⟩ := Blocked.comes state blocked
      exact .inr ⟨move, next, .inr comes, moved⟩
  have short {moves : List RunAction} {last : CaptureRun}
      (all : ∀ move ∈ moves, move.Onward ∨ move.ComesBack) (moved : run.steps moves = some last) :
      last.Ending ∧ moves.length ≤ run.effort := by
    obtain ⟨there, short⟩ := PartialRun.bounded Ending _ effort kept moved all ending
    exact ⟨there, by omega⟩
  refine ⟨fun moves last all moved => ?_, fun moves last all moved => ?_, ?_⟩
  · obtain ⟨there, few⟩ := short (fun move member => .inl (all move member)) moved
    exact ⟨few, there.progress⟩
  · obtain ⟨there, few⟩ := short all moved
    exact ⟨few, progress last there⟩
  · exact PartialRun.completes Ending _ effort kept (fun state => state.stage = .left) progress ending

/-- The writer is in its call of the sink, and the update thread has the mutex, when the flag is set. -/
def SampleRun.stuck : List RunAction :=
  SampleRun.begins ++ [.recorder (.submit SampleRun.estimate)] ++
    List.replicate 6 (.recorder (.advance .estimate)) ++
    [.recorder .work, .recorder (.submit SampleRun.estimate)] ++
    List.replicate 4 (.recorder (.advance .estimate)) ++ [.requestStop]

/-- From there the steps that need no storage lead to the joins, and the returns of the bodies to the
end. -/
theorem stop_never_waits_stuck : ∃ run,
    (start SampleRun.inputs false).steps SampleRun.stuck = some run ∧
      (run.recording.any fun recording => recording.worker = .holding SampleRun.estimate ∧
        recording.holder = some .estimate) = true ∧
      (∃ last, run.steps [.proceed, .proceed] = some last ∧
        ((∃ move next, move.Onward ∧ last.step move = some next) ∨ last.Blocked)) ∧
      ∃ moves last, (∀ move ∈ moves, move.Onward ∨ move.ComesBack) ∧ run.steps moves = some last ∧
        last.stage = .left := by
  have ran : ((start SampleRun.inputs false).steps SampleRun.stuck).any (fun run =>
      (run.stop && run.recording.any fun recording =>
        recording.worker = .holding SampleRun.estimate ∧ recording.holder = some .estimate) &&
      (run.steps [.proceed, .proceed]).any fun last => last.stage = .joining) = true := by
    decide +kernel
  obtain ⟨run, ran, facts⟩ := (Option.any_eq_true _ _).mp ran
  obtain ⟨facts, joins⟩ := Bool.and_eq_true_iff.mp facts
  obtain ⟨asked, blocked⟩ := Bool.and_eq_true_iff.mp facts
  obtain ⟨last, moved, joining⟩ := (Option.any_eq_true _ _).mp joins
  have waits := stop_never_waits SampleRun.entered ran asked
  have onward : ∀ move ∈ ([.proceed, .proceed] : List RunAction), move.Onward := by
    simp [RunAction.Onward]
  refine ⟨run, ran, blocked, ⟨last, moved, ?_⟩, waits.2.2⟩
  refine (waits.1 _ last onward moved).2.resolve_left fun left => ?_
  rw [of_decide_eq_true joining] at left
  cases left

end CaptureRun
end Vio
