import Mathlib.Data.List.TakeWhile
import Vio.Construction.LibcameraSource
import Vio.Library.History
import Vio.Library.PartialRun
import Vio.Proof.Camera.FrameQueue

namespace Vio
open CameraCapture History

namespace SourceEvent
variable {K : Type}

def request : SourceEvent K → Option (Request K)
  | .callback request _ => some request
  | .fault _ | .read | .closed => none

def delivered : SourceEvent K → Option (CameraCapture.CameraFrame K)
  | .callback _ frame => frame
  | .fault _ | .read | .closed => none

def thrown : SourceEvent K → Option Thrown
  | .fault thrown => some thrown
  | .callback _ _ | .read | .closed => none

/-- What an event does to the queue. -/
def queueAction : SourceEvent K → Option (QueueAction (CameraCapture.CameraFrame K) Thrown)
  | .callback _ frame => frame.map .push
  | .fault thrown => some (.fail thrown)
  | .read => some .read
  | .closed => some .close

theorem heard_thrown_fault (what : Thrown) (history : List (SourceEvent K)) :
    heard thrown (.fault what :: history) = heard thrown history ++ [what] := heard_cons_some rfl

theorem heard_delivered_some (request : Request K) (frame : CameraCapture.CameraFrame K)
    (history : List (SourceEvent K)) :
    heard delivered (.callback request (some frame) :: history) =
      heard delivered history ++ [frame] := heard_cons_some rfl

theorem heard_push (request : Request K) (frame : CameraCapture.CameraFrame K)
    (history : List (SourceEvent K)) :
    heard queueAction (.callback request (some frame) :: history) =
      heard queueAction history ++ [.push frame] := heard_cons_some rfl

/-- The faults are the failures of the queue. -/
theorem failures_heard (history : List (SourceEvent K)) :
    (heard queueAction history).filterMap QueueAction.failedError = heard thrown history := by
  rw [heard, List.filterMap_reverse, List.filterMap_filterMap, heard]
  apply congrArg List.reverse
  apply List.filterMap_congr
  rintro (⟨request, _ | frame⟩ | thrown | _ | _) _ <;> rfl

/-- The delivered frames are those pushed to the queue. -/
theorem pushes_heard (history : List (SourceEvent K)) :
    (heard queueAction history).filterMap QueueAction.pushedFrame = heard delivered history := by
  rw [heard, List.filterMap_reverse, List.filterMap_filterMap, heard]
  apply congrArg List.reverse
  apply List.filterMap_congr
  rintro (⟨request, _ | frame⟩ | thrown | _ | _) _ <;> rfl

/-- Only a start resets the queue. -/
theorem reset_not_heard (history : List (SourceEvent K)) : .reset ∉ heard queueAction history := by
  rw [heard, List.mem_reverse, List.mem_filterMap]
  rintro ⟨⟨request, _ | frame⟩ | thrown | _ | _, _, same⟩ <;> cases same

end SourceEvent

namespace SourceAction
variable {K : Type}

/-- The request of a callback that was not cancelled. -/
def live : SourceAction K → Option (Request K)
  | .completed request _ => if request.cancelled then none else some request
  | _ => none

/-- The owner begins to stop the source. -/
def stops : SourceAction K → Bool
  | .completed _ stops => stops
  | .stopping => true
  | _ => false

end SourceAction

open SourceEvent

namespace LibcameraSource
variable {K : Type} [Field K] [LinearOrder K]

/-- The callbacks without an exception, newest first. -/
def requests (history : List (SourceEvent K)) : List (Request K) :=
  history.filterMap SourceEvent.request

/-- The shutter and the gain of a request are within the tolerance of the requested exposure. -/
def reports (exposure : Option (Exposure K)) (request : Request K) : Bool :=
  match request.shutter, request.gain with
  | some shutter, some gain => matchesExposure exposure shutter gain
  | _, _ => false

/-- The newest three requests are within the tolerance. -/
def Settled (exposure : Option (Exposure K)) (requests : List (Request K)) : Prop :=
  3 ≤ requests.length ∧ ∀ request ∈ requests.take 3, reports exposure request = true

/-- What holds of a pushed frame, its request and the callbacks before it. -/
structure Delivers (offset : Int) (exposure : Option (Exposure K)) (request : Request K)
    (past : List (SourceEvent K)) (frame : CameraCapture.CameraFrame K) : Prop where
  eleventh : 10 ≤ (requests past).length
  settled : Settled exposure (request :: requests past)
  stamped : ∃ sensor now, request.timestamp = some sensor ∧ request.now = .ok now ∧
    frame.timestampNs = sensor - offset ∧
    now - 2000000000 ≤ frame.timestampNs ∧ frame.timestampNs ≤ now + 10000000
  later : ∀ earlier ∈ heard delivered past, earlier.timestampNs < frame.timestampNs

/-- The law of a pushed frame before the first fault. -/
def Lawful (offset : Int) (exposure : Option (Exposure K)) (event : SourceEvent K)
    (past : List (SourceEvent K)) : Prop :=
  heard thrown past = [] → ∀ request frame, event = .callback request (some frame) →
    Delivers offset exposure request past frame

/-- Before the first fault a callback whose number is among those in question has settled. -/
def Settles (numbers : Nat → Prop) (exposure : Option (Exposure K)) (event : SourceEvent K)
    (past : List (SourceEvent K)) : Prop :=
  heard thrown past = [] → ∀ request frame, event = .callback request frame →
    numbers ((requests past).length + 1) → Settled exposure (request :: requests past)

/-- The numbers from the sixtieth on. -/
def Late (number : Nat) : Prop := 60 ≤ number

/-- The counter of the callbacks has wrapped and is below sixty again. -/
def Wrapped (number : Nat) : Prop := 2 ^ 32 ≤ number ∧ number % 2 ^ 32 < 60

/-- What every action keeps. -/
structure Kept (offset : Int) (exposure : Option (Exposure K)) (source : LibcameraSource K) :
    Prop where
  sampled : source.offset = offset
  requested : source.exposure = exposure
  queue : source.frames = (CameraQueue.reset {}).run (heard queueAction source.history)
  lawful : Always (Lawful offset exposure) source.history
  settles : Always (Settles (fun number => 60 ≤ number % 2 ^ 32) exposure) source.history

/-- The counters before a fault. They wrap. -/
structure Counted (source : LibcameraSource K) : Prop where
  received : source.received = UInt32.ofNat (requests source.history).length
  settled : source.settled =
    UInt32.ofNat ((requests source.history).takeWhile (reports source.exposure)).length
  previous : ∀ frame ∈ heard delivered source.history, frame.timestampNs ≤ source.previous

/-- The invariant of a run. After a fault or a stop the counters do not matter. -/
structure Sound (offset : Int) (exposure : Option (Exposure K)) (source : LibcameraSource K) :
    Prop extends Kept offset exposure source where
  counted : source.stopping = false → heard thrown source.history = [] → source.Counted

/-- Before the first fault a callback and those before it are of the first completed requests. -/
def Leads (completed : List (Request K)) (event : SourceEvent K) (past : List (SourceEvent K)) : Prop :=
  heard thrown past = [] → ∀ request frame, event = .callback request frame →
    heard SourceEvent.request (event :: past) <+: completed

/-- How the callbacks follow the completed requests. -/
structure Followed (actions : List (SourceAction K)) (source : LibcameraSource K) : Prop where
  among : (heard SourceEvent.request source.history).Sublist (actions.filterMap SourceAction.live)
  running : (∀ action ∈ actions, action.stops = false) → source.stopping = false
  all : source.stopping = false → heard thrown source.history = [] →
    heard SourceEvent.request source.history = actions.filterMap SourceAction.live
  leads : Always (Leads (actions.filterMap SourceAction.live)) source.history

variable {offset : Int} {exposure : Option (Exposure K)} {source : LibcameraSource K}

/-- A run of three at the front of the newest requests. -/
theorem settled_of_takeWhile {requests : List (Request K)}
    (run : 3 ≤ (requests.takeWhile (reports exposure)).length) : Settled exposure requests := by
  have front : requests.takeWhile (reports exposure) <+: requests :=
    List.takeWhile_prefix (reports exposure)
  refine ⟨run.trans front.length_le, fun request member => ?_⟩
  have same : requests.take 3 = (requests.takeWhile (reports exposure)).take 3 := by
    obtain ⟨rest, split⟩ := front
    conv_lhs => rw [← split]
    exact List.take_append_of_le_length run
  rw [same] at member
  exact List.mem_takeWhile_imp (List.mem_of_mem_take member)

/-- A wrapped counter is no larger than its number. -/
theorem le_of_le_ofNat {bound : UInt32} {number : Nat} (reached : bound ≤ UInt32.ofNat number) :
    bound.toNat ≤ number := by
  rw [UInt32.le_iff_toNat_le, UInt32.toNat_ofNat'] at reached
  exact reached.trans (Nat.mod_le ..)

theorem lt_of_lt_ofNat {bound : UInt32} {number : Nat} (reached : bound < UInt32.ofNat number) :
    bound.toNat < number := by
  rw [UInt32.lt_iff_toNat_lt, UInt32.toNat_ofNat'] at reached
  exact reached.trans_le (Nat.mod_le ..)

/-- What a successful reading of the metadata says. -/
theorem readMetadata_ok {request : Request K} {mono shutter : Int} {gain : K}
    (read : source.readMetadata request = .ok (mono, shutter, gain)) :
    request.shutter = some shutter ∧ request.gain = some gain ∧
      ∃ sensor now, request.timestamp = some sensor ∧ request.now = .ok now ∧
        mono = sensor - source.offset ∧ source.previous < mono ∧
        now - 2000000000 ≤ mono ∧ mono ≤ now + 10000000 := by
  unfold readMetadata at read
  split at read
  · cases read
  · split at read
    · rename_i sensor shutter' gain' sensed shuttered gained
      split at read
      · cases read
      · split at read
        · cases read
        · split at read
          · cases read
          · split at read
            · cases read
            · rename_i now clock
              split at read
              · cases read
              · rename_i stamp stamped
                cases read
                unfold cameraTimestamp at stamped
                split at stamped
                · cases stamped
                · dsimp only at stamped
                  split at stamped
                  · cases stamped
                  · cases stamped
                    refine ⟨shuttered, gained, sensor, now, sensed, clock, rfl, ?_⟩
                    omega
    · cases read

omit [Field K] [LinearOrder K] in
/-- What a decision about a frame says of the counters. -/
theorem frameOf_ok {request : Request K} {mono shutter : Int} {gain : K}
    {frame : Option (CameraCapture.CameraFrame K)}
    (decided : source.frameOf request mono shutter gain = .ok frame) :
    (60 ≤ source.received → 3 ≤ source.settled) ∧
      ∀ delivered, frame = some delivered →
        10 < source.received ∧ 3 ≤ source.settled ∧ delivered.timestampNs = mono := by
  unfold frameOf at decided
  split at decided
  · cases decided
  · rename_i applied
    refine ⟨fun late => ?_, fun delivered some => ?_⟩
    · by_contra unsettled
      exact applied ⟨late, UInt32.not_le.mp unsettled⟩
    · subst some
      split at decided
      · rename_i ready
        split at decided
        · cases decided
        · split at decided
          · cases decided
          · cases decided
            exact ⟨ready.1, ready.2, rfl⟩
      · cases decided

/-- A change that no clause of the invariant reads. -/
theorem Kept.same {next : LibcameraSource K} (kept : Kept offset exposure source)
    (sameOffset : next.offset = source.offset) (sameExposure : next.exposure = source.exposure)
    (queue : next.frames = source.frames) (history : next.history = source.history) :
    Kept offset exposure next where
  sampled := sameOffset.trans kept.sampled
  requested := sameExposure.trans kept.requested
  queue := by rw [queue, history, kept.queue]
  lawful := by rw [history]; exact kept.lawful
  settles := by rw [history]; exact kept.settles

/-- An event other than a callback follows the queue with its action. -/
theorem Kept.event {next : LibcameraSource K} (kept : Kept offset exposure source)
    {event : SourceEvent K} {action : QueueAction (CameraCapture.CameraFrame K) Thrown}
    (acts : event.queueAction = some action) (other : event.request = none)
    (sameOffset : next.offset = source.offset) (sameExposure : next.exposure = source.exposure)
    (queue : next.frames = source.frames.step action)
    (history : next.history = event :: source.history) : Kept offset exposure next where
  sampled := sameOffset.trans kept.sampled
  requested := sameExposure.trans kept.requested
  queue := by
    rw [queue, history, heard_cons_some acts, CameraQueue.run_snoc, kept.queue]
  lawful := by
    rw [history]
    apply kept.lawful.cons
    rintro _ request frame rfl
    cases other
  settles := by
    rw [history]
    apply kept.settles.cons
    rintro _ request frame rfl
    cases other

/-- A failure of the queue ends what the counters have to say. -/
theorem Kept.fail (kept : Kept offset exposure source) (thrown : Thrown) :
    Sound offset exposure (source.fail thrown) where
  toKept := kept.event rfl rfl rfl rfl rfl rfl
  counted := by
    intro _ unfailed
    rw [LibcameraSource.fail, heard_thrown_fault] at unfailed
    exact absurd unfailed (List.append_ne_nil_of_right_ne_nil _ (List.cons_ne_nil _ _))

/-- The handler of the callback needs no counters. -/
theorem Kept.fault (kept : Kept offset exposure source) (thrown : Thrown) :
    Sound offset exposure (source.fault thrown) := by
  unfold LibcameraSource.fault
  split
  · rename_i stopping
    refine ⟨kept, fun running => ?_⟩
    rw [stopping] at running
    cases running
  · exact kept.fail thrown

/-- The counters after one more callback. -/
theorem Counted.count (counted : source.Counted) {request : Request K} (mono : Int)
    {shutter : Int} {gain : K} (shuttered : request.shutter = some shutter)
    (gained : request.gain = some gain) :
    (source.count mono shutter gain).received =
        UInt32.ofNat (request :: requests source.history).length ∧
      (source.count mono shutter gain).settled =
        UInt32.ofNat ((request :: requests source.history).takeWhile (reports source.exposure)).length := by
  have agrees : reports source.exposure request = matchesExposure source.exposure shutter gain := by
    rw [reports, shuttered, gained]
  constructor
  · rw [LibcameraSource.count, counted.received, List.length_cons, UInt32.ofNat_add]
    rfl
  · rw [LibcameraSource.count, List.takeWhile_cons, agrees, counted.settled]
    cases matchesExposure source.exposure shutter gain with
    | true => rw [if_pos rfl, if_pos rfl, List.length_cons, UInt32.ofNat_add]; rfl
    | false => rfl

/-- A callback that raises nothing, from its spec lemmas. -/
theorem Sound.callback (sound : Sound offset exposure source) (running : source.stopping = false)
    {request : Request K} {mono shutter : Int} {gain : K} {frame : Option (CameraCapture.CameraFrame K)}
    (read : source.readMetadata request = .ok (mono, shutter, gain))
    (decided : (source.count mono shutter gain).frameOf request mono shutter gain = .ok frame) :
    Lawful offset exposure (.callback request frame) source.history ∧
      Settles (fun number => 60 ≤ number % 2 ^ 32) exposure (.callback request frame)
        source.history ∧
      (heard thrown source.history = [] → ∀ pushed ∈
        heard delivered (.callback request frame :: source.history), pushed.timestampNs ≤ mono) := by
  obtain ⟨shuttered, gained, sensor, now, sensed, clock, stamp, newer, fresh, past⟩ :=
    readMetadata_ok read
  obtain ⟨late, delivers⟩ := frameOf_ok decided
  have earlier (unfailed : heard thrown source.history = []) (pushed : CameraCapture.CameraFrame K)
      (member : pushed ∈ heard delivered source.history) : pushed.timestampNs < mono :=
    ((sound.counted running unfailed).previous pushed member).trans_lt newer
  refine ⟨?_, ?_, ?_⟩
  · rintro unfailed _ pushed ⟨⟩
    obtain ⟨received, settled⟩ := (sound.counted running unfailed).count mono shuttered gained
    obtain ⟨many, run, same⟩ := delivers pushed rfl
    rw [received] at many
    rw [settled, sound.requested] at run
    have eleventh : 10 < (request :: requests source.history).length := lt_of_lt_ofNat many
    rw [sound.sampled] at stamp
    refine ⟨Nat.le_of_lt_succ eleventh, settled_of_takeWhile (le_of_le_ofNat run),
      ⟨sensor, now, sensed, clock, ?_⟩, ?_⟩
    · rw [same]
      exact ⟨stamp, fresh, past⟩
    · rw [same]
      exact earlier unfailed
  · rintro unfailed _ _ ⟨⟩ many
    obtain ⟨received, settled⟩ := (sound.counted running unfailed).count mono shuttered gained
    rw [received, settled, sound.requested] at late
    apply settled_of_takeWhile
    refine le_of_le_ofNat (late ?_)
    rw [UInt32.le_iff_toNat_le, UInt32.toNat_ofNat']
    exact many
  · intro unfailed pushed member
    cases frame with
    | none =>
        rw [heard_cons_none rfl] at member
        exact (earlier unfailed pushed member).le
    | some frame =>
        rw [heard_delivered_some] at member
        rcases List.mem_append.mp member with member | member
        · exact (earlier unfailed pushed member).le
        · rw [List.mem_singleton.mp member, (delivers frame rfl).2.2]

/-- The callback of a completed request. -/
theorem Sound.completed (sound : Sound offset exposure source) (request : Request K)
    (stops : Bool) : Sound offset exposure (source.completed request stops) := by
  unfold LibcameraSource.completed
  split
  · refine ⟨sound.toKept.same rfl rfl rfl rfl, fun running unfailed => ?_⟩
    have counted := sound.counted (Bool.or_eq_false_iff.mp running).1 unfailed
    exact ⟨counted.received, counted.settled, counted.previous⟩
  · rename_i runs
    have running : source.stopping = false := by simpa using (not_or.mp runs).1
    have kept : Kept offset exposure { source with stopping := stops } :=
      sound.toKept.same rfl rfl rfl rfl
    dsimp only
    split
    · exact kept.fault _
    · rename_i mono shutter gain read
      split
      · have counted : Kept offset exposure
            (LibcameraSource.count { source with stopping := stops } mono shutter gain) :=
          kept.same rfl rfl rfl rfl
        exact counted.fault _
      · rename_i frame decided
        obtain ⟨lawful, settles, previous⟩ := sound.callback running read decided
        refine ⟨⟨sound.sampled, sound.requested, ?_, sound.lawful.cons lawful,
          sound.settles.cons settles⟩, fun _ unfailed => ?_⟩
        · cases frame with
          | none =>
              rw [heard_cons_none rfl]
              exact sound.queue
          | some frame =>
              have pushed : source.frames.push frame =
                  (CameraQueue.reset {}).run (heard queueAction source.history ++ [.push frame]) := by
                rw [CameraQueue.run_snoc, ← sound.queue]
                rfl
              rw [← heard_push request frame source.history] at pushed
              exact pushed
        · rw [heard_cons_none rfl] at unfailed
          obtain ⟨shuttered, gained, _⟩ := readMetadata_ok read
          obtain ⟨received, settled⟩ :=
            (sound.counted running unfailed).count mono shuttered gained
          exact ⟨received, settled, previous unfailed⟩

/-- A request that goes back, or fails to. -/
theorem Sound.requeue (sound : Sound offset exposure source) (answer : Except Thrown Unit) :
    Sound offset exposure (source.requeue answer) := by
  have kept : Kept offset exposure { source with requeueing := false } :=
    sound.toKept.same rfl rfl rfl rfl
  have counted : Sound offset exposure { source with requeueing := false } :=
    ⟨kept, fun running unfailed =>
      have counted := sound.counted running unfailed
      ⟨counted.received, counted.settled, counted.previous⟩⟩
  unfold LibcameraSource.requeue
  dsimp only
  split
  · exact counted
  · split
    · exact counted
    · exact kept.fault _

/-- A step keeps the law of the callbacks, one case for each action. -/
theorem Sound.step (sound : Sound offset exposure source) {next : LibcameraSource K}
    {action : SourceAction K} (moved : source.step action = some next) :
    Sound offset exposure next := by
  cases action with
  | completed request stops =>
      obtain ⟨_, ⟨⟩⟩ := Option.ite_none_left_eq_some.mp moved
      exact sound.completed request stops
  | requeue answer =>
      obtain ⟨_, ⟨⟩⟩ := Option.ite_none_right_eq_some.mp moved
      exact sound.requeue answer
  | disconnected =>
      cases moved
      exact sound.toKept.fail _
  | read =>
      cases moved
      refine ⟨sound.toKept.event rfl rfl rfl rfl rfl rfl, ?_⟩
      intro running unfailed
      have counted := sound.counted running unfailed
      exact ⟨counted.received, counted.settled, counted.previous⟩
  | stopping =>
      cases moved
      exact ⟨sound.toKept.same rfl rfl rfl rfl, nofun⟩
  | stopped =>
      obtain ⟨⟨stopping, _⟩, ⟨⟩⟩ := Option.ite_none_right_eq_some.mp moved
      refine ⟨sound.toKept.event rfl rfl rfl rfl rfl rfl, fun running => ?_⟩
      rw [show source.stopping = false from running] at stopping
      cases stopping

omit [Field K] [LinearOrder K] in
/-- A fault stays on record. -/
theorem unfailed_past {event : SourceEvent K} {past : List (SourceEvent K)}
    (unfailed : heard thrown (event :: past) = []) : heard thrown past = [] := by
  cases found : event.thrown with
  | none => rwa [heard_cons_none found] at unfailed
  | some what =>
      rw [heard_cons_some found] at unfailed
      exact (List.append_eq_nil_iff.mp unfailed).1

omit [Field K] [LinearOrder K] in
/-- More completed requests leave the first ones. -/
theorem leads_more {completed more : List (Request K)} {history : List (SourceEvent K)}
    (leads : Always (Leads completed) history) (grown : completed <+: more) :
    Always (Leads more) history := by
  intro recent event past split unfailed request frame same
  exact (leads recent event past split unfailed request frame same).trans grown

omit [Field K] [LinearOrder K] in
/-- A change without a callback. -/
theorem Followed.silent {actions : List (SourceAction K)} {action : SourceAction K}
    {next : LibcameraSource K} (followed : source.Followed actions) (unlive : action.live = none)
    (events : next.history = source.history ∨
      ∃ event, next.history = event :: source.history ∧ event.request = none)
    (stays : next.stopping = false → source.stopping = false)
    (stopping : source.stopping = false → action.stops = false → next.stopping = false) :
    next.Followed (actions ++ [action]) := by
  have live : (actions ++ [action]).filterMap SourceAction.live =
      actions.filterMap SourceAction.live := by
    rw [List.filterMap_append, List.filterMap_cons_none unlive, List.filterMap_nil, List.append_nil]
  have requests : heard SourceEvent.request next.history =
      heard SourceEvent.request source.history := by
    rcases events with same | ⟨event, same, none⟩ <;> rw [same]
    exact heard_cons_none none
  constructor
  · rw [requests, live]
    exact followed.among
  · intro quiet
    rw [List.forall_mem_append] at quiet
    exact stopping (followed.running quiet.1) (quiet.2 action (List.mem_singleton_self action))
  · intro runs unfailed
    rw [requests, live]
    refine followed.all (stays runs) ?_
    rcases events with same | ⟨event, same, _⟩ <;> rw [same] at unfailed
    · exact unfailed
    · exact unfailed_past unfailed
  · rw [live]
    rcases events with same | ⟨event, same, none⟩ <;> rw [same]
    · exact followed.leads
    · refine followed.leads.cons fun _ request frame callback => ?_
      rw [callback] at none
      cases none

omit [Field K] [LinearOrder K] in
theorem unfailed_of_fail {thrown : Thrown} {P : Prop}
    (unfailed : heard SourceEvent.thrown (source.fail thrown).history = []) : P := by
  rw [LibcameraSource.fail, heard_thrown_fault] at unfailed
  exact absurd unfailed (List.append_ne_nil_of_right_ne_nil _ (List.cons_ne_nil _ _))

/-- A callback is that of its request, or raises a fault, or comes after the begin of a stop. -/
theorem Followed.completed {actions : List (SourceAction K)} (followed : source.Followed actions)
    (request : Request K) (stops : Bool) :
    (source.completed request stops).Followed (actions ++ [.completed request stops]) := by
  have grown : actions.filterMap SourceAction.live <+:
      (actions ++ [SourceAction.completed request stops]).filterMap SourceAction.live := by
    rw [List.filterMap_append]
    exact List.prefix_append _ _
  have leads := leads_more followed.leads grown
  have quiet (running : ∀ action ∈ actions ++ [SourceAction.completed request stops],
      action.stops = false) : source.stopping = false ∧ stops = false := by
    rw [List.forall_mem_append] at running
    exact ⟨followed.running running.1, running.2 _ (List.mem_singleton_self _)⟩
  have faulted {other : LibcameraSource K} (same : other.history = source.history)
      (began : other.stopping = stops) (thrown : Thrown) :
      (other.fault thrown).Followed (actions ++ [.completed request stops]) := by
    unfold LibcameraSource.fault
    split
    · rename_i stopping
      refine ⟨?_, fun running => began.trans (quiet running).2, fun runs => ?_, ?_⟩
      · rw [same]
        exact followed.among.trans grown.sublist
      · rw [stopping] at runs
        cases runs
      · rw [same]
        exact leads
    · refine ⟨?_, fun running => began.trans (quiet running).2, fun _ => unfailed_of_fail, ?_⟩
      · rw [LibcameraSource.fail, heard_cons_none rfl, same]
        exact followed.among.trans grown.sublist
      · rw [LibcameraSource.fail, same]
        exact leads.cons fun _ _ _ callback => by cases callback
  unfold LibcameraSource.completed
  split
  · rename_i idle
    refine ⟨followed.among.trans grown.sublist, fun running => ?_, fun runs unfailed => ?_, leads⟩
    · simp [quiet running]
    · obtain ⟨before, _⟩ := Bool.or_eq_false_iff.mp runs
      have cancelled : request.cancelled = true := by simpa [before] using idle
      rw [List.filterMap_append, followed.all before unfailed]
      simp [SourceAction.live, cancelled]
  · rename_i runs
    obtain ⟨before, kept⟩ := not_or.mp runs
    have before : source.stopping = false := eq_false_of_ne_true before
    have live : (SourceAction.completed request stops : SourceAction K).live = some request := by
      simp [SourceAction.live, eq_false_of_ne_true kept]
    dsimp only
    split
    · refine faulted ?_ ?_ _ <;> rfl
    · split
      · refine faulted ?_ ?_ _ <;> rfl
      · have here : ∀ frame, heard SourceEvent.request (.callback request frame :: source.history) =
            heard SourceEvent.request source.history ++ [request] := fun _ => heard_cons_some rfl
        have there : (actions ++ [SourceAction.completed request stops]).filterMap SourceAction.live =
            actions.filterMap SourceAction.live ++ [request] := by
          rw [List.filterMap_append, List.filterMap_cons_some live, List.filterMap_nil]
        have whole (unfailed : heard thrown source.history = []) (frame) :
            heard SourceEvent.request (.callback request frame :: source.history) =
              (actions ++ [SourceAction.completed request stops]).filterMap SourceAction.live := by
          rw [here, there, followed.all before unfailed]
        refine ⟨?_, fun running => (quiet running).2, fun _ unfailed => ?_, ?_⟩
        · rw [there]
          exact (here _) ▸ followed.among.append_right [request]
        · exact whole (unfailed_past unfailed) _
        · refine leads.cons fun unfailed _ _ callback => ?_
          cases callback
          exact whole unfailed _ ▸ List.prefix_rfl

/-- The events stay those that the actions bring about. -/
theorem Followed.step {actions : List (SourceAction K)} (followed : source.Followed actions)
    {next : LibcameraSource K} {action : SourceAction K} (moved : source.step action = some next) :
    next.Followed (actions ++ [action]) := by
  cases action with
  | completed request stops =>
      obtain ⟨_, ⟨⟩⟩ := Option.ite_none_left_eq_some.mp moved
      exact followed.completed request stops
  | requeue answer =>
      obtain ⟨_, ⟨⟩⟩ := Option.ite_none_right_eq_some.mp moved
      have same : ({ source with requeueing := false } : LibcameraSource K).Followed
          (actions ++ [.requeue answer]) := followed.silent rfl (.inl rfl) id (fun runs _ => runs)
      unfold LibcameraSource.requeue LibcameraSource.fault
      dsimp only
      repeat' split
      · exact same
      · exact same
      · exact followed.silent rfl (.inr ⟨_, rfl, rfl⟩) id (fun runs _ => runs)
  | disconnected =>
      cases moved
      exact followed.silent rfl (.inr ⟨_, rfl, rfl⟩) id (fun runs _ => runs)
  | read =>
      cases moved
      exact followed.silent rfl (.inr ⟨_, rfl, rfl⟩) id (fun runs _ => runs)
  | stopping =>
      cases moved
      exact followed.silent rfl (.inl rfl) nofun (fun _ quiet => by cases quiet)
  | stopped =>
      obtain ⟨_, ⟨⟩⟩ := Option.ite_none_right_eq_some.mp moved
      exact followed.silent rfl (.inr ⟨_, rfl, rfl⟩) id (fun runs _ => runs)

/-- The callbacks from the sixtieth on settle if those with a wrapped number do. -/
theorem settles_late {history : List (SourceEvent K)}
    (settles : Always (Settles (fun number => 60 ≤ number % 2 ^ 32) exposure) history) :
    Always (Settles Late exposure) history ↔ Always (Settles Wrapped exposure) history := by
  constructor
  · intro late recent event past split unfailed request frame same wrapped
    refine late recent event past split unfailed request frame same ?_
    have large : 2 ^ 32 ≤ (requests past).length + 1 := wrapped.1
    rw [Late]
    omega
  · intro wrapped recent event past split unfailed request frame same late
    by_cases small : 60 ≤ ((requests past).length + 1) % 2 ^ 32
    · exact settles recent event past split unfailed request frame same small
    · refine wrapped recent event past split unfailed request frame same ⟨?_, not_le.mp small⟩
      rw [Late] at late
      omega

/-- Where the number of a completed request has wrapped, it and the two before it are within the
tolerance of the requested exposure. -/
def WrapsReported (exposure : Option (Exposure K)) (completed : List (Request K)) : Prop :=
  ∀ number, Wrapped number → number ≤ completed.length →
    ∀ request ∈ (completed.take number).drop (number - 3), reports exposure request = true

/-- Less than 2^32 requests wrap no counter. -/
theorem wrapsReported_few {completed : List (Request K)} (few : completed.length < 2 ^ 32) :
    WrapsReported exposure completed := by
  intro number wrapped inside
  exact absurd wrapped.1 (by omega)

/-- The callbacks settle where the first completed requests are within the tolerance. -/
theorem settles_wrapped {completed : List (Request K)} {history : List (SourceEvent K)}
    (leads : Always (Leads completed) history) (reported : WrapsReported exposure completed) :
    Always (Settles Wrapped exposure) history := by
  rintro recent _ past split unfailed request frame rfl wrapped
  have first : (request :: requests past).reverse <+: completed :=
    leads recent _ past split unfailed request frame rfl
  have length : (request :: requests past).reverse.length = (requests past).length + 1 :=
    List.length_reverse
  have newest := List.prefix_iff_eq_take.mp first
  rw [length] at newest
  have large : 2 ^ 32 ≤ (requests past).length + 1 := wrapped.1
  refine ⟨?_, fun other member => reported _ wrapped (length ▸ first.length_le) other ?_⟩
  · rw [List.length_cons]
    omega
  · rw [← newest, List.drop_reverse, List.mem_reverse, List.length_cons,
      show (requests past).length + 1 - ((requests past).length + 1 - 3) = 3 by omega]
    exact member

section Start
variable [FloorRing K]

/-- A start that succeeds begins with an empty queue and history, and one offset. -/
theorem start_ok {started : LibcameraSource K} {fps : K} {answers : StartAnswers}
    (began : source.start fps exposure answers = (started, .ok ())) :
    ∃ offset, clockOffset answers.clocks = .ok offset ∧ Sound offset exposure started ∧
      started.Followed [] := by
  unfold start at began
  split at began
  · cases began
  · rename_i stopped _
    split at began
    · rename_i final launched
      obtain ⟨rfl, _⟩ := Prod.mk.inj began
      unfold launch at launched
      split at launched
      · cases launched
      · dsimp only at launched
        split at launched
        · cases launched
        · split at launched
          · cases launched
          · split at launched
            · cases launched
            · split at launched
              · cases launched
              · rename_i offset sampled
                split at launched
                · cases launched
                · obtain ⟨rfl, _⟩ := Prod.mk.inj launched
                  refine ⟨offset, sampled, ⟨⟨rfl, rfl, rfl, always_nil, always_nil⟩, fun _ _ => ?_⟩,
                    List.Sublist.refl [], fun _ => rfl, fun _ _ => rfl, always_nil⟩
                  exact ⟨rfl, rfl, nofun⟩
    · split at began <;> cases began

end Start
end LibcameraSource
end Vio
