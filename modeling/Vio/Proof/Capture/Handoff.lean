import Vio.Construction.NativeCapture
import Vio.Proof.Capture.Submissions

namespace Vio
open History

/-- The records of consecutive frames, where the first one was counted as `idx`. -/
def cameraRecords : Nat → List CameraFrame → List RecordingRecord
  | _, [] => []
  | idx, frame :: frames => cameraRecord idx frame :: cameraRecords (idx + 1) frames

/-- The indices go on where the first frames end. -/
theorem cameraRecords_append (idx : Nat) (first second : List CameraFrame) :
    cameraRecords idx (first ++ second) =
      cameraRecords idx first ++ cameraRecords (idx + first.length) second := by
  induction first generalizing idx with
  | nil => rfl
  | cons frame first inductionHypothesis =>
      rw [List.cons_append, cameraRecords, inductionHypothesis, cameraRecords, List.length_cons,
        Nat.add_right_comm, Nat.add_assoc, List.cons_append]

theorem cameraRecords_length (idx : Nat) (frames : List CameraFrame) :
    (cameraRecords idx frames).length = frames.length := by
  induction frames generalizing idx with
  | nil => rfl
  | cons frame frames inductionHypothesis => simp [cameraRecords, inductionHypothesis]

/-- The first records are those of the first frames. -/
theorem cameraRecords_take (idx count : Nat) (frames : List CameraFrame) :
    (cameraRecords idx frames).take count = cameraRecords idx (frames.take count) := by
  induction frames generalizing idx count with
  | nil => simp [cameraRecords]
  | cons frame frames inductionHypothesis =>
      cases count with
      | zero => rfl
      | succ count => simp [cameraRecords, inductionHypothesis]

def CameraStage.frame : CameraStage → Option CameraFrame
  | .checking frame | .healthy frame | .recording frame | .submitting frame | .handing frame =>
      some frame
  | .waiting | .died => none

/-- The frame of the thread is counted, and its call of `submit` has not begun. -/
def CameraStage.early : CameraStage → Bool
  | .checking _ | .healthy _ | .recording _ => true
  | _ => false

def UpdateStage.captured : UpdateStage → Option CapturedFrame
  | .fed captured | .healthy captured | .recording captured | .submitting captured => some captured
  | .waiting => none

/-- The index for which no features were submitted so far. -/
def UpdateStage.pending : UpdateStage → List Nat
  | .fed captured | .healthy captured | .recording captured => [captured.frame_index]
  | _ => []

namespace NativeCapture

/-- The camera records that are accepted by now where nothing went wrong. -/
def due (recording : Recording fileSink) (frames : List CameraFrame) (camera : CameraStage) :
    List RecordingRecord :=
  if camera.early || (recording.calls .camera).isSome then cameraRecords 1 frames.dropLast
  else cameraRecords 1 frames

abbrev acceptedCamera (recording : Recording fileSink) : List RecordingRecord :=
  onStream .camera (acceptedRecords recording.history)

/-- The camera thread submits the frames in order, or the recording is inactive. -/
structure CameraSide (size : Nat) (recording : Recording fileSink) (idx : Nat)
    (frames : List CameraFrame) (camera : CameraStage) : Prop where
  count : idx = frames.length
  sized : ∀ frame ∈ frames, frame.pixels.length = size
  current : ∀ frame, camera.frame = some frame → ∃ earlier, frames = earlier ++ [frame]
  kept : acceptedCamera recording = due recording frames camera ∨ recording.status.Inactive
  begins : acceptedCamera recording <+: due recording frames camera
  call : ∀ record, recording.calls .camera = some record → ∃ frame, camera = .submitting frame ∧
    record = cameraRecord idx frame
  guard : Recording.Guarded recording.status (recording.submits .camera)
    (acceptedCamera recording ≠ due recording frames camera)

variable {recording next : Recording fileSink} {size idx : Nat} {frames : List CameraFrame}
  {camera : CameraStage}

/-- What the recording was offered is the beginning of the records of all frames. -/
theorem due_begins (recording : Recording fileSink) (frames : List CameraFrame)
    (camera : CameraStage) : due recording frames camera <+: cameraRecords 1 frames := by
  unfold due
  split
  · rcases List.eq_nil_or_concat frames with rfl | ⟨earlier, frame, rfl⟩
    · exact List.prefix_rfl
    · rw [List.concat_eq_append, List.dropLast_concat, cameraRecords_append]
      exact List.prefix_append _ _
  · exact List.prefix_rfl

/-- A step without traffic on the camera stream. -/
theorem CameraSide.quiet (side : CameraSide size recording idx frames camera)
    (step : recording.Step next)
    (accepted : acceptedCamera next = acceptedCamera recording)
    (calls : next.calls .camera = recording.calls .camera) :
    CameraSide size next idx frames camera := by
  have same : due next frames camera = due recording frames camera := by rw [due, due, calls]
  refine ⟨side.count, side.sized, side.current, ?_, ?_, ?_, ?_⟩
  · rw [accepted, same]
    exact side.kept.imp id step.inactive
  · rw [accepted, same]
    exact side.begins
  · rw [calls]
    exact side.call
  · rw [accepted, same]
    exact step.guarded (fun _ wrong => side.kept.resolve_left wrong) side.guard

theorem not_calls {stream : RecordingStream} (idle : recording.calls stream = none) :
    recording.submits stream = none := by
  rw [Recording.calls, Option.map_eq_none_iff] at idle
  exact idle

/-- A step of the recorder, where no call on the camera stream begins. -/
theorem CameraSide.recorded (side : CameraSide size recording idx frames camera)
    (sound : recording.Sound) (step : recording.Step next)
    (other : ∀ record, offeredRecords next.history = offeredRecords recording.history ++ [record] →
      record.stream ≠ .camera) : CameraSide size next idx frames camera := by
  cases step.traffic with
  | silent accepted offered calls =>
      exact side.quiet step (by rw [acceptedCamera, accepted]) (by rw [calls])
  | began record idle accepted offered calls =>
      have stream := other record offered
      refine side.quiet step (by rw [acceptedCamera, accepted]) ?_
      rw [calls, Function.update_of_ne (Ne.symm stream)]
  | accepted record stage current admitted accepted offered calls =>
      by_cases stream : record.stream = .camera
      · rw [stream] at current calls
        obtain ⟨frame, rfl, rfl⟩ := side.call record (by rw [Recording.calls, current]; rfl)
        have guard := side.guard
        rw [current] at guard
        have exact' := not_not.mp (guard.admitted _ stage rfl admitted)
        obtain ⟨earlier, rfl⟩ := side.current frame rfl
        have idle : next.calls .camera = none := by rw [calls, Function.update_self]
        -- The accepted record is the one that was missing.
        have all : acceptedCamera next = cameraRecords 1 (earlier ++ [frame]) := by
          have before : acceptedCamera recording = cameraRecords 1 earlier := by
            rw [exact', due, Recording.calls, current]
            simp
          have count := side.count
          rw [List.length_append, List.length_singleton] at count
          rw [acceptedCamera, accepted, onStream_append_same _ stream, ← acceptedCamera, before,
            cameraRecords_append, count, Nat.add_comm]
          rfl
        have due' : due next (earlier ++ [frame]) (.submitting frame) =
            cameraRecords 1 (earlier ++ [frame]) := by
          rw [due, idle]
          rfl
        refine ⟨side.count, side.sized, side.current, .inl ?_, ?_, ?_, ?_⟩
        · rw [all, due']
        · rw [all, due']
        · intro record same
          rw [idle] at same
          cases same
        · rw [not_calls idle]
          exact Recording.guarded_idle _ _
      · refine side.quiet step ?_ ?_
        · rw [acceptedCamera, accepted, onStream_append_other _ stream]
        · rw [calls, Function.update_of_ne (Ne.symm stream)]
  | rejected record locked current accepted offered calls =>
      have kept : acceptedCamera next = acceptedCamera recording := by rw [acceptedCamera, accepted]
      by_cases stream : record.stream = .camera
      · rw [stream] at current calls
        have idle : next.calls .camera = none := by rw [calls, Function.update_self]
        obtain ⟨frame, rfl, rfl⟩ := side.call record (by rw [Recording.calls, current]; rfl)
        have inactive := (sound.judged.on .camera).rejecting _ locked current
        refine ⟨side.count, side.sized, side.current, .inr (step.inactive inactive), ?_, ?_, ?_⟩
        · rw [kept, due, idle]
          exact side.begins.trans (due_begins _ _ _)
        · intro record same
          rw [idle] at same
          cases same
        · rw [not_calls idle]
          exact Recording.guarded_idle _ _
      · refine side.quiet step kept ?_
        rw [calls, Function.update_of_ne (Ne.symm stream)]

/-- The camera thread begins its call. -/
theorem CameraSide.submitted {frame : CameraFrame}
    (side : CameraSide size recording idx frames (.recording frame))
    (began : recording.submit (cameraRecord idx frame) = some next) :
    CameraSide size next idx frames (.submitting frame) := by
  have step := Recording.submit_step began
  have history : next.history = .began (cameraRecord idx frame) :: recording.history := by
    unfold Recording.submit at began
    split at began <;> cases began
    rfl
  have calls : next.calls .camera = some (cameraRecord idx frame) := by
    unfold Recording.submit at began
    split at began <;> cases began
    simp [Recording.calls, Recording.toStage, Recording.record, cameraRecord]
  have accepted : acceptedCamera next = acceptedCamera recording := by
    rw [acceptedCamera, history]
    exact congrArg _ (heard_cons_none rfl)
  have same : due next frames (.submitting frame) = due recording frames (.recording frame) := by
    rw [due, due, calls]
    rfl
  refine ⟨side.count, side.sized, side.current, ?_, ?_, ?_, ?_⟩
  · rw [accepted, same]
    exact side.kept.imp id step.inactive
  · rw [accepted, same]
    exact side.begins
  · intro record same
    rw [calls] at same
    exact ⟨frame, rfl, (Option.some.inj same).symm⟩
  · rw [accepted, same]
    exact step.guarded (fun _ wrong => side.kept.resolve_left wrong) side.guard

/-- The camera thread has no call in progress outside `submit`. -/
theorem CameraSide.idle (side : CameraSide size recording idx frames camera)
    (outside : ∀ frame, camera ≠ .submitting frame) : recording.calls .camera = none := by
  cases calls : recording.calls .camera with
  | none => rfl
  | some record =>
      obtain ⟨frame, same, _⟩ := side.call record calls
      exact absurd same (outside frame)

/-- The camera thread moves on outside the recorder. -/
theorem CameraSide.stage {camera' : CameraStage} (side : CameraSide size recording idx frames camera)
    (idle : recording.calls .camera = none)
    (frame : camera'.frame = none ∨ camera'.frame = camera.frame)
    (stage : camera'.early = camera.early ∨ camera'.early = false ∧ recording.status.Inactive) :
    CameraSide size recording idx frames camera' := by
  refine ⟨side.count, side.sized, ?_, ?_, ?_, ?_, ?_⟩
  · intro current same
    rcases frame with none | kept
    · rw [none] at same
      cases same
    · exact side.current current (kept.symm.trans same)
  · rcases stage with early | ⟨_, inactive⟩
    · rw [due, early]
      exact side.kept
    · exact .inr inactive
  · rcases stage with early | ⟨early, _⟩
    · rw [due, early]
      exact side.begins
    · rw [due, early, idle]
      exact side.begins.trans (due_begins _ _ _)
  · intro record same
    rw [idle] at same
    cases same
  · rw [not_calls idle]
    exact Recording.guarded_idle _ _

/-- The camera thread counts a frame. -/
theorem CameraSide.counted {frame : CameraFrame} (side : CameraSide size recording idx frames .waiting)
    (dimensions : frame.pixels.length = size) :
    CameraSide size recording (idx + 1) (frames ++ [frame]) (.checking frame) := by
  have idle := side.idle (by simp)
  have same : due recording (frames ++ [frame]) (.checking frame) = due recording frames .waiting := by
    rw [due, due, idle]
    simp [CameraStage.early]
  refine ⟨?_, ?_, ?_, ?_, ?_, ?_, ?_⟩
  · rw [side.count, List.length_append]
    rfl
  · intro other member
    rcases List.mem_append.mp member with member | member
    · exact side.sized other member
    · rw [List.mem_singleton.mp member]
      exact dimensions
  · intro current same
    cases same
    exact ⟨frames, rfl⟩
  · rw [same]
    exact side.kept
  · rw [same]
    exact side.begins
  · intro record same
    rw [idle] at same
    cases same
  · rw [not_calls idle]
    exact Recording.guarded_idle _ _

end NativeCapture
end Vio
