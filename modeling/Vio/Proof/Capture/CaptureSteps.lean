import Vio.Proof.Capture.Features
import Vio.Proof.Recording.CompleteRecording

namespace Vio
open History

namespace NativeCapture

/-- The number of frames that entered the queue. -/
def enqueued (idx : Nat) (camera : CameraStage) : Nat :=
  if camera.frame.isSome then idx - 1 else idx

/-- What holds in every state of a capture. -/
structure Sound (files : List RecordingFile) (capture : NativeCapture) : Prop where
  recorder : capture.recording.Sound
  stored : capture.recording.Stored files
  camera : CameraSide (capture.width * capture.height) capture.recording capture.idx capture.frames
    capture.camera
  features : FeatureSide capture.recording capture.frames (enqueued capture.idx capture.camera)
    capture.camQueue capture.update
  foreign : ∀ record ∈ offeredRecords capture.recording.history, record.stream ≠ .camera →
    record.stream ≠ .features → Foreign record

variable {capture next : NativeCapture} {files : List RecordingFile}

/-- A frame that is read joins the frames, which no record refers to yet. -/
theorem Sound.read (sound : capture.Sound files) {frame : CameraFrame}
    (moved : capture.read frame = some next) : next.Sound files := by
  unfold NativeCapture.read at moved
  split at moved
  · rename_i waiting
    have camera := sound.camera
    have features := sound.features
    rw [waiting] at camera features
    split at moved <;> cases moved
    · refine ⟨sound.recorder, sound.stored, ?_, features, sound.foreign⟩
      exact camera.stage (camera.idle (by simp)) (.inl rfl) (.inl rfl)
    · rename_i dimensions
      exact ⟨sound.recorder, sound.stored, camera.counted (not_not.mp dimensions),
        features.counted frame, sound.foreign⟩
  · cases moved

/-- The camera thread hands over the record of the frame that it read. -/
theorem Sound.cameraThread (sound : capture.Sound files)
    (moved : capture.cameraThread = some next) : next.Sound files := by
  have camera := sound.camera
  have features := sound.features
  unfold NativeCapture.cameraThread at moved
  split at moved <;> rename_i stage
  · cases moved
  · cases moved
  · rw [stage] at camera features
    have idle := camera.idle (by simp)
    split at moved <;> cases moved
    · exact ⟨sound.recorder, sound.stored, camera.stage idle (.inr rfl) (.inl rfl), features,
        sound.foreign⟩
    · rename_i failed
      exact ⟨sound.recorder, sound.stored, camera.stage idle (.inr rfl) (.inr ⟨rfl, .inl failed⟩),
        features, sound.foreign⟩
  · rw [stage] at camera features
    have idle := camera.idle (by simp)
    split at moved <;> cases moved
    · rename_i finished
      exact ⟨sound.recorder, sound.stored, camera.stage idle (.inr rfl) (.inr ⟨rfl, .inr finished⟩),
        features, sound.foreign⟩
    · exact ⟨sound.recorder, sound.stored, camera.stage idle (.inr rfl) (.inl rfl), features,
        sound.foreign⟩
  · rename_i frame
    rw [stage] at camera features
    obtain ⟨after, began, rfl⟩ := Option.map_eq_some_iff.mp moved
    have step := Recording.submit_step began
    have offered := Recording.submit_offered began
    refine ⟨sound.recorder.step step, sound.stored.step step sound.recorder,
      camera.submitted began, features.recorded step fun record same => ?_, fun record member => ?_⟩
    · rw [offered] at same
      have last := List.append_inj' same rfl
      cases last.2
      simp [cameraRecord]
    · rw [offered] at member
      rcases List.mem_append.mp member with member | member
      · exact sound.foreign record member
      · rw [List.mem_singleton.mp member]
        exact fun other => absurd rfl other
  · rename_i frame
    rw [stage] at camera features
    split at moved <;> cases moved
    rename_i idle
    have idle : capture.recording.calls .camera = none := by
      rw [Recording.calls, Option.isNone_iff_eq_none.mp idle]
      rfl
    exact ⟨sound.recorder, sound.stored, camera.stage idle (.inr rfl) (.inl rfl), features,
      sound.foreign⟩
  · rename_i frame
    rw [stage] at camera features
    cases moved
    have idle := camera.idle (by simp)
    obtain ⟨earlier, frames⟩ := camera.current frame rfl
    have count := camera.count
    rw [frames, List.length_append, List.length_singleton] at count
    have all : due capture.recording capture.frames (.handing frame) =
        cameraRecords 1 capture.frames := by
      rw [due, idle]
      rfl
    have known : Known capture.recording capture.frames ⟨frame.timestamp_ns, capture.idx - 1⟩ := by
      refine ⟨⟨frame, ?_, rfl⟩, camera.kept.imp_left fun kept => ?_⟩
      · rw [count, frames]
        simp
      · rw [kept, all, cameraRecords_length, frames, List.length_append, List.length_singleton, count]
        exact Nat.lt_succ_self _
    have bound : enqueued capture.idx (.handing frame) + 1 = enqueued capture.idx .waiting := by
      simp only [enqueued, CameraStage.frame, Option.isSome_some, if_true, Option.isSome_none,
        Bool.false_eq_true, if_false]
      omega
    refine ⟨sound.recorder, sound.stored, camera.stage idle (.inl rfl) (.inl rfl), ?_, sound.foreign⟩
    have after := features.enqueued capture.maxQueue rfl known
    rw [bound] at after
    exact after

/-- The frame that the update thread takes was submitted before. -/
theorem Sound.take (sound : capture.Sound files) (moved : capture.take = some next) :
    next.Sound files := by
  unfold NativeCapture.take at moved
  split at moved
  · rename_i waiting
    have features := sound.features
    rw [waiting] at features
    split at moved <;> rename_i queue
    · cases moved
    · rename_i captured rest
      cases moved
      rw [queue] at features
      refine ⟨sound.recorder, sound.stored, sound.camera, ?_, sound.foreign⟩
      refine features.stage (features.idle (by simp)) (fun other member => ?_) ?_
      · rcases member with member | same
        · exact .inl (List.mem_cons_of_mem _ member)
        · cases same
          exact .inl List.mem_cons_self
      · exact List.Sublist.refl _
  · cases moved

/-- The features that the update thread records are those of the frame that it took. -/
theorem Sound.updateThread (sound : capture.Sound files) {initialized : Bool}
    {points : List FeaturePoint} (moved : capture.updateThread initialized points = some next) :
    next.Sound files := by
  have features := sound.features
  unfold NativeCapture.updateThread at moved
  split at moved <;> rename_i stage
  · cases moved
  · rw [stage] at features
    have idle := features.idle (by simp)
    split at moved <;> cases moved
    · exact ⟨sound.recorder, sound.stored, sound.camera,
        features.stage idle (fun _ member => member) (List.Sublist.refl _), sound.foreign⟩
    · refine ⟨sound.recorder, sound.stored, sound.camera,
        features.stage idle (fun _ member => .inl (member.resolve_right (by simp [UpdateStage.captured])))
          ?_, sound.foreign⟩
      exact List.sublist_append_right _ _
  · rw [stage] at features
    have idle := features.idle (by simp)
    split at moved <;> cases moved
    · refine ⟨sound.recorder, sound.stored, sound.camera,
        features.stage idle (fun _ member => .inl (member.resolve_right (by simp [UpdateStage.captured])))
          ?_, sound.foreign⟩
      exact List.sublist_append_right _ _
    · exact ⟨sound.recorder, sound.stored, sound.camera,
        features.stage idle (fun _ member => member) (List.Sublist.refl _), sound.foreign⟩
  · rename_i captured
    rw [stage] at features
    obtain ⟨after, began, rfl⟩ := Option.map_eq_some_iff.mp moved
    have step := Recording.submit_step began
    have offered := Recording.submit_offered began
    refine ⟨sound.recorder.step step, sound.stored.step step sound.recorder,
      sound.camera.recorded sound.recorder step fun record same => ?_,
      features.submitted rfl rfl began, fun record member => ?_⟩
    · rw [offered] at same
      have last := List.append_inj' same rfl
      cases last.2
      simp [featuresRecord]
    · rw [offered] at member
      rcases List.mem_append.mp member with member | member
      · exact sound.foreign record member
      · rw [List.mem_singleton.mp member]
        exact fun _ other => absurd rfl other
  · rw [stage] at features
    split at moved <;> cases moved
    rename_i idle
    have idle : capture.recording.calls .features = none := by
      rw [Recording.calls, Option.isNone_iff_eq_none.mp idle]
      rfl
    refine ⟨sound.recorder, sound.stored, sound.camera,
      features.stage idle (fun _ member => .inl (member.resolve_right (by simp [UpdateStage.captured])))
        (List.Sublist.refl _), sound.foreign⟩

/-- A step of the recording keeps the join if it offers nothing of the two streams. -/
theorem Sound.recorded (sound : capture.Sound files) {after : Recording fileSink}
    (step : capture.recording.Step after)
    (offered : offeredRecords after.history = offeredRecords capture.recording.history ∨
      ∃ record, Foreign record ∧
        offeredRecords after.history = offeredRecords capture.recording.history ++ [record]) :
    Sound files { capture with recording := after } := by
  have foreign (record : RecordingRecord)
      (same : offeredRecords after.history = offeredRecords capture.recording.history ++ [record]) :
      Foreign record := by
    rcases offered with none | ⟨other, foreign, more⟩
    · rw [none] at same
      simp at same
    · rw [more] at same
      cases (List.append_inj' same rfl).2
      exact foreign
  refine ⟨sound.recorder.step step, sound.stored.step step sound.recorder,
    sound.camera.recorded sound.recorder step (fun record same => (foreign record same).1),
    sound.features.recorded step (fun record same => (foreign record same).2.1), ?_⟩
  intro record member notCamera notFeatures
  rcases offered with none | ⟨other, foreign, more⟩
  · rw [none] at member
    exact sound.foreign record member notCamera notFeatures
  · rw [more] at member
    rcases List.mem_append.mp member with member | member
    · exact sound.foreign record member notCamera notFeatures
    · rw [List.mem_singleton.mp member]
      exact foreign

/-- The recording moves by itself, or a foreign stream submits. -/
theorem Sound.recorderStep (sound : capture.Sound files) {action : RecordingAction fileSink}
    (moved : capture.recorder action = some next) : next.Sound files := by
  have plain (other : ∀ record, action ≠ .submit record)
      (moved : (capture.recording.next action).map (fun recording => { capture with recording }) =
        some next) : next.Sound files := by
    obtain ⟨after, advanced, rfl⟩ := Option.map_eq_some_iff.mp moved
    exact sound.recorded (Recording.next_step sound.recorder.keyed advanced)
      (.inl (Recording.next_offered advanced other))
  cases action with
  | submit record =>
      unfold NativeCapture.recorder at moved
      dsimp only at moved
      split at moved
      · rename_i foreign
        obtain ⟨after, began, rfl⟩ := Option.map_eq_some_iff.mp moved
        exact sound.recorded (Recording.submit_step began)
          (.inr ⟨record, foreign, Recording.submit_offered began⟩)
      · cases moved
  | advance | work | write | finish | close | timeout | proceed => exact plain (by simp) moved

/-- Each thread keeps the invariant, and so does any interleaving of them. -/
theorem Sound.step (sound : capture.Sound files) {action : CaptureAction}
    (moved : capture.next action = some next) : next.Sound files := by
  cases action with
  | read frame => exact sound.read moved
  | camera => exact sound.cameraThread moved
  | take => exact sound.take moved
  | update initialized points => exact sound.updateThread moved
  | recorder action => exact sound.recorderStep moved

/-- The capture is in a state that some interleaving reaches from its beginning. -/
def Reached (files : List RecordingFile) (width height maxQueue : Nat) (capture : NativeCapture) :
    Prop :=
  ∃ (byteLimit recordLimit : Nat) (writerBusy threads slot : Bool) (recording : Recording fileSink)
    (actions : List CaptureAction),
    Recording.create (some (recordingFiles files)) (some {}) byteLimit recordLimit writerBusy
      threads = (.ok recording, slot) ∧
      run { recording, width, height, maxQueue } actions = some capture

/-- A capture with a new recording has no frames and no features. -/
theorem sound_start {recording : Recording fileSink} (fresh : recording.Fresh)
    (sinkState : recording.sinkState = recordingFiles files) (width height maxQueue : Nat) :
    Sound files { recording, width, height, maxQueue } := by
  have idle (stream : RecordingStream) : recording.submits stream = none := by rw [fresh.submits]
  have calls (stream : RecordingStream) : recording.calls stream = none := by
    rw [Recording.calls, idle]
    rfl
  have accepted : acceptedRecords recording.history = [] := by rw [fresh.history]; rfl
  have offered : offeredRecords recording.history = [] := by rw [fresh.history]; rfl
  refine ⟨fresh.sound, fresh.stored sinkState, ?_, ?_, ?_⟩
  · have due : due recording [] .waiting = [] := by
      rw [NativeCapture.due, calls]
      rfl
    refine ⟨rfl, by simp, by simp [CameraStage.frame], .inl ?_, ?_, ?_, ?_⟩
    · rw [due, acceptedCamera, accepted]
      rfl
    · rw [due, acceptedCamera, accepted]
      exact List.prefix_rfl
    · intro record same
      rw [calls] at same
      cases same
    · rw [idle]
      exact Recording.guarded_idle _ _
  · refine ⟨by simp [UpdateStage.captured], ?_, by simp [UpdateStage.captured], ?_, [], ?_, ?_, ?_⟩
    · intro record same
      rw [calls] at same
      cases same
    · intro before record after split
      rw [accepted] at split
      simp at split
    · rw [offered]
      rfl
    · simp [UpdateStage.pending]
    · simp [UpdateStage.pending]
  · rw [offered]
    simp

theorem Sound.run (sound : capture.Sound files) {actions : List CaptureAction}
    (ran : capture.run actions = some next) : next.Sound files := by
  refine PartialRun.invariant (·.Sound files) ?_ ran sound
  intro before action after moved sound
  exact sound.step moved

theorem Reached.sound {width height maxQueue : Nat}
    (reached : Reached files width height maxQueue capture) : capture.Sound files := by
  obtain ⟨_, _, _, _, _, recording, actions, created, ran⟩ := reached
  obtain ⟨fresh, sinkState⟩ := Recording.create_fresh created
  exact (sound_start fresh (Option.some.inj sinkState).symm width height maxQueue).run ran

end NativeCapture
end Vio
