import Vio.Proof.Capture.Handoff

namespace Vio
open History

namespace NativeCapture

/-- The captured frame is one that the camera thread counted, and its record is accepted unless the
recording is inactive. -/
structure Known (recording : Recording fileSink) (frames : List CameraFrame)
    (captured : CapturedFrame) : Prop where
  counted : ∃ frame, frames[captured.frame_index]? = some frame ∧
    frame.timestamp_ns = captured.timestamp_ns
  recorded : captured.frame_index < (acceptedCamera recording).length ∨ recording.status.Inactive

/-- Accepted features follow the record of their frame. -/
def Joined (frames : List CameraFrame) (accepted : List RecordingRecord) : Prop :=
  ∀ before record after, accepted = before ++ record :: after → record.stream = .features →
    ∃ (features : FeatureFrame) (frame : CameraFrame), record = featuresRecord features ∧
      frames[features.frame_index]? = some frame ∧ frame.timestamp_ns = features.timestamp_ns ∧
      features.frame_index < (onStream .camera before).length

/-- One more record keeps the join if it refers to an accepted frame. -/
theorem Joined.snoc {frames : List CameraFrame} {accepted : List RecordingRecord}
    {record : RecordingRecord} (joined : Joined frames accepted)
    (last : record.stream = .features → ∃ (features : FeatureFrame) (frame : CameraFrame),
      record = featuresRecord features ∧ frames[features.frame_index]? = some frame ∧
      frame.timestamp_ns = features.timestamp_ns ∧
      features.frame_index < (onStream .camera accepted).length) :
    Joined frames (accepted ++ [record]) := by
  intro before other after split stream
  rcases List.eq_nil_or_concat after with rfl | ⟨rest, final, rfl⟩
  · obtain ⟨rfl, same⟩ := List.append_inj' split rfl
    cases same
    exact last stream
  · rw [List.concat_eq_append, ← List.cons_append, ← List.append_assoc] at split
    obtain ⟨same, _⟩ := List.append_inj' split rfl
    exact joined before other rest same stream

/-- More frames leave the frames that the records refer to. -/
theorem Joined.grow {frames : List CameraFrame} {accepted : List RecordingRecord}
    (joined : Joined frames accepted) (more : List CameraFrame) : Joined (frames ++ more) accepted := by
  intro before record after split stream
  obtain ⟨features, frame, same, found, stamp, early⟩ := joined before record after split stream
  refine ⟨features, frame, same, ?_, stamp, early⟩
  rw [List.getElem?_append_left (List.getElem?_eq_some_iff.mp found).1]
  exact found

/-- The indices of the submitted features, of the frame in hand and of the queue are in order. -/
structure InOrder (recording : Recording fileSink) (bound : Nat) (camQueue : List CapturedFrame)
    (update : UpdateStage) (features : List FeatureFrame) : Prop where
  offered : onStream .features (offeredRecords recording.history) = features.map featuresRecord
  sorted : (features.map FeatureFrame.frame_index ++ update.pending ++
    camQueue.map CapturedFrame.frame_index).Pairwise (· < ·)
  bounded : ∀ index ∈ features.map FeatureFrame.frame_index ++ update.pending ++
    camQueue.map CapturedFrame.frame_index, index < bound

/-- The update thread submits features of known frames only, each frame once. -/
structure FeatureSide (recording : Recording fileSink) (frames : List CameraFrame) (bound : Nat)
    (camQueue : List CapturedFrame) (update : UpdateStage) : Prop where
  known : ∀ captured, captured ∈ camQueue ∨ update.captured = some captured →
    Known recording frames captured
  call : ∀ record, recording.calls .features = some record →
    ∃ (captured : CapturedFrame) (features : FeatureFrame), update = .submitting captured ∧
      record = featuresRecord features ∧ features.frame_index = captured.frame_index ∧
      features.timestamp_ns = captured.timestamp_ns
  guard : ∀ captured, update.captured = some captured →
    Recording.Guarded recording.status (recording.submits .features)
      (¬ captured.frame_index < (acceptedCamera recording).length)
  joined : Joined frames (acceptedRecords recording.history)
  order : ∃ features, InOrder recording bound camQueue update features

variable {recording next : Recording fileSink} {frames : List CameraFrame} {bound : Nat}
  {camQueue : List CapturedFrame} {update : UpdateStage}

theorem Known.step {captured : CapturedFrame} (known : Known recording frames captured)
    (step : recording.Step next)
    (accepted : (acceptedCamera recording).length ≤ (acceptedCamera next).length) :
    Known next frames captured :=
  ⟨known.counted, known.recorded.imp (fun early => Nat.lt_of_lt_of_le early accepted) step.inactive⟩

/-- A step without traffic on the features stream. -/
theorem FeatureSide.quiet (side : FeatureSide recording frames bound camQueue update)
    (step : recording.Step next)
    (grows : (acceptedCamera recording).length ≤ (acceptedCamera next).length)
    (joined : Joined frames (acceptedRecords next.history))
    (offered : onStream .features (offeredRecords next.history) =
      onStream .features (offeredRecords recording.history))
    (calls : next.calls .features = recording.calls .features) :
    FeatureSide next frames bound camQueue update := by
  refine ⟨fun captured member => (side.known captured member).step step grows, ?_, ?_, joined, ?_⟩
  · rw [calls]
    exact side.call
  · intro captured member
    have known := side.known captured (.inr member)
    refine (step.guarded (fun _ wrong => known.recorded.resolve_left wrong)
      (side.guard captured member)).weaken fun late early => late ?_
    exact Nat.lt_of_lt_of_le early grows
  · obtain ⟨features, order⟩ := side.order
    exact ⟨features, offered.trans order.offered, order.sorted, order.bounded⟩

/-- No call of the features stream is open outside a submission. -/
theorem FeatureSide.idle (side : FeatureSide recording frames bound camQueue update)
    (outside : ∀ captured, update ≠ .submitting captured) : recording.calls .features = none := by
  cases calls : recording.calls .features with
  | none => rfl
  | some record =>
      obtain ⟨captured, _, same, _⟩ := side.call record calls
      exact absurd same (outside captured)

/-- A step of the recorder, where no call on the features stream begins. -/
theorem FeatureSide.recorded (side : FeatureSide recording frames bound camQueue update)
    (step : recording.Step next)
    (other : ∀ record, offeredRecords next.history = offeredRecords recording.history ++ [record] →
      record.stream ≠ .features) : FeatureSide next frames bound camQueue update := by
  cases step.traffic with
  | silent accepted offered calls =>
      exact side.quiet step (by rw [acceptedCamera, acceptedCamera, accepted])
        (by rw [accepted]; exact side.joined) (by rw [offered]) (by rw [calls])
  | began record idle accepted offered calls =>
      have stream := other record offered
      refine side.quiet step (by rw [acceptedCamera, acceptedCamera, accepted])
        (by rw [accepted]; exact side.joined) ?_ ?_
      · rw [offered, onStream_append_other _ stream]
      · rw [calls, Function.update_of_ne (Ne.symm stream)]
  | accepted record stage current admitted accepted offered calls =>
      have grows : (acceptedCamera recording).length ≤ (acceptedCamera next).length := by
        rw [acceptedCamera, acceptedCamera, accepted, onStream, onStream, List.filter_append,
          List.length_append]
        exact Nat.le_add_right _ _
      by_cases stream : record.stream = .features
      · rw [stream] at current calls
        obtain ⟨captured, features, rfl, rfl, index, stamp⟩ :=
          side.call record (by rw [Recording.calls, current]; rfl)
        have guard := side.guard captured rfl
        rw [current] at guard
        have early := not_not.mp (guard.admitted _ stage rfl admitted)
        have idle : next.calls .features = none := by rw [calls, Function.update_self]
        obtain ⟨frame, found, same⟩ := (side.known captured (.inr rfl)).counted
        refine ⟨fun other member => (side.known other member).step step grows, ?_, ?_, ?_, ?_⟩
        · intro record same
          rw [idle] at same
          cases same
        · intro other _
          rw [not_calls idle]
          exact Recording.guarded_idle _ _
        · rw [accepted]
          refine side.joined.snoc fun _ => ⟨features, frame, rfl, ?_, ?_, ?_⟩
          · rw [index]
            exact found
          · rw [stamp]
            exact same
          · rw [index]
            exact early
        · obtain ⟨features, order⟩ := side.order
          exact ⟨features, by rw [offered]; exact order.offered, order.sorted, order.bounded⟩
      · refine side.quiet step grows ?_ (by rw [offered]) ?_
        · rw [accepted]
          exact side.joined.snoc fun same => absurd same stream
        · rw [calls, Function.update_of_ne (Ne.symm stream)]
  | rejected record locked current accepted offered calls =>
      have kept : acceptedCamera next = acceptedCamera recording := by rw [acceptedCamera, accepted]
      by_cases stream : record.stream = .features
      · rw [stream] at calls
        have idle : next.calls .features = none := by rw [calls, Function.update_self]
        refine ⟨fun other member => (side.known other member).step step (by rw [kept]), ?_, ?_, ?_, ?_⟩
        · intro record same
          rw [idle] at same
          cases same
        · intro other _
          rw [not_calls idle]
          exact Recording.guarded_idle _ _
        · rw [accepted]
          exact side.joined
        · obtain ⟨features, order⟩ := side.order
          exact ⟨features, by rw [offered]; exact order.offered, order.sorted, order.bounded⟩
      · refine side.quiet step (by rw [kept]) ?_ (by rw [offered]) ?_
        · rw [accepted]
          exact side.joined
        · rw [calls, Function.update_of_ne (Ne.symm stream)]

/-- The update thread begins its call. -/
theorem FeatureSide.submitted {captured : CapturedFrame} {features : FeatureFrame}
    (side : FeatureSide recording frames bound camQueue (.recording captured))
    (index : features.frame_index = captured.frame_index)
    (stamp : features.timestamp_ns = captured.timestamp_ns)
    (began : recording.submit (featuresRecord features) = some next) :
    FeatureSide next frames bound camQueue (.submitting captured) := by
  have step := Recording.submit_step began
  have history : next.history = .began (featuresRecord features) :: recording.history := by
    unfold Recording.submit at began
    split at began <;> cases began
    rfl
  have calls : next.calls .features = some (featuresRecord features) := by
    unfold Recording.submit at began
    split at began <;> cases began
    simp [Recording.calls, Recording.toStage, Recording.record, featuresRecord]
  have accepted : acceptedRecords next.history = acceptedRecords recording.history := by
    rw [history]
    exact heard_cons_none rfl
  have offered : offeredRecords next.history =
      offeredRecords recording.history ++ [featuresRecord features] := by
    rw [history]
    exact heard_cons_some rfl
  have kept : acceptedCamera next = acceptedCamera recording := by rw [acceptedCamera, accepted]
  refine ⟨fun other member => (side.known other member).step step (by rw [kept]), ?_, ?_, ?_, ?_⟩
  · intro record same
    rw [calls] at same
    exact ⟨captured, features, rfl, (Option.some.inj same).symm, index, stamp⟩
  · intro other same
    have known := side.known other (.inr same)
    rw [kept]
    exact step.guarded (fun _ wrong => known.recorded.resolve_left wrong) (side.guard other same)
  · rw [accepted]
    exact side.joined
  · obtain ⟨earlier, order⟩ := side.order
    have indices : (earlier ++ [features]).map FeatureFrame.frame_index ++
        (UpdateStage.submitting captured).pending =
          earlier.map FeatureFrame.frame_index ++ (UpdateStage.recording captured).pending := by
      simp [UpdateStage.pending, index]
    refine ⟨earlier ++ [features], ?_, ?_, ?_⟩
    · have stream : (featuresRecord features).stream = .features := rfl
      rw [offered, onStream_append_same _ stream, order.offered, List.map_append]
      rfl
    · rw [indices]
      exact order.sorted
    · rw [indices]
      exact order.bounded

/-- The update thread moves on outside the recorder, and frames leave the queue. -/
theorem FeatureSide.stage {camQueue' : List CapturedFrame} {update' : UpdateStage}
    (side : FeatureSide recording frames bound camQueue update)
    (idle : recording.calls .features = none)
    (known : ∀ captured, captured ∈ camQueue' ∨ update'.captured = some captured →
      captured ∈ camQueue ∨ update.captured = some captured)
    (indices : (update'.pending ++ camQueue'.map CapturedFrame.frame_index).Sublist
      (update.pending ++ camQueue.map CapturedFrame.frame_index)) :
    FeatureSide recording frames bound camQueue' update' := by
  refine ⟨fun captured member => side.known captured (known captured member), ?_, ?_, side.joined, ?_⟩
  · intro record same
    rw [idle] at same
    cases same
  · intro captured _
    rw [not_calls idle]
    exact Recording.guarded_idle _ _
  · obtain ⟨features, order⟩ := side.order
    have shorter := indices.append_left (features.map FeatureFrame.frame_index)
    rw [← List.append_assoc, ← List.append_assoc] at shorter
    exact ⟨features, order.offered, order.sorted.sublist shorter,
      fun index member => order.bounded index (shorter.subset member)⟩

/-- The camera thread counts a frame. -/
theorem FeatureSide.counted (side : FeatureSide recording frames bound camQueue update)
    (frame : CameraFrame) : FeatureSide recording (frames ++ [frame]) bound camQueue update := by
  refine ⟨fun captured member => ?_, side.call, side.guard, side.joined.grow _, side.order⟩
  obtain ⟨⟨known, found, stamp⟩, recorded⟩ := side.known captured member
  refine ⟨⟨known, ?_, stamp⟩, recorded⟩
  rw [List.getElem?_append_left (List.getElem?_eq_some_iff.mp found).1]
  exact found

/-- The bounded queue keeps the newest frames. -/
theorem dropOldest_suffix (maxQueue : Nat) (camQueue : List CapturedFrame) :
    dropOldest maxQueue camQueue <:+ camQueue := by
  induction camQueue with
  | nil => exact List.suffix_rfl
  | cons captured rest inductionHypothesis =>
      rw [dropOldest]
      split
      · exact inductionHypothesis.trans (List.suffix_cons captured rest)
      · exact List.suffix_rfl

/-- The camera thread hands its frame on; the oldest frames of the queue may go. -/
theorem FeatureSide.enqueued (side : FeatureSide recording frames bound camQueue update)
    (maxQueue : Nat) {captured : CapturedFrame} (newest : captured.frame_index = bound)
    (known : Known recording frames captured) :
    FeatureSide recording frames (bound + 1) (dropOldest maxQueue camQueue ++ [captured]) update := by
  have rest := dropOldest_suffix maxQueue camQueue
  refine ⟨fun other member => ?_, side.call, side.guard, side.joined, ?_⟩
  · rcases member with member | same
    · rcases List.mem_append.mp member with member | member
      · exact side.known other (.inl (rest.subset member))
      · rw [List.mem_singleton.mp member]
        exact known
    · exact side.known other (.inr same)
  · obtain ⟨features, order⟩ := side.order
    have shorter := (rest.sublist.map CapturedFrame.frame_index).append_left
      (features.map FeatureFrame.frame_index ++ update.pending)
    have bounded (index : Nat) (member : index ∈ features.map FeatureFrame.frame_index ++
        update.pending ++ (dropOldest maxQueue camQueue).map CapturedFrame.frame_index) :
        index < bound := order.bounded index (shorter.subset member)
    refine ⟨features, order.offered, ?_, ?_⟩
    · rw [List.map_append, ← List.append_assoc]
      refine List.pairwise_append.mpr ⟨order.sorted.sublist shorter, by simp, ?_⟩
      intro index member last same
      rw [List.map_singleton, List.mem_singleton, newest] at same
      rw [same]
      exact bounded index member
    · rw [List.map_append, ← List.append_assoc]
      intro index member
      rcases List.mem_append.mp member with member | member
      · exact Nat.lt_succ_of_lt (bounded index member)
      · rw [List.map_singleton, List.mem_singleton, newest] at member
        rw [member]
        exact Nat.lt_succ_self bound

end NativeCapture
end Vio
