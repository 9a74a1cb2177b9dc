import Mathlib.Algebra.Order.Floor.Ring
import Mathlib.Data.Rat.Floor
import Vio.Construction.FlightConfigFile
import Vio.Library.FallibleLoop
import Vio.Proof.Camera.Settled
import Vio.Proof.Camera.Sweep

namespace Vio
open CameraCapture FallibleLoop LibcameraSource

namespace FlightConfigFile
variable {K : Type} [Field K] [LinearOrder K] [IsStrictOrderedRing K]

/-- Every setting is in its range. -/
structure FlightConfig.Valid (config : FlightConfig K) : Prop where
  baud : 1 ≤ config.baud ∧ config.baud ≤ 921600
  watermark : 1 ≤ config.watermark ∧ config.watermark ≤ 1024
  shutter : 1 ≤ config.shutter ∧ config.shutter ≤ 1000000
  maxShutter : 1 ≤ config.maxShutter ∧ config.maxShutter ≤ 1000000
  minFreeGb : 0 ≤ config.minFreeGb ∧ config.minFreeGb ≤ (1000000000 : Int)
  tiltDeg : (-360 : Int) ≤ config.tiltDeg ∧ config.tiltDeg ≤ (360 : Int)
  maxLag : 1 / (1000 : Int) ≤ config.maxLag ∧ config.maxLag ≤ (10 : Int)
  fps : 1 / (10 : Int) ≤ config.fps ∧ config.fps ≤ (120 : Int)
  gain : 1 ≤ config.gain ∧ config.gain ≤ (16 : Int)
  imuLpf : 0 ≤ config.imuLpf ∧ config.imuLpf ≤ (187 : Int)
  exposureMode : config.exposureMode ∈ exposureModes
  verbosity : config.verbosity ∈ verbosities

omit [IsStrictOrderedRing K] in
/-- A number that is read lies between the bounds of its field. -/
theorem number_ok {json : JsonObject K} {key : String} {minimum maximum value : K}
    (read : json.number key minimum maximum = .ok value) : minimum ≤ value ∧ value ≤ maximum := by
  have checked (result : K) (read : (if result < minimum ∨ result > maximum then
      Except.error (ConfigFailure.runtimeError ("invalid setting: " ++ key)) else .ok result) =
        .ok value) : minimum ≤ value ∧ value ≤ maximum := by
    split at read
    · cases read
    · rename_i inside
      obtain rfl := Except.ok.inj read
      exact ⟨not_lt.mp (not_or.mp inside).1, not_lt.mp (not_or.mp inside).2⟩
  unfold JsonObject.number at read
  split at read
  · cases read
  · exact checked _ read
  · exact checked _ read
  · cases read

/-- An integer that is read is positive and at most the bound of its field. -/
theorem integer_ok {json : JsonObject K} {key : String} {maximum value : Nat}
    (read : json.integer key maximum = .ok value) : 1 ≤ value ∧ value ≤ maximum := by
  unfold JsonObject.integer at read
  split at read
  · cases read
  · rename_i stored present
    split at read
    · cases read
    · rename_i number checked
      obtain rfl := Except.ok.inj read
      have same : number = stored := by
        unfold JsonObject.number at checked
        rw [present] at checked
        dsimp only at checked
        split at checked
        · cases checked
        · exact (Except.ok.inj checked).symm
      obtain ⟨low, high⟩ := number_ok checked
      rw [same, ← Int.cast_one, Int.cast_le] at low
      rw [same, ← Int.cast_natCast, Int.cast_le] at high
      omega
  · cases read

/-- Each field of the settings was read within its bounds. -/
theorem readSettings_ok {paths : PathOps} {file home : String} {json : JsonObject K}
    {config : FlightConfig K} (read : readSettings paths file home json = .ok config) :
    config.Valid := by
  unfold readSettings at read
  obtain ⟨_, _, read⟩ := bind_ok read
  obtain ⟨_, _, read⟩ := bind_ok read
  obtain ⟨_, _, read⟩ := bind_ok read
  obtain ⟨_, _, read⟩ := bind_ok read
  obtain ⟨_, _, read⟩ := bind_ok read
  obtain ⟨_, _, read⟩ := bind_ok read
  obtain ⟨_, _, read⟩ := bind_ok read
  obtain ⟨_, baud, read⟩ := bind_ok read
  obtain ⟨_, watermark, read⟩ := bind_ok read
  obtain ⟨_, shutter, read⟩ := bind_ok read
  obtain ⟨_, maxShutter, read⟩ := bind_ok read
  obtain ⟨_, minFreeGb, read⟩ := bind_ok read
  obtain ⟨_, tiltDeg, read⟩ := bind_ok read
  obtain ⟨_, maxLag, read⟩ := bind_ok read
  obtain ⟨_, fps, read⟩ := bind_ok read
  obtain ⟨_, gain, read⟩ := bind_ok read
  obtain ⟨_, imuLpf, read⟩ := bind_ok read
  obtain ⟨_, _, read⟩ := bind_ok read
  obtain ⟨_, _, read⟩ := bind_ok read
  split at read
  · cases read
  · rename_i mode
    split at read
    · cases read
    · rename_i verbosity
      obtain rfl := Except.ok.inj read
      exact ⟨integer_ok baud, integer_ok watermark, integer_ok shutter, integer_ok maxShutter,
        number_ok minFreeGb, number_ok tiltDeg, number_ok maxLag, number_ok fps, number_ok gain,
        number_ok imuLpf, not_not.mp mode, not_not.mp verbosity⟩

/-- A configuration that loads is valid, whatever the file holds. -/
theorem loadFlightConfig_ok {paths : PathOps} {file home : String}
    {content : Option (Option (JsonObject K))} {config : FlightConfig K}
    (loaded : loadFlightConfig paths file home content = .ok config) : config.Valid := by
  unfold loadFlightConfig at loaded
  split at loaded
  · cases loaded
  · cases loaded
  · split at loaded
    · cases loaded
    · split at loaded
      · cases loaded
      · exact readSettings_ok loaded

end FlightConfigFile

namespace CameraCapture
variable {K : Type}

/-- The frames that a probe can read, in their order. -/
def probeFrames (rounds : List (ProbeRound K)) : List (CameraFrame K) :=
  rounds.filterMap fun round => round.read.toOption.join

/-- A probe of the exposure keeps the one of the last frame that it waits for. -/
theorem probeLoop_last {count received : Nat} (settles : 10 < count) (waits : received < count)
    {state final : Exposure K} {rounds : List (ProbeRound K)}
    (ran : probeLoop count (fun _ frame => .ok frame.exposure) received state rounds =
      some (.ok final)) :
    ∃ frame, (probeFrames rounds)[count - received - 1]? = some frame ∧ final = frame.exposure := by
  induction rounds generalizing received state with
  | nil =>
      rw [probeLoop, if_pos waits] at ran
      cases ran
  | cons round rest inductionHypothesis =>
      rw [probeLoop, if_pos waits] at ran
      split at ran
      · cases ran
      · cases ran
      · split at ran
        · cases ran
        · split at ran
          · cases ran
          · rename_i silent
            have skipped : probeFrames (round :: rest) = probeFrames rest := by
              rw [probeFrames, List.filterMap_cons_none (by rw [silent]; rfl), probeFrames]
            rw [skipped]
            exact inductionHypothesis waits ran
          · rename_i frame read
            have kept : probeFrames (round :: rest) = frame :: probeFrames rest := by
              rw [probeFrames, List.filterMap_cons_some (by rw [read]; rfl), probeFrames]
            rw [kept]
            by_cases more : received + 1 < count
            · have later : count - received - 1 = (count - (received + 1) - 1) + 1 := by omega
              rw [later, List.getElem?_cons_succ]
              dsimp only at ran
              split at ran
              · exact inductionHypothesis more ran
              · exact inductionHypothesis more ran
            · -- The loop ends with this frame, which is past the settling ones.
              have last : received + 1 = count := by omega
              have ends (state : Exposure K) :
                  probeLoop count (fun _ frame => .ok frame.exposure) (received + 1) state rest =
                    some (.ok state) := by
                cases rest with
                | nil => rw [probeLoop, if_neg more]
                | cons round rest => rw [probeLoop, if_neg more]
              dsimp only at ran
              rw [if_pos (last ▸ settles), ends] at ran
              cases ran
              refine ⟨frame, ?_, rfl⟩
              rw [← last, Nat.add_sub_cancel_left]
              rfl

/-- A probe that ends well is a loop of its rounds without an exception. -/
theorem probe_ok {S : Type} {count : Nat} {consume : S → CameraFrame K → Except Thrown S}
    {state final : S} {answers : ProbeAnswers K}
    (probed : probe count consume state answers = some (.ok final)) :
    probeLoop count consume 0 state answers.rounds = some (.ok final) := by
  have failed (thrown : Thrown) : probeFailed answers thrown ≠ (.ok final : Except Thrown S) := by
    unfold probeFailed
    split <;> exact nofun
  unfold probe at probed
  split at probed
  · exact absurd (Option.some.inj probed) (failed _)
  · obtain ⟨result, ran, ended⟩ := Option.map_eq_some_iff.mp probed
    split at ended
    · exact absurd ended (failed _)
    · split at ended
      · exact absurd ended (failed _)
      · rw [ran, Except.ok.inj ended]

variable [Field K] [LinearOrder K]

omit [LinearOrder K] in
/-- A measurement is the exposure of the thirteenth frame. -/
theorem measure_ok {answers : ProbeAnswers K} {measured : Exposure K}
    (probed : measure answers = some (.ok measured)) :
    ∃ frame, (probeFrames answers.rounds)[12]? = some frame ∧ measured = frame.exposure :=
  probeLoop_last (by decide) (by decide) (probe_ok probed)

omit [LinearOrder K] in
/-- A sweep has results for candidates within the limit only. -/
theorem sweep_ok {maxShutter : Nat} {shutters : List Nat} {probes : List (ProbeAnswers K)}
    {results : List (SweepResult K)}
    (swept : sweep maxShutter shutters probes = some (.ok results)) :
    ∀ result ∈ results, result.shutter ∈ shutters ∧ result.shutter ≤ maxShutter := by
  induction shutters generalizing probes results with
  | nil =>
      cases swept
      exact nofun
  | cons shutter rest inductionHypothesis =>
      unfold sweep at swept
      split at swept
      · intro result member
        obtain ⟨among, within⟩ := inductionHypothesis swept result member
        exact ⟨List.mem_cons_of_mem _ among, within⟩
      · rename_i within
        split at swept
        · cases swept
        · split at swept
          · cases swept
          · cases swept
          · obtain ⟨later, ran, mapped⟩ := Option.map_eq_some_iff.mp swept
            cases later with
            | error thrown => cases mapped
            | ok later =>
                cases mapped
                intro result member
                rcases List.mem_cons.mp member with rfl | member
                · exact ⟨List.mem_cons_self .., not_lt.mp within⟩
                · obtain ⟨among, within⟩ := inductionHypothesis ran result member
                  exact ⟨List.mem_cons_of_mem _ among, within⟩

/-- The best result is one of the results. -/
theorem SweepResult.best_mem (first : SweepResult K) (rest : List (SweepResult K)) :
    best first rest ∈ first :: rest := by
  obtain ⟨bright, clipped⟩ := best_first first rest
  by_cases usable : ∃ result ∈ first :: rest, result.usable = true
  · exact (bright usable).mem
  · refine (clipped fun result member => ?_).mem
    exact eq_false_of_ne_true fun candidate => usable ⟨result, member, candidate⟩

/-- A start that succeeds has accepted its exposure. -/
theorem start_allowed [FloorRing K] {source started : LibcameraSource K} {fps : K}
    {exposure : Exposure K} {answers : StartAnswers}
    (began : source.start fps (some exposure) answers = (started, .ok ())) :
    allowsExposure (frameDuration fps) exposure = true := by
  by_contra refused
  have fails (stopped : LibcameraSource K) :
      (stopped.launch fps (some exposure) answers).2 ≠ .ok () := by
    unfold launch
    split
    · exact nofun
    · dsimp only
      split
      · exact nofun
      · split
        · exact nofun
        · rw [if_pos (by simpa using refused)]
          exact nofun
  unfold start at began
  split at began
  · cases began
  · rename_i stopped _
    split at began
    · rename_i launched
      exact fails stopped (congrArg Prod.snd launched)
    · split at began <;> cases began

section Flyable
variable [IsStrictOrderedRing K] [FloorRing K]

/-- The exposure of a measured product within the limits keeps the product. -/
theorem auto_exposure {product : K} {maxShutter : Nat} (limit : 1 ≤ maxShutter)
    (low : 1 ≤ product) (high : product ≤ maxShutter * ((16 : Nat) : K)) :
    let shutter := ⌊min product (maxShutter : K)⌋₊
    let gain := max 1 (product / shutter)
    1 ≤ shutter ∧ shutter ≤ maxShutter ∧ shutter * gain = product ∧ 1 ≤ gain ∧
      gain ≤ ((16 : Int) : K) := by
  intro shutter gain
  have limit : (1 : K) ≤ maxShutter := by exact_mod_cast limit
  have one : 1 ≤ min product (maxShutter : K) := le_min low limit
  have positive : 1 ≤ shutter := Nat.le_floor (by rwa [Nat.cast_one])
  have below : (shutter : K) ≤ min product (maxShutter : K) := Nat.floor_le (zero_le_one.trans one)
  have capped : shutter ≤ maxShutter := by exact_mod_cast below.trans (min_le_right _ _)
  have casted : (1 : K) ≤ shutter := by exact_mod_cast positive
  have nonzero : (0 : K) < shutter := zero_lt_one.trans_le casted
  have ratio : 1 ≤ product / shutter := (one_le_div₀ nonzero).mpr (below.trans (min_le_left _ _))
  have same : gain = product / shutter := max_eq_right ratio
  have sixteen : product ≤ ((16 : Int) : K) * shutter := by
    rcases le_or_gt (maxShutter : K) product with above | under
    · -- The gain makes up for the shutter at its limit.
      have full : shutter = maxShutter := by
        rw [show shutter = ⌊min product (maxShutter : K)⌋₊ from rfl, min_eq_right above,
          Nat.floor_natCast]
      rw [full, mul_comm]
      exact_mod_cast high
    · have next : min product (maxShutter : K) < shutter + 1 := Nat.lt_floor_add_one _
      rw [min_eq_left under.le] at next
      push_cast
      linarith
  refine ⟨positive, capped, ?_, ?_, ?_⟩
  · rw [same, mul_div_cancel₀ _ nonzero.ne']
  · exact le_max_left _ _
  · rw [same]
    exact (div_le_iff₀ nonzero).mpr sixteen

/-- A frame at the highest rate is longer than each candidate of a sweep. -/
theorem frameDuration_ge {fps : K} (positive : 0 < fps) (high : fps ≤ (120 : Int)) :
    8333 ≤ frameDuration fps := by
  have long : ((8333 : Int) : K) ≤ ((1000000 : Int) : K) / fps := by
    rw [le_div_iff₀ positive]
    push_cast at high ⊢
    linarith
  have sign : 0 ≤ ((1000000 : Int) : K) / fps := by
    apply le_trans _ long
    norm_num
  rw [frameDuration, SensorRunner.llround, if_pos sign, round_eq, Int.le_floor]
  linarith

omit [IsStrictOrderedRing K] [FloorRing K] in
theorem allowsExposure_iff {duration : Int} {exposure : Exposure K} :
    allowsExposure duration exposure = true ↔
      1 ≤ exposure.shutter ∧ (exposure.shutter : Int) ≤ duration ∧ 1 ≤ exposure.gain ∧
        exposure.gain ≤ ((16 : Int) : K) := by
  simp [allowsExposure, Nat.one_le_iff_ne_zero, and_assoc]

/-- The product of shutter and gain that an automatic probe measures. -/
def Measured (probes : List (ProbeAnswers K)) (product : K) : Prop :=
  ∃ answers rest frame, probes = answers :: rest ∧
    (probeFrames answers.rounds)[12]? = some frame ∧
    product = frame.exposure.shutter * frame.exposure.gain

end Flyable
end CameraCapture

namespace FlightConfigFile.FlightConfig
variable {K : Type} [Field K] [LinearOrder K] [IsStrictOrderedRing K] [FloorRing K]

/-- The start of a capture accepts the exposure, and the exposure keeps to its mode. -/
structure Flies (config : FlightConfig K) (probes : List (ProbeAnswers K)) (exposure : Exposure K) :
    Prop where
  starts : allowsExposure (frameDuration config.fps) exposure = true
  capped : config.exposureMode ≠ "fixed" → exposure.shutter ≤ config.maxShutter
  product : config.exposureMode = "auto" → Measured probes (exposure.shutter * exposure.gain)

/-- The shutter fits into a frame: the one of a fixed exposure, or the measured product up to the
limit of an automatic one. -/
def Fits (config : FlightConfig K) (probes : List (ProbeAnswers K)) : Prop :=
  (config.exposureMode = "fixed" → (config.shutter : Int) ≤ frameDuration config.fps) ∧
  (config.exposureMode = "auto" → ∀ product, Measured probes product →
    min product (config.maxShutter : K) < frameDuration config.fps + 1)

variable {config : FlightConfig K} {probes : List (ProbeAnswers K)} {exposure : Exposure K}

theorem Valid.duration (valid : config.Valid) : 8333 ≤ frameDuration config.fps := by
  refine frameDuration_ge (lt_of_lt_of_le ?_ valid.fps.1) valid.fps.2
  norm_num

omit [IsStrictOrderedRing K] in
/-- A fixed exposure flies exactly if its shutter fits into the frame. -/
theorem Valid.flies_fixed (valid : config.Valid) (mode : config.exposureMode = "fixed") :
    config.Flies probes ⟨config.shutter, config.gain⟩ ↔
      (config.shutter : Int) ≤ frameDuration config.fps := by
  constructor
  · intro flies
    exact (allowsExposure_iff.mp flies.starts).2.1
  · intro fits
    refine ⟨allowsExposure_iff.mpr ⟨valid.shutter.1, fits, valid.gain⟩, fun other => ?_, fun auto => ?_⟩
    · exact absurd mode other
    · rw [mode] at auto
      exact absurd auto (by decide)

/-- A measured product within the limits flies exactly if its shutter fits into a frame. -/
theorem Valid.flies_auto (valid : config.Valid) {product : K} (measured : Measured probes product)
    (low : 1 ≤ product) (high : product ≤ config.maxShutter * ((16 : Nat) : K)) :
    let shutter := ⌊min product (config.maxShutter : K)⌋₊
    config.Flies probes ⟨shutter, max 1 (product / shutter)⟩ ↔
      min product (config.maxShutter : K) < frameDuration config.fps + 1 := by
  intro shutter
  obtain ⟨positive, capped, same, gain⟩ := auto_exposure valid.maxShutter.1 low high
  have fits : (shutter : Int) ≤ frameDuration config.fps ↔
      min product (config.maxShutter : K) < frameDuration config.fps + 1 := by
    have duration : ((frameDuration config.fps).toNat : Int) = frameDuration config.fps :=
      Int.toNat_of_nonneg (le_trans (by decide) valid.duration)
    have casted : (frameDuration config.fps : K) = ((frameDuration config.fps).toNat : Nat) := by
      rw [← Int.cast_natCast, duration]
    rw [casted, ← duration, Nat.cast_le, ← Nat.lt_succ_iff, Nat.succ_eq_add_one, ← Nat.cast_succ]
    exact Nat.floor_lt (le_min (zero_le_one.trans low) (Nat.cast_nonneg _))
  rw [← fits]
  constructor
  · intro flies
    exact (allowsExposure_iff.mp flies.starts).2.1
  · intro short
    refine ⟨allowsExposure_iff.mpr ⟨positive, short, gain⟩, fun _ => capped, fun _ => ?_⟩
    change Measured probes (shutter * max 1 (product / shutter))
    rwa [same]

/-- A sweep stays below the longest shutter, so each of its results flies. -/
theorem Valid.flies_sweep (valid : config.Valid)
    (auto : config.exposureMode ≠ "auto") {results : List (SweepResult K)} {result : SweepResult K}
    (swept : sweep config.maxShutter sweepShutters probes = some (.ok results))
    (member : result ∈ results) : config.Flies probes ⟨result.shutter, 1⟩ := by
  obtain ⟨among, within⟩ := sweep_ok swept result member
  have bounds : ∀ shutter ∈ sweepShutters, 1 ≤ shutter ∧ shutter ≤ 4000 := by decide
  obtain ⟨positive, short⟩ := bounds result.shutter among
  have duration := valid.duration
  refine ⟨allowsExposure_iff.mpr ⟨positive, ?_, le_rfl, ?_⟩, fun _ => within, fun mode => ?_⟩
  · change (result.shutter : Int) ≤ _
    omega
  · norm_num
  · exact absurd mode auto

/-- The exposure that a loaded configuration leads to can be flown exactly where its shutter fits into
a frame. A sweep always leads to one. -/
theorem chosen_exposure_flies {paths : PathOps} {file home : String}
    {content : Option (Option (JsonObject K))}
    (loaded : loadFlightConfig paths file home content = .ok config)
    (selected : selectExposure config.exposures probes = some (.ok exposure)) :
    config.Flies probes exposure ↔ config.Fits probes := by
  have valid := loadFlightConfig_ok loaded
  unfold selectExposure at selected
  split at selected
  · rename_i mode
    obtain rfl := Except.ok.inj (Option.some.inj selected)
    have manual : config.exposureMode ≠ "auto" := by
      rw [show config.exposureMode = "fixed" from mode]
      decide
    exact (valid.flies_fixed mode).trans
      ⟨fun fits => ⟨fun _ => fits, fun auto => absurd auto manual⟩, fun fits => fits.1 mode⟩
  · rename_i fixed
    split at selected
    · rename_i mode
      split at selected
      · cases selected
      · rename_i answers rest
        obtain ⟨measured, probed, chosen⟩ := Option.map_eq_some_iff.mp selected
        cases measured with
        | error thrown => cases chosen
        | ok measured =>
            dsimp only at chosen
            split at chosen
            · cases chosen
            · rename_i range
              obtain rfl := Except.ok.inj chosen
              obtain ⟨frame, thirteenth, rfl⟩ := measure_ok probed
              have product : Measured (answers :: rest)
                  (frame.exposure.shutter * frame.exposure.gain) :=
                ⟨answers, rest, frame, rfl, thirteenth, rfl⟩
              obtain ⟨low, high⟩ := not_or.mp range
              refine (valid.flies_auto product (not_lt.mp low) (not_lt.mp high)).trans ?_
              constructor
              · rintro fits
                refine ⟨fun manual => absurd manual fixed, fun _ => ?_⟩
                rintro _ ⟨_, _, other, ⟨⟩, again, rfl⟩
                rw [thirteenth] at again
                cases again
                exact fits
              · exact fun fits => fits.2 mode _ product
    · rename_i auto
      have fits : config.Fits probes := ⟨fun mode => absurd mode fixed, fun mode => absurd mode auto⟩
      obtain ⟨results, swept, chosen⟩ := Option.map_eq_some_iff.mp selected
      cases results with
      | error thrown => cases chosen
      | ok results =>
          cases results with
          | nil => cases chosen
          | cons first rest =>
              cases chosen
              exact iff_of_true (valid.flies_sweep auto swept (SweepResult.best_mem first rest))
                fits

end FlightConfigFile.FlightConfig

namespace FlightConfigFile

theorem keys_nodup : keys.Nodup := by decide

/-- Paths as texts with slashes. -/
def samplePaths : PathOps where
  join first second := first ++ "/" ++ second
  isRelative path := !path.startsWith "/"
  absolute path := path
  parentPath _ := "/"
  lexicallyNormal path := path

/-- Settings at twenty frames a second. -/
def sampleJson (mode : String) (shutter : Int) : JsonObject ℚ where
  members :=
    [("baud", .integer 230400), ("device", .text "/dev/ttyAMA0"), ("estimate_dir", .text "/run/vio"),
      ("estimator_binary", .text "~/vio_live"), ("estimator_config", .text "~/config"),
      ("exposure_mode", .text mode), ("fps", .number 20), ("gain", .number 1),
      ("imu_lpf", .number 50), ("max_lag", .number (1 / 2)), ("max_shutter", .integer 4000),
      ("min_free_gb", .number 20), ("recording_dir", .text "~/vio"), ("send_velocity", .boolean true),
      ("shutter", .integer shutter), ("tilt_deg", .number 15), ("upside_down", .boolean true),
      ("verbosity", .text "WARNING"), ("watermark", .integer 8)]
  distinct := keys_nodup

def sampleConfig (mode : String) (shutter : Nat) : FlightConfig ℚ where
  recordingDir := "/home/vio"
  runtimeDir := "/run/vio"
  estimatorConfig := "/home/config"
  device := "/dev/ttyAMA0"
  exposureMode := mode
  verbosity := "WARNING"
  baud := 230400
  watermark := 8
  shutter
  maxShutter := 4000
  minFreeGb := 20
  tiltDeg := 15
  maxLag := 1 / 2
  fps := 20
  gain := 1
  imuLpf := 50
  upsideDown := true
  sendVelocity := true

/-- A probe whose thirteen frames report a product of 300. -/
def sampleProbe : ProbeAnswers ℚ where
  rounds := List.replicate 13
    { pump := .ok true
      expired := false
      read := .ok (some
        { pixels := []
          timestampNs := 0
          sequence := 0
          exposure := ⟨150, 2⟩ }) }

/-- The sample probe gives the shutter 300 at gain 1, which flies. -/
theorem chosen_exposure_flies_auto :
    (sampleConfig "auto" 200).Flies [sampleProbe] (⟨300, 1⟩ : Exposure ℚ) := by
  have loaded : loadFlightConfig samplePaths "/flight.json" "/home"
      (some (some (sampleJson "auto" 200))) = .ok (sampleConfig "auto" 200) := by
    decide +kernel
  have selected : selectExposure (sampleConfig "auto" 200).exposures [sampleProbe] =
      some (.ok ⟨300, 1⟩) := by
    decide +kernel
  refine (FlightConfig.chosen_exposure_flies loaded selected).mpr ⟨nofun, fun _ => ?_⟩
  rintro _ ⟨_, _, frame, ⟨⟩, thirteenth, rfl⟩
  cases thirteenth
  change min ((150 : Nat) * 2 : ℚ) (4000 : Nat) < frameDuration (20 : ℚ) + 1
  rw [frameDuration_twenty]
  norm_num

/-- A configuration is accepted whose fixed exposure no start at its rate accepts. -/
theorem fixed_exposure_too_long :
    let config := sampleConfig "fixed" 60000
    let exposure : Exposure ℚ := ⟨60000, 1⟩
    loadFlightConfig samplePaths "/flight.json" "/home"
        (some (some (sampleJson "fixed" 60000))) = .ok config ∧
      selectExposure config.exposures [] = some (.ok exposure) ∧
      ¬ config.Flies [] exposure ∧
      ∀ (source : LibcameraSource ℚ) (answers : StartAnswers),
        (source.start config.fps (some exposure) answers).2 ≠ .ok () := by
  intro config exposure
  have refused : allowsExposure (frameDuration config.fps) exposure = false := by
    change allowsExposure (frameDuration (20 : ℚ)) exposure = false
    rw [frameDuration_twenty]
    decide +kernel
  refine ⟨by decide +kernel, by decide +kernel, fun flies => ?_, fun source answers began => ?_⟩
  · rw [flies.starts] at refused
    cases refused
  · have allowed := start_allowed (Prod.ext rfl began)
    rw [refused] at allowed
    cases allowed

end FlightConfigFile
end Vio
