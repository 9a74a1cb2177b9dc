import Mathlib.Tactic.Linarith
import Mathlib.Tactic.NormNum
import Vio.Construction.CaptureRun
import Vio.Proof.Camera.Flyable
import Vio.Proof.Imu.Decoding
import Vio.Proof.Imu.SetupOutcome

namespace Vio
open Effects

section Exact
variable {K : Type} [Field K] [LinearOrder K]

/-- The functions of libm, and what is not a number. -/
structure LibmFunctions (K : Type) where
  sqrt : K → K
  cos : K → K
  sin : K → K
  asin : K → K
  atan2 : K → K → K
  stableNorm : K → K → K → K → K
  nan : K

/-- Exact arithmetic in an ordered field, where every number is finite. -/
@[reducible] def LibmFunctions.exact (functions : LibmFunctions K) : Scalar K where
  ofScientific mantissa negative exponent :=
    if negative then mantissa / 10 ^ exponent else mantissa * 10 ^ exponent
  lt first second := decide (first < second)
  le first second := decide (first ≤ second)
  isFinite _ := true
  abs value := if value < 0 then -value else value
  sqrt := functions.sqrt
  cos := functions.cos
  sin := functions.sin
  asin := functions.asin
  atan2 := functions.atan2
  stableNorm := functions.stableNorm
  nan := functions.nan

end Exact

namespace ImuDevices
variable {K : Type} [Field K] [LinearOrder K] [IsStrictOrderedRing K] {functions : LibmFunctions K}
  {answers : SysfsAnswers} {numbers : NumberTexts K} {before after : ImuDevices K}

/-- The rate that was set is at least 415.9 Hz. -/
theorem setRate_exact {path : String} {rate : K}
    (ran : @setRate K functions.exact answers numbers path before = .ok rate after) :
    4159 / 10 ≤ rate := by
  obtain ⟨_, _, _, ran⟩ := bind_ok ran
  obtain ⟨_, _, _, ran⟩ := bind_ok ran
  obtain ⟨value, _, _, ran⟩ := bind_ok ran
  split at ran
  · cases ran
  · rename_i near
    cases ran
    rw [Bool.or_eq_true, not_or] at near
    have close : ¬ (((1 : Nat) : K) / 10 ^ 1 <
        if rate - ((4160 : Nat) : K) / 10 ^ 1 < 0 then -(rate - ((4160 : Nat) : K) / 10 ^ 1)
        else rate - ((4160 : Nat) : K) / 10 ^ 1) := fun far => near.2 (decide_eq_true far)
    rw [not_lt] at close
    norm_num at close ⊢
    split at close <;> linarith

/-- The chosen scale is positive. -/
theorem selectScale_exact {device name : String} {target scale : K}
    (ran : @selectScale K answers functions.exact numbers device name target before =
      .ok scale after) : 0 < scale := by
  obtain ⟨_, _, _, ran⟩ := bind_ok ran
  obtain ⟨best, _, _, ran⟩ := bind_ok ran
  cases best with
  | none => cases ran
  | some best =>
      obtain ⟨_, _, _, ran⟩ := bind_ok ran
      obtain ⟨_, _, _, ran⟩ := bind_ok ran
      obtain ⟨value, _, _, ran⟩ := bind_ok ran
      split at ran
      · cases ran
      · rename_i positive
        cases ran
        rw [Bool.or_eq_true, not_or] at positive
        have above : ¬ (scale ≤ ((0 : Nat) : K) / 10 ^ 1) := fun low =>
          positive.2 (decide_eq_true low)
        norm_num at above
        exact above

theorem setScale_exact {device : ImuDevice K} {scale : K}
    (ran : @setScale K functions.exact answers numbers device before = .ok scale after) :
    0 < scale := by
  cases kind : device.kind <;> simp only [setScale, kind] at ran <;> exact selectScale_exact ran

omit [Field K] [LinearOrder K] [IsStrictOrderedRing K] in
/-- The placement leaves the rate. -/
theorem placeChannels_rateHz {device result : ImuDevice K} {offset finish : Nat} {previous : Int}
    {channels : List ScanChannel}
    (placed : placeChannels device offset previous channels = .ok (result, finish)) :
    result.rateHz = device.rateHz := by
  induction channels generalizing device offset previous with
  | nil =>
      cases placed
      rfl
  | cons channel rest inductionHypothesis =>
      obtain ⟨_, _, placed⟩ := placeChannels_cons placed
      rw [inductionHypothesis placed]
      cases channel.channel <;> rfl

omit [Field K] [LinearOrder K] [IsStrictOrderedRing K] in
/-- The layout leaves the rate. -/
theorem loadLayout_rateHz {device result : ImuDevice K} {scan : ScanDirectory}
    (loaded : Vio.loadLayout device scan = .ok result) : result.rateHz = device.rateHz := by
  obtain ⟨channels, _, loaded⟩ := FallibleLoop.bind_ok loaded
  split at loaded
  · cases loaded
  · obtain ⟨⟨placed, offset⟩, packed, loaded⟩ := FallibleLoop.bind_ok loaded
    cases loaded
    have kept : placed.rateHz = device.rateHz := placeChannels_rateHz packed
    exact kept

/-- What the runner asks of a device that the set-up returns. -/
structure Fit (device : ImuDevice K) : Prop where
  rate : 4159 / 10 ≤ device.rateHz
  accepted : ∃ dev, acceptDevice device = .ok dev

/-- A device that was configured is fit for the runner. -/
theorem configureBuffer_fit {watermark : Nat} {device result : ImuDevice K} {buffer : String}
    (ran : @configureBuffer K functions.exact answers numbers watermark device buffer before =
      .ok result after) : Fit result := by
  obtain ⟨_, _, _, ran⟩ := bind_ok ran
  obtain ⟨_, _, _, ran⟩ := bind_ok ran
  obtain ⟨rateHz, _, rated, ran⟩ := bind_ok ran
  obtain ⟨scale, _, scaled, ran⟩ := bind_ok ran
  obtain ⟨scan, _, located, ran⟩ := bind_ok ran
  obtain ⟨laid, _, layout, ran⟩ := bind_ok ran
  obtain ⟨_, _, _, ran⟩ := bind_ok ran
  cases ran
  obtain ⟨names, listed⟩ := folder_of_find (directory_ok located)
  have listed : answers.tree.folder ({ device with rateHz, scale } : ImuDevice K).sysfs scan =
      some names := listed
  obtain ⟨loaded, _⟩ := loadLayout_ok listed layout
  obtain ⟨sorted, ready⟩ := Vio.loadLayout_ok loaded
  have positive : 0 < result.scale := by
    rw [ready.scale]
    exact setScale_exact scaled
  refine ⟨?_, ready.accepted positive⟩
  rw [loadLayout_rateHz loaded]
  exact setRate_exact rated

/-- All the configured devices are fit for the runner. -/
theorem configureAll_fit {watermark : Nat} {devices results : List (ImuDevice K)}
    (ran : @configureAll K functions.exact answers numbers watermark devices before =
      .ok results after) : ∀ result ∈ results, Fit result := by
  induction devices generalizing before results with
  | nil =>
      cases ran
      exact nofun
  | cons device rest inductionHypothesis =>
      obtain ⟨result, _, first, ran⟩ := bind_ok ran
      obtain ⟨others, _, later, ran⟩ := bind_ok ran
      cases ran
      obtain ⟨buffer, _, _, first⟩ := bind_ok first
      obtain ⟨_, _, _, first⟩ := bind_ok first
      exact List.forall_mem_cons.mpr ⟨configureBuffer_fit first, inductionHypothesis later⟩

/-- The set-up leaves devices that are fit for the runner. -/
theorem takeOver_fit {watermark : Nat}
    (ran : @takeOver K functions.exact answers numbers watermark before = .ok () after) :
    ∀ device ∈ after.devices, Fit device := by
  obtain ⟨_, _, got, ran⟩ := bind_ok ran
  cases got
  obtain ⟨devices, _, ready, ran⟩ := bind_ok ran
  obtain ⟨_, _, moved, ran⟩ := bind_ok ran
  cases moved
  obtain ⟨_, _, got, ran⟩ := bind_ok ran
  cases got
  have within := (enableAll_within _).ok ran
  rw [within.devices]
  exact configureAll_fit ready

/-- The two devices of a set-up that returned. -/
theorem construct_fit {watermark : Nat} {sysfs nodes : String} {content : AttributePath → Option String}
    (built : @construct K functions.exact answers numbers watermark sysfs nodes { content } =
      .ok () after) : ∃ first second, after.devices = [first, second] ∧ first.kind ≠ second.kind ∧
      Fit first ∧ Fit second := by
  let _ : Scalar K := functions.exact
  obtain ⟨prepared, first, later⟩ := construct_ok built
  have untouched := (prepare_untouched sysfs nodes).ok first
  have ready := takeOver_ok (prepare_ok first rfl) untouched.buffers later
  have fit := takeOver_fit later
  have two := ready.kinds.length_eq
  rw [List.length_map] at two
  obtain ⟨one, other, same⟩ := List.length_eq_two.mp two
  rw [same] at fit
  have distinct := ready.kinds.nodup_iff.mpr (by decide)
  rw [same] at distinct
  refine ⟨one, other, same, fun equal => ?_, fit one List.mem_cons_self,
    fit other (List.mem_cons_of_mem _ List.mem_cons_self)⟩
  exact (List.nodup_cons.mp distinct).1 (equal ▸ List.mem_cons_self)

end ImuDevices

namespace CaptureRun
variable {K : Type} [Field K] [LinearOrder K] [IsStrictOrderedRing K] {functions : LibmFunctions K}
  {answers : SysfsAnswers} {numbers : NumberTexts K}

/-- A flight never dies at the checks of the runner: for each configuration that loads and each set-up
of the sensors that returns, the options of the capture pass them all, with a low-pass below the Nyquist
margin of the rate that was read back, and the set-up has no fault to find with the watermark. -/
theorem native_options_accepted {paths : FlightConfigFile.PathOps} {file home : String}
    {content : Option (Option (FlightConfigFile.JsonObject K))}
    {config : FlightConfigFile.FlightConfig K}
    (loaded : FlightConfigFile.loadFlightConfig paths file home content = .ok config)
    {sysfs nodes : String} {attributes : AttributePath → Option String} {last : ImuDevices K}
    (built : @ImuDevices.construct K functions.exact answers numbers config.watermark sysfs nodes
      { content := attributes } = .ok () last) :
    ¬ (config.watermark = 0 ∨ config.watermark > 1024) ∧
    ∃ first second, last.devices = [first, second] ∧
      ∀ (recording : PreparedRecording) (generation : SessionGeneration) (stop : Bool),
        ∃ run, enter ⟨nativeOptions config recording generation first [second], none⟩ stop =
          .ok run := by
  have valid := FlightConfigFile.loadFlightConfig_ok loaded
  obtain ⟨first, second, same, distinct, fit, other⟩ := ImuDevices.construct_fit built
  obtain ⟨firstDev, firstAccepted⟩ := fit.accepted
  obtain ⟨secondDev, secondAccepted⟩ := other.accepted
  have cutoff : ¬ (0 < config.imuLpf ∧ 45 / 100 * first.rateHz ≤ config.imuLpf) := by
    rintro ⟨_, high⟩
    have limit := valid.imuLpf.2
    have rate := fit.rate
    push_cast at limit
    norm_num at rate high
    linarith
  have moving : ¬ config.fps ≤ 0 := by
    rw [not_le]
    refine lt_of_lt_of_le ?_ valid.fps.1
    norm_num
  obtain ⟨low, high⟩ := valid.watermark
  refine ⟨by omega, first, second, same, fun recording generation stop => ?_⟩
  have passes : CaptureInputs.validate
      ⟨nativeOptions config recording generation first [second], none⟩ = .ok [firstDev, secondDev] := by
    simp only [CaptureInputs.validate, nativeOptions, captureOptions, if_neg cutoff, if_neg moving, if_neg distinct,
      firstAccepted, secondAccepted]
    rfl
  exact ⟨_, by rw [enter, passes]⟩

/-- No set-up of a sensor calls a function of libm. -/
def noFunctions : LibmFunctions ℚ where
  sqrt value := value
  cos value := value
  sin value := value
  asin value := value
  atan2 value _ := value
  stableNorm value _ _ _ := value
  nan := 0

def rationalNumbers : NumberTexts ℚ where
  stod text :=
    if text = "416" then .ok 416
    else if text = "0.004788" then .ok (4788 / 1000000)
    else if text = "0.001065" then .ok (1065 / 1000000)
    else .error (.invalidArgument "stod")
  stoi := ImuDevices.sampleNumbers.stoi
  extract text :=
    if text = "0.000598 0.004788" then [598 / 1000000, 4788 / 1000000]
    else if text = "0.000153 0.001065" then [153 / 1000000, 1065 / 1000000]
    else []
  print value := if value < 2 / 1000 then "0.001065" else "0.004788"
  fromInt number := number
  pow value _ := value * value
  acos _ := 355 / 113

/-- Both devices are on at the end. -/
def buildsTwo : EStateM.Result Thrown (ImuDevices ℚ) Unit → Bool
  | .ok _ last => last.devices.length = 2
  | .error _ _ => false

/-- A loaded configuration with two constructed devices enters `run`. -/
theorem native_options_accepted_sample :
    ∃ (last : ImuDevices ℚ) (first second : ImuDevice ℚ), last.devices = [first, second] ∧
      ∃ run, enter ⟨nativeOptions (FlightConfigFile.sampleConfig "auto" 200)
        { enabled := false, filePrefix := "" } ⟨1⟩ first [second], none⟩ false = .ok run := by
  have loaded : FlightConfigFile.loadFlightConfig FlightConfigFile.samplePaths "/flight.json" "/home"
      (some (some (FlightConfigFile.sampleJson "auto" 200))) =
        .ok (FlightConfigFile.sampleConfig "auto" 200) := by
    decide +kernel
  have builds : buildsTwo (@ImuDevices.construct ℚ noFunctions.exact (ImuDevices.sampleAnswers false) rationalNumbers
      (FlightConfigFile.sampleConfig "auto" 200).watermark "/sys" "/dev"
      { content := ImuDevices.sampleContent }) = true := by
    simp only [ImuDevices.construct, ImuDevices.takeOver, ImuDevices.configureAll_mapM']
    delta ImuDevices.configure ImuDevices.configureBuffer ImuDevices.loadLayout
    simp only [mergeSort_insertions]
    decide +kernel
  cases built : @ImuDevices.construct ℚ noFunctions.exact (ImuDevices.sampleAnswers false) rationalNumbers
      (FlightConfigFile.sampleConfig "auto" 200).watermark "/sys" "/dev"
      { content := ImuDevices.sampleContent } with
  | error thrown last =>
      rw [built] at builds
      cases builds
  | ok result last =>
      obtain ⟨_, first, second, same, accepts⟩ := native_options_accepted loaded built
      exact ⟨last, first, second, same, accepts _ _ _⟩

end CaptureRun
end Vio
