import Vio.Proof.Camera.Extraction
import Vio.Proof.Capture.Texts

namespace Vio

section Raw

theorem rawPixels_append (first second : List UInt8) :
    rawPixels (first ++ second) = rawPixels first ++ rawPixels second := List.flatMap_append

/-- The raw frames of a recording come one after the other. -/
theorem rawPixels_flatten (frames : List (List UInt8)) :
    rawPixels frames.flatten = (frames.map rawPixels).flatten := by
  induction frames with
  | nil => rfl
  | cons pixels frames inductionHypothesis =>
      rw [List.flatten_cons, rawPixels_append, inductionHypothesis]
      rfl

/-- The low bytes are zero, and the high bytes are the pixels. -/
theorem rawPixels_get (pixels : List UInt8) (index : Nat) :
    (rawPixels pixels).getD (2 * index) 0 = 0 ∧
      (rawPixels pixels).getD (2 * index + 1) 0 = pixels.getD index 0 := by
  induction pixels generalizing index with
  | nil => simp [rawPixels]
  | cons pixel pixels inductionHypothesis =>
      cases index with
      | zero => exact ⟨rfl, rfl⟩
      | succ index => exact inductionHypothesis index

end Raw

namespace FrameReplay
open CameraCapture
attribute [local irreducible] width height

/-- The loop puts the pixels at the high bytes, and keeps the low ones. -/
theorem fillRaw_rawPixels (done old pixels : List UInt8) (length : old.length = pixels.length) :
    fillRaw (rawPixels done ++ rawPixels old) done.length pixels = rawPixels (done ++ pixels) := by
  induction pixels generalizing done old with
  | nil =>
      obtain rfl := List.length_eq_zero_iff.mp length
      rw [fillRaw, rawPixels_append]
  | cons pixel pixels inductionHypothesis =>
      cases old with
      | nil => cases length
      | cons replaced old =>
          have place : (rawPixels done ++ rawPixels (replaced :: old)).set (2 * done.length + 1) pixel =
              rawPixels (done ++ [pixel]) ++ rawPixels old := by
            have before : (rawPixels done).length ≤ 2 * done.length + 1 := by
              rw [rawPixels_length]
              omega
            rw [List.set_append_right _ _ before, rawPixels_length, Nat.add_sub_cancel_left,
              rawPixels_append, List.append_assoc]
            rfl
          have counted : done.length + 1 = (done ++ [pixel]).length := by simp
          rw [fillRaw, place, counted, inductionHypothesis _ old (Nat.succ.inj length),
            List.append_assoc]
          rfl

/-- The payloads of the active frames, whatever frames came before. -/
theorem cameraThread_rawPixels {npx : Nat} {captured : List (List UInt8 × Bool)}
    (sized : ∀ frame ∈ captured, frame.1.length = npx) {old : List UInt8} (length : old.length = npx) :
    cameraThread npx (rawPixels old) captured =
      ((captured.filter (·.2)).map (·.1)).map rawPixels := by
  induction captured generalizing old with
  | nil => rfl
  | cons frame rest inductionHypothesis =>
      obtain ⟨pixels, active⟩ := frame
      obtain ⟨here, later⟩ := List.forall_mem_cons.mp sized
      rw [cameraThread, if_neg (not_not.mpr here)]
      cases active with
      | false => exact inductionHypothesis later length
      | true =>
          have filled : fillRaw (rawPixels old) 0 pixels = rawPixels pixels :=
            fillRaw_rawPixels [] old pixels (length.trans here.symm)
          rw [if_pos rfl, filled, inductionHypothesis later here]
          rfl

/-- The buffer of the recorder starts as the raw form of a black frame. -/
theorem rawBuffer_eq : rawBuffer = rawPixels (List.replicate (width * height) 0) := by
  have zeros (count : Nat) : List.replicate (count * 2) (0 : UInt8) =
      rawPixels (List.replicate count 0) := by
    induction count with
    | zero => rfl
    | succ count inductionHypothesis =>
        rw [Nat.succ_mul, List.replicate_succ, List.replicate_succ, List.replicate_succ,
          inductionHypothesis]
        rfl
  exact zeros (width * height)

/-- A frame of another size ends the camera thread before it records. -/
theorem cameraThread_other {npx : Nat} {captured : List (List UInt8 × Bool)}
    (other : ∀ frame ∈ captured, frame.1.length ≠ npx) (raw : List UInt8) :
    cameraThread npx raw captured = [] := by
  cases captured with
  | nil => rfl
  | cons frame rest =>
      obtain ⟨pixels, active⟩ := frame
      rw [cameraThread, if_pos (other (pixels, active) (List.mem_cons_self ..))]

/-- The recorded bytes of a frame pass the extraction. -/
theorem copyMonoFrame_rawPixels {pixels : List UInt8} (length : pixels.length = width * height) :
    copyMonoFrame (some fun index => (rawPixels pixels).getD index 0) (rawPixels pixels).length 2560
      true = .ok pixels := by
  have wide := width_eq
  have high := height_eq
  have fits : Fits (rawPixels pixels).length 2560 true := by
    constructor
    · rw [wide, pixelStep, if_pos rfl]
    · rw [rawPixels_length, length, wide, high, pixelStep, if_pos rfl]
  have clear : ∀ y < height, ∀ x < width,
      ¬ Tainted (fun index => (rawPixels pixels).getD index 0) 2560 true y x := by
    intro y _ x _ tainted
    have even : y * 2560 + x * 2 = 2 * (y * 1280 + x) := by omega
    have zero := (rawPixels_get pixels (y * 1280 + x)).1
    rw [← even] at zero
    exact tainted.2 zero
  rw [copyMonoFrame_clear fits clear, pixelsOf]
  apply congrArg Except.ok
  symm
  apply Raster.eq_image (length.trans (Nat.mul_comm ..))
  intro y row x column
  have odd : y * 2560 + (x * pixelStep true + pixelStep true - 1) = 2 * (y * width + x) + 1 := by
    rw [pixelStep, if_pos rfl, wide]
    omega
  have inside : y * width + x < pixels.length := by
    rw [length, wide, high]
    rw [wide] at column
    rw [high] at row
    omega
  rw [odd, (rawPixels_get pixels _).2, List.getD_eq_getElem?_getD,
    List.getElem?_eq_getElem inside, Option.getD_some]

/-- The frame thread takes the recorded frames as they are. -/
theorem frameThread_rawPixels {npx : Nat} (positive : 0 < npx) {kept : List (List UInt8)}
    (sized : ∀ pixels ∈ kept, pixels.length = npx) (idx : Nat) (stamps : List Int) :
    frameThread npx idx (kept.map rawPixels).flatten stamps = (stamps.zip kept, none) := by
  induction kept generalizing idx stamps with
  | nil =>
      cases stamps with
      | nil => rfl
      | cons ts stamps =>
          rw [frameThread, if_pos]
          · rfl
          · simp only [List.map_nil, List.flatten_nil, List.length_nil]
            omega
  | cons pixels kept inductionHypothesis =>
      obtain ⟨here, later⟩ := List.forall_mem_cons.mp sized
      cases stamps with
      | nil => rfl
      | cons ts stamps =>
          have size : (rawPixels pixels).length = 2 * npx := by rw [rawPixels_length, here]
          have raw : ((pixels :: kept).map rawPixels).flatten =
              rawPixels pixels ++ (kept.map rawPixels).flatten := rfl
          have clear (step : Nat) : lowBytesClear npx step (rawPixels pixels) = true := by
            rw [lowBytesClear, List.all_eq_true]
            intro index _
            rw [(rawPixels_get pixels index).1]
            simp
          have image : highBytes npx (rawPixels pixels) = pixels := by
            apply List.ext_getElem
            · rw [highBytes, List.length_map, List.length_range, here]
            · intro index _ inside
              simp only [highBytes, List.getElem_map, List.getElem_range,
                (rawPixels_get pixels index).2]
              rw [List.getD_eq_getElem?_getD, List.getElem?_eq_getElem inside, Option.getD_some]
          rw [frameThread, if_neg (by rw [raw, List.length_append, size]; omega)]
          dsimp only
          rw [raw, List.take_left' size, List.drop_left' size, clear, image,
            inductionHypothesis later]
          rfl

/-- The word of a pixel. -/
def word (pixel : UInt8) : Nat := 256 * pixel.toNat

/-- The words of a raw frame are its pixels in the high byte. -/
theorem words_rawPixels (pixels : List UInt8) : words (rawPixels pixels) = pixels.map word := by
  induction pixels with
  | nil => rfl
  | cons pixel pixels inductionHypothesis =>
      have first : words (rawPixels (pixel :: pixels)) =
          (0 + 256 * pixel.toNat) :: words (rawPixels pixels) := rfl
      rw [first, inductionHypothesis, Nat.zero_add]
      rfl

/-- An image message takes the high byte of each word. -/
theorem imageData_words (pixels : List UInt8) : imageData (pixels.map word) = pixels := by
  have back (pixel : UInt8) : UInt8.ofNat (word pixel >>> 8) = pixel := by
    rw [word, Nat.shiftRight_eq_div_pow, Nat.mul_div_cancel_left _ (by decide), UInt8.ofNat_toNat]
  rw [imageData, List.map_map]
  exact (List.map_congr_left fun pixel _ => back pixel).trans (List.map_id pixels)

/-- Frames of one size are found again in a row of them. -/
theorem reshape_flatten {per : Nat} (positive : 0 < per) {frames : List (List Nat)}
    (sized : ∀ frame ∈ frames, frame.length = per) : reshape per frames.flatten = frames := by
  induction frames with
  | nil => simp [reshape]
  | cons frame frames inductionHypothesis =>
      obtain ⟨here, later⟩ := List.forall_mem_cons.mp sized
      have count : (frame ++ frames.flatten).length / per = frames.flatten.length / per + 1 := by
        rw [List.length_append, here, Nat.add_comm, Nat.add_div_right _ positive]
      have shifted (index : Nat) : (frame ++ frames.flatten).drop ((index + 1) * per) =
          frames.flatten.drop (index * per) := by
        rw [Nat.succ_mul, Nat.add_comm, ← List.drop_drop, List.drop_left' here]
      have rest := inductionHypothesis later
      unfold reshape at rest
      rw [List.flatten_cons, reshape, count, List.range_succ_eq_map, List.map_cons, List.map_map,
        Nat.zero_mul, List.drop_zero, List.take_left' here]
      refine congrArg (frame :: ·) (Eq.trans ?_ rest)
      apply List.map_congr_left
      intro index _
      rw [Function.comp_apply, Nat.succ_eq_add_one, shifted]

theorem words_clear (pixels : List UInt8) :
    (pixels.map word).any (fun word => word % 256 ≠ 0) = false := by
  rw [List.any_map, List.any_eq_false]
  intro pixel _
  simp [word]

/-- The bag conversion takes the recorded frames as they are. -/
theorem bagFrames_rawPixels {kept : List (List UInt8)} (some : kept ≠ [])
    (sized : ∀ pixels ∈ kept, pixels.length = width * height) (path : String) :
    ∃ frames, bagFrames path width height (kept.map rawPixels).flatten = .ok frames ∧
      frames.map imageData = kept := by
  have positive : 0 < width * height := by rw [width_eq, height_eq]; decide
  have raw := (rawPixels_flatten kept).symm
  have all : words (kept.map rawPixels).flatten = (kept.map (·.map word)).flatten := by
    rw [raw, words_rawPixels, List.map_flatten]
  have whole : reshape (width * height) (kept.map (·.map word)).flatten = kept.map (·.map word) := by
    apply reshape_flatten positive
    intro frame member
    obtain ⟨pixels, inKept, rfl⟩ := List.mem_map.mp member
    rw [List.length_map, sized pixels inKept]
  have clear (frame : Option (List Nat)) (member : ∀ words ∈ frame, words ∈ kept.map (·.map word)) :
      frame.any (fun frame => frame.any fun word => word % 256 ≠ 0) = false := by
    cases frame with
    | none => rfl
    | some words =>
        obtain ⟨pixels, _, rfl⟩ := List.mem_map.mp (member words rfl)
        exact words_clear pixels
  refine ⟨kept.map (·.map word), ?_, ?_⟩
  · unfold bagFrames
    rw [if_neg (by rw [raw, rawPixels_length]; omega), all]
    dsimp only
    rw [if_neg, whole]
    · apply if_neg
      rw [clear _ fun words found => List.mem_of_head? found,
        clear _ fun words found => List.mem_of_getLast? found]
      decide
    · cases kept with
      | nil => exact absurd rfl some
      | cons pixels kept =>
          have size := sized pixels (List.mem_cons_self ..)
          rw [List.map_cons, List.flatten_cons, List.length_append, List.length_map]
          omega
  · rw [List.map_map]
    exact (List.map_congr_left fun pixels _ => imageData_words pixels).trans (List.map_id kept)

end FrameReplay

namespace CameraCapture
open FrameReplay
attribute [local irreducible] width height

/-- The copy reads inside the byte count only. It throws exactly where the buffer is missing, the
stride or the byte count is too small, or a visible low byte of the 16-bit layout is not zero, and it
returns the high byte of each pixel otherwise. The bytes that the camera thread records of extracted
frames give the same pixels back to the copy, to the frame thread and to the bag conversion. -/
theorem frames_survive :
    (∀ (data : Option (Nat → UInt8)) (bytes stride : Nat) (highByte : Bool),
      let step := pixelStep highByte
      let bad := data = none ∨ stride < width * step ∨ bytes < stride * (height - 1) + width * step ∨
        (highByte = true ∧ ∃ memory ∈ data, ∃ y < height, ∃ x < width, memory (y * stride + x * 2) ≠ 0)
      (bad → ∃ what, copyMonoFrame data bytes stride highByte = .error (.thrown (.runtimeError what))) ∧
      (¬ bad → ∃ memory pixels, data = some memory ∧
        copyMonoFrame data bytes stride highByte = .ok pixels ∧ pixels.length = width * height ∧
        ∀ y < height, ∀ x < width,
          pixels[y * width + x]? = some (memory (y * stride + (x * step + step - 1))))) ∧
    ∀ captured : List (List UInt8 × Bool), (∀ frame ∈ captured, Extracted frame.1) →
      let kept := (captured.filter (·.2)).map (·.1)
      (∀ npx ≠ width * height, cameraThread npx rawBuffer captured = []) ∧
      let recorded := cameraThread (width * height) rawBuffer captured
      recorded.length = kept.length ∧
      (∀ (index : Nat) (raw pixels : List UInt8), recorded[index]? = some raw →
        kept[index]? = some pixels →
        copyMonoFrame (some fun index => raw.getD index 0) raw.length 2560 true = .ok pixels) ∧
      (∀ stamps, frameThread (width * height) 0 recorded.flatten stamps = (stamps.zip kept, none)) ∧
      (kept ≠ [] → ∀ path, ∃ frames, bagFrames path width height recorded.flatten = .ok frames ∧
        frames.map imageData = kept) := by
  constructor
  · intro data bytes stride highByte step bad
    cases data with
    | none => exact ⟨fun _ => ⟨_, rfl⟩, fun good => absurd (.inl rfl) good⟩
    | some memory =>
        by_cases fits : Fits bytes stride highByte
        · have enough : ¬ (stride < width * step ∨ bytes < stride * (height - 1) + width * step) := by
            rintro (short | short)
            · exact Nat.not_lt.mpr fits.wide short
            · exact Nat.not_lt.mpr fits.long short
          by_cases tainted : ∃ y < height, ∃ x < width, Tainted memory stride highByte y x
          · refine ⟨fun _ => ⟨_, copyMonoFrame_tainted fits tainted⟩, fun good => absurd ?_ good⟩
            obtain ⟨y, row, x, column, high, other⟩ := tainted
            exact .inr (.inr (.inr ⟨high, memory, rfl, y, row, x, column, other⟩))
          · have clear : ∀ y < height, ∀ x < width, ¬ Tainted memory stride highByte y x :=
              fun y row x column other => tainted ⟨y, row, x, column, other⟩
            constructor
            · rintro (absent | short | short | ⟨high, _, ⟨⟩, y, row, x, column, other⟩)
              · cases absent
              · exact absurd (.inl short) enough
              · exact absurd (.inr short) enough
              · exact absurd ⟨high, other⟩ (clear y row x column)
            · intro _
              refine ⟨memory, _, rfl, copyMonoFrame_clear fits clear, pixelsOf_length .., ?_⟩
              intro y row x column
              exact Raster.image_get _ row column
        · refine ⟨fun _ => ⟨_, copyMonoFrame_short fits⟩, fun good => absurd ?_ good⟩
          by_contra good
          have enough := not_or.mp (not_or.mp good).2
          exact fits ⟨Nat.not_lt.mp enough.1, Nat.not_lt.mp (not_or.mp enough.2).1⟩
  · intro captured extracted kept
    have sized : ∀ frame ∈ captured, frame.1.length = width * height :=
      fun frame member => (extracted frame member).length
    have keptSized : ∀ pixels ∈ kept, pixels.length = width * height := by
      intro pixels member
      obtain ⟨frame, active, rfl⟩ := List.mem_map.mp member
      exact sized frame (List.mem_of_mem_filter active)
    have same : cameraThread (width * height) rawBuffer captured = kept.map rawPixels := by
      rw [rawBuffer_eq]
      exact cameraThread_rawPixels sized List.length_replicate
    refine ⟨fun npx other => cameraThread_other (fun frame member size => ?_) _, ?_⟩
    · exact other (size.symm.trans (sized frame member))
    intro recorded
    have recordedSame : recorded = kept.map rawPixels := same
    rw [recordedSame]
    refine ⟨List.length_map _, ?_, ?_, fun some => bagFrames_rawPixels some keptSized⟩
    · intro index raw pixels payload found
      rw [List.getElem?_map, found] at payload
      rw [← Option.some.inj payload]
      exact copyMonoFrame_rawPixels (keptSized pixels (List.mem_of_getElem? found))
    · have positive : 0 < width * height := by rw [width_eq, height_eq]; decide
      exact frameThread_rawPixels positive keptSized 0

/-- A frame that the camera delivers in its 8-bit layout. -/
def delivered (data : Nat → UInt8) : List UInt8 := pixelsOf data 1280 false

/-- The delivered pixels are what a copy of a buffer gives. -/
theorem delivered_extracted (data : Nat → UInt8) : Extracted (delivered data) := by
  refine ⟨some data, 1280 * 800, 1280, false, copyMonoFrame_clear ⟨?_, ?_⟩ ?_⟩
  · rw [width_eq, pixelStep, if_neg Bool.false_ne_true]
  · rw [width_eq, height_eq, pixelStep, if_neg Bool.false_ne_true]
  · rintro y _ x _ ⟨⟨⟩, _⟩

/-- The pixels count up. -/
def ramp : List UInt8 := delivered fun index => UInt8.ofNat index

/-- The pixels count down. -/
def slope : List UInt8 := delivered fun index => 255 - UInt8.ofNat index

/-- The first delivered pixel is the first byte. -/
theorem delivered_first (data : Nat → UInt8) : (delivered data)[0]? = some (data 0) := by
  have row : 0 < height := by
    rw [height_eq]
    decide
  have column : 0 < width := by
    rw [width_eq]
    decide
  have first := Raster.image_get (fun y x =>
    data (y * 1280 + (x * pixelStep false + pixelStep false - 1))) row column
  rw [Nat.zero_mul, Nat.zero_add] at first
  exact first

/-- Two different frames, with one between them while the recording is not active. -/
theorem frames_survive_ramps : ramp ≠ slope ∧ ∃ frames,
    bagFrames "walk.y16" width height
      (cameraThread (width * height) rawBuffer
        [(ramp, true), (delivered fun _ => 7, false), (slope, true)]).flatten = .ok frames ∧
    frames.map imageData = [ramp, slope] := by
  constructor
  · intro same
    have first : (ramp)[0]? = some 0 := delivered_first _
    rw [same, slope, delivered_first] at first
    exact absurd first (by decide)
  · have extracted : ∀ frame ∈ [(ramp, true), (delivered fun _ => 7, false), (slope, true)],
        Extracted frame.1 := by
      simp only [List.forall_mem_cons, List.not_mem_nil, false_implies, implies_true, and_true]
      exact ⟨delivered_extracted _, delivered_extracted _, delivered_extracted _⟩
    exact (frames_survive.2 _ extracted).2.2.2.2 (List.cons_ne_nil _ _) "walk.y16"

end CameraCapture
end Vio
