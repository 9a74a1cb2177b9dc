import Vio.Construction.FrameReplay
import Vio.Construction.NativeCapture
import Vio.Library.FallibleLoop
import Vio.Library.Raster

namespace Vio

namespace CameraCapture

theorem width_eq : width = 1280 := rfl

theorem height_eq : height = 800 := rfl

section Copy
attribute [local irreducible] width height

variable {data : Nat → UInt8} {bytes stride : Nat} {highByte : Bool}

/-- The buffer holds every row. -/
structure Fits (bytes stride : Nat) (highByte : Bool) : Prop where
  wide : width * pixelStep highByte ≤ stride
  long : stride * (height - 1) + width * pixelStep highByte ≤ bytes

/-- The bytes of every pixel lie inside the buffer. -/
theorem Fits.inside (fits : Fits bytes stride highByte) {y x : Nat} (row : y < height)
    (column : x < width) : y * stride + (x + 1) * pixelStep highByte ≤ bytes := by
  have rows : y * stride ≤ stride * (height - 1) := by
    rw [Nat.mul_comm]
    exact Nat.mul_le_mul_left stride (Nat.le_sub_one_of_lt row)
  have columns : (x + 1) * pixelStep highByte ≤ width * pixelStep highByte :=
    Nat.mul_le_mul_right _ column
  exact (Nat.add_le_add rows columns).trans fits.long

/-- The low byte of a pixel of the 16-bit layout is not zero. -/
def Tainted (data : Nat → UInt8) (stride : Nat) (highByte : Bool) (y x : Nat) : Prop :=
  highByte = true ∧ data (y * stride + x * 2) ≠ 0

/-- A pixel whose other byte is zero is its significant byte. -/
theorem copyPixel_clear (fits : Fits bytes stride highByte) {y x : Nat} (row : y < height)
    (column : x < width) (clear : ¬ Tainted data stride highByte y x) :
    copyPixel data bytes stride highByte y x =
      .ok (data (y * stride + (x * pixelStep highByte + pixelStep highByte - 1))) := by
  have inside := fits.inside row column
  cases highByte with
  | false =>
      simp only [pixelStep, Bool.false_eq_true, if_false] at inside ⊢
      have last : y * stride + x < bytes := by omega
      simpa [copyPixel, byteAt, pixelStep] using last
  | true =>
      simp only [pixelStep, if_true] at inside ⊢
      have low : y * stride + x * 2 < bytes := by omega
      have high : y * stride + (x * 2 + 1) < bytes := by omega
      have zero : data (y * stride + x * 2) = 0 := not_not.mp fun other => clear ⟨rfl, other⟩
      simp [copyPixel, byteAt, pixelStep, bind, Except.bind, if_pos low, zero, if_pos high]

/-- A pixel whose other byte is not zero is refused. -/
theorem copyPixel_tainted (fits : Fits bytes stride highByte) {y x : Nat} (row : y < height)
    (column : x < width) (tainted : Tainted data stride highByte y x) :
    copyPixel data bytes stride highByte y x =
      .error (.thrown (.runtimeError "camera is not the calibrated R8-in-16 layout")) := by
  obtain ⟨rfl, other⟩ := tainted
  have inside := fits.inside row column
  simp only [pixelStep, if_true] at inside
  have low : y * stride + x * 2 < bytes := by omega
  simp [copyPixel, byteAt, bind, Except.bind, if_pos low, other, throw, throwThe,
    MonadExceptOf.throw]

/-- The pixels of a buffer. -/
def pixelsOf (data : Nat → UInt8) (stride : Nat) (highByte : Bool) : List UInt8 :=
  Raster.image width height fun y x =>
    data (y * stride + (x * pixelStep highByte + pixelStep highByte - 1))

/-- A frame without tainted pixels is copied row by row. -/
theorem copyMonoFrame_clear (fits : Fits bytes stride highByte)
    (clear : ∀ y < height, ∀ x < width, ¬ Tainted data stride highByte y x) :
    copyMonoFrame (some data) bytes stride highByte = .ok (pixelsOf data stride highByte) := by
  unfold copyMonoFrame
  dsimp only
  rw [if_neg (by have := fits.wide; have := fits.long; omega)]
  have rows : (List.range height).mapM (fun y =>
      (List.range width).mapM fun x => copyPixel data bytes stride highByte y x) =
      .ok ((List.range height).map fun y => (List.range width).map fun x =>
        data (y * stride + (x * pixelStep highByte + pixelStep highByte - 1))) := by
    apply FallibleLoop.mapM_ok
    intro y row
    apply FallibleLoop.mapM_ok
    intro x column
    exact copyPixel_clear fits (List.mem_range.mp row) (List.mem_range.mp column)
      (clear y (List.mem_range.mp row) x (List.mem_range.mp column))
  rw [rows]
  rfl

/-- One tainted pixel refuses the frame, wherever it is. -/
theorem copyMonoFrame_tainted (fits : Fits bytes stride highByte)
    (tainted : ∃ y < height, ∃ x < width, Tainted data stride highByte y x) :
    copyMonoFrame (some data) bytes stride highByte =
      .error (.thrown (.runtimeError "camera is not the calibrated R8-in-16 layout")) := by
  unfold copyMonoFrame
  dsimp only
  rw [if_neg (by have := fits.wide; have := fits.long; omega)]
  cases rows : (List.range height).mapM fun y =>
      (List.range width).mapM fun x => copyPixel data bytes stride highByte y x with
  | ok values =>
      obtain ⟨y, row, x, column, other⟩ := tainted
      cases columns : (List.range width).mapM fun x => copyPixel data bytes stride highByte y x with
      | ok values =>
          exact absurd columns (FallibleLoop.mapM_not_ok (List.mem_range.mpr column)
            (copyPixel_tainted fits row column other) values)
      | error fault =>
          exact absurd rows (FallibleLoop.mapM_not_ok (List.mem_range.mpr row) columns values)
  | error fault =>
      obtain ⟨y, row, throws⟩ := FallibleLoop.mapM_error rows
      obtain ⟨x, column, throws⟩ := FallibleLoop.mapM_error throws
      rw [List.mem_range] at row column
      by_cases other : Tainted data stride highByte y x
      · rw [copyPixel_tainted fits row column other] at throws
        obtain rfl := Except.error.inj throws
        rfl
      · rw [copyPixel_clear fits row column other] at throws
        cases throws

/-- A buffer that does not hold the rows is refused before any pixel is read. -/
theorem copyMonoFrame_short (short : ¬ Fits bytes stride highByte) :
    copyMonoFrame (some data) bytes stride highByte =
      .error (.thrown (.runtimeError "incomplete camera frame or invalid stride")) := by
  unfold copyMonoFrame
  dsimp only
  rw [if_pos]
  by_contra enough
  rw [not_or, Nat.not_lt, Nat.not_lt] at enough
  exact short ⟨enough.1, enough.2⟩

theorem pixelsOf_length (data : Nat → UInt8) (stride : Nat) (highByte : Bool) :
    (pixelsOf data stride highByte).length = width * height := by
  rw [pixelsOf, Raster.image_length, Nat.mul_comm]

/-- A frame that was extracted from a buffer. -/
def Extracted (pixels : List UInt8) : Prop :=
  ∃ data bytes stride highByte, copyMonoFrame data bytes stride highByte = .ok pixels

/-- An extracted frame has a byte for each pixel. -/
theorem Extracted.length {pixels : List UInt8} (extracted : Extracted pixels) :
    pixels.length = width * height := by
  obtain ⟨data, bytes, stride, highByte, copied⟩ := extracted
  cases data with
  | none => cases copied
  | some data =>
      by_cases fits : Fits bytes stride highByte
      · by_cases tainted : ∃ y < height, ∃ x < width, Tainted data stride highByte y x
        · rw [copyMonoFrame_tainted fits tainted] at copied
          cases copied
        · rw [copyMonoFrame_clear fits fun y row x column other => tainted ⟨y, row, x, column, other⟩]
            at copied
          rw [← Except.ok.inj copied, pixelsOf_length]
      · rw [copyMonoFrame_short fits] at copied
        cases copied

end Copy
end CameraCapture
end Vio
