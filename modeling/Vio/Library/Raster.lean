/-
This file holds images as lists of pixels, row by row.
-/

import Mathlib.Data.List.Basic

namespace Raster
variable {A : Type*} (width height : Nat)

/-- The image whose pixel in a row and a column is given. -/
def image (pixel : Nat → Nat → A) : List A :=
  ((List.range height).map fun y => (List.range width).map (pixel y)).flatten

variable {width height}

theorem image_succ (pixel : Nat → Nat → A) :
    image width (height + 1) pixel = image width height pixel ++ (List.range width).map (pixel height) := by
  simp [image, List.range_succ]

@[simp] theorem image_length (pixel : Nat → Nat → A) :
    (image width height pixel).length = height * width := by
  induction height with
  | zero => simp [image]
  | succ height inductionHypothesis =>
      rw [image_succ, List.length_append, inductionHypothesis, List.length_map, List.length_range,
        Nat.succ_mul]

theorem image_get (pixel : Nat → Nat → A) {y x : Nat} (row : y < height) (column : x < width) :
    (image width height pixel)[y * width + x]? = some (pixel y x) := by
  induction height with
  | zero => cases row
  | succ height inductionHypothesis =>
      rw [image_succ]
      rcases Nat.lt_or_eq_of_le (Nat.le_of_lt_succ row) with earlier | rfl
      · have inside : y * width + x < (image width height pixel).length := by
          have rows := Nat.mul_le_mul_right width (Nat.succ_le_of_lt earlier)
          rw [Nat.succ_mul] at rows
          rw [image_length]
          omega
        rw [List.getElem?_append_left inside]
        exact inductionHypothesis earlier
      · rw [List.getElem?_append_right (by rw [image_length]; omega), image_length,
          Nat.add_sub_cancel_left, List.getElem?_map, List.getElem?_range column]
        rfl

/-- A list of the right length is an image, if it agrees with it at each pixel. -/
theorem eq_image {pixels : List A} {pixel : Nat → Nat → A} (length : pixels.length = height * width)
    (same : ∀ y < height, ∀ x < width, pixels[y * width + x]? = some (pixel y x)) :
    pixels = image width height pixel := by
  apply List.ext_getElem?
  intro index
  rcases Nat.lt_or_ge index (height * width) with inside | outside
  · have positive : 0 < width := Nat.pos_of_ne_zero fun none => by simp [none] at inside
    have row : index / width < height := Nat.div_lt_of_lt_mul (by rwa [Nat.mul_comm])
    have column := Nat.mod_lt index positive
    have place : index / width * width + index % width = index := Nat.div_add_mod' index width
    rw [← place, same _ row _ column, image_get pixel row column]
  · have above : (image width height pixel).length ≤ index := by rwa [image_length]
    rw [List.getElem?_eq_none (length ▸ outside), List.getElem?_eq_none above]

end Raster
