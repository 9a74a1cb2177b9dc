import Vio.Construction.NativeCapture
import Vio.Construction.RenderTracking
import Vio.Library.Json

namespace Vio
open RenderTracking

theorem expect_append (beginning rest : List UInt8) :
    expect beginning (beginning ++ rest) = some rest := by
  have begins : beginning.isPrefixOf (beginning ++ rest) = true :=
    List.isPrefixOf_iff_prefix.mpr (List.prefix_append _ _)
  rw [expect, if_pos begins, List.drop_left]

section Stamps

/-- A stamp starts with a quote. -/
theorem matchStamp_other {byte : UInt8} {rest : List UInt8} (other : byte ≠ 34) :
    matchStamp (byte :: rest) = none := by
  have first : (ascii "\"SensorTimestamp\":").isPrefixOf (byte :: rest) = false := by
    rw [← Bool.not_eq_true, List.isPrefixOf_iff_prefix]
    rintro ⟨tail, same⟩
    have head : ascii "\"SensorTimestamp\":" = 34 :: (ascii "\"SensorTimestamp\":").tail := rfl
    rw [head] at same
    cases same
    exact other rfl
  rw [matchStamp, expect, if_neg (by rw [first]; exact Bool.false_ne_true)]
  rfl

/-- A text without quotation marks holds no match. -/
theorem stamps_skip {skipped rest : List UInt8} (plain : 34 ∉ skipped) :
    stamps (skipped ++ rest) = stamps rest := by
  induction skipped with
  | nil => rfl
  | cons byte skipped inductionHypothesis =>
      rw [List.mem_cons, not_or] at plain
      rw [List.cons_append, stamps, matchStamp_other (Ne.symm plain.1), inductionHypothesis plain.2]
      rfl

/-- No number holds a quote. -/
theorem not_quote_of_digit {digits : List UInt8}
    (all : ∀ byte ∈ digits, Decimal.isDigit byte = true) : 34 ∉ digits := by
  intro member
  have digit := all _ member
  revert digit
  decide

/-- No digit is white space. -/
theorem not_space_of_digit {byte : UInt8} (digit : Decimal.isDigit byte = true) :
    isSpace byte = false := by
  simp only [Decimal.isDigit, Bool.and_eq_true, decide_eq_true_eq, UInt8.le_iff_toNat_le] at digit
  have number : ∀ other : UInt8, other = byte → other.toNat = byte.toNat := fun _ same => by rw [same]
  simp only [isSpace, Bool.or_eq_false_iff, Bool.and_eq_false_iff, decide_eq_false_iff_not,
    UInt8.le_iff_toNat_le]
  refine ⟨⟨fun same => ?_, .inr ?_⟩, .inr ?_⟩
  · have := number 32 same.symm
    simp at this digit
    omega
  · simp at digit ⊢
    omega
  · simp at digit ⊢
    omega

/-- A printed number starts at its first digit. -/
theorem dropWhile_space_print (value : Nat) (rest : List UInt8) :
    (Decimal.print value ++ rest).dropWhile isSpace = Decimal.print value ++ rest := by
  have digits := Decimal.print_digits value
  cases same : Decimal.print value with
  | nil => exact absurd same (Decimal.print_ne_nil value)
  | cons byte more =>
      have digit := digits byte (by rw [same]; exact List.mem_cons_self)
      have solid := not_space_of_digit digit
      rw [List.cons_append, List.dropWhile_cons_of_neg (by rw [solid]; exact Bool.false_ne_true)]

/-- The closing quotation mark of a key begins no match. -/
theorem stamps_colon (rest : List UInt8) : stamps (34 :: 58 :: rest) = stamps rest := by
  have first : matchStamp (34 :: 58 :: rest) = none := rfl
  have second := @stamps_skip [58] rest (by decide)
  rw [stamps, first, ← second]
  rfl

/-- The sequence number is no stamp. -/
theorem stamps_sequence (rest : List UInt8) :
    stamps (ascii "\"Sequence" ++ rest) = stamps rest := by
  have first : matchStamp (ascii "\"Sequence" ++ rest) = none := rfl
  have split : ascii "\"Sequence" ++ rest = 34 :: (ascii "Sequence" ++ rest) := rfl
  rw [split] at first ⊢
  rw [stamps, first, stamps_skip (by decide)]
  rfl

theorem matchStamp_stamp (value : Nat) {rest : List UInt8} (stops : Decimal.Stops rest) :
    matchStamp (ascii "\"SensorTimestamp\":" ++ (Decimal.print value ++ rest)) = some value := by
  rw [matchStamp, expect_append, Option.bind_some, dropWhile_space_print,
    Decimal.read_print value stops]
  rfl

/-- The metadata of a frame holds one stamp. -/
theorem stamps_frameMetadata (idx : Nat) (frame : CameraFrame) (rest : List UInt8) :
    stamps (frameMetadata idx frame ++ rest) = frame.timestamp_ns :: stamps rest := by
  have separator : 34 ∉ (if idx = 1 then [] else ascii ",\n") ++ ascii "\x7b" := by
    split <;> decide
  have text : frameMetadata idx frame ++ rest =
      ((if idx = 1 then [] else ascii ",\n") ++ ascii "\x7b") ++
        (ascii "\"SensorTimestamp\":" ++ (Decimal.print frame.timestamp_ns ++
          (ascii ",\"Sequence\":" ++ (Decimal.print frame.sequence ++ (ascii "\x7d" ++ rest))))) := by
    simp only [frameMetadata, List.append_assoc]
    rfl
  rw [text, stamps_skip separator]
  generalize tail : ascii ",\"Sequence\":" ++ (Decimal.print frame.sequence ++ (ascii "\x7d" ++ rest)) =
    after
  have stops : Decimal.Stops after := by
    rw [← tail]
    exact Decimal.stops_cons (by decide)
  have found := matchStamp_stamp frame.timestamp_ns stops
  have key : ascii "\"SensorTimestamp\":" ++ (Decimal.print frame.timestamp_ns ++ after) =
      34 :: (ascii "SensorTimestamp" ++ (34 :: 58 :: (Decimal.print frame.timestamp_ns ++ after))) := rfl
  have sequence : after = ascii "," ++ (ascii "\"Sequence" ++ (34 :: 58 ::
      (Decimal.print frame.sequence ++ (ascii "\x7d" ++ rest)))) := by
    rw [← tail]
    rfl
  rw [key] at found ⊢
  rw [stamps, found, stamps_skip (by decide), stamps_colon,
    stamps_skip (not_quote_of_digit (Decimal.print_digits _)), sequence, stamps_skip (by decide),
    stamps_sequence, stamps_colon, stamps_skip (not_quote_of_digit (Decimal.print_digits _)),
    stamps_skip (by decide)]
  rfl

end Stamps

section Rows

/-- A line ends at its newline. -/
theorem lines_line {body rest : List UInt8} (single : 10 ∉ body) :
    lines (body ++ 10 :: rest) = (body ++ [10]) :: lines rest := by
  induction body with
  | nil => rfl
  | cons byte body inductionHypothesis =>
      rw [List.mem_cons, not_or] at single
      rw [List.cons_append, lines, if_neg (Ne.symm single.1), inductionHypothesis single.2]
      rfl

/-- What follows the last newline is a line of its own. -/
theorem lines_torn {torn : List UInt8} (some : torn ≠ []) (single : 10 ∉ torn) :
    lines torn = [torn] := by
  induction torn with
  | nil => exact absurd rfl some
  | cons byte torn inductionHypothesis =>
      rw [List.mem_cons, not_or] at single
      rw [lines, if_neg (Ne.symm single.1)]
      cases torn with
      | nil => rfl
      | cons next torn => rw [inductionHypothesis (by simp) single.2]

/-- The bytes inside one object on one line. -/
def Inner (text : List UInt8) : Prop := ∀ byte ∈ text, byte ≠ 125 ∧ byte ≠ 10

instance (text : List UInt8) : Decidable (Inner text) := List.decidableBAll _ text

/-- A line that holds one object, which ends with the line. -/
def ObjectLine (line : List UInt8) : Prop :=
  ∃ inner : List UInt8, line = inner ++ [125, 10] ∧ Inner inner

/-- A torn line is a whole object, or it says nothing. -/
theorem frameRow_torn {line torn : List UInt8} (object : ObjectLine line) (begins : torn <+: line)
    (torn' : torn ≠ line) (some : torn ≠ []) :
    10 ∉ torn ∧ (frameRow torn = frameRow line ∨ frameRow torn = none) := by
  obtain ⟨inner, rfl, plain⟩ := object
  have split : inner ++ [125, 10] = (inner ++ [125]) ++ [10] := by simp
  rw [split] at begins torn'
  rcases List.prefix_concat_iff.mp begins with same | begins
  · exact absurd same torn'
  rcases List.prefix_concat_iff.mp begins with rfl | begins
  · refine ⟨?_, .inl ?_⟩
    · rw [List.mem_append, not_or]
      exact ⟨fun member => (plain _ member).2 rfl, by decide⟩
    · rw [split, frameRow, frameRow]
      simp
  · have inside (byte : UInt8) (member : byte ∈ torn) : byte ≠ 125 ∧ byte ≠ 10 :=
      plain byte (begins.subset member)
    refine ⟨fun member => (inside _ member).2 rfl, .inr ?_⟩
    have last := List.getLast_mem some
    rw [frameRow, List.getLast?_eq_some_getLast some]
    rw [if_neg (fun same => (inside _ last).2 (Option.some.inj same)),
      List.getLast?_eq_some_getLast some,
      if_neg (fun same => (inside _ last).1 (Option.some.inj same))]

/-- An object on a line gives its row, if it has one. -/
theorem frameRows_line {line : List UInt8} (object : ObjectLine line) (rest : List UInt8) :
    frameRows (line ++ rest) = (frameRow line).toList ++ frameRows rest := by
  obtain ⟨inner, rfl, plain⟩ := object
  have single : 10 ∉ inner ++ [125] := by
    rw [List.mem_append, not_or]
    exact ⟨fun member => (plain _ member).2 rfl, by decide⟩
  have split : inner ++ [125, 10] ++ rest = (inner ++ [125]) ++ 10 :: rest := by simp
  have line : inner ++ [125, 10] = (inner ++ [125]) ++ [10] := by simp
  rw [split, frameRows, lines_line single, List.filterMap_cons, line]
  cases frameRow ((inner ++ [125]) ++ [10]) <;> rfl

/-- The rows of a torn text are the first rows of the whole one. -/
theorem frameRows_begin {pieces : List (List UInt8)} (objects : ∀ line ∈ pieces, ObjectLine line)
    {content : List UInt8} (begins : content <+: pieces.flatten) :
    frameRows content <+: pieces.filterMap frameRow := by
  induction pieces generalizing content with
  | nil =>
      obtain rfl := List.prefix_nil.mp begins
      exact List.prefix_rfl
  | cons piece pieces inductionHypothesis =>
      have object := objects piece List.mem_cons_self
      have all : (piece :: pieces).filterMap frameRow =
          (frameRow piece).toList ++ pieces.filterMap frameRow := by
        rw [List.filterMap_cons]
        cases frameRow piece <;> rfl
      rw [all]
      obtain ⟨rest, whole⟩ := begins
      rw [List.flatten_cons] at whole
      have either : (content <+: piece ∧ content ≠ piece) ∨
          ∃ later, content = piece ++ later ∧ later <+: pieces.flatten := by
        rcases List.append_eq_append_iff.mp whole with ⟨middle, same, _⟩ | ⟨later, same, ends⟩
        · by_cases reached : content = piece
          · exact .inr ⟨[], by rw [reached, List.append_nil], List.nil_prefix⟩
          · exact .inl ⟨⟨middle, same.symm⟩, reached⟩
        · exact .inr ⟨later, same, ⟨rest, ends.symm⟩⟩
      rcases either with ⟨begins, short⟩ | ⟨later, rfl, ends⟩
      · by_cases empty : content = []
        · rw [empty]
          exact List.nil_prefix
        obtain ⟨single, row⟩ := frameRow_torn object begins short empty
        rw [frameRows, lines_torn empty single]
        rcases row with row | row
        · cases found : frameRow piece with
          | none => simp [row, found]
          | some value => simp [row, found]
        · simp [row]
      · rw [frameRows_line object]
        refine (List.prefix_append_right_inj _).mpr (inductionHypothesis ?_ ends)
        exact fun line member => objects line (List.mem_cons_of_mem _ member)

/-- Texts without a closing brace and without a newline can be joined. -/
theorem Inner.append {first second : List UInt8} (left : Inner first) (right : Inner second) :
    Inner (first ++ second) := by
  intro byte member
  rcases List.mem_append.mp member with member | member
  · exact left byte member
  · exact right byte member

theorem inner_print (value : Nat) : Inner (Decimal.print value) := by
  intro byte member
  have digit := Decimal.print_digits value byte member
  constructor <;> rintro rfl <;> revert digit <;> decide

theorem Coordinate.inner (coordinate : Coordinate) : Inner coordinate.text := by
  intro byte member
  have printed := List.all_eq_true.mp coordinate.printed byte member
  constructor <;> rintro rfl <;> revert printed <;> decide

/-- The points hold neither a closing brace nor a newline. -/
theorem inner_featurePoints (first : Bool) (points : List FeaturePoint) :
    Inner (featurePoints first points) := by
  induction points generalizing first with
  | nil => intro byte member; cases member
  | cons point points inductionHypothesis =>
      have separator : Inner (if first = true then [] else ascii ",") := by
        cases first <;> decide
      refine Inner.append ?_ (inductionHypothesis false)
      refine (((((separator.append ?_).append (inner_print _)).append ?_).append
        point.x.inner).append ?_).append point.y.inner |>.append ?_ <;> decide

/-- A feature record is an object on one line. -/
theorem featureRecord_line (frame : FeatureFrame) : ObjectLine (featureRecord frame) := by
  have flag : Inner (ascii (if frame.initialized = true then "true" else "false")) := by
    cases frame.initialized <;> decide
  refine ⟨ascii "\x7b\"type\":\"frame\",\"timestamp_ns\":" ++ Decimal.print frame.timestamp_ns ++
    ascii ",\"frame_index\":" ++ Decimal.print frame.frame_index ++
    ascii ",\"camera_id\":0,\"width\":" ++ Decimal.print frame.width ++
    ascii ",\"height\":" ++ Decimal.print frame.height ++
    ascii ",\"initialized\":" ++ ascii (if frame.initialized then "true" else "false") ++
    ascii ",\"features\":[" ++ featurePoints true frame.points ++ ascii "]", ?_, ?_⟩
  · rw [featureRecord, List.append_assoc _ (ascii "]")]
    rfl
  · refine Inner.append ?_ (by decide)
    refine Inner.append ?_ (inner_featurePoints _ _)
    refine ((Inner.append ?_ flag).append (by decide))
    refine ((Inner.append ?_ (inner_print _)).append (by decide))
    refine ((Inner.append ?_ (inner_print _)).append (by decide))
    refine ((Inner.append ?_ (inner_print _)).append (by decide))
    refine ((Inner.append ?_ (inner_print _)).append (by decide))
    decide

/-- The row of a feature record is its index and stamp. -/
theorem frameRow_featureRecord (frame : FeatureFrame) :
    frameRow (featureRecord frame) = some (frame.frame_index, frame.timestamp_ns) := by
  generalize tail : ascii ",\"camera_id\":0,\"width\":" ++ Decimal.print frame.width ++
    ascii ",\"height\":" ++ Decimal.print frame.height ++
    ascii ",\"initialized\":" ++ ascii (if frame.initialized then "true" else "false") ++
    ascii ",\"features\":[" ++ featurePoints true frame.points ++ ascii "]" = after
  have stops : Decimal.Stops (after ++ [125]) := by
    rw [← tail]
    simp only [List.append_assoc]
    exact Decimal.stops_cons (by decide)
  have object : featureRecord frame =
      (ascii "\x7b\"type\":\"frame\",\"timestamp_ns\":" ++ (Decimal.print frame.timestamp_ns ++
        (ascii ",\"frame_index\":" ++ (Decimal.print frame.frame_index ++ (after ++ [125]))))) ++
        [10] := by
    rw [← tail]
    simp only [featureRecord, List.append_assoc]
    rfl
  have comma : Decimal.Stops (ascii ",\"frame_index\":" ++
      (Decimal.print frame.frame_index ++ (after ++ [125]))) := Decimal.stops_cons (by decide)
  rw [frameRow, object]
  simp only [List.getLast?_concat, if_true, List.dropLast_concat]
  rw [if_pos (by simp), expect_append, Option.bind_some, Decimal.read_print _ comma,
    Option.bind_some, expect_append, Option.bind_some, Decimal.read_print _ stops]
  rfl

end Rows

section Metadata

/-- The metadata of consecutive frames, where the first one was counted as `idx`. -/
def metadataText : Nat → List CameraFrame → List UInt8
  | _, [] => []
  | idx, frame :: frames => frameMetadata idx frame ++ metadataText (idx + 1) frames

/-- The metadata goes on with the index where the first frames end. -/
theorem metadataText_append (idx : Nat) (first second : List CameraFrame) :
    metadataText idx (first ++ second) =
      metadataText idx first ++ metadataText (idx + first.length) second := by
  induction first generalizing idx with
  | nil => rfl
  | cons frame first inductionHypothesis =>
      rw [List.cons_append, metadataText, metadataText, inductionHypothesis, List.length_cons,
        Nat.add_right_comm, Nat.add_assoc, List.append_assoc]

/-- The stamps of the metadata are those of the frames, in order. -/
theorem stamps_metadataText (idx : Nat) (frames : List CameraFrame) (rest : List UInt8) :
    stamps (metadataText idx frames ++ rest) =
      frames.map CameraFrame.timestamp_ns ++ stamps rest := by
  induction frames generalizing idx with
  | nil => rfl
  | cons frame frames inductionHypothesis =>
      rw [metadataText, List.append_assoc, stamps_frameMetadata, inductionHypothesis]
      rfl

/-- The metadata of a frame without the separator. -/
def frameObject (frame : CameraFrame) : List UInt8 :=
  ascii "\x7b\"SensorTimestamp\":" ++ Decimal.print frame.timestamp_ns ++ ascii ",\"Sequence\":" ++
    Decimal.print frame.sequence ++ ascii "\x7d"

/-- The metadata of a frame is a JSON value. -/
theorem value_frameObject (frame : CameraFrame) : Json.Value (frameObject frame) := by
  have members := Json.Members.more _ (ascii "Sequence") _
    (Json.Members.one (ascii "SensorTimestamp") _ (by decide) (Json.value_print frame.timestamp_ns))
    (by simp [Json.quoted]) (by decide) (Json.value_print frame.sequence)
  have text : frameObject frame = 123 :: (Json.quoted (ascii "SensorTimestamp") ++ [58] ++
      Decimal.print frame.timestamp_ns ++ [44] ++ (Json.quoted (ascii "Sequence") ++ [58] ++
        Decimal.print frame.sequence)) ++ [125] := by
    simp only [frameObject, List.append_assoc, List.cons_append]
    rfl
  rw [text]
  exact .object _ members

/-- Further frames continue a list. -/
theorem series_metadataText {elements : List UInt8} (series : Json.Series elements) (idx : Nat)
    (later : 1 < idx) (frames : List CameraFrame) :
    Json.Series (elements ++ metadataText idx frames) := by
  induction frames generalizing elements idx with
  | nil => rwa [metadataText, List.append_nil]
  | cons frame frames inductionHypothesis =>
      have more := Json.Series.more elements [10] _ [] series (by decide) (value_frameObject frame)
        (by decide)
      have text : elements ++ frameMetadata idx frame =
          elements ++ [44] ++ ([10] ++ frameObject frame ++ []) := by
        rw [frameMetadata, if_neg (Nat.ne_of_gt later), List.append_nil]
        simp only [frameObject, List.append_assoc]
        rfl
      rw [← text] at more
      have all := inductionHypothesis more (idx + 1) (Nat.lt_succ_of_lt later)
      rwa [List.append_assoc] at all

/-- The metadata of the first frames is a list between the header and the footer of its file. -/
theorem isList_metadataText (frames : List CameraFrame) :
    Json.IsList (ascii "[\n" ++ metadataText 1 frames ++ ascii "\n]\n") := by
  refine ⟨[], [10] ++ metadataText 1 frames ++ [10], [10], ?_, by decide, ?_, by decide⟩
  · simp only [List.append_assoc, List.cons_append, List.nil_append]
    rfl
  cases frames with
  | nil => exact .none _ (by decide)
  | cons frame frames =>
      have first : [10] ++ frameMetadata 1 frame = [10] ++ frameObject frame ++ [] := by
        simp only [frameMetadata, if_true, List.append_nil]
        rfl
      have series := series_metadataText
        (Json.Series.one [10] _ [] (by decide) (value_frameObject frame) (by decide)) 2 (by decide)
        frames
      rw [← first, List.append_assoc] at series
      exact .some _ (series.blanks (by decide))

/-- A raw pixel has two bytes. -/
theorem rawPixels_length (pixels : List UInt8) : (rawPixels pixels).length = 2 * pixels.length := by
  induction pixels with
  | nil => rfl
  | cons pixel pixels inductionHypothesis =>
      rw [rawPixels, List.flatMap_cons, List.length_append, ← rawPixels, inductionHypothesis]
      simp
      omega

/-- A raw frame is found at its index. -/
theorem rawFrame_get {width height : Nat} {frames : List CameraFrame}
    (sized : ∀ frame ∈ frames, frame.pixels.length = width * height) (rest : List UInt8)
    {index : Nat} {frame : CameraFrame} (found : frames[index]? = some frame) :
    rawFrame width height (frames.flatMap (fun frame => rawPixels frame.pixels) ++ rest) index =
      rawPixels frame.pixels := by
  induction frames generalizing index with
  | nil => cases found
  | cons first frames inductionHypothesis =>
      have size : (rawPixels first.pixels).length = width * height * 2 := by
        rw [rawPixels_length, sized first List.mem_cons_self, Nat.mul_comm]
      rw [rawFrame, List.flatMap_cons, List.append_assoc]
      cases index with
      | zero =>
          cases found
          rw [Nat.zero_mul, List.drop_zero, List.take_append_of_le_length (Nat.le_of_eq size.symm),
            List.take_of_length_le (Nat.le_of_eq size)]
      | succ index =>
          have later := inductionHypothesis
            (fun frame member => sized frame (List.mem_cons_of_mem _ member)) found
          rw [rawFrame] at later
          rw [← later, Nat.succ_mul, Nat.add_comm, ← size, ← List.drop_drop, List.drop_left]

end Metadata
end Vio
