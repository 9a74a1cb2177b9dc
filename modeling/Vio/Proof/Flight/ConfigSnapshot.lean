import Mathlib.Data.List.Nodup
import Vio.Construction.FlightConfigSnapshot
import Vio.Proof.Camera.Flyable

namespace Vio
namespace FlightConfigFile
open FallibleLoop LexicalPath

section Paths

/-- What `lexically_normal` makes of an absolute path. -/
structure Canonical (path : String) : Prop where
  normal : ∃ normal : NormalPath pathSigns, normal.root = true ∧ path = String.ofList normal.text

/-- A path below an absolute one is absolute. -/
theorem join_absolute {first : String} (absolute : isAbsolute first = true) (second : String) :
    isAbsolute (join first second) = true := by
  have starts (rest : String) : isAbsolute (first ++ rest) = true := by
    unfold isAbsolute Signs.absolute at *
    rw [String.toList_append]
    cases letters : first.toList with
    | nil =>
        rw [letters] at absolute
        cases absolute
    | cons letter others =>
        rw [letters] at absolute
        exact absolute
  unfold join
  split
  · assumption
  · split
    · exact starts second
    · rw [String.append_assoc]
      exact starts _

/-- The parent of an absolute path is absolute. -/
theorem parentPath_absolute {path : String} (absolute : isAbsolute path = true) :
    isAbsolute (parentPath path) = true := by
  unfold parentPath
  split
  · exact absolute
  · dsimp only
    split
    · decide
    · rename_i some
      rw [and_iff_left absolute] at some
      have suffix := (List.dropWhile_suffix fun letter : Char => decide (letter = '/')).trans
        (@List.dropWhile_suffix _ path.toList.reverse fun letter : Char => decide (letter ≠ '/'))
      have begins := List.reverse_prefix.mpr suffix
      rw [List.reverse_reverse] at begins
      obtain ⟨rest, same⟩ := begins
      have head : pathSigns.absolute path.toList = true := absolute
      rw [← same] at head
      rw [isAbsolute, String.toList_ofList]
      cases letters : (List.dropWhile (fun letter : Char => decide (letter = '/'))
          (List.dropWhile (fun letter => decide (letter ≠ '/')) path.toList.reverse)).reverse with
      | nil => exact absurd letters some
      | cons letter others =>
          rw [letters] at head
          exact head

/-- An absolute path becomes canonical. -/
theorem lexicallyNormal_canonical {path : String} (absolute : isAbsolute path = true) :
    Canonical (lexicallyNormal path) := by
  have some : path ≠ "" := by
    rintro rfl
    cases absolute
  rw [lexicallyNormal, if_neg some]
  refine ⟨_, ?_, rfl⟩
  exact (NormalPath.root_follow ..).trans absolute

theorem Canonical.absolute {path : String} (canonical : Canonical path) : isAbsolute path = true := by
  obtain ⟨normal, root, rfl⟩ := canonical.normal
  rw [isAbsolute, String.toList_ofList, NormalPath.absolute_text, root]

/-- A canonical path is its own normal form. -/
theorem Canonical.fixed {path : String} (canonical : Canonical path) : lexicallyNormal path = path := by
  have some : path ≠ "" := by
    rintro rfl
    cases canonical.absolute
  obtain ⟨normal, root, rfl⟩ := canonical.normal
  rw [lexicallyNormal, if_neg some, String.toList_ofList, NormalPath.normalize_text]

/-- The normal form leads to the same place from every directory. -/
theorem place_lexicallyNormal (base : List (List Char)) (path : String) :
    pathSigns.place base (lexicallyNormal path).toList = pathSigns.place base path.toList := by
  unfold lexicallyNormal
  split
  · rename_i empty
    rw [empty]
  · rw [String.toList_ofList, NormalPath.place_text, NormalPath.place_normalize]

/-- A joined path leads on from where its first part leads to. -/
theorem place_join (base : List (List Char)) (first second : String) :
    pathSigns.place base (join first second).toList =
      pathSigns.place (pathSigns.place base first.toList) second.toList := by
  unfold join
  split
  · rename_i absolute
    exact place_absolute absolute _ _
  · rename_i relative
    have relative : ¬ pathSigns.absolute second.toList = true := relative
    have onward (start : List (List Char)) : pathSigns.place start second.toList =
        (pathSigns.segments second.toList).foldl pathSigns.visit start := by
      unfold Signs.place
      rw [if_neg relative]
    split
    · rename_i glued
      rw [String.toList_append]
      rcases glued with rfl | slash
      · rw [String.toList_empty, List.nil_append, place_nil]
      · obtain ⟨front, same⟩ := List.getLast?_eq_some_iff.mp slash
        rw [same, List.append_assoc, onward]
        exact place_append base front second.toList
    · rename_i separate
      have some : first.toList ≠ [] := fun none =>
        separate (.inl (String.toList_inj.mp (none.trans String.toList_empty.symm)))
      rw [String.toList_append, String.toList_append, List.append_assoc, onward,
        ← place_slash base some]
      exact place_append base first.toList second.toList

end Paths

section Objects
variable {K : Type} {json : JsonObject K} {key other : String} {value : JsonValue K}

/-- A value that is set replaces the one of its key and no other one. -/
theorem lookup_set (members : List (String × JsonValue K)) (key other : String) (value : JsonValue K) :
    (members.map fun member => if member.1 = key then (key, value) else member).lookup other =
      if other = key then (members.lookup key).map fun _ => value else members.lookup other := by
  induction members with
  | nil => split <;> rfl
  | cons member rest inductionHypothesis =>
      obtain ⟨name, old⟩ := member
      rw [List.map_cons]
      by_cases same : other = key
      · subst same
        by_cases here : name = other
        · simp [here]
        · have apart : (other == name) = false := beq_false_of_ne (Ne.symm here)
          simp [List.lookup_cons, here, apart, inductionHypothesis]
      · have apart : (other == key) = false := beq_false_of_ne same
        by_cases here : name = key
        · simp [List.lookup_cons, same, here, apart, inductionHypothesis]
        · simp [List.lookup_cons, same, here, inductionHypothesis]

/-- What was set is read back. -/
theorem value_set (present : (json.members.lookup key).isSome) :
    (json.set key value).value key = .ok value := by
  obtain ⟨old, found⟩ := Option.isSome_iff_exists.mp present
  unfold JsonObject.value JsonObject.set
  dsimp only
  rw [lookup_set, if_pos rfl, found]
  rfl

theorem value_set_other (different : other ≠ key) :
    (json.set key value).value other = json.value other := by
  unfold JsonObject.value JsonObject.set
  dsimp only
  rw [lookup_set, if_neg different]

/-- Setting a value adds no key. -/
theorem contains_set : (json.set key value).contains other = json.contains other := by
  unfold JsonObject.contains JsonObject.set
  dsimp only
  rw [lookup_set]
  split
  · rename_i same
    rw [same, Option.isSome_map]
  · rfl

theorem text_set_other (different : other ≠ key) : (json.set key value).text other = json.text other := by
  rw [JsonObject.text, value_set_other different, JsonObject.text]

theorem boolean_set_other (different : other ≠ key) :
    (json.set key value).boolean other = json.boolean other := by
  rw [JsonObject.boolean, value_set_other different, JsonObject.boolean]

theorem resolved_set_other {paths : PathOps} {file home : String} (different : other ≠ key) :
    (json.set key value).resolved paths file home other = json.resolved paths file home other := by
  rw [JsonObject.resolved, text_set_other different, JsonObject.resolved]

/-- An object is the list of its members. -/
theorem eq_of_members {first second : JsonObject K} (same : first.members = second.members) :
    first = second := by
  obtain ⟨_, _⟩ := first
  obtain ⟨_, _⟩ := second
  cases same
  rfl

/-- An object that has the value already. -/
theorem set_same (found : json.value key = .ok value) : json.set key value = json := by
  have members : json.members.map (fun member => if member.1 = key then (key, value) else member) =
      json.members := by
    have distinct := json.distinct
    have here : json.members.lookup key = some value := by
      unfold JsonObject.value at found
      split at found <;> cases found
      assumption
    have there : (key, value) ∈ json.members := by
      obtain ⟨front, back, split, _⟩ := List.lookup_eq_some_iff.mp here
      rw [split]
      exact List.mem_append_right _ List.mem_cons_self
    refine (List.map_congr_left fun member inside => ?_).trans (List.map_id _)
    split
    · rename_i name
      exact List.inj_on_of_nodup_map distinct there inside name.symm
    · rfl
  exact eq_of_members members

variable [Field K] [LinearOrder K]

theorem number_set_other {minimum maximum : K} (different : other ≠ key) :
    (json.set key value).number other minimum maximum = json.number other minimum maximum := by
  rw [JsonObject.number, value_set_other different, JsonObject.number]

theorem integer_set_other {maximum : Nat} (different : other ≠ key) :
    (json.set key value).integer other maximum = json.integer other maximum := by
  rw [JsonObject.integer, value_set_other different, number_set_other different, JsonObject.integer]

end Objects

section Snapshot
variable {K : Type} {current file home key path : String} {json next snapshot : JsonObject K}

/-- The last part of `resolved`. -/
def located (paths : PathOps) (file result : String) : String :=
  paths.lexicallyNormal
    (if paths.isRelative result then paths.join (paths.parentPath (paths.absolute file)) result
     else result)

/-- A path is the home directory, an absolute path, or one relative to the file. -/
theorem resolved_text {paths : PathOps} {value : String} (read : json.text key = .ok value) :
    json.resolved paths file home key =
      match value.toList with
      | ['~'] => .ok (located paths file home)
      | '~' :: '/' :: rest => .ok (located paths file (paths.join home (String.ofList rest)))
      | '~' :: _ => .error (.runtimeError "use ~/ rather than ~username")
      | _ => .ok (located paths file value) := by
  rw [JsonObject.resolved, read]
  cases letters : value.toList with
  | nil => simp only [bind, Except.bind, letters]; rfl
  | cons first rest =>
      simp only [bind, Except.bind, letters]
      by_cases tilde : first = '~'
      · subst tilde
        cases rest with
        | nil => rfl
        | cons second rest =>
            by_cases slash : second = '/'
            · subst slash
              rfl
            · simp [slash]
      · simp [tilde, located, pure, Except.pure]

/-- A resolved path is canonical, and it leads where it does from the directory of the file. -/
theorem located_canonical (absolute : isAbsolute current = true) (result : String) :
    Canonical (located (posixPaths current) file result) ∧
      ∀ base, pathSigns.place base (located (posixPaths current) file result).toList =
        pathSigns.place (pathSigns.place [] (parentPath (join current file)).toList) result.toList := by
  have parent : isAbsolute (parentPath (join current file)) = true :=
    parentPath_absolute (join_absolute absolute file)
  have same : located (posixPaths current) file result = lexicallyNormal (if !isAbsolute result then
      join (parentPath (join current file)) result else result) := rfl
  rw [same]
  cases kind : isAbsolute result with
  | true =>
      refine ⟨lexicallyNormal_canonical kind, fun base => ?_⟩
      exact (place_lexicallyNormal base result).trans (place_absolute kind _ _)
  | false =>
      refine ⟨lexicallyNormal_canonical (join_absolute parent result), fun base => ?_⟩
      refine (place_lexicallyNormal base _).trans ((place_join base _ result).trans ?_)
      rw [place_absolute parent base []]

/-- A resolved setting is absolute and in its normal form, and it names the configured place. -/
theorem resolved_ok (absolute : isAbsolute current = true)
    (resolved : json.resolved (posixPaths current) file home key = .ok path) :
    Canonical path ∧ ∃ value, json.text key = .ok value ∧
      ∀ base, pathSigns.place base path.toList = configuredPlace current file home value := by
  obtain ⟨value, read, -⟩ := bind_ok resolved
  have canonical := fun result => @located_canonical current file absolute result
  rw [resolved_text read] at resolved
  refine ⟨?_, value, read, fun base => ?_⟩
  · split at resolved <;> cases resolved <;> exact (canonical _).1
  · unfold configuredPlace
    split at resolved <;> cases resolved <;> rename_i letters
    · rw [letters]
      exact (canonical home).2 base
    · rw [letters]
      refine ((canonical _).2 base).trans ((place_join _ home _).trans ?_)
      rw [String.toList_ofList]
      rfl
    · refine ((canonical _).2 base).trans ?_
      split
      · exact absurd ‹_› ‹_›
      · exact absurd ‹_› (‹∀ rest, value.toList = '~' :: '/' :: rest → False› _)
      · rfl

/-- A canonical path is a text that starts at the root. -/
theorem text_canonical (canonical : Canonical path) (found : json.value key = .ok (.text path)) :
    json.text key = .ok path ∧ ∃ rest, path.toList = '/' :: rest := by
  obtain ⟨rest, letters⟩ : ∃ rest, path.toList = '/' :: rest := by
    have absolute := canonical.absolute
    unfold isAbsolute Signs.absolute at absolute
    cases letters : path.toList with
    | nil =>
        rw [letters] at absolute
        cases absolute
    | cons letter rest =>
        rw [letters] at absolute
        exact ⟨rest, by simpa [pathSigns] using absolute⟩
  refine ⟨?_, rest, letters⟩
  rw [JsonObject.text, found]
  simp [letters]

/-- A canonical path resolves to itself, whatever the current directory is. -/
theorem resolved_canonical {other : String} (canonical : Canonical path)
    (found : json.value key = .ok (.text path)) :
    json.resolved (posixPaths other) file home key = .ok path := by
  obtain ⟨read, rest, letters⟩ := text_canonical canonical found
  have kept : located (posixPaths other) file path = path := by
    have same : located (posixPaths other) file path = lexicallyNormal (if !isAbsolute path then
        join (parentPath (join other file)) path else path) := rfl
    rw [same, canonical.absolute]
    exact canonical.fixed
  rw [resolved_text read, letters]
  exact congrArg Except.ok kept

/-- A setting that is resolved stands in the object from then on. -/
theorem resolve_ok (absolute : isAbsolute current = true)
    (resolved : json.resolve (posixPaths current) file home key = .ok (path, next)) :
    json.resolved (posixPaths current) file home key = .ok path ∧ next = json.set key (.text path) ∧
      Canonical path ∧ next.value key = .ok (.text path) := by
  obtain ⟨_, found, resolved⟩ := bind_ok resolved
  cases resolved
  obtain ⟨canonical, value, read, _⟩ := resolved_ok absolute found
  refine ⟨found, rfl, canonical, value_set ?_⟩
  unfold JsonObject.text JsonObject.value at read
  cases present : json.members.lookup key with
  | none =>
      rw [present] at read
      cases read
  | some old => rfl

theorem resolve_again {other : String} (canonical : Canonical path)
    (found : json.value key = .ok (.text path)) :
    json.resolve (posixPaths other) file home key = .ok (path, json) := by
  rw [JsonObject.resolve, resolved_canonical canonical found]
  exact congrArg (fun same => Except.ok (path, same)) (set_same found)

/-- A path of the snapshot stands for the configured one. -/
structure Stands (current file home : String) (json snapshot : JsonObject K) (key : String) : Prop where
  same : ∃ path value, snapshot.text key = .ok path ∧ json.text key = .ok value ∧
    isAbsolute path = true ∧
    ∀ base, pathSigns.place base path.toList = configuredPlace current file home value

theorem stands_of_resolved (absolute : isAbsolute current = true)
    (resolved : json.resolved (posixPaths current) file home key = .ok path)
    (found : snapshot.value key = .ok (.text path)) : Stands current file home json snapshot key := by
  obtain ⟨canonical, value, read, place⟩ := resolved_ok absolute resolved
  exact ⟨path, value, (text_canonical canonical found).1, read, canonical.absolute, place⟩

/-- The keys of the paths. -/
def pathKeys : List String := ["recording_dir", "estimate_dir", "estimator_config", "estimator_binary"]

variable [Field K] [LinearOrder K] {config : FlightConfig K}

/-- The snapshot has the keys of the file, and only the values of the paths differ. -/
theorem readSnapshot_ok (absolute : isAbsolute current = true)
    (read : readSnapshot (posixPaths current) file home json = .ok (config, snapshot)) :
    readSettings (posixPaths current) file home json = .ok config ∧
    (∀ key, snapshot.contains key = json.contains key) ∧
    snapshot.members.length = json.members.length ∧
    (∀ key ∉ pathKeys, snapshot.value key = json.value key) ∧
    (∀ key ∈ pathKeys, Stands current file home json snapshot key) ∧
    ∀ (other place host : String),
      readSnapshot (posixPaths other) place host snapshot = .ok (config, snapshot) := by
  obtain ⟨⟨recordingDir, first⟩, recording, read⟩ := bind_ok read
  obtain ⟨⟨runtimeDir, second⟩, runtime, read⟩ := bind_ok read
  obtain ⟨⟨estimatorConfig, third⟩, estimator, read⟩ := bind_ok read
  obtain ⟨⟨binary, fourth⟩, program, read⟩ := bind_ok read
  obtain ⟨recordingFound, rfl, recordingCanonical, recordingStands⟩ := resolve_ok absolute recording
  obtain ⟨runtimeFound, rfl, runtimeCanonical, runtimeStands⟩ := resolve_ok absolute runtime
  obtain ⟨estimatorFound, rfl, estimatorCanonical, estimatorStands⟩ := resolve_ok absolute estimator
  obtain ⟨programFound, rfl, programCanonical, programStands⟩ := resolve_ok absolute program
  have settings : readSettings (posixPaths current) file home json = .ok config ∧
      snapshot = (((json.set "recording_dir" (.text recordingDir)).set "estimate_dir"
        (.text runtimeDir)).set "estimator_config" (.text estimatorConfig)).set "estimator_binary"
          (.text binary) := by
    simp (disch := decide) only [resolved_set_other] at runtimeFound estimatorFound programFound
    simp (disch := decide) only [text_set_other, boolean_set_other, number_set_other,
      integer_set_other] at read
    rw [readSettings, recordingFound, runtimeFound, estimatorFound, programFound]
    obtain ⟨_, device, read⟩ := bind_ok read
    obtain ⟨_, mode, read⟩ := bind_ok read
    obtain ⟨_, verbosity, read⟩ := bind_ok read
    obtain ⟨_, baud, read⟩ := bind_ok read
    obtain ⟨_, watermark, read⟩ := bind_ok read
    obtain ⟨_, shutter, read⟩ := bind_ok read
    obtain ⟨_, maxShutter, read⟩ := bind_ok read
    obtain ⟨_, minFree, read⟩ := bind_ok read
    obtain ⟨_, tilt, read⟩ := bind_ok read
    obtain ⟨_, maxLag, read⟩ := bind_ok read
    obtain ⟨_, fps, read⟩ := bind_ok read
    obtain ⟨_, gain, read⟩ := bind_ok read
    obtain ⟨_, imuLpf, read⟩ := bind_ok read
    obtain ⟨_, upsideDown, read⟩ := bind_ok read
    obtain ⟨_, velocity, read⟩ := bind_ok read
    simp only [device, mode, verbosity, baud, watermark, shutter, maxShutter, minFree, tilt, maxLag, fps,
      gain, imuLpf, upsideDown, velocity, bind, Except.bind]
    split at read
    · cases read
    · rename_i known
      rw [if_neg known]
      split at read
      · cases read
      · rename_i known
        rw [if_neg known]
        cases read
        exact ⟨rfl, rfl⟩
  obtain ⟨settings, same⟩ := settings
  have programStays : snapshot.value "estimator_binary" = .ok (.text binary) := by
    rw [same]
    exact programStands
  have estimatorStays : snapshot.value "estimator_config" = .ok (.text estimatorConfig) := by
    rw [same, value_set_other (by decide)]
    exact estimatorStands
  have runtimeStays : snapshot.value "estimate_dir" = .ok (.text runtimeDir) := by
    rw [same, value_set_other (by decide), value_set_other (by decide)]
    exact runtimeStands
  have recordingStays : snapshot.value "recording_dir" = .ok (.text recordingDir) := by
    rw [same, value_set_other (by decide), value_set_other (by decide), value_set_other (by decide)]
    exact recordingStands
  simp (disch := decide) only [resolved_set_other] at runtimeFound estimatorFound programFound
  refine ⟨settings, fun key => ?_, ?_, fun key other => ?_, fun key member => ?_,
    fun other place host => ?_⟩
  · rw [same, contains_set, contains_set, contains_set, contains_set]
  · simp only [same, JsonObject.set, List.length_map]
  · simp only [pathKeys, List.mem_cons, List.not_mem_nil, or_false, not_or] at other
    rw [same, value_set_other other.2.2.2, value_set_other other.2.2.1, value_set_other other.2.1,
      value_set_other other.1]
  · simp only [pathKeys, List.mem_cons, List.not_mem_nil, or_false] at member
    rcases member with rfl | rfl | rfl | rfl
    · exact stands_of_resolved absolute recordingFound recordingStays
    · exact stands_of_resolved absolute runtimeFound runtimeStays
    · exact stands_of_resolved absolute estimatorFound estimatorStays
    · exact stands_of_resolved absolute programFound programStays
  · simp only [readSnapshot, resolve_again recordingCanonical recordingStays,
      resolve_again runtimeCanonical runtimeStays, resolve_again estimatorCanonical estimatorStays,
      resolve_again programCanonical programStays, bind, Except.bind]
    rw [same] at read ⊢
    exact read

/-- The snapshot of a configuration loads from every place, in every working directory and for every
home directory to the settings that were loaded and to itself. It differs from what was loaded in its
four paths, which are absolute and name the configured places. -/
theorem snapshot_reloads (absolute : isAbsolute current = true)
    {content : Option (Option (JsonObject K))}
    (loaded : loadSnapshot (posixPaths current) file home content = .ok (config, snapshot)) :
    loadFlightConfig (posixPaths current) file home content = .ok config ∧
    (∀ other place host : String,
      loadSnapshot (posixPaths other) place host (some (some snapshot)) = .ok (config, snapshot)) ∧
    ∃ json, content = some (some json) ∧
      (∀ key ∉ pathKeys, snapshot.value key = json.value key) ∧
      ∀ key ∈ pathKeys, ∃ path value, snapshot.text key = .ok path ∧ json.text key = .ok value ∧
        isAbsolute path = true ∧
        ∀ base, pathSigns.place base path.toList = configuredPlace current file home value := by
  unfold loadSnapshot at loaded
  split at loaded
  · cases loaded
  · cases loaded
  · rename_i json
    split at loaded
    · cases loaded
    · rename_i length
      split at loaded
      · cases loaded
      · rename_i present
        obtain ⟨settings, contains, same, others, stands, again⟩ := readSnapshot_ok absolute loaded
        refine ⟨?_, fun other place host => ?_, json, rfl, others, fun key member => (stands key member).same⟩
        · simp only [loadFlightConfig, if_neg length, present]
          exact settings
        · have found : (keys.find? fun key => !snapshot.contains key) = none := by
            rw [← present]
            congr 1
            funext key
            rw [contains]
          simp only [loadSnapshot, same, if_neg length, found]
          exact again other place host

end Snapshot

/-- A relative path with segments that lead nowhere. -/
def relativeJson : JsonObject ℚ :=
  (sampleJson "auto" 200).set "recording_dir" (.text "../data/.//runs/../flights")

/-- A relative recording directory is stored as an absolute path. -/
theorem snapshot_reloads_relative : ∃ config snapshot,
    loadSnapshot (posixPaths "/home/vio") "conf/flight.json" "/home/vio" (some (some relativeJson)) =
      .ok (config, snapshot) ∧
    config.recordingDir = "/home/vio/data/flights" ∧
    loadSnapshot (posixPaths "/") "run.flight.json" "/root" (some (some snapshot)) =
      .ok (config, snapshot) := by
  have loads : (loadSnapshot (posixPaths "/home/vio") "conf/flight.json" "/home/vio"
      (some (some relativeJson))).toOption.any
        (fun result => result.1.recordingDir = "/home/vio/data/flights") = true := by
    decide +kernel
  obtain ⟨⟨config, snapshot⟩, loaded, recordingDir⟩ := ok_of_any loads
  obtain ⟨_, again, _⟩ := snapshot_reloads (by decide) loaded
  exact ⟨config, snapshot, loaded, of_decide_eq_true recordingDir, again _ _ _⟩

end FlightConfigFile
end Vio
