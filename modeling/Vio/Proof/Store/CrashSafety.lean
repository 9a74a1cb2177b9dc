import Vio.Library.PartialRun
import Vio.Proof.Store.Reservation

namespace Vio
open History

/-- The renames that no power loss took back, newest first. -/
def standing : List StoreEvent → List (List UInt8)
  | [] => []
  | .renamed text :: past => text :: standing past
  | .returned _ :: past => standing past
  | .lost count :: past => (standing past).drop count

/-- No reservation returned. -/
def NoneReturned (events : List StoreEvent) : Prop := ∀ byte, .returned byte ∉ events

/-- The events since the newest returned byte. -/
def LastReturned (history between : List StoreEvent) (byte : UInt8) : Prop :=
  ∃ older, history = between ++ .returned byte :: older ∧ NoneReturned between

/-- The newest event is the last returned byte, or it comes after it. -/
theorem LastReturned.cons {event : StoreEvent} {history between : List StoreEvent} {byte : UInt8}
    (last : LastReturned (event :: history) between byte) :
    (between = [] ∧ event = .returned byte) ∨
      ∃ rest, between = event :: rest ∧ (∀ other, event ≠ .returned other) ∧
        LastReturned history rest byte := by
  obtain ⟨older, same, noneReturned⟩ := last
  cases between with
  | nil => exact .inl ⟨rfl, (List.cons.inj same).1⟩
  | cons first rest =>
      obtain ⟨rfl, tail⟩ := List.cons.inj same
      refine .inr ⟨rest, rfl, ?_, older, tail, ?_⟩
      · rintro other rfl
        exact noneReturned other (List.mem_cons_self ..)
      · exact fun byte member => noneReturned byte (List.mem_cons_of_mem _ member)

/-- A returned byte comes after the last one by as many as renames took effect in between. -/
def Succeeds (event : StoreEvent) (past : List StoreEvent) : Prop :=
  ∀ byte, event = .returned byte → ∀ between last, LastReturned past between last →
    1 ≤ (standing between).length ∧
      byte.toNat = (last.toNat + (standing between).length) % 256

namespace RuntimeDirectory

structure Sound (directory : RuntimeDirectory) : Prop where
  files : directory.counter.All CounterFile
  /-- The file is as many reservations past the last byte as renames stand since then. -/
  grown : ∀ between byte, LastReturned directory.history between byte →
    directory.counter.Grown advanced (some (resetText byte.toNat)) (standing between).length
  succeeds : Always Succeeds directory.history

variable {directory : RuntimeDirectory}

/-- A rename puts the file one reservation further past the last returned byte. -/
theorem Sound.grown_renamed {next : Nat} (sound : directory.Sound)
    (same : next = resetOf directory.counter.live) {between : List StoreEvent} {byte : UInt8}
    (last : LastReturned (.renamed (resetText next) :: directory.history) between byte) :
    (directory.counter.put (some (resetText next))).Grown advanced (some (resetText byte.toNat))
      (standing between).length := by
  rcases last.cons with ⟨_, other⟩ | ⟨rest, rfl, _, earlier⟩
  · cases other
  · rw [same]
    exact (sound.grown rest byte earlier).put

/-- The byte of a reservation comes after the last one. -/
theorem Sound.succeeds_renamed {next : Nat} (sound : directory.Sound)
    (same : next = resetOf directory.counter.live) :
    Succeeds (.returned (UInt8.ofNat next)) (.renamed (resetText next) :: directory.history) := by
  rintro byte rfl' between last after
  obtain rfl := StoreEvent.returned.inj rfl'
  rcases after.cons with ⟨_, other⟩ | ⟨rest, rfl, _, earlier⟩
  · cases other
  · have live := (sound.grown rest last earlier).live
    have byte := resetOf_iterate (Nat.le_of_lt_succ last.toNat_lt) (standing rest).length
    refine ⟨Nat.succ_le_succ (Nat.zero_le _), ?_⟩
    rw [toNat_ofNat (same ▸ sound.files.live.resetOf_le), same, live, byte, standing,
      List.length_cons]
    omega

/-- A reservation, however it ends, keeps the count of the renames. -/
theorem Sound.reserve (sound : directory.Sound) (fates : ReserveFates) :
    (directory.reserveReset fates).1.Sound := by
  have spec := directory.reserveReset_spec fates
  generalize (directory.reserveReset fates).1 = after at spec
  generalize (directory.reserveReset fates).2 = result at spec
  cases spec with
  | stopped temporary stop => exact ⟨sound.files, sound.grown, sound.succeeds⟩
  | renamed fates next counter stop read moved =>
      have same := sound.files.live.nextReset read
      have files := sound.files.put (.written (same ▸ sound.files.live.resetOf_le))
      refine ⟨?_, fun between byte last => ?_, sound.succeeds.cons (fun _ other => by cases other)⟩
      · rcases moved with rfl | rfl
        · exact files
        · exact files.sync
      · have grown := sound.grown_renamed same last
        rcases moved with rfl | rfl
        · exact grown
        · exact grown.sync
  | returned fates next read =>
      have same := sound.files.live.nextReset read
      have small : next ≤ 255 := same ▸ sound.files.live.resetOf_le
      refine ⟨(sound.files.put (.written small)).sync, fun between byte last => ?_,
        (sound.succeeds.cons (fun _ other => by cases other)).cons (sound.succeeds_renamed same)⟩
      rcases last.cons with ⟨rfl, answered⟩ | ⟨_, _, other, _⟩
      · obtain rfl := StoreEvent.returned.inj answered
        rw [toNat_ofNat small]
        exact Versions.grown_new _ _
      · exact absurd rfl (other _)

/-- A power loss takes the same renames from the file and from the count. -/
theorem Sound.powerLoss (sound : directory.Sound) {count : Nat} {temporary : Option (List UInt8)}
    {after : RuntimeDirectory} (lost : directory.powerLoss count temporary = some after) :
    after.Sound := by
  obtain ⟨counter, left, rfl⟩ := Option.map_eq_some_iff.mp lost
  refine ⟨sound.files.lose left, fun between byte last => ?_,
    sound.succeeds.cons (fun _ other => by cases other)⟩
  rcases last.cons with ⟨_, other⟩ | ⟨rest, rfl, _, earlier⟩
  · cases other
  · rw [standing, List.length_drop]
    exact ((sound.grown rest byte earlier).lose left).2

/-- A call that leaves no rename on record leaves the file. -/
theorem reserveReset_unchanged (directory : RuntimeDirectory) (fates : ReserveFates)
    (unchanged : (directory.reserveReset fates).1.history = directory.history) :
    (directory.reserveReset fates).1.counter = directory.counter ∧
      ∃ stop, (directory.reserveReset fates).2 = .error stop := by
  have spec := directory.reserveReset_spec fates
  generalize (directory.reserveReset fates).1 = after at spec unchanged ⊢
  generalize (directory.reserveReset fates).2 = result at spec ⊢
  cases spec with
  | stopped temporary stop => exact ⟨rfl, stop, rfl⟩
  | renamed fates next counter stop read moved =>
      have := congrArg List.length unchanged
      simp at this
  | returned fates next read =>
      have := congrArg List.length unchanged
      simp only [List.length_cons] at this
      omega

/-- A directory with no unsynced rename, as an owner may find it. -/
structure Settled (directory : RuntimeDirectory) : Prop where
  file : CounterFile directory.counter.live
  synced : directory.counter.replaced = []
  history : directory.history = []

/-- A directory without unsynced renames is sound. -/
theorem Settled.sound (settled : directory.Settled) : directory.Sound where
  files := by
    rw [Versions.All, settled.synced]
    intro counter member
    rw [List.mem_singleton.mp member]
    exact settled.file
  grown := by
    rintro between byte ⟨older, same, _⟩
    rw [settled.history] at same
    simp at same
  succeeds := by
    rw [settled.history]
    exact always_nil

end RuntimeDirectory

namespace SessionStore

/-- Each action keeps the file readable and as far ahead as the renames say. -/
theorem step_sound {store next : SessionStore} {action : StoreAction}
    (sound : store.directory.Sound) (moved : store.step action = some next) :
    next.directory.Sound := by
  cases action with
  | create fates =>
      obtain rfl := Option.some.inj moved
      suffices same : (store.create fates).1.directory = store.directory by rwa [same]
      unfold create
      repeat' split
      all_goals rfl
  | reserve fates =>
      simp only [step] at moved
      split at moved
      · obtain rfl := Option.some.inj moved
        rw [(store.reserveReset_directory fates).1]
        exact sound.reserve fates
      · cases moved
  | release =>
      simp only [step] at moved
      split at moved
      · obtain rfl := Option.some.inj moved
        exact sound
      · cases moved
  | powerLoss count temporary =>
      obtain ⟨directory, lost, rfl⟩ := Option.map_eq_some_iff.mp moved
      exact sound.powerLoss lost

theorem run_sound {store last : SessionStore} {actions : List StoreAction}
    (sound : store.directory.Sound) (ran : store.run actions = some last) :
    last.directory.Sound := by
  refine PartialRun.invariant (·.directory.Sound) ?_ ran sound
  intro before action after moved sound
  exact step_sound sound moved

/-- What an action is seen to do, read off the answer of the call and the counter file. -/
def seen (store : SessionStore) (action : StoreAction) (next : SessionStore) : List StoreEvent :=
  match action with
  | .create _ | .release => []
  | .reserve fates =>
      ((store.reserveReset fates).2.toOption.map StoreEvent.returned).toList ++
        if next.directory.counter.live = store.directory.counter.live then []
        else (next.directory.counter.live.map StoreEvent.renamed).toList
  | .powerLoss count _ => [.lost count]

/-- The history grows by what an action is seen to do. -/
theorem step_history {store next : SessionStore} {action : StoreAction}
    (moved : store.step action = some next) :
    next.directory.history = store.seen action next ++ store.directory.history := by
  cases action with
  | create fates =>
      obtain rfl := Option.some.inj moved
      suffices same : (store.create fates).1.directory = store.directory by
        rw [same]
        rfl
      unfold create
      repeat' split
      all_goals rfl
  | reserve fates =>
      simp only [step] at moved
      split at moved
      · obtain rfl := Option.some.inj moved
        obtain ⟨directory, result⟩ := store.reserveReset_directory fates
        rw [seen, directory, result]
        have spec := store.directory.reserveReset_spec fates
        generalize (store.directory.reserveReset fates).1 = after at spec ⊢
        generalize (store.directory.reserveReset fates).2 = result at spec ⊢
        cases spec with
        | stopped temporary stop => simp [Except.toOption]
        | renamed fates number counter stop read renamed =>
            have changed := (nextReset_changes read).symm
            rcases renamed with rfl | rfl
            · simp [Except.toOption, Versions.put, changed]
            · simp [Except.toOption, Versions.put, Versions.sync, changed]
        | returned fates number read =>
            have changed := (nextReset_changes read).symm
            simp [Except.toOption, Versions.put, Versions.sync, changed]
      · cases moved
  | release =>
      simp only [step] at moved
      split at moved <;> cases moved
      rfl
  | powerLoss count temporary =>
      obtain ⟨directory, lost, rfl⟩ := Option.map_eq_some_iff.mp moved
      obtain ⟨counter, _, rfl⟩ := Option.map_eq_some_iff.mp lost
      rfl

/-- The history of a store is what its run was seen to do. -/
theorem run_history {store last : SessionStore} {actions : List StoreAction}
    (ran : store.run actions = some last) :
    last.directory.history = PartialRun.log step seen store actions ++ store.directory.history :=
  PartialRun.history_log (·.directory.history) (fun _ _ _ moved => step_history moved) ran

/-- Over every sequence of owners, calls, failures, crashes and power losses, the counter file stays
readable, a call that fails before its rename leaves it, and each returned byte follows the last one
by the renames that took effect since then. -/
theorem reservations_crash_safe {store last : SessionStore} {actions : List StoreAction}
    (settled : store.directory.Settled) (ran : store.run actions = some last) :
    (last.directory.counter.live = none ∨
      ∃ text number, last.directory.counter.live = some text ∧
        InputStream.IsDecimal text number ∧ number ≤ 255 ∧
        readCounter text {} = .ok ((number + 1) % 256)) ∧
    (∀ fates, (last.reserveReset fates).1.directory.history = last.directory.history →
      (last.reserveReset fates).1.directory.counter = last.directory.counter ∧
        ∃ stop, (last.reserveReset fates).2 = .error stop) ∧
    ∀ recent byte between previous older,
      last.directory.history = recent ++ .returned byte :: between ++ .returned previous :: older →
      NoneReturned between →
        1 ≤ (standing between).length ∧
        byte.toNat = (previous.toNat + (standing between).length) % 256 ∧
        (byte = previous → 256 ≤ (standing between).length) := by
  have sound := run_sound settled.sound ran
  refine ⟨?_, fun fates unchanged => ?_, ?_⟩
  · rcases sound.files.live with absent | ⟨text, number, same, decimal, small⟩
    · exact .inl absent
    · exact .inr ⟨text, number, same, decimal, small, readCounter_accepts decimal small⟩
  · rw [(last.reserveReset_directory fates).1] at unchanged ⊢
    rw [(last.reserveReset_directory fates).2]
    exact last.directory.reserveReset_unchanged fates unchanged
  · intro recent byte between previous older split noneReturned
    obtain ⟨some, same⟩ := sound.succeeds recent (.returned byte)
      (between ++ .returned previous :: older) (by rw [split]; simp) byte rfl between previous
      ⟨older, rfl, noneReturned⟩
    refine ⟨some, same, ?_⟩
    rintro rfl
    have := byte.toNat_lt
    omega

namespace SampleReservations

def start : SessionStore := { directory := { counter := { live := some (resetText 254) } } }

/-- A rename stays unsynced, a second one ends with the power, and a write is short of space. -/
def actions : List StoreAction :=
  [.create {}, .reserve {}, .create {}, .reserve { syncDirectory := .fails },
    .reserve { syncDirectory := .crashes }, .powerLoss 1 (some [49]), .create {},
    .reserve { written := 1 }, .reserve {}]

def between : List StoreEvent :=
  [.renamed (resetText 1), .lost 1, .renamed (resetText 1), .renamed (resetText 0)]

def last : SessionStore where
  directory :=
    { counter := { live := some (resetText 1) }
      history := .returned 1 :: between ++ [.returned 255, .renamed (resetText 255)] }
  locked := true

end SampleReservations

open SampleReservations in
/-- The byte 0 took effect unanswered, so the byte 1 comes after the byte 255. -/
theorem reservations_crash_safe_power_loss :
    start.run actions = some last ∧ 1 ≤ (standing between).length ∧
      (1 : UInt8).toNat = ((255 : UInt8).toNat + (standing between).length) % 256 := by
  have ran : start.run actions = some last := by decide +kernel
  have settled : start.directory.Settled := ⟨.written (by decide), rfl, rfl⟩
  have apart := (reservations_crash_safe settled ran).2.2 [] 1 between 255 [.renamed (resetText 255)]
    rfl (fun byte => by simp [between])
  exact ⟨ran, apart.1, apart.2.1⟩

end SessionStore
end Vio
