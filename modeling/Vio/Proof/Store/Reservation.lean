import Vio.Construction.SessionStore
import Vio.Library.History

namespace Vio
open History

/-- The byte that an event returned. -/
def StoreEvent.byte : StoreEvent → Option UInt8
  | .returned byte => some byte
  | _ => none

/-- The file is absent or holds a decimal 0..255. -/
def CounterFile (counter : Option (List UInt8)) : Prop :=
  counter = none ∨ ∃ text number, counter = some text ∧ InputStream.IsDecimal text number ∧ number ≤ 255

/-- The byte that a reservation without failures takes. -/
def resetOf (counter : Option (List UInt8)) : Nat :=
  match nextReset counter {} with
  | .ok next => next
  | .error _ => 0

/-- The counter file after one more reservation. -/
def advanced (counter : Option (List UInt8)) : Option (List UInt8) :=
  some (resetText (resetOf counter))

section Parse
variable {text : List UInt8} {number next : Nat} {fates : ReserveFates}

/-- A decimal is accepted where no system call fails. -/
theorem readCounter_accepts (decimal : InputStream.IsDecimal text number) (small : number ≤ 255) :
    readCounter text {} = .ok ((number + 1) % 256) := by
  obtain ⟨rest, read, ended⟩ := InputStream.readUnsigned_decimal decimal
    (show number < 4294967296 by omega)
  have fits : ¬ number > 255 := by omega
  simp [readCounter, Fate.interrupts, read, ended, fits]

/-- A counter that is read gives the byte after it. -/
theorem readCounter_decimal (decimal : InputStream.IsDecimal text number) (small : number ≤ 255)
    (returned : readCounter text fates = .ok next) : next = (number + 1) % 256 := by
  obtain ⟨rest, read, ended⟩ := InputStream.readUnsigned_decimal decimal
    (show number < 4294967296 by omega)
  unfold readCounter at returned
  split at returned
  · cases returned
  · rw [read] at returned
    dsimp only at returned
    rw [if_neg (by omega), ended] at returned
    split at returned
    · cases returned
    · rw [if_neg (by simp)] at returned
      exact (Except.ok.inj returned).symm

/-- The byte that is read next fits into a byte. -/
theorem readCounter_le (returned : readCounter text fates = .ok next) : next ≤ 255 := by
  unfold readCounter at returned
  split at returned
  · cases returned
  · split at returned
    · cases returned
    · repeat' split at returned
      all_goals first
        | cases returned; done
        | obtain rfl := Except.ok.inj returned; omega

end Parse

theorem toNat_ofNat {next : Nat} (small : next ≤ 255) : (UInt8.ofNat next).toNat = next :=
  UInt8.toNat_ofNat_of_lt' (show next < 256 by omega)

/-- The byte that is reserved next fits into a byte. -/
theorem nextReset_le {counter : Option (List UInt8)} {next : Nat} {fates : ReserveFates}
    (read : nextReset counter fates = .ok next) : next ≤ 255 := by
  unfold nextReset at read
  split at read
  · cases read
  · split at read
    · obtain rfl := Except.ok.inj read
      exact Nat.zero_le _
    · exact readCounter_le read

theorem resetText_decimal (next : Nat) : InputStream.IsDecimal (resetText next) next :=
  InputStream.isDecimal_print next

/-- A rename changes the counter file. -/
theorem nextReset_changes {counter : Option (List UInt8)} {next : Nat} {fates : ReserveFates}
    (read : nextReset counter fates = .ok next) : counter ≠ some (resetText next) := by
  rintro rfl
  have small := nextReset_le read
  unfold nextReset at read
  split at read
  · cases read
  · have again := readCounter_decimal (resetText_decimal next) small read
    omega

theorem CounterFile.written {next : Nat} (small : next ≤ 255) :
    CounterFile (some (resetText next)) :=
  .inr ⟨_, next, rfl, resetText_decimal next, small⟩

/-- Every run of the reading part takes the same byte. -/
theorem CounterFile.nextReset {counter : Option (List UInt8)} {next : Nat} {fates : ReserveFates}
    (file : CounterFile counter) (read : nextReset counter fates = .ok next) :
    next = resetOf counter := by
  unfold Vio.nextReset at read
  split at read
  · cases read
  · rcases file with rfl | ⟨text, number, rfl, decimal, small⟩
    · exact (Except.ok.inj read).symm
    · rw [readCounter_decimal decimal small read]
      simp only [resetOf, Vio.nextReset, Fate.interrupts, readCounter_accepts decimal small]

/-- A readable counter gives a byte. -/
theorem CounterFile.resetOf_le {counter : Option (List UInt8)} (file : CounterFile counter) :
    resetOf counter ≤ 255 := by
  rcases file with rfl | ⟨text, number, rfl, decimal, small⟩
  · exact Nat.zero_le _
  · simp only [resetOf, Vio.nextReset, Fate.interrupts, readCounter_accepts decimal small]
    omega

theorem resetOf_resetText {next : Nat} (small : next ≤ 255) :
    resetOf (some (resetText next)) = (next + 1) % 256 := by
  simp only [resetOf, nextReset, Fate.interrupts,
    readCounter_accepts (resetText_decimal next) small]

/-- The counter wraps after 255, however many reservations there are. -/
theorem resetOf_iterate {next : Nat} (small : next ≤ 255) (count : Nat) :
    resetOf (advanced^[count] (some (resetText next))) = (next + 1 + count) % 256 := by
  induction count with
  | zero => exact resetOf_resetText small
  | succ count inductionHypothesis =>
      rw [Function.iterate_succ_apply', advanced, inductionHypothesis, resetOf_resetText (by omega)]
      omega

/-- What one reservation does to the directory, and what it answers. -/
inductive Reservation (directory : RuntimeDirectory) :
    RuntimeDirectory → Except Interruption UInt8 → Prop
  /-- It ends before the rename. -/
  | stopped (temporary : Option (List UInt8)) (stop : Interruption) :
      Reservation directory { directory with temporary } (.error stop)
  /-- It ends after the rename, before or after the sync. -/
  | renamed (fates : ReserveFates) (next : Nat) (counter : Versions (Option (List UInt8)))
      (stop : Interruption) (read : nextReset directory.counter.live fates = .ok next)
      (moved : counter = directory.counter.put (some (resetText next)) ∨
        counter = (directory.counter.put (some (resetText next))).sync) :
      Reservation directory
        { counter, history := .renamed (resetText next) :: directory.history } (.error stop)
  | returned (fates : ReserveFates) (next : Nat)
      (read : nextReset directory.counter.live fates = .ok next) :
      Reservation directory
        { counter := (directory.counter.put (some (resetText next))).sync
          history := .returned (UInt8.ofNat next) :: .renamed (resetText next) :: directory.history }
        (.ok (UInt8.ofNat next))

namespace RuntimeDirectory
variable (directory : RuntimeDirectory) (fates : ReserveFates)

/-- The new file is complete, or the attempt ends. -/
theorem writeNew_spec (text : List UInt8) :
    (∃ temporary stop, directory.writeNew text fates = ({ directory with temporary }, .error stop)) ∨
      directory.writeNew text fates = ({ directory with temporary := some text }, .ok ()) := by
  unfold writeNew
  split
  · exact .inl ⟨directory.temporary, _, rfl⟩
  · split
    · exact .inl ⟨_, _, rfl⟩
    · exact .inl ⟨_, _, rfl⟩
    · dsimp only
      split
      · exact .inl ⟨_, _, rfl⟩
      · rename_i long
        rw [List.take_of_length_le (by omega)]
        cases fates.syncNew with
        | returns => exact .inr rfl
        | fails | crashes => exact .inl ⟨_, _, rfl⟩

/-- The sync makes the renames durable, or the attempt ends. -/
theorem syncDirectory_spec :
    (∃ stop, directory.syncDirectory fates = (directory, .error stop)) ∨
      ∃ result, directory.syncDirectory fates =
        ({ directory with counter := directory.counter.sync }, result) := by
  unfold syncDirectory
  split
  · exact .inl ⟨_, rfl⟩
  · split
    · exact .inl ⟨_, rfl⟩
    · exact .inr ⟨_, rfl⟩

/-- A call of `reserve_reset` does one of the listed things. -/
theorem reserveReset_spec :
    Reservation directory (directory.reserveReset fates).1 (directory.reserveReset fates).2 := by
  unfold reserveReset
  cases read : nextReset directory.counter.live fates with
  | error stop => exact .stopped directory.temporary stop
  | ok next =>
      dsimp only
      rcases directory.writeNew_spec fates (resetText next) with ⟨temporary, stop, same⟩ | same
      · rw [same]
        exact .stopped temporary stop
      · rw [same]
        dsimp only [rename]
        cases fates.rename with
        | fails | crashes => exact .stopped _ _
        | returns =>
            dsimp only [Fate.interrupts]
            generalize moved : RuntimeDirectory.mk (directory.counter.put (some (resetText next)))
              none (.renamed (resetText next) :: directory.history) = renamed
            rcases renamed.syncDirectory_spec fates with ⟨stop, same⟩ | ⟨result, same⟩
            · rw [same, ← moved]
              exact .renamed fates next _ stop read (.inl rfl)
            · rw [same, ← moved]
              cases result with
              | error stop => exact .renamed fates next _ stop read (.inr rfl)
              | ok done => exact .returned fates next read

end RuntimeDirectory

namespace SessionStore

theorem reserveReset_directory (store : SessionStore) (fates : ReserveFates) :
    (store.reserveReset fates).1.directory = (store.directory.reserveReset fates).1 ∧
      (store.reserveReset fates).2 = (store.directory.reserveReset fates).2 := by
  unfold reserveReset
  split <;> rename_i same <;> rw [same] <;> exact ⟨rfl, rfl⟩

/-- A returned byte is in the file, and the directory is synced. -/
theorem reserveReset_ok {store next : SessionStore} {fates : ReserveFates} {byte : UInt8}
    (returned : store.reserveReset fates = (next, .ok byte)) :
    (∃ fates, nextReset store.directory.counter.live fates = .ok byte.toNat) ∧
      next.directory.counter = { live := some (resetText byte.toNat) } ∧
      latest StoreEvent.byte next.directory.history = some byte := by
  obtain ⟨directory, result⟩ := store.reserveReset_directory fates
  have spec := store.directory.reserveReset_spec fates
  rw [← directory, ← result, returned] at spec
  obtain ⟨after, locked⟩ := next
  cases spec with
  | returned fates number read =>
      rw [toNat_ofNat (nextReset_le read)]
      exact ⟨⟨fates, read⟩, rfl, latest_cons_some rfl⟩

end SessionStore
end Vio
