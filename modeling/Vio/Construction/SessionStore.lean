/-
This file holds the owner of the runtime directory and its persistent reset counter.
A crash ends the owner between two system calls, and a power loss may take back a rename that no
sync of the directory made durable. The field `history` is not in the source: it records what
happened to the counter, newest first, and no modelled function reads it.
-/

import Vio.Library.InputStream
import Vio.Library.Versions

namespace Vio

inductive Interruption where
  | systemError (what : String)
  | filesystemError
  | runtimeError (what : String)
  /-- The process ends, and nothing is thrown. -/
  | crashed
  deriving DecidableEq, Repr

inductive Fate where
  | returns
  | fails
  /-- The process ends before the call takes effect. -/
  | crashes
  deriving DecidableEq, Repr

def Fate.interrupts (fate : Fate) (failure : Interruption) : Except Interruption Unit :=
  match fate with
  | .returns => .ok ()
  | .fails => .error failure
  | .crashes => .error .crashed

/-- The system calls of one `reserve_reset`, in their order. -/
structure ReserveFates where
  find : Fate := .returns
  read : Fate := .returns
  readExtra : Fate := .returns
  openNew : Fate := .returns
  write : Fate := .returns
  /-- The bytes that `write` put into the file, where it did not fail. -/
  written : Nat := 4
  syncNew : Fate := .returns
  rename : Fate := .returns
  openDirectory : Fate := .returns
  syncDirectory : Fate := .returns
  /-- A crash here comes after the last sync. -/
  closeDirectory : Fate := .returns
  deriving DecidableEq, Repr

inductive StoreEvent where
  | renamed (text : List UInt8)
  | returned (byte : UInt8)
  /-- A power loss took renames back. -/
  | lost (count : Nat)
  deriving DecidableEq, Repr

/-- The files `reset_counter` and `reset_counter.new`. -/
structure RuntimeDirectory where
  counter : Versions (Option (List UInt8))
  temporary : Option (List UInt8) := none
  history : List StoreEvent := []
  deriving DecidableEq, Repr

/-- The parse of the counter file. An error of the second read hides what it should have read. -/
def readCounter (text : List UInt8) (fates : ReserveFates) : Except Interruption Nat :=
  match fates.read.interrupts (.runtimeError "invalid reset counter file") with
  | .error stop => .error stop
  | .ok () =>
      match InputStream.readUnsigned text with
      | none => .error (.runtimeError "invalid reset counter file")
      | some (previous, rest) =>
          if previous > 255 then .error (.runtimeError "invalid reset counter file")
          else if fates.readExtra = .crashes then .error .crashed
          else if fates.readExtra = .returns ∧ (InputStream.readWord rest).isSome then
            .error (.runtimeError "invalid reset counter file")
          else .ok ((previous + 1) % 256)

/-- The byte after the one on disk. -/
def nextReset (counter : Option (List UInt8)) (fates : ReserveFates) : Except Interruption Nat :=
  match fates.find.interrupts .filesystemError with
  | .error stop => .error stop
  | .ok () =>
      match counter with
      | none => .ok 0
      | some text => readCounter text fates

/-- The decimal and a newline. -/
def resetText (next : Nat) : List UInt8 := Decimal.print next ++ [10]

namespace RuntimeDirectory

/-- The new file, complete and synced, or the reason that it is not. -/
def writeNew (directory : RuntimeDirectory) (text : List UInt8) (fates : ReserveFates) :
    RuntimeDirectory × Except Interruption Unit :=
  match fates.openNew.interrupts (.systemError "open reset counter") with
  | .error stop => (directory, .error stop)
  | .ok () =>
      match fates.write with
      | .crashes =>
          ({ directory with temporary := some (text.take fates.written) }, .error .crashed)
      | .fails =>
          ({ directory with temporary := some [] },
            .error (.runtimeError "cannot persist reset counter"))
      | .returns =>
          let directory := { directory with temporary := some (text.take fates.written) }
          if fates.written < text.length then
            (directory, .error (.runtimeError "cannot persist reset counter"))
          else
            (directory, fates.syncNew.interrupts (.runtimeError "cannot persist reset counter"))

def rename (directory : RuntimeDirectory) (fates : ReserveFates) :
    RuntimeDirectory × Except Interruption Unit :=
  match fates.rename.interrupts .filesystemError, directory.temporary with
  | .error stop, _ => (directory, .error stop)
  | .ok (), none => (directory, .error .filesystemError)
  | .ok (), some text =>
      ({ counter := directory.counter.put (some text)
         temporary := none
         history := .renamed text :: directory.history }, .ok ())

def syncDirectory (directory : RuntimeDirectory) (fates : ReserveFates) :
    RuntimeDirectory × Except Interruption Unit :=
  match fates.openDirectory.interrupts (.runtimeError "cannot open reset counter directory") with
  | .error stop => (directory, .error stop)
  | .ok () =>
      match fates.syncDirectory.interrupts (.runtimeError "cannot sync reset counter directory") with
      | .error stop => (directory, .error stop)
      | .ok () =>
          ({ directory with counter := directory.counter.sync },
            -- The result of the close is not read.
            if fates.closeDirectory = .crashes then .error .crashed else .ok ())

def reserveReset (directory : RuntimeDirectory) (fates : ReserveFates) :
    RuntimeDirectory × Except Interruption UInt8 :=
  match nextReset directory.counter.live fates with
  | .error stop => (directory, .error stop)
  | .ok next =>
      match directory.writeNew (resetText next) fates with
      | (directory, .error stop) => (directory, .error stop)
      | (directory, .ok ()) =>
          match directory.rename fates with
          | (directory, .error stop) => (directory, .error stop)
          | (directory, .ok ()) =>
              match directory.syncDirectory fates with
              | (directory, .error stop) => (directory, .error stop)
              | (directory, .ok ()) =>
                  ({ directory with history := .returned (UInt8.ofNat next) :: directory.history },
                    .ok (UInt8.ofNat next))

/-- The machine stops: the directory is what storage kept of it, and the temporary file may hold
anything. -/
def powerLoss (directory : RuntimeDirectory) (count : Nat) (temporary : Option (List UInt8)) :
    Option RuntimeDirectory :=
  (directory.counter.lose count).map fun counter =>
    { counter, temporary, history := .lost count :: directory.history }

end RuntimeDirectory

/-- The system calls of the constructor, in their order. -/
structure OwnerFates where
  createDirectories : Fate := .returns
  openLock : Fate := .returns
  flock : Fate := .returns
  deriving DecidableEq, Repr

/-- The runtime directory and the lock that its owner holds. -/
structure SessionStore where
  directory : RuntimeDirectory
  locked : Bool := false
  deriving DecidableEq, Repr

inductive StoreAction where
  /-- A process constructs its store. -/
  | create (fates : OwnerFates)
  /-- The owner reserves a byte. -/
  | reserve (fates : ReserveFates)
  /-- The owner's destructor runs, or the owner ends between two calls. -/
  | release
  | powerLoss (count : Nat) (temporary : Option (List UInt8))

namespace SessionStore

/-- The lock is the kernel's: it goes to one process and ends with it. -/
def create (store : SessionStore) (fates : OwnerFates) :
    SessionStore × Except Interruption Unit :=
  match fates.createDirectories.interrupts .filesystemError with
  | .error stop => (store, .error stop)
  | .ok () =>
      match fates.openLock.interrupts (.systemError "open application lock") with
      | .error stop => (store, .error stop)
      | .ok () =>
          match fates.flock.interrupts
              (.systemError "another native application owns this runtime directory") with
          | .error stop => (store, .error stop)
          | .ok () =>
              if store.locked then
                (store,
                  .error (.systemError "another native application owns this runtime directory"))
              else ({ store with locked := true }, .ok ())

def reserveReset (store : SessionStore) (fates : ReserveFates) :
    SessionStore × Except Interruption UInt8 :=
  match store.directory.reserveReset fates with
  | (directory, .error .crashed) => ({ directory, locked := false }, .error .crashed)
  | (directory, result) => ({ store with directory }, result)

/-- The store after one action; only an owner reserves and releases. -/
def step (store : SessionStore) : StoreAction → Option SessionStore
  | .create fates => some (store.create fates).1
  | .reserve fates => if store.locked then some (store.reserveReset fates).1 else none
  | .release => if store.locked then some { store with locked := false } else none
  | .powerLoss count temporary =>
      (store.directory.powerLoss count temporary).map fun directory => { directory }

def run (store : SessionStore) (actions : List StoreAction) : Option SessionStore :=
  actions.foldlM step store

end SessionStore
end Vio
