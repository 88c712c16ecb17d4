import SatClient.Failure
import SatClient.FileStore
/-!
Atomic writing. The text goes to a temporary file beside the target, which then replaces the
target; after a fault at any stage the temporary file is looked for and removed.
-/

namespace SatClient.FileStore

inductive WriteStage
  /-- A directory is tried once more after those above it were made. -/
  | makeDirectory (path : Path) (again : Bool)
  | createTemporary
  | writeTemporary
  | replaceTarget
  /-- The temporary file is looked for before it is removed, and a fault there hides it. -/
  | findTemporary
  | removeTemporary
  deriving DecidableEq, Repr

/-- The faults that strike from outside, stage by stage, and how many bytes have reached the
temporary file when its writing fails. -/
structure Disturbance where
  strikes : WriteStage → Option OsFault := fun _ => none
  filled : Nat := 0

def calm : Disturbance := {}

def makeDirectory (store : FileStore) (disturbance : Disturbance) (path : Path) (again : Bool) :
    Except OsFault FileStore :=
  match disturbance.strikes (.makeDirectory path again) with
  | some fault => .error fault
  | none =>
    match store.locate path with
    | .error fault => .error fault
    | .ok place =>
      match store.stored? place with
      | some _ => .error .fileExists
      | none => .ok (store.put place .directory)

/-- An existing directory is as good as a new one, whatever the fault but a path not found. -/
def accept (store : FileStore) (path : Path) :
    Except OsFault FileStore → FileStore × Except OsFault Unit
  | .ok made => (made, .ok ())
  | .error fault =>
    (store, if fault ≠ .notFound && store.isDirectory path then .ok () else .error fault)

def makeDirectories (store : FileStore) (disturbance : Disturbance) (path : Path) :
    Nat → FileStore × Except OsFault Unit
  | 0 => store.accept path (store.makeDirectory disturbance path false)
  | missing + 1 =>
    match store.makeDirectory disturbance path false with
    | .error ⟨2⟩ =>
      match store.makeDirectories disturbance path.parent missing with
      | (store, .error fault) => (store, .error fault)
      | (store, .ok ()) => store.accept path (store.makeDirectory disturbance path true)
    | outcome => store.accept path outcome

def temporaryName (name : String) (n : Nat) : String :=
  name ++ ".tmp" ++ toString n

def temporaryLocation (store : FileStore) (directory : Location) (name : String) : Location :=
  let candidate (n : Nat) : Location := directory.child (temporaryName name n)
  match (List.range (store.entries.entries.length + 1)).find? fun n =>
      (store.entries.get? (candidate n)).isNone with
  | some n => candidate n
  | none => candidate 0

/-- How many bytes a temporary name is longer than the name that it is made from. -/
def temporaryExtra : Nat := 12

def target (store : FileStore) (path : Path) : Except OsFault Location :=
  if path.parts.isEmpty || path.name = ".." then .error .resourceBusy
  else
    match store.locate path with
    | .error fault => .error fault
    | .ok place =>
      match store.stored? place with
      | some .directory => .error .isDirectory
      | _ => .ok place

/-- Clears the temporary file away after a fault. A fault in its removal takes the place of the
first one. -/
def clearTemporary (store : FileStore) (disturbance : Disturbance) (temporary : Location)
    (fault : OsFault) : FileStore × Except OsFault Unit :=
  match disturbance.strikes .findTemporary, disturbance.strikes .removeTemporary with
  | some _, _ => (store, .error fault)
  | none, some fault => (store, .error fault)
  | none, none => (store.remove temporary, .error fault)

def replaceTarget (store : FileStore) (disturbance : Disturbance) (path : Path)
    (temporary : Location) (content : List UInt8) : FileStore × Except OsFault Unit :=
  match disturbance.strikes .replaceTarget with
  | some fault => store.clearTemporary disturbance temporary fault
  | none =>
    match store.target path with
    | .error fault => store.clearTemporary disturbance temporary fault
    | .ok place => ((store.remove temporary).put place (.file content), .ok ())

def openTemporary (store : FileStore) (disturbance : Disturbance) (path : Path) :
    Except OsFault Location :=
  match disturbance.strikes .createTemporary with
  | some fault => .error fault
  | none =>
    if nameLimit < path.name.utf8ByteSize + temporaryExtra then .error .nameTooLong
    else
      match store.locate path.parent with
      | .error fault => .error fault
      | .ok directory => .ok (store.temporaryLocation directory path.name)

def fillTemporary (store : FileStore) (disturbance : Disturbance) (path : Path)
    (content : List UInt8) : FileStore × Except OsFault Unit :=
  match store.openTemporary disturbance path with
  | .error fault => (store, .error fault)
  | .ok temporary =>
    match disturbance.strikes .writeTemporary with
    | some fault =>
      (store.put temporary (.file (content.take disturbance.filled))).clearTemporary disturbance
        temporary fault
    | none =>
      (store.put temporary (.file content)).replaceTarget disturbance path temporary content

def asFailure (result : FileStore × Except OsFault Unit) : FileStore × Except Failure Unit :=
  (result.1, result.2.mapError .system)

/-- Writes a text to a file once its parent directories are made. The text is rendered only then. -/
def write (store : FileStore) (disturbance : Disturbance) (path : Path)
    (rendered : Except Failure String) : FileStore × Except Failure Unit :=
  if path.parent.parts.any Text.Utf8.hasNull then (store, .error .embeddedNull)
  else
    match store.makeDirectories disturbance path.parent path.parent.parts.length, rendered with
    | (store, .error fault), _ => (store, .error (.system fault))
    | (store, .ok ()), .error failure => (store, .error failure)
    | (store, .ok ()), .ok text =>
      if Text.Utf8.hasNull path.name then (store, .error .embeddedNull)
      else asFailure (store.fillTemporary disturbance path (Text.Utf8.encode text))

end SatClient.FileStore
