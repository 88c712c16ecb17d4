import SatClient.Path
import SatClient.Process
import SatClient.Table
import SatClient.Text.Utf8
/-!
The files that the program can see: those under its working directory, and of the rest of the
machine the common directories and devices. A path is walked component by component, and each but
the last has to be a directory.
-/

namespace SatClient

inductive Entry
  | file (content : List UInt8)
  /-- A file that may be started. -/
  | program (behaviour : Behaviour)
  /-- A file that cannot be opened. -/
  | locked (fault : OsFault)
  | directory
  | device
  deriving DecidableEq, Repr

namespace Entry

def started : Entry → Behaviour
  | program behaviour => behaviour
  | _ => .refuses .permissionDenied

end Entry

/-- A place in the file tree: components from the working directory or from the root. -/
structure Location where
  relative : Bool := true
  components : List String := []
  deriving DecidableEq, Repr

namespace Location

def isStart (place : Location) : Bool :=
  place.components.all (· = "..")

def child (place : Location) (name : String) : Location :=
  { place with components := place.components ++ [name] }

def step (place : Location) (part : String) : Location :=
  if part = "." then place
  else if part = ".." && !(place.relative && place.isStart) then
    { place with components := place.components.dropLast }
  else place.child part

end Location

namespace FileStore

def machineDirectories : List String :=
  ["bin", "dev", "etc", "home", "lib", "mnt", "opt", "proc", "root", "run", "sbin", "sys", "tmp",
   "usr", "var"]

def machineDevices : List String :=
  ["full", "null", "random", "tty", "urandom", "zero"]

/-- The part of the machine that every program can count on. -/
def machine : Table Location Entry :=
  ⟨machineDirectories.map (fun name => (⟨false, [name]⟩, .directory)) ++
    machineDevices.map fun name => (⟨false, ["dev", name]⟩, .device)⟩

end FileStore

structure FileStore where
  entries : Table Location Entry := FileStore.machine
  deriving DecidableEq, Repr

namespace FileStore

/-- The longest file name and the longest path, in bytes. -/
def nameLimit : Nat := 255
def pathLimit : Nat := 4095

def isLongName (name : String) : Bool :=
  nameLimit < name.utf8ByteSize

/-- What stands at a place; the directories from which walks start are known to exist. -/
def stored? (store : FileStore) (place : Location) : Option Entry :=
  if place.isStart then some .directory else store.entries.get? place

def walk (store : FileStore) (here : Location) : List String → Except OsFault Location
  | [] => .ok here
  | part :: parts =>
    match store.stored? here with
    | none => .error .notFound
    | some .directory =>
      if isLongName part then .error .nameTooLong else store.walk (here.step part) parts
    | some _ => .error .notDirectory

def start (path : Path) : Location :=
  ⟨path.isRelative, []⟩

/-- The place that a path names, whether or not something stands there. -/
def locate (store : FileStore) (path : Path) : Except OsFault Location :=
  if pathLimit < path.text.utf8ByteSize then .error .nameTooLong
  else store.walk (start path) path.parts

def find (store : FileStore) (path : Path) : Except OsFault Entry :=
  match store.locate path with
  | .error fault => .error fault
  | .ok place =>
    match store.stored? place with
    | some entry => .ok entry
    | none => .error .notFound

/-- The bytes of a regular file, or nothing where none can be had; those of a program hold nothing
to read. Only a path that cannot be examined is a fault. -/
def content? (store : FileStore) (path : Path) : Except OsFault (Option (List UInt8)) :=
  if Text.Utf8.hasNull path.text then .ok none
  else
    match store.find path with
    | .ok (.file content) => .ok (some content)
    | .ok (.program _) => .ok (some [])
    | .ok _ => .ok none
    | .error fault => if fault = .nameTooLong then .error fault else .ok none

def lock? (store : FileStore) (path : Path) : Option OsFault :=
  if Text.Utf8.hasNull path.text then none
  else
    match store.find path with
    | .ok (.locked fault) => some fault
    | _ => none

def isFile (store : FileStore) (path : Path) : Bool :=
  match store.content? path with
  | .ok (some _) => true
  | _ => (store.lock? path).isSome

def isDirectory (store : FileStore) (path : Path) : Bool :=
  match store.find path with
  | .ok .directory => true
  | _ => false

def put (store : FileStore) (place : Location) (entry : Entry) : FileStore :=
  ⟨store.entries.put place entry⟩

def remove (store : FileStore) (place : Location) : FileStore :=
  ⟨store.entries.erase place⟩

def putMissing (store : FileStore) (place : Location) : FileStore :=
  match store.stored? place with
  | some _ => store
  | none => store.put place .directory

def installFrom (store : FileStore) (here : Location) (entry : Entry) : List String → FileStore
  | [] => store
  | [part] => store.put (here.step part) entry
  | part :: parts =>
    (store.putMissing (here.step part)).installFrom (here.step part) entry parts

def install (store : FileStore) (path : Path) (entry : Entry) : FileStore :=
  store.installFrom (start path) entry path.parts

def isUnderStart (place : Location) : Bool :=
  place.relative && place.components.head? != some ".."

def paths (store : FileStore) : List String :=
  ((store.entries.entries.filter fun entry => isUnderStart entry.1).map
    fun entry => String.intercalate "/" entry.1.components).mergeSort fun a b => !decide (b < a)

end FileStore

end SatClient
