import SatClient.Demo.Run
import SatClient.Proofs.Settings.Source
/-!
Where the settings of the command come from. Of five sources exactly one decides, the first that
applies, and what it leads to gives settings unless it is faulty.
-/

namespace SatClient.Demo

open SatClient.CommandLine (DemoOptions)
open Settings (SameFile)

inductive Origin
  | file (path : Path)
  | executable (text : String)
  | defaults
  deriving DecidableEq, Repr

namespace Origin

def onlyExecutable (text : String) : Properties :=
  Table.ofList [("solver.executable", text)]

variable (files : FileStore)

def load : Origin → Except Failure Settings
  | file path => Settings.ofFile files path
  | executable text => Settings.ofProperties (onlyExecutable text)
  | defaults => .ok {}

/-- The settings that an origin stands for: those of the properties in a file that is there, can be
decoded and holds nothing to be refused; an executable beside defaults; or the defaults. -/
inductive Gives : Origin → Settings → Prop
  | file {path : Path} {content : List UInt8} {text : List Char}
      (present : files.content? path = .ok (some content))
      (decoded : Text.Utf8.decodeStrict content = .ok text)
      (admits : Settings.Admits (Properties.parse (Text.normalizeNewlines text))) :
      Gives (file path) (Settings.valuesOf (Properties.parse (Text.normalizeNewlines text)))
  | executable {text : String} (visible : Text.isAllBlank text.toList = false) :
      Gives (executable text) { executable := Settings.trimmed text }
  | defaults : Gives defaults {}

def Faulty : Origin → Prop
  | file path => Settings.Faulty files path
  | executable text => Text.isAllBlank text.toList = true
  | defaults => False

def Examinable : Origin → Prop
  | file path => Settings.Examinable files path
  | executable _ | defaults => True

def Same (files' : FileStore) : Origin → Prop
  | file path => SameFile files files' path
  | executable _ | defaults => True

end Origin

inductive Source
  /-- A file that the options name. -/
  | option
  /-- An executable that the environment names. -/
  | executable
  /-- A file that the environment names. -/
  | pointed
  /-- The file in the working directory. -/
  | working
  | defaults
  deriving DecidableEq, Repr

namespace Source

def rank : Source → Nat
  | option => 0
  | executable => 1
  | pointed => 2
  | working => 3
  | defaults => 4

theorem eq_of_rank {source other : Source} (same : source.rank = other.rank) : source = other := by
  cases source <;> cases other <;> first | rfl | cases same

/-- A file by its name; an empty name stands for none. -/
def named (name : Option String) : Option Origin :=
  (name.filter (· ≠ "")).map fun name => .file (Path.ofText name)

def origin? (host : Host) (o : DemoOptions) : Source → Option Origin
  | option => named o.config
  | executable => (host.environment.get? Settings.executableVariable).map .executable
  | pointed => named (host.environment.get? Settings.fileVariable)
  | working =>
    if host.files.isFile Settings.defaultFile then some (.file Settings.defaultFile) else none
  | defaults => some .defaults

end Source

structure Decides (host : Host) (o : DemoOptions) (source : Source) (origin : Origin) : Prop where
  applies : source.origin? host o = some origin
  first : ∀ other : Source, other.rank < source.rank → other.origin? host o = none

namespace Origin

section

variable {files : FileStore} {origin : Origin}

theorem admits_executable (text : String) :
    Settings.Admits (onlyExecutable text) ↔ Text.isAllBlank text.toList = false := by
  have given : (onlyExecutable text).get? "solver.executable" = some text := rfl
  have limit : (onlyExecutable text).get? "solver.timeout" = none := rfl
  constructor
  · intro admits
    exact admits.executable text given
  · intro visible
    constructor
    case executable =>
      rw [given]
      rintro other ⟨⟩
      exact visible
    case timeout =>
      rw [limit]
      nofun

theorem valuesOf_executable (text : String) :
    Settings.valuesOf (onlyExecutable text) = { executable := Settings.trimmed text } := by
  have given : (onlyExecutable text).get? "solver.executable" = some text := rfl
  have arguments : (onlyExecutable text).get? "solver.arguments" = none := rfl
  have limit : (onlyExecutable text).get? "solver.timeout" = none := rfl
  have flag : (onlyExecutable text).get? "verbose" = none := rfl
  have silent : Settings.isTrue "false" = false := by decide
  simp only [Settings.valuesOf, Settings.limitOf, given, arguments, limit, flag, silent,
    Option.map_some, Option.map_none, Option.getD_some, Option.getD_none, Option.bind_none]

theorem load_executable {text : String} (visible : Text.isAllBlank text.toList = false) :
    (executable text).load files = .ok { executable := Settings.trimmed text } := by
  rw [load, Settings.ofProperties_eq_ok, admits_executable, valuesOf_executable]
  exact ⟨visible, rfl⟩

theorem load_eq_ok (s : Settings) : origin.load files = .ok s ↔ origin.Gives files s := by
  constructor
  · intro accepted
    cases origin with
    | file path =>
        rw [load, Settings.ofFile_eq_ok] at accepted
        obtain ⟨_, _, present, decoded, admits, rfl⟩ := accepted
        exact .file present decoded admits
    | executable text =>
        rw [load, Settings.ofProperties_eq_ok, admits_executable, valuesOf_executable] at accepted
        obtain ⟨visible, rfl⟩ := accepted
        exact .executable visible
    | defaults =>
        cases accepted
        exact .defaults
  · intro gives
    cases gives with
    | file present decoded admits =>
        exact (Settings.ofFile_eq_ok _).mpr ⟨_, _, present, decoded, admits, rfl⟩
    | executable visible => exact load_executable visible
    | defaults => rfl

theorem load_of_same {files' : FileStore} (same : origin.Same files files') :
    origin.load files' = origin.load files := by
  cases origin with
  | file path => exact Settings.ofFile_of_sameFile same
  | executable text => rfl
  | defaults => rfl

theorem valid_of_load {s : Settings} (accepted : origin.load files = .ok s) : s.Valid := by
  cases origin with
  | file path => exact Settings.valid_of_ofFile accepted
  | executable text =>
      rw [load] at accepted
      exact Settings.valid_of_ofProperties accepted
  | defaults =>
      cases accepted
      exact Settings.valid_default

theorem load_cases (examinable : origin.Examinable files) :
    (∃ s, origin.load files = .ok s ∧ ¬ origin.Faulty files) ∨
      ∃ failure, origin.load files = .error failure ∧ failure.kind = .configuration ∧
        origin.Faulty files := by
  cases origin with
  | file path => exact Settings.ofFile_cases examinable
  | executable text =>
      cases blank : Text.isAllBlank text.toList with
      | false =>
          refine Or.inl ⟨_, load_executable blank, fun faulty => ?_⟩
          exact Bool.false_ne_true (blank.symm.trans faulty)
      | true =>
          cases read : Settings.ofProperties (onlyExecutable text) with
          | error failure => exact Or.inr ⟨failure, read, Settings.kind_of_ofProperties read, blank⟩
          | ok s =>
              have admits := ((Settings.ofProperties_eq_ok _ s).mp read).1
              have visible := (admits_executable text).mp admits
              exact absurd (visible.symm.trans blank) Bool.false_ne_true
  | defaults => exact Or.inl ⟨{}, rfl, id⟩

end

end Origin

section

variable {host : Host} {o : DemoOptions}

def loaded? (host : Host) (origin : Option Origin) : Except Failure Settings :=
  origin.elim (.ok {}) (·.load host.files)

theorem loaded?_some (host : Host) (origin : Origin) :
    loaded? host (some origin) = origin.load host.files := rfl

theorem loaded?_named (host : Host) (name : String) (rest : Option Origin) :
    loaded? host ((Source.named (some name)).or rest) =
      if name = "" then loaded? host rest else Settings.ofFile host.files (Path.ofText name) := by
  by_cases empty : name = ""
  · have unnamed : Source.named (some name) = none := by simp [Source.named, empty]
    rw [if_pos empty, unnamed, Option.none_or]
  · have named : Source.named (some name) = some (.file (Path.ofText name)) := by
      simp [Source.named, Option.filter_some, empty]
    rw [if_neg empty, named, Option.some_or, loaded?_some, Origin.load]

theorem loaded?_working (host : Host) (o : DemoOptions) :
    loaded? host (Source.working.origin? host o) =
      if host.files.isFile Settings.defaultFile then
        Settings.ofFile host.files Settings.defaultFile
      else .ok {} := by
  cases found : host.files.isFile Settings.defaultFile <;> simp only [Source.origin?, found] <;> rfl

theorem ofHost_eq (host : Host) (o : DemoOptions) :
    Settings.ofHost host =
      loaded? host ((Source.executable.origin? host o).or
        ((Source.pointed.origin? host o).or (Source.working.origin? host o))) := by
  have executable : Source.executable.origin? host o =
      (host.environment.get? Settings.executableVariable).map .executable := rfl
  have pointed : Source.pointed.origin? host o =
      Source.named (host.environment.get? Settings.fileVariable) := rfl
  rw [Settings.ofHost, executable, pointed]
  cases host.environment.get? Settings.executableVariable with
  | some text =>
      rw [Option.map_some, Option.some_or, loaded?_some, Origin.load, Origin.onlyExecutable]
  | none =>
      rw [Option.map_none, Option.none_or]
      cases host.environment.get? Settings.fileVariable with
      | none =>
          have unnamed : Source.named none = none := rfl
          rw [unnamed, Option.none_or, loaded?_working, Option.getD_none,
            if_neg (not_not_intro rfl)]
      | some name =>
          rw [loaded?_named, loaded?_working, Option.getD_some]
          by_cases empty : name = "" <;> simp [empty]

theorem baseSettings_eq (host : Host) (o : DemoOptions) :
    baseSettings host o =
      loaded? host ((Source.option.origin? host o).or ((Source.executable.origin? host o).or
        ((Source.pointed.origin? host o).or (Source.working.origin? host o)))) := by
  have option : Source.option.origin? host o = Source.named o.config := rfl
  rw [baseSettings, option]
  cases o.config with
  | none =>
      have unnamed : Source.named none = none := rfl
      rw [unnamed, Option.none_or]
      exact ofHost_eq host o
  | some name => simp only [loaded?_named, ← ofHost_eq host o]

theorem baseSettings_of_decides {source : Source} {origin : Origin}
    (decides : Decides host o source origin) : baseSettings host o = origin.load host.files := by
  obtain ⟨applies, first⟩ := decides
  rw [baseSettings_eq]
  cases source with
  | option => rw [applies]; rfl
  | executable => rw [first .option (by decide), applies]; rfl
  | pointed => rw [first .option (by decide), first .executable (by decide), applies]; rfl
  | working =>
      rw [first .option (by decide), first .executable (by decide), first .pointed (by decide),
        applies]
      rfl
  | defaults =>
      cases applies
      rw [first .option (by decide), first .executable (by decide), first .pointed (by decide),
        first .working (by decide)]
      rfl

theorem exists_decides {source : Source} {origin : Origin}
    (applies : source.origin? host o = some origin) :
    ∃ source origin, Decides host o source origin := by
  induction position : source.rank using Nat.strongRecOn generalizing source origin with
  | ind rank ih =>
      by_cases earlier : ∃ other origin, other.rank < source.rank ∧
          Source.origin? host o other = some origin
      · -- The induction is on the rank, so an earlier source has one at or below it.
        obtain ⟨other, origin, before, found⟩ := earlier
        exact ih other.rank (position ▸ before) found rfl
      · refine ⟨source, origin, applies, fun other before => ?_⟩
        exact Option.eq_none_iff_forall_ne_some.mpr fun found given =>
          earlier ⟨other, found, before, given⟩

theorem decides_unique {source source' : Source} {origin origin' : Origin}
    (decides : Decides host o source origin) (decides' : Decides host o source' origin') :
    source' = source ∧ origin' = origin := by
  have same : source' = source := by
    apply Source.eq_of_rank
    rcases Nat.lt_trichotomy source'.rank source.rank with before | same | after
    · have absent := decides.first source' before
      rw [decides'.applies] at absent
      cases absent
    · exact same
    · have absent := decides'.first source after
      rw [decides.applies] at absent
      cases absent
  subst same
  exact ⟨rfl, Option.some.inj (decides'.applies.symm.trans decides.applies)⟩

theorem decides_of_same {host' : Host} {o' : DemoOptions} {source : Source} {origin : Origin}
    (decides : Decides host o source origin)
    (same : ∀ other : Source, other.rank ≤ source.rank →
      other.origin? host' o' = other.origin? host o) : Decides host' o' source origin := by
  constructor
  case applies =>
    rw [same source (Nat.le_refl _)]
    exact decides.applies
  case first =>
    intro other before
    rw [same other (Nat.le_of_lt before)]
    exact decides.first other before

end

end SatClient.Demo
