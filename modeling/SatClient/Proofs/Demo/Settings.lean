import SatClient.Proofs.Demo.Sources
import SatClient.Proofs.Text.Utf8
/-!
How the settings of the command come about. The source that decides gives the base, and nothing in a
later one matters. The options then go over the base, each over its own field, and the result is
checked again.
-/

namespace SatClient.Demo

open SatClient.CommandLine (DemoOptions LimitOption)
open SatClient.Decimal (Binary64)

def givenExecutable (o : DemoOptions) : Option String :=
  o.executable.filter (· ≠ "")

def givenLimit (o : DemoOptions) : Option Binary64 :=
  match o.timeout with
  | .seconds x => some x
  | .absent | .empty => none

structure Allowed (o : DemoOptions) : Prop where
  executable : ∀ name, givenExecutable o = some name → Text.isAllBlank name.toList = false
  limited : o.timeout ≠ .empty
  timeout : ∀ x, givenLimit o = some x → x.isPositive = true

def overridden (o : DemoOptions) (base : Settings) : Settings where
  executable := (givenExecutable o).getD base.executable
  arguments := base.arguments
  verbose := o.verbose || base.verbose
  timeout := (givenLimit o).or base.timeout

structure SameOverrides (o o' : DemoOptions) : Prop where
  executable : o'.executable = o.executable
  verbose : o'.verbose = o.verbose
  timeout : o'.timeout = o.timeout

/-- What the settings of the command are, and on what they depend. -/
structure Resolved (host : Host) (o : DemoOptions) (source : Source) (origin : Origin) : Prop where
  base : baseSettings host o = origin.load host.files
  gives : ∀ s, baseSettings host o = .ok s ↔ origin.Gives host.files s
  /-- An executable of the environment stands beside defaults only. -/
  alone : ∀ text s, origin = .executable text → baseSettings host o = .ok s →
    s = { executable := Settings.trimmed text }
  revalidated : ∀ s, baseSettings host o = .ok s → Settings.read s.toFields = .ok s
  accepted : ∀ s, settings host o = .ok s ↔
    ∃ base, baseSettings host o = .ok base ∧ Allowed o ∧ s = overridden o base
  refused : origin.Examinable host.files →
    ((∃ failure, settings host o = .error failure) ↔ origin.Faulty host.files ∨ ¬ Allowed o)
  kind : origin.Examinable host.files → ∀ failure, settings host o = .error failure →
    failure.kind = .configuration
  /-- Only the sources up to the one that decides matter, and of the files only the one it names. -/
  independent : ∀ host' o', SameOverrides o o' → origin.Same host.files host'.files →
    (∀ other : Source, other.rank ≤ source.rank → other.origin? host' o' = other.origin? host o) →
    settings host' o' = settings host o

section

variable {host : Host} {o : DemoOptions}

def limitField : LimitOption → Field.Fields
  | .absent => []
  | .empty => [("timeout", .list [])]
  | .seconds x => [("timeout", .number x)]

theorem overrides_eq (o : DemoOptions) :
    overrides o =
      ((givenExecutable o).toList.map fun name => ("executable", .text name)) ++
        (if o.verbose then [("verbose", .bool true)] else []) ++ limitField o.timeout := by
  unfold overrides givenExecutable
  cases o.executable with
  | none => cases o.timeout <;> rfl
  | some name =>
      by_cases empty : name = ""
      · cases o.timeout <;> simp [Option.filter_some, empty, limitField]
      · cases o.timeout <;> simp [Option.filter_some, empty, limitField]

theorem shows_overrides (limited : o.timeout ≠ .empty) :
    Settings.Shows (overrides o) (givenExecutable o) none (if o.verbose then some true else none)
      (givenLimit o) ∧ (overrides o).lookup "timeout" = (givenLimit o).map .number := by
  rw [overrides_eq, givenLimit]
  cases givenExecutable o <;> cases o.verbose <;> cases limit : o.timeout <;>
    first
    | exact ⟨⟨rfl, rfl, rfl, Or.inl rfl⟩, rfl⟩
    | exact absurd limit limited

theorem lookup_empty (empty : o.timeout = .empty) (fields : Field.Fields) :
    (overrides o ++ fields).lookup "timeout" = some (.list []) := by
  rw [overrides_eq, empty]
  cases givenExecutable o <;> cases o.verbose <;> rfl

theorem allowed_iff {base : Settings} (valid : base.Valid) (limited : o.timeout ≠ .empty) :
    Allowed o ↔
      (∀ name, (givenExecutable o).or (some base.executable) = some name →
        Text.isAllBlank name.toList = false) ∧
      ∀ x, (givenLimit o).or base.timeout = some x → x.isPositive = true := by
  constructor
  · rintro ⟨executable, _, timeout⟩
    constructor
    · intro name shown
      rcases Option.or_eq_some_iff.mp shown with given | ⟨_, kept⟩
      · exact executable name given
      · cases kept
        exact valid.executable
    · intro x shown
      rcases Option.or_eq_some_iff.mp shown with given | ⟨_, kept⟩
      · exact timeout x given
      · exact valid.timeout x kept
  · rintro ⟨executable, timeout⟩
    refine ⟨fun name given => executable name ?_, limited, fun x given => timeout x ?_⟩
    · rw [given, Option.some_or]
    · rw [given, Option.some_or]

theorem read_overrides {base : Settings} (valid : base.Valid) (s : Settings) :
    Settings.read (overrides o ++ base.toFields) = .ok s ↔ Allowed o ∧ s = overridden o base := by
  by_cases empty : o.timeout = .empty
  · -- An empty limit is a field of the wrong type, whatever the base says of the limit.
    constructor
    · intro accepted
      have limit := ((Settings.read_eq_ok _ s).mp accepted).2.2.2
      rw [Field.optional_of_lookup _ (lookup_empty empty _)] at limit
      cases limit
    · rintro ⟨allowed, _⟩
      exact absurd empty allowed.limited
  · obtain ⟨given, plain⟩ := shows_overrides empty
    have shows := Settings.shows_append given plain (Settings.shows_toFields base)
    rw [Settings.read_of_shows shows]
    refine and_congr (allowed_iff valid empty).symm ?_
    cases verbose : o.verbose <;> simp [overridden, verbose]

theorem settings_of_base {base : Settings} (given : baseSettings host o = .ok base)
    (valid : base.Valid) :
    settings host o =
      (Settings.read (overrides o ++ base.toFields)).mapError .rejectedSettings := by
  rw [settings, given]
  cases nothing : (overrides o).isEmpty with
  | false => rfl
  | true =>
      -- Nothing is read here, but reading the fields of valid settings gives them back.
      rw [List.isEmpty_iff.mp nothing, List.nil_append, Settings.read_toFields valid]
      rfl

theorem settings_eq_ok {base : Settings} (given : baseSettings host o = .ok base)
    (valid : base.Valid) (s : Settings) :
    settings host o = .ok s ↔ Allowed o ∧ s = overridden o base := by
  rw [settings_of_base given valid, Settings.mapError_eq_ok, read_overrides valid]

theorem settings_of_base_error {failure : Failure} (failed : baseSettings host o = .error failure) :
    settings host o = .error failure := by
  rw [settings, failed]

theorem settings_congr {host' : Host} {o' : DemoOptions}
    (base : baseSettings host' o' = baseSettings host o) (same : SameOverrides o o') :
    settings host' o' = settings host o := by
  have given : overrides o' = overrides o := by
    rw [overrides, overrides, same.executable, same.verbose, same.timeout]
  rw [settings, settings, base, given]

section

variable {source : Source} {origin : Origin} (decides : Decides host o source origin)

include decides

theorem valid_of_decides {base : Settings} (given : baseSettings host o = .ok base) :
    base.Valid :=
  Origin.valid_of_load ((baseSettings_of_decides decides).symm.trans given)

theorem accepted_of_decides (s : Settings) :
    settings host o = .ok s ↔
      ∃ base, baseSettings host o = .ok base ∧ Allowed o ∧ s = overridden o base := by
  cases given : baseSettings host o with
  | error failure => simp [settings_of_base_error given]
  | ok base => simp [settings_eq_ok given (valid_of_decides decides given)]

theorem settings_cases (examinable : origin.Examinable host.files) :
    (∃ s, settings host o = .ok s ∧ ¬ origin.Faulty host.files ∧ Allowed o) ∨
      ∃ failure, settings host o = .error failure ∧ failure.kind = .configuration ∧
        (origin.Faulty host.files ∨ ¬ Allowed o) := by
  have base := baseSettings_of_decides decides
  rcases Origin.load_cases examinable with ⟨s, given, sound⟩ | ⟨failure, failed, kind, faulty⟩
  · rw [← base] at given
    have valid := valid_of_decides decides given
    cases result : settings host o with
    | ok t => exact Or.inl ⟨t, rfl, sound, ((settings_eq_ok given valid t).mp result).1⟩
    | error failure =>
        refine Or.inr ⟨failure, rfl, ?_, Or.inr fun allowed => ?_⟩
        · rw [settings_of_base given valid] at result
          exact Settings.kind_of_mapError result
        · have accepted := (settings_eq_ok given valid _).mpr ⟨allowed, rfl⟩
          rw [result] at accepted
          cases accepted
  · rw [← base] at failed
    exact Or.inr ⟨failure, settings_of_base_error failed, kind, Or.inl faulty⟩

theorem resolved_of_decides : Resolved host o source origin := by
  constructor
  case base => exact baseSettings_of_decides decides
  case gives =>
    intro s
    rw [baseSettings_of_decides decides, Origin.load_eq_ok]
  case alone =>
    rintro text s rfl given
    rw [baseSettings_of_decides decides, Origin.load] at given
    exact ((Settings.ofProperties_eq_ok _ s).mp given).2.trans (Origin.valuesOf_executable text)
  case revalidated =>
    intro s given
    exact Settings.read_toFields (valid_of_decides decides given)
  case accepted => exact accepted_of_decides decides
  case refused =>
    intro examinable
    rcases settings_cases decides examinable with ⟨s, given, sound, allowed⟩ | ⟨f, failed, _, why⟩
    · simp [given, sound, allowed]
    · exact iff_of_true ⟨f, failed⟩ why
  case kind =>
    intro examinable failure failed
    rcases settings_cases decides examinable with ⟨s, given, _⟩ | ⟨f, same, kind, _⟩
    · rw [given] at failed
      cases failed
    · rw [same] at failed
      cases failed
      exact kind
  case independent =>
    intro host' o' overriding file same
    refine settings_congr ?_ overriding
    rw [baseSettings_of_decides decides, baseSettings_of_decides (decides_of_same decides same)]
    exact Origin.load_of_same file

end

end

/-- The settings of the command: one source decides, the options go over what it gives, and neither
depends on anything else. -/
theorem settings_resolved (host : Host) (o : DemoOptions) :
    ∃ source origin, Decides host o source origin ∧
      (∀ source' origin', Decides host o source' origin' → source' = source ∧ origin' = origin) ∧
      Resolved host o source origin := by
  have last : Source.defaults.origin? host o = some .defaults := rfl
  obtain ⟨source, origin, decides⟩ := exists_decides last
  exact ⟨source, origin, decides, fun _ _ => decides_unique decides, resolved_of_decides decides⟩

def shadowed (content : String) : Host where
  files := ({} : FileStore).install Settings.defaultFile (.file (Text.Utf8.encode content))
  environment := Table.ofList [("SATBRIDGE_SOLVER", " kissat ")]

theorem decides_shadowed (content : String) {o : DemoOptions} (unnamed : o.config = none) :
    Decides (shadowed content) o .executable (.executable " kissat ") := by
  constructor
  case applies => rfl
  case first =>
    intro other before
    cases other with
    | option => rw [Source.origin?, unnamed]; rfl
    | _ => exact absurd before (by decide)

def filedText : String :=
  "solver.executable = glucose\nsolver.arguments=-model -v\nsolver.timeout: 2.5\nverbose TRUE\n"

def filed : Host where
  files := ({} : FileStore).install Settings.defaultFile
    (.file (Text.plainBytes filedText.toList))
  environment := Table.ofList [("SATBRIDGE_CONFIG_PATH", "")]

theorem decides_filed {o : DemoOptions} (unnamed : o.config = none) :
    Decides filed o .working (.file Settings.defaultFile) := by
  constructor
  case applies =>
    have present : filed.files.isFile Settings.defaultFile = true := by decide +kernel
    rw [Source.origin?, if_pos present]
  case first =>
    intro other before
    cases other with
    | option => rw [Source.origin?, unnamed]; rfl
    | executable | pointed => rfl
    | _ => exact absurd before (by decide)

def filedSettings : Settings where
  executable := "glucose"
  arguments := ["-model", "-v"]
  verbose := true
  timeout := some (.finite false 5629499534213120 (-51))

theorem gives_filed : (Origin.file Settings.defaultFile).Gives filed.files filedSettings := by
  have present : filed.files.content? Settings.defaultFile =
      .ok (some (Text.plainBytes filedText.toList)) := rfl
  have plain : (filedText.toList.all fun c => c.toNat < 128) = true := by decide +kernel
  have decoded : Text.Utf8.decodeStrict (Text.plainBytes filedText.toList) =
      .ok filedText.toList :=
    Text.Utf8.decodeStrict_plainBytes fun c member =>
      of_decide_eq_true (List.all_eq_true.mp plain c member)
  have executable : (Properties.parse (Text.normalizeNewlines filedText.toList)).get?
      "solver.executable" = some "glucose" := by decide +kernel
  have timeout : (Properties.parse (Text.normalizeNewlines filedText.toList)).get?
      "solver.timeout" = some "2.5" := by decide +kernel
  have number : Decimal.number? "2.5".toList = some (.finite false 5629499534213120 (-51)) := by
    decide +kernel
  have admits : Settings.Admits (Properties.parse (Text.normalizeNewlines filedText.toList)) := by
    constructor
    case executable =>
      rw [executable]
      rintro _ ⟨⟩
      decide
    case timeout =>
      rw [timeout]
      rintro _ ⟨⟩
      exact Or.inr ⟨_, number, by decide⟩
  have values : Settings.valuesOf (Properties.parse (Text.normalizeNewlines filedText.toList)) =
      filedSettings := by decide +kernel
  rw [← values]
  exact .file present decoded admits

/-- The executable of the environment stands alone whatever the file says, a limit that is no number
is refused, and a file on its own gives all of its settings that no option goes over. -/
theorem settings_shadowed :
    settings (shadowed "") { verbose := true } =
        .ok { executable := "kissat", verbose := true } ∧
      settings (shadowed "solver.timeout=0") { verbose := true } =
        settings (shadowed "") { verbose := true } ∧
      (∃ failure, settings (shadowed "") { timeout := .seconds .nan } = .error failure ∧
        failure.kind = .configuration) ∧
      settings filed { executable := some "cadical" } =
        .ok { filedSettings with executable := "cadical" } := by
  obtain ⟨source, origin, _, unique, resolved⟩ :=
    settings_resolved (shadowed "") { verbose := true }
  obtain ⟨rfl, rfl⟩ := unique _ _ (decides_shadowed "" rfl)
  obtain ⟨source, origin, _, unique', limited⟩ :=
    settings_resolved (shadowed "") { timeout := .seconds .nan }
  obtain ⟨rfl, rfl⟩ := unique' _ _ (decides_shadowed "" rfl)
  obtain ⟨source, origin, _, unique'', based⟩ :=
    settings_resolved filed { executable := some "cadical" }
  obtain ⟨rfl, rfl⟩ := unique'' _ _ (decides_filed rfl)
  refine ⟨?_, ?_, ?_, ?_⟩
  · have given : baseSettings (shadowed "") { verbose := true } =
        .ok { executable := "kissat" } := (resolved.gives _).mpr (.executable (by decide))
    have allowed : Allowed { verbose := true } := ⟨nofun, nofun, nofun⟩
    exact (resolved.accepted _).mpr ⟨_, given, allowed, rfl⟩
  · refine resolved.independent _ _ ⟨rfl, rfl, rfl⟩ trivial fun other before => ?_
    cases other with
    | option | executable => rfl
    | _ => exact absurd before (by decide)
  · have forbidden : ¬ Allowed { timeout := .seconds .nan } := fun allowed =>
      Bool.false_ne_true (allowed.timeout .nan rfl)
    obtain ⟨failure, failed⟩ := (limited.refused trivial).mpr (Or.inr forbidden)
    exact ⟨failure, failed, limited.kind trivial failure failed⟩
  · have given : baseSettings filed { executable := some "cadical" } = .ok filedSettings :=
      (based.gives _).mpr gives_filed
    have allowed : Allowed { executable := some "cadical" } := by
      refine ⟨fun name chosen => ?_, nofun, nofun⟩
      cases chosen
      decide
    exact (based.accepted _).mpr ⟨_, given, allowed, rfl⟩

end SatClient.Demo
