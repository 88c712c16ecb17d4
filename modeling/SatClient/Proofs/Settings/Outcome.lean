import SatClient.Proofs.Decimal.Reading
import SatClient.Proofs.Settings
import SatClient.Proofs.Settings.Source
/-!
What can come of reading settings. Properties give settings that a process can be started with, or
they are refused, as properties; which of the two, and what exactly, lies in the values at the four
keys. A file that is there gives no other outcome, whatever its bytes.
-/

namespace SatClient.Settings

open SatClient.Text
open SatClient.Decimal

structure Sound (s : Settings) : Prop where
  nonempty : s.executable ≠ ""
  trimmed : Trimmed s.executable.toList
  arguments : ∀ a ∈ s.arguments, IsArgument a
  timeout : ∀ x, s.timeout = some x → x ≠ .nan ∧ x.isPositive = true

inductive Outcome : Except Failure Settings → Prop
  | settings {s : Settings} (sound : s.Sound) : Outcome (.ok s)
  | failure {failure : Failure} (kind : failure.kind = .configuration) : Outcome (.error failure)

def IsLimit (text : String) : Prop :=
  ∃ m, Spells text.toList m ∧ m.IsPositive

/-- What properties are refused for: a blank executable, or a limit that has more than blanks but is
no positive number. -/
inductive Refused (properties : Properties) : Prop
  | executable {text : String} (given : properties.get? "solver.executable" = some text)
      (blank : isAllBlank text.toList = true)
  | timeout {text : String} (given : properties.get? "solver.timeout" = some text)
      (visible : isAllBlank text.toList = false) (other : ¬ IsLimit text)

section

variable {properties : Properties} {s : Settings}

theorem isArgument_of_mem_wordsOf {text a : String} (member : a ∈ wordsOf text) :
    IsArgument a := by
  obtain ⟨word, inside, rfl⟩ := List.mem_map.mp member
  obtain ⟨nonempty, solid⟩ := solid_of_mem_words inside
  constructor
  · intro empty
    rw [← String.toList_ofList (l := word), empty] at nonempty
    exact nonempty rfl
  · rwa [String.toList_ofList]

theorem sound_of_ofProperties (accepted : ofProperties properties = .ok s) : s.Sound := by
  have valid := valid_of_ofProperties accepted
  obtain ⟨_, rfl⟩ := (ofProperties_eq_ok properties s).mp accepted
  constructor
  case nonempty =>
    intro empty
    have visible := valid.executable
    rw [empty] at visible
    cases visible
  case trimmed =>
    unfold valuesOf
    cases properties.get? "solver.executable" with
    | none =>
        have default : Trimmed ({} : Settings).executable.toList := by decide
        exact default
    | some text =>
        have ends := trimmed_trim text.toList
        rw [← String.toList_ofList (l := trim text.toList)] at ends
        exact ends
  case arguments =>
    unfold valuesOf
    cases properties.get? "solver.arguments" with
    | none =>
        have default : ∀ a ∈ ({} : Settings).arguments, IsArgument a := by decide
        exact default
    | some text => exact fun a => isArgument_of_mem_wordsOf
  case timeout =>
    intro x limit
    have positive := valid.timeout x limit
    refine ⟨?_, positive⟩
    rintro rfl
    cases positive

theorem outcome_ofProperties (properties : Properties) : Outcome (ofProperties properties) := by
  cases read : ofProperties properties with
  | ok s => exact .settings (sound_of_ofProperties read)
  | error failure => exact .failure (kind_of_ofProperties read)

theorem refused_of_not_admits (out : ¬ Admits properties) : Refused properties := by
  by_contra unrefused
  apply out
  constructor
  case executable =>
    intro text given
    rw [← Bool.not_eq_true]
    exact fun blank => unrefused (.executable given blank)
  case timeout =>
    intro text given
    cases visible : isAllBlank text.toList with
    | true => exact Or.inl rfl
    | false =>
        have limit : IsLimit text := by_contra fun other => unrefused (.timeout given visible other)
        exact Or.inr ((number?_isPositive_iff _).mpr limit)

theorem not_admits_of_refused (refused : Refused properties) : ¬ Admits properties := by
  intro admits
  cases refused with
  | executable given blank =>
      have visible := admits.executable _ given
      rw [blank] at visible
      cases visible
  | timeout given visible other =>
      rcases admits.timeout _ given with blank | positive
      · rw [visible] at blank
        cases blank
      · exact other ((number?_isPositive_iff _).mp positive)

theorem error_iff (properties : Properties) :
    (∃ failure, ofProperties properties = .error failure) ↔ Refused properties := by
  have accepts := ofProperties_eq_ok properties
  constructor
  · rintro ⟨failure, read⟩
    refine refused_of_not_admits fun admits => ?_
    have given := (accepts _).mpr ⟨admits, rfl⟩
    rw [read] at given
    cases given
  · intro refused
    cases read : ofProperties properties with
    | error failure => exact ⟨failure, rfl⟩
    | ok s => exact absurd ((accepts s).mp read).1 (not_admits_of_refused refused)

theorem ofProperties_of_same {other : Properties}
    (same : ∀ key ∈ keys, other.get? key = properties.get? key) :
    ofProperties other = ofProperties properties := by
  have executable := same "solver.executable" (by decide)
  have arguments := same "solver.arguments" (by decide)
  have timeout := same "solver.timeout" (by decide)
  have verbose := same "verbose" (by decide)
  simp only [ofProperties, executableField, argumentsField, timeoutField, verboseField, executable,
    arguments, timeout, verbose]

end

section

variable {files : FileStore} {path : Path}

theorem examinable_of_isFile (present : files.isFile path = true) : Examinable files path := by
  intro fault failed
  rw [FileStore.isFile, failed] at present
  obtain ⟨_, locked⟩ := Option.isSome_iff_exists.mp present
  have absent := FileStore.content?_of_lock locked
  rw [failed] at absent
  cases absent

theorem outcome_ofFile (present : files.isFile path = true) : Outcome (ofFile files path) := by
  rcases ofFile_cases (examinable_of_isFile present) with
    ⟨s, read, _⟩ | ⟨failure, failed, kind, _⟩
  · obtain ⟨_, accepted⟩ := exists_of_ofFile read
    rw [read]
    exact .settings (sound_of_ofProperties accepted)
  · rw [failed]
    exact .failure kind

end

/-- What is promised of properties: they have no outcome but the two, they are refused for two
reasons only, and others with the same values at the four keys have the very same outcome. -/
structure Guarded (properties : Properties) : Prop where
  outcome : Outcome (ofProperties properties)
  refused : (∃ failure, ofProperties properties = .error failure) ↔ Refused properties
  known : ∀ other : Properties, (∀ key ∈ keys, other.get? key = properties.get? key) →
    ofProperties other = ofProperties properties

/-- Reading is guarded for all properties, and a file that is there has no other outcomes. -/
theorem outcomes_guarded :
    (∀ properties, Guarded properties) ∧
      ∀ files path, files.isFile path = true → Outcome (ofFile files path) :=
  ⟨fun properties => ⟨outcome_ofProperties properties, error_iff properties,
    fun _ => ofProperties_of_same⟩, fun _ _ => outcome_ofFile⟩

end SatClient.Settings
