import SatClient.Settings
import SatClient.Proofs.Field
import SatClient.Proofs.Text.Trim
/-!
Which settings can be read. Whatever the fields, settings that are read have an executable with more
than blanks and no limit but a positive one, and such settings are found again in their own fields.
Properties are refused exactly for a blank executable or for a limit that is no positive number.
-/

namespace SatClient

open SatClient.Decimal
open SatClient.Field

namespace Settings

structure Valid (s : Settings) : Prop where
  executable : Text.isAllBlank s.executable.toList = false
  timeout : ∀ x, s.timeout = some x → x.isPositive = true

theorem valid_default : Valid {} :=
  ⟨by decide, nofun⟩

theorem readExecutable_text (place : List Place) (text : String) :
    readExecutable place (.text text) =
      if Text.isAllBlank text.toList then refuse place (.text text) .blankExecutable
      else .ok text := rfl

theorem readExecutable_eq_ok {place : List Place} {value : Value} {text : String}
    (read : readExecutable place value = .ok text) : Text.isAllBlank text.toList = false := by
  cases value with
  | text s =>
      rw [readExecutable_text] at read
      split at read
      · cases read
      · next visible =>
          cases read
          exact Bool.not_eq_true _ ▸ visible
  | _ => cases read

theorem readTimeout_number (place : List Place) (x : Binary64) :
    readTimeout place (.number x) =
      if x.isPositive then .ok (some x) else refuse place (.number x) .notPositive := rfl

theorem isPositive_of_readTimeout {place : List Place} {value : Value} {x : Binary64}
    (read : readTimeout place value = .ok (some x)) : x.isPositive = true := by
  unfold readTimeout at read
  split at read
  · cases read
  · cases number : readNumber place value with
    | error faults =>
        rw [number] at read
        cases read
    | ok y =>
        simp only [number, Except.bind] at read
        split at read
        · next positive =>
            cases read
            exact positive
        · cases read

theorem mapError_eq_ok (reading : Reading Settings) (s : Settings) :
    reading.mapError Failure.rejectedSettings = .ok s ↔ reading = .ok s := by
  cases reading with
  | error faults => exact iff_of_false nofun nofun
  | ok t =>
      constructor <;> intro same
      · cases same
        rfl
      · cases same
        rfl

theorem kind_of_mapError {reading : Reading Settings} {failure : Failure}
    (refused : reading.mapError Failure.rejectedSettings = .error failure) :
    failure.kind = .configuration := by
  cases reading with
  | error faults =>
      cases refused
      rfl
  | ok s => cases refused

theorem read_eq_ok (fields : Fields) (s : Settings) :
    read fields = .ok s ↔
      optional readExecutable fields "executable" ({} : Settings).executable = .ok s.executable ∧
      optional (readList readText) fields "arguments" ({} : Settings).arguments =
        .ok s.arguments ∧
      optional readBool fields "verbose" ({} : Settings).verbose = .ok s.verbose ∧
      optional readTimeout fields "timeout" ({} : Settings).timeout = .ok s.timeout := by
  obtain ⟨executable, arguments, verbose, timeout⟩ := s
  rw [← both_eq_ok _ _ (verbose, timeout), ← both_eq_ok _ _ (arguments, verbose, timeout),
    ← both_eq_ok _ _ (executable, arguments, verbose, timeout), read]
  dsimp only
  cases both (optional readExecutable fields "executable" ({} : Settings).executable)
    (both (optional (readList readText) fields "arguments" ({} : Settings).arguments)
      (both (optional readBool fields "verbose" ({} : Settings).verbose)
        (optional readTimeout fields "timeout" ({} : Settings).timeout))) with
  | error faults => simp [Except.map]
  | ok parts =>
      obtain ⟨e, a, v, t⟩ := parts
      simp [Except.map]

theorem valid_of_read {fields : Fields} {s : Settings} (accepted : read fields = .ok s) :
    s.Valid := by
  obtain ⟨executable, _, _, timeout⟩ := (read_eq_ok fields s).mp accepted
  constructor
  case executable =>
    exact of_optional (fun e => Text.isAllBlank e.toList = false) valid_default.executable
      (fun _ _ => readExecutable_eq_ok) executable
  case timeout =>
    refine of_optional (fun t => ∀ x, t = some x → x.isPositive = true) valid_default.timeout ?_
      timeout
    rintro place value given x same
    rw [same] at given
    exact isPositive_of_readTimeout given

section

variable {fields : Fields}

theorem optional_executable {given : Option String}
    (shown : fields.lookup "executable" = given.map .text) (default text : String) :
    optional readExecutable fields "executable" default = .ok text ↔
      (∀ name, given = some name → Text.isAllBlank name.toList = false) ∧
        text = given.getD default := by
  cases given with
  | none => simp [optional_of_absent _ shown, @eq_comm _ text]
  | some name =>
      rw [optional_of_lookup _ shown, readExecutable_text]
      cases blank : Text.isAllBlank name.toList <;> simp [refuse, blank, @eq_comm _ text]

theorem optional_arguments {given : Option (List String)}
    (shown : fields.lookup "arguments" = given.map fun texts => .list (texts.map .text))
    (default texts : List String) :
    optional (readList readText) fields "arguments" default = .ok texts ↔
      texts = given.getD default := by
  cases given with
  | none => simp [optional_of_absent _ shown, @eq_comm _ texts]
  | some words =>
      have items (place : List Place) :
          readItems readText place 0 (words.map .text) = .ok words :=
        readItems_map readText .text (fun _ _ => rfl) place 0 words
      simp [optional_of_lookup _ shown, readList, items, @eq_comm _ texts]

theorem optional_verbose {given : Option Bool}
    (shown : fields.lookup "verbose" = given.map .bool) (default flag : Bool) :
    optional readBool fields "verbose" default = .ok flag ↔ flag = given.getD default := by
  cases given with
  | none => simp [optional_of_absent _ shown, @eq_comm _ flag]
  | some b => simp [optional_of_lookup _ shown, readBool, @eq_comm _ flag]

theorem optional_timeout {given : Option Binary64}
    (shown : fields.lookup "timeout" = given.map .number ∨
      fields.lookup "timeout" = some ((given.map .number).getD .null))
    (limit : Option Binary64) :
    optional readTimeout fields "timeout" none = .ok limit ↔
      (∀ x, given = some x → x.isPositive = true) ∧ limit = given := by
  cases given with
  | none =>
      have unlimited : optional readTimeout fields "timeout" none = .ok none := by
        rcases shown with absent | null
        · exact optional_of_absent _ absent none
        · exact optional_of_lookup _ null none
      simp [unlimited, @eq_comm _ limit]
  | some x =>
      have number : fields.lookup "timeout" = some (.number x) := shown.elim id id
      rw [optional_of_lookup _ number, readTimeout_number]
      cases positive : x.isPositive <;> simp [refuse, positive, @eq_comm _ limit]

structure Shows (fields : Fields) (executable : Option String) (arguments : Option (List String))
    (verbose : Option Bool) (timeout : Option Binary64) : Prop where
  executable : fields.lookup "executable" = executable.map .text
  arguments : fields.lookup "arguments" = arguments.map fun texts => .list (texts.map .text)
  verbose : fields.lookup "verbose" = verbose.map .bool
  timeout : fields.lookup "timeout" = timeout.map .number ∨
    fields.lookup "timeout" = some ((timeout.map .number).getD .null)

/-- Fields of the right types are refused for a blank executable or a limit that is not positive,
and otherwise give what they say, with the defaults beside it. -/
theorem read_of_shows {executable : Option String} {arguments : Option (List String)}
    {verbose : Option Bool} {timeout : Option Binary64}
    (shows : Shows fields executable arguments verbose timeout) (s : Settings) :
    read fields = .ok s ↔
      ((∀ name, executable = some name → Text.isAllBlank name.toList = false) ∧
        ∀ x, timeout = some x → x.isPositive = true) ∧
      s = ⟨executable.getD ({} : Settings).executable, arguments.getD ({} : Settings).arguments,
        verbose.getD ({} : Settings).verbose, timeout⟩ := by
  obtain ⟨e, a, v, t⟩ := s
  have limit := optional_timeout shows.timeout t
  rw [read_eq_ok, optional_executable shows.executable, optional_arguments shows.arguments,
    optional_verbose shows.verbose]
  simp only [limit, mk.injEq]
  constructor
  · rintro ⟨⟨visible, first⟩, second, third, positive, fourth⟩
    exact ⟨⟨visible, positive⟩, first, second, third, fourth⟩
  · rintro ⟨⟨visible, positive⟩, first, second, third, fourth⟩
    exact ⟨⟨visible, first⟩, second, third, positive, fourth⟩

theorem shows_toFields (s : Settings) :
    Shows s.toFields (some s.executable) (some s.arguments) (some s.verbose) s.timeout :=
  ⟨rfl, rfl, rfl, Or.inr rfl⟩

theorem read_toFields {s : Settings} (valid : s.Valid) : read s.toFields = .ok s := by
  refine (read_of_shows (shows_toFields s) s).mpr ⟨⟨?_, valid.timeout⟩, rfl⟩
  rintro name ⟨⟩
  exact valid.executable

/-- What is given in front goes before what stands behind. -/
theorem shows_append {front back : Fields} {executable executable' : Option String}
    {arguments arguments' : Option (List String)} {verbose verbose' : Option Bool}
    {timeout timeout' : Option Binary64}
    (given : Shows front executable arguments verbose timeout)
    (plain : front.lookup "timeout" = timeout.map .number)
    (rest : Shows back executable' arguments' verbose' timeout') :
    Shows (front ++ back) (executable.or executable') (arguments.or arguments')
      (verbose.or verbose') (timeout.or timeout') := by
  constructor
  case executable =>
    rw [List.lookup_append, given.executable, rest.executable]
    cases executable <;> rfl
  case arguments =>
    rw [List.lookup_append, given.arguments, rest.arguments]
    cases arguments <;> rfl
  case verbose =>
    rw [List.lookup_append, given.verbose, rest.verbose]
    cases verbose <;> rfl
  case timeout =>
    rw [List.lookup_append, plain]
    cases timeout with
    | none => exact rest.timeout
    | some x => exact Or.inl rfl

end

def limitOf (properties : Properties) : Option Binary64 :=
  (properties.get? "solver.timeout").bind fun text =>
    if Text.isAllBlank text.toList then none else number? text.toList

structure Admits (properties : Properties) : Prop where
  executable : ∀ text, properties.get? "solver.executable" = some text →
    Text.isAllBlank text.toList = false
  timeout : ∀ text, properties.get? "solver.timeout" = some text →
    Text.isAllBlank text.toList = true ∨
      ∃ x, number? text.toList = some x ∧ x.isPositive = true

def valuesOf (properties : Properties) : Settings where
  executable := ((properties.get? "solver.executable").map trimmed).getD ({} : Settings).executable
  arguments := ((properties.get? "solver.arguments").map wordsOf).getD ({} : Settings).arguments
  verbose := isTrue ((properties.get? "verbose").getD "false")
  timeout := limitOf properties

section

variable {properties : Properties}

def fieldsOf (properties : Properties) (limit : Fields) : Fields :=
  executableField properties ++ argumentsField properties ++ limit ++ verboseField properties

theorem shows_fieldsOf (properties : Properties) (limit : Option Binary64) :
    Shows (fieldsOf properties (limit.toList.map fun x => ("timeout", .number x)))
      ((properties.get? "solver.executable").map trimmed)
      ((properties.get? "solver.arguments").map wordsOf)
      (some (isTrue ((properties.get? "verbose").getD "false"))) limit := by
  simp only [fieldsOf, executableField, argumentsField, verboseField]
  cases properties.get? "solver.executable" <;> cases properties.get? "solver.arguments" <;>
    cases limit <;> exact ⟨rfl, rfl, rfl, Or.inl rfl⟩

def Readable (properties : Properties) : Prop :=
  ∀ text, properties.get? "solver.timeout" = some text →
    Text.isAllBlank text.toList = true ∨ ∃ x, number? text.toList = some x

theorem timeoutField_of_readable (readable : Readable properties) :
    timeoutField properties =
      .ok ((limitOf properties).toList.map fun x => ("timeout", .number x)) := by
  unfold timeoutField limitOf
  cases given : properties.get? "solver.timeout" with
  | none => rfl
  | some text =>
      simp only [Option.bind_some]
      rcases readable text given with blank | ⟨x, read⟩
      · simp [blank]
      · cases blank : Text.isAllBlank text.toList <;> simp [read]

theorem limitOf_eq_some (properties : Properties) (x : Binary64) :
    limitOf properties = some x ↔ ∃ text, properties.get? "solver.timeout" = some text ∧
      Text.isAllBlank text.toList = false ∧ number? text.toList = some x := by
  unfold limitOf
  cases properties.get? "solver.timeout" with
  | none => simp
  | some text => cases blank : Text.isAllBlank text.toList <;> simp [blank]

theorem admits_iff (properties : Properties) :
    Admits properties ↔ Readable properties ∧
      (∀ name, (properties.get? "solver.executable").map trimmed = some name →
        Text.isAllBlank name.toList = false) ∧
      ∀ x, limitOf properties = some x → x.isPositive = true := by
  constructor
  · rintro ⟨executable, timeout⟩
    refine ⟨fun text given => ?_, fun name given => ?_, fun x limit => ?_⟩
    · exact (timeout text given).imp_right fun ⟨x, read, _⟩ => ⟨x, read⟩
    · obtain ⟨text, found, rfl⟩ := Option.map_eq_some_iff.mp given
      rw [trimmed, String.toList_ofList, Text.isAllBlank_trim]
      exact executable text found
    · obtain ⟨text, given, shown, read⟩ := (limitOf_eq_some properties x).mp limit
      rcases timeout text given with blank | ⟨y, same, positive⟩
      · rw [shown] at blank
        cases blank
      · rw [read] at same
        cases same
        exact positive
  · rintro ⟨readable, executable, timeout⟩
    constructor
    case executable =>
      intro text given
      have shown := executable (trimmed text) (by rw [given, Option.map_some])
      rwa [trimmed, String.toList_ofList, Text.isAllBlank_trim] at shown
    case timeout =>
      intro text given
      cases blank : Text.isAllBlank text.toList with
      | true => exact Or.inl rfl
      | false =>
          rcases readable text given with absurdity | ⟨x, read⟩
          · rw [blank] at absurdity
            cases absurdity
          · have limit := (limitOf_eq_some properties x).mpr ⟨text, given, blank, read⟩
            exact Or.inr ⟨x, read, timeout x limit⟩

theorem timeoutField_of_unreadable (unreadable : ¬ Readable properties) :
    ∃ text, timeoutField properties = .error (.unreadableTimeout text) := by
  simp only [Readable, Classical.not_forall, not_or, not_exists] at unreadable
  obtain ⟨text, given, shown, unknown⟩ := unreadable
  have missing : number? text.toList = none := Option.eq_none_iff_forall_ne_some.mpr unknown
  exact ⟨text, by simp [timeoutField, given, shown, missing]⟩

theorem ofProperties_of_readable (readable : Readable properties) :
    ofProperties properties =
      (read (fieldsOf properties
        ((limitOf properties).toList.map fun x => ("timeout", .number x)))).mapError
        .rejectedSettings := by
  rw [ofProperties, timeoutField_of_readable readable]
  rfl

/-- Properties give settings exactly when they are admitted, and then those that they stand for. -/
theorem ofProperties_eq_ok (properties : Properties) (s : Settings) :
    ofProperties properties = .ok s ↔ Admits properties ∧ s = valuesOf properties := by
  rw [admits_iff]
  by_cases readable : Readable properties
  · have fields := read_of_shows (shows_fieldsOf properties (limitOf properties)) s
    rw [ofProperties_of_readable readable, mapError_eq_ok, fields]
    simp only [readable, true_and]
    rfl
  · obtain ⟨text, failed⟩ := timeoutField_of_unreadable readable
    simp [ofProperties, failed, readable]

theorem valid_of_ofProperties {s : Settings} (accepted : ofProperties properties = .ok s) :
    s.Valid := by
  have readable := ((admits_iff properties).mp ((ofProperties_eq_ok properties s).mp accepted).1).1
  rw [ofProperties_of_readable readable, mapError_eq_ok] at accepted
  exact valid_of_read accepted

theorem kind_of_ofProperties {failure : Failure}
    (refused : ofProperties properties = .error failure) : failure.kind = .configuration := by
  by_cases readable : Readable properties
  · rw [ofProperties_of_readable readable] at refused
    exact kind_of_mapError refused
  · obtain ⟨text, failed⟩ := timeoutField_of_unreadable readable
    simp only [ofProperties, failed] at refused
    cases refused
    rfl

end

end Settings

end SatClient
