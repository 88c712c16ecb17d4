import Mathlib.Data.List.Basic
import SatClient.Log.Logger
/-!
Which level a logger gets. Levels have basic names, so of the capitals of a text only the basic ones
matter. Every text leads to a level, the one it names or the ordinary one, except for two whose
capitals name something of the record format; those are refused.
-/

namespace SatClient.Log

def IsBasic (c : Char) : Prop :=
  c.toNat < 0x80

instance : DecidablePred IsBasic := fun c =>
  inferInstanceAs (Decidable (c.toNat < 0x80))

instance (cs : List Char) : Decidable (∀ c ∈ cs, IsBasic c) :=
  List.decidableBAll IsBasic cs

/-- Whether characters get their capitals, which are known where they are basic. -/
structure Capitalizes (upper : Char → List Char) : Prop where
  basic : ∀ c, (∀ d ∈ upper c, IsBasic d) → upper c = capital c
  complete : ∀ c, (∀ d ∈ capital c, IsBasic d) → upper c = capital c

def inCapitals (upper : Char → List Char) (text : String) : String :=
  String.ofList (text.toList.flatMap upper)

inductive Chosen : Option String → Option String → String → Prop
  | requested {text : String} {environment : Option String} (nonempty : text ≠ "") :
      Chosen (some text) environment text
  | environment {requested : Option String} {text : String}
      (silent : requested = none ∨ requested = some "") : Chosen requested (some text) text
  | neither {requested : Option String} (silent : requested = none ∨ requested = some "") :
      Chosen requested none "INFO"

/-- Whether a set-up has given a logger a level, and with it all that it needs. -/
def Works (name : String) (n : Nat) (result : Loggers × Except Failure Logger) : Prop :=
  ∃ logger, result.2 = .ok logger ∧ result.1.logger name = logger ∧ logger.level = n ∧
    0 < logger.handlers

structure Settles (name text : String) (result : Loggers × Except Failure Logger) : Prop where
  named : ∀ n, (text, n) ∈ levelNames → Works name n result
  unnamed : (∀ n, (text, n) ∉ levelNames) → text ≠ formatName → text ≠ stylesName →
    Works name info result
  format : text = formatName → result.2 = .error (.unknownLevel formatText)
  styles : text = stylesName → result.2 = .error (.levelNotName stylesText)

theorem capitalizes_capital : Capitalizes capital :=
  ⟨fun _ _ => rfl, fun _ _ => rfl⟩

theorem flatMap_eq_of_basic {f g : Char → List Char}
    (agree : ∀ c, (∀ d ∈ f c, IsBasic d) → g c = f c) {cs : List Char}
    (basic : ∀ d ∈ cs.flatMap f, IsBasic d) : cs.flatMap g = cs.flatMap f := by
  apply List.flatMap_congr
  intro c member
  exact agree c fun d inside => basic d (List.mem_flatMap.mpr ⟨c, member, inside⟩)

/-- Whether the capitals of a text are some basic word does not depend on those of other scripts. -/
theorem inCapitals_eq_iff {upper : Char → List Char} (capitalizes : Capitalizes upper)
    {word : String} (basic : ∀ d ∈ word.toList, IsBasic d) (text : String) :
    inCapitals upper text = word ↔ capitals text = word := by
  have lists {f : Char → List Char} :
      String.ofList (text.toList.flatMap f) = word ↔ text.toList.flatMap f = word.toList := by
    rw [← String.toList_inj, String.toList_ofList]
  rw [inCapitals, capitals, lists, lists]
  constructor
  · intro same
    rw [← same] at basic ⊢
    exact flatMap_eq_of_basic (fun c inside => (capitalizes.basic c inside).symm) basic
  · intro same
    rw [← same] at basic ⊢
    exact flatMap_eq_of_basic capitalizes.complete basic

theorem basic_of_named {text : String} {n : Nat} (named : (text, n) ∈ levelNames) :
    ∀ d ∈ text.toList, IsBasic d := by
  have each : ∀ entry ∈ levelNames, ∀ d ∈ entry.1.toList, IsBasic d := by decide
  exact each _ named

theorem level_of_named {text : String} {n : Nat} (named : (capitals text, n) ∈ levelNames) :
    level text = .ok n := by
  have each : ∀ entry ∈ levelNames, entry.1 ≠ formatName ∧ entry.1 ≠ stylesName ∧
      levelNames.lookup entry.1 = some entry.2 := by decide
  obtain ⟨noFormat, noStyles, found⟩ := each _ named
  rw [level, if_neg noFormat, if_neg noStyles, found, Option.getD_some]

theorem level_of_unnamed {text : String} (unnamed : ∀ n, (capitals text, n) ∉ levelNames)
    (noFormat : capitals text ≠ formatName) (noStyles : capitals text ≠ stylesName) :
    level text = .ok info := by
  have absent : levelNames.lookup (capitals text) = none := by
    rw [List.lookup_eq_none_iff]
    rintro ⟨word, n⟩ member
    rw [bne_iff_ne]
    rintro rfl
    exact unnamed n member
  rw [level, if_neg noFormat, if_neg noStyles, absent, Option.getD_none]

theorem level_of_format {text : String} (same : capitals text = formatName) :
    level text = .error (.unknownLevel formatText) := by
  rw [level, if_pos same]

theorem level_of_styles {text : String} (same : capitals text = stylesName) :
    level text = .error (.levelNotName stylesText) := by
  have other : stylesName ≠ formatName := by decide
  rw [level, same, if_neg other, if_pos rfl]

theorem chosen_chosenName (requested environment : Option String) :
    Chosen requested environment (Loggers.chosenName requested environment) := by
  cases requested with
  | none => cases environment <;> constructor <;> exact Or.inl rfl
  | some text =>
      by_cases empty : text = ""
      · subst empty
        cases environment <;> constructor <;> exact Or.inr rfl
      · rw [Loggers.chosenName, if_neg empty]
        exact .requested empty

theorem Loggers.get?_put_self (loggers : Loggers) (id : LoggerId) (logger : Logger) :
    (loggers.put logger id).get? id = some logger := by
  cases id with
  | root => rfl
  | named name => exact loggers.others.get?_put_self name logger

theorem Loggers.logger_put (loggers : Loggers) (name : String) (logger : Logger) :
    (loggers.put logger (.ofName name)).logger name = logger := by
  rw [Loggers.logger, Loggers.find, Loggers.get?_put_self, Option.getD_some]

theorem works_of_level {loggers : Loggers} {name : String} {requested environment : Option String}
    {n : Nat} (given : level (Loggers.chosenName requested environment) = .ok n) :
    Works name n (loggers.setUp name requested environment) := by
  rw [Loggers.setUp, given]
  have handled (n : Nat) : 0 < max 1 n := Nat.lt_of_lt_of_le Nat.one_pos (Nat.le_max_left 1 n)
  exact ⟨_, rfl, loggers.logger_put name _, rfl, handled _⟩

theorem setUp_of_refused {loggers : Loggers} {name : String} {requested environment : Option String}
    {failure : Failure}
    (refused : level (Loggers.chosenName requested environment) = .error failure) :
    (loggers.setUp name requested environment).2 = .error failure := by
  rw [Loggers.setUp, refused]

/-- Whatever name of a level is chosen, a logger is set up with the level that its capitals name, or
with the ordinary one, unless they are one of two names that mean no level and are refused. -/
theorem setUp_settles {upper : Char → List Char} (capitalizes : Capitalizes upper)
    (loggers : Loggers) (name : String) (requested environment : Option String) :
    ∃ text, Chosen requested environment text ∧
      Settles name (inCapitals upper text) (loggers.setUp name requested environment) := by
  refine ⟨_, chosen_chosenName requested environment, ?_⟩
  have reads {word : String} (basic : ∀ d ∈ word.toList, IsBasic d) :=
    inCapitals_eq_iff capitalizes basic (Loggers.chosenName requested environment)
  constructor
  case named =>
    intro n named
    apply works_of_level
    apply level_of_named
    rwa [(reads (basic_of_named named)).mp rfl]
  case unnamed =>
    intro unnamed noFormat noStyles
    apply works_of_level
    apply level_of_unnamed
    · intro n named
      rw [← (reads (basic_of_named named)).mpr rfl] at named
      exact unnamed n named
    · exact fun same => noFormat ((reads (by decide)).mpr same)
    · exact fun same => noStyles ((reads (by decide)).mpr same)
  case format =>
    intro same
    exact setUp_of_refused (level_of_format ((reads (by decide)).mp same))
  case styles =>
    intro same
    exact setUp_of_refused (level_of_styles ((reads (by decide)).mp same))

/-- A level spelled with a dotless letter, a word that names none, and one of the refused names. -/
theorem settles_dotless :
    Works "q" critical (Loggers.setUp {} "q" (some "") (some "crıtıcal")) ∧
      Works "q" info (Loggers.setUp {} "q" (some "chatty") none) ∧
      (Loggers.setUp {} "q" (some "Basic_Format") (some "debug")).2 =
        .error (.unknownLevel formatText) := by
  obtain ⟨text, chosen, dotless⟩ :=
    setUp_settles capitalizes_capital {} "q" (some "") (some "crıtıcal")
  obtain ⟨word, asked, unnamed⟩ := setUp_settles capitalizes_capital {} "q" (some "chatty") none
  obtain ⟨name, given, refused⟩ :=
    setUp_settles capitalizes_capital {} "q" (some "Basic_Format") (some "debug")
  refine ⟨?_, ?_, ?_⟩
  · cases chosen with
    | requested nonempty => exact absurd rfl nonempty
    | environment => exact dotless.named critical (by decide)
  · cases asked with
    | requested =>
        have none : ∀ entry ∈ levelNames, entry.1 ≠ inCapitals capital "chatty" := by decide
        exact unnamed.unnamed (fun n member => none _ member rfl) (by decide) (by decide)
    | neither silent => exact absurd silent (by decide)
  · cases given with
    | requested => exact refused.format (by decide)
    | environment silent => exact absurd silent (by decide)

end SatClient.Log
