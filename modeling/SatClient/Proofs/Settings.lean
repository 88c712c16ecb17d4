import SatClient.Proofs.Properties
import SatClient.Proofs.Settings.Validity
/-!
Settings that stand in a properties text. Whatever the order of the entries and the way in which
they are written, and whatever stands between them, the command and the flag are read as they were
meant.
-/

namespace SatClient.Settings

open SatClient.Text
open SatClient.Field
open SatClient.Properties (Holds Writable entries)

def keys : List String :=
  ["solver.executable", "solver.arguments", "solver.timeout", "verbose"]

/-- The entries for a command and a flag; there is none for a limit. -/
def entriesFor (executable : String) (arguments : List String) (verbose : Bool) :
    List (String × String) :=
  [("solver.executable", executable), ("solver.arguments", " ".intercalate arguments),
    ("verbose", if verbose then "true" else "false")]

def IsArgument (a : String) : Prop :=
  a ≠ "" ∧ ∀ c ∈ a.toList, isBlank c = false

instance : DecidablePred IsArgument := fun a =>
  decidable_of_iff (a ≠ "" ∧ a.toList.all (!isBlank ·) = true) <| by
    simp only [IsArgument, List.all_eq_true, Bool.not_eq_true']

theorem solid_of_isArgument {arguments : List String} (each : ∀ a ∈ arguments, IsArgument a) :
    ∀ piece ∈ arguments.map String.toList, piece ≠ [] ∧ ∀ c ∈ piece, isBlank c = false := by
  intro piece member
  obtain ⟨a, inside, rfl⟩ := List.mem_map.mp member
  obtain ⟨nonempty, solid⟩ := each a inside
  exact ⟨fun empty => nonempty (String.toList_eq_nil_iff.mp empty), solid⟩

theorem wordsOf_intercalate {arguments : List String} (each : ∀ a ∈ arguments, IsArgument a) :
    wordsOf (" ".intercalate arguments) = arguments := by
  have words := words_intercalate (solid_of_isArgument each)
  have blank : (" " : String).toList = [' '] := rfl
  rw [wordsOf, String.toList_intercalate, blank, words, List.map_map]
  have same : String.ofList ∘ String.toList = id := by
    funext a
    exact String.ofList_toList
  rw [same, List.map_id]

theorem isAllBlank_of_trimmed {cs : List Char} (trimmed : Trimmed cs) (nonempty : cs ≠ []) :
    isAllBlank cs = false := by
  cases cs with
  | nil => exact absurd rfl nonempty
  | cons c cs =>
      have visible := trimmed.1 c rfl
      rw [isAllBlank, List.all_cons, visible, Bool.false_and]

theorem ofProperties_of_get? {properties : Properties} {executable : String}
    {arguments : List String} {verbose : Bool} (nonempty : executable ≠ "")
    (trimmed : Trimmed executable.toList) (each : ∀ a ∈ arguments, IsArgument a)
    (command : properties.get? "solver.executable" = some executable)
    (rest : properties.get? "solver.arguments" = some (" ".intercalate arguments))
    (limit : properties.get? "solver.timeout" = none)
    (flag : properties.get? "verbose" = some (if verbose then "true" else "false")) :
    ofProperties properties = .ok { executable, arguments, verbose } := by
  have visible : isAllBlank executable.toList = false :=
    isAllBlank_of_trimmed trimmed fun empty => nonempty (String.toList_eq_nil_iff.mp empty)
  have kept : Settings.trimmed executable = executable := by
    rw [Settings.trimmed, trim_of_trimmed trimmed, String.ofList_toList]
  have switched : isTrue (if verbose then "true" else "false") = verbose := by
    cases verbose <;> decide
  have admits : Admits properties := by
    constructor
    case executable =>
      intro text given
      rw [command] at given
      cases given
      exact visible
    case timeout =>
      intro text given
      rw [limit] at given
      cases given
  have values : valuesOf properties = { executable, arguments, verbose } := by
    simp only [valuesOf, limitOf, command, rest, limit, flag, kept, switched,
      wordsOf_intercalate each, Option.map_some, Option.getD_some, Option.bind_none]
  exact (ofProperties_eq_ok properties _).mpr ⟨admits, values.symm⟩

theorem writable_of_key {key value : String} (known : key ∈ keys)
    (trimmed : Trimmed value.toList) : Writable (key, value) := by
  have opens : ∀ k ∈ keys, Properties.Opens k.toList := by decide
  have part : ∀ k ∈ keys, Properties.IsPart k.toList := by decide
  exact ⟨opens key known, part key known, trimmed⟩

theorem writable_of_mem {executable : String} {arguments : List String} {verbose : Bool}
    (trimmed : Trimmed executable.toList) (each : ∀ a ∈ arguments, IsArgument a) :
    ∀ e ∈ entriesFor executable arguments verbose, Writable e := by
  intro e member
  simp only [entriesFor, List.mem_cons, List.not_mem_nil, or_false] at member
  rcases member with rfl | rfl | rfl
  · exact writable_of_key (by decide) trimmed
  · apply writable_of_key (by decide)
    rw [String.toList_intercalate]
    exact trimmed_intercalate (solid_of_isArgument each)
  · apply writable_of_key (by decide)
    cases verbose <;> decide

/-- However a text holds the entries, the command and the flag are read as they are, and no limit.
A value with a line break in it stands on no line, so there is no text that holds it. -/
theorem ofProperties_of_holds {executable : String} {arguments : List String} {verbose : Bool}
    (nonempty : executable ≠ "") (trimmed : Trimmed executable.toList)
    (each : ∀ a ∈ arguments, IsArgument a) {es : List (String × String)}
    (order : es.Perm (entriesFor executable arguments verbose)) {text : List Char}
    (holds : Holds keys es text) :
    ∃ s, ofProperties (Properties.parse text) = .ok s ∧ s.command = executable :: arguments ∧
      s.verbose = verbose ∧ s.timeout = none := by
  have writable : ∀ e ∈ es, Writable e := fun e member =>
    writable_of_mem trimmed each e (order.mem_iff.mp member)
  have held (key value : String) : (key, value) ∈ es ↔
      (key, value) ∈ entriesFor executable arguments verbose := order.mem_iff
  have command : (Properties.parse text).get? "solver.executable" = some executable := by
    apply Properties.get?_of_mem holds writable (by decide)
    · simp [held, entriesFor]
    · simp [held, entriesFor]
  have rest : (Properties.parse text).get? "solver.arguments" =
      some (" ".intercalate arguments) := by
    apply Properties.get?_of_mem holds writable (by decide)
    · simp [held, entriesFor]
    · simp [held, entriesFor]
  have flag : (Properties.parse text).get? "verbose" =
      some (if verbose then "true" else "false") := by
    apply Properties.get?_of_mem holds writable (by decide)
    · simp [held, entriesFor]
    · simp [held, entriesFor]
  have limit : (Properties.parse text).get? "solver.timeout" = none := by
    apply Properties.get?_of_not_mem holds writable (by decide)
    simp [held, entriesFor]
  exact ⟨_, ofProperties_of_get? nonempty trimmed each command rest limit flag, rfl, rfl, rfl⟩

def layout : String :=
  "\t! c\r\nsolver.arguments : --k=v #1 \nx=1\nverbose true\n\tsolver.executable==x y:#"

theorem ofProperties_layout :
    ∃ s, ofProperties (Properties.parse layout.toList) = .ok s ∧
      s.command = ["=x y:#", "--k=v", "#1"] ∧ s.verbose = true ∧ s.timeout = none := by
  have nothing : IsGap [] := by decide
  have blank : IsGap [' '] := by decide
  have tab : IsGap ['\t'] := by decide
  have comment : Properties.Lays keys [] (['\t'] ++ '!' :: [' ', 'c']) :=
    .nothing (.comment tab (Or.inr rfl))
  have empty : Properties.Lays keys [] [] := .nothing (.blank nothing)
  have arguments : Properties.Lays keys [("solver.arguments", "--k=v #1")]
      ([] ++ ("solver.arguments".toList ++
        ([' '] ++ ':' :: ([' '] ++ ("--k=v #1".toList ++ [' ']))))) :=
    .entry (.marked nothing blank rfl blank blank)
  have separated : ∀ c ∈ ['=', '1'].head?, Properties.endsKey c = true := by
    intro c first
    cases first
    rfl
  have other : Properties.Lays keys [] ([] ++ (['x'] ++ ['=', '1'])) :=
    .nothing (.other nothing ⟨by decide, by decide, separated⟩ (by decide))
  have plain : ∀ c ∈ "true".toList.head?, Properties.isMark c = false := by
    intro c first
    cases first
    rfl
  have flag : Properties.Lays keys [("verbose", "true")]
      ([] ++ ("verbose".toList ++ ([' '] ++ ("true".toList ++ [])))) :=
    .entry (.spaced nothing blank (Or.inl (by decide)) plain nothing)
  have executable : Properties.Lays keys [("solver.executable", "=x y:#")]
      (['\t'] ++ ("solver.executable".toList ++ ([] ++ '=' :: ([] ++ ("=x y:#".toList ++ []))))) :=
    .entry (.marked tab nothing rfl nothing nothing)
  have feed : isLineBreak '\n' = true := rfl
  have ret : isLineBreak '\r' = true := rfl
  have holds : Holds keys [("solver.arguments", "--k=v #1"), ("verbose", "true"),
      ("solver.executable", "=x y:#")] layout.toList := by
    have laid := Holds.next (by decide) comment ret (.next (by decide) empty feed
      (.next (by decide) arguments feed (.next (by decide) other feed
        (.next (by decide) flag feed (.last (by decide) executable)))))
    exact laid
  have order : List.Perm [("solver.arguments", "--k=v #1"), ("verbose", "true"),
      ("solver.executable", "=x y:#")] (entriesFor "=x y:#" ["--k=v", "#1"] true) := by
    decide
  exact ofProperties_of_holds (by decide) (by decide) (by decide) order holds

end SatClient.Settings
