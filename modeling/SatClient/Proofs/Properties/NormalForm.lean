import SatClient.Proofs.Properties.Composition
/-!
The maps that properties texts hold. A key has no blank and no mark in it and starts no comment, a
value is a trimmed line, and there is one entry for each key: such maps, and no others, are read
from texts, for instance from the text that has each entry on a line with `=` between.
-/

namespace SatClient.Properties

open SatClient.Text

/-- Whether a key and a value can be read from a line. Both may be empty, and the value may start
with a mark. -/
structure Normal (e : String × String) : Prop where
  uncommented : ∀ c ∈ e.1.toList.head?, c ≠ '#' ∧ c ≠ '!'
  part : IsPart e.1.toList
  trimmed : Trimmed e.2.toList
  whole : IsLine e.2.toList

structure IsNormal (es : List (String × String)) : Prop where
  distinct : (es.map Prod.fst).Nodup
  each : ∀ e ∈ es, Normal e

def lineOf (e : String × String) : List Char :=
  e.1.toList ++ '=' :: e.2.toList

def written (es : List (String × String)) : List Char :=
  es.flatMap fun e => lineOf e ++ ['\n']

/-- Whether a map has these entries, and is read again from their lines in whatever order. -/
structure HasNormalForm (p : Properties) (es : List (String × String)) : Prop where
  entries : p = ⟨es⟩
  normal : IsNormal es
  again : ∀ fs, fs.Perm es → parse (written fs) = ⟨fs⟩
  same : ∀ fs, fs.Perm es → ∀ key, (parse (written fs)).get? key = p.get? key

theorem subset_of_written {key value : String} {line : List Char}
    (written : Written key value line) : value.toList ⊆ line := by
  intro c member
  cases written <;> simp [member]

theorem normal_of_pair? {line : List Char} (whole : IsLine line) {e : String × String}
    (read : pair? line = some e) : Normal e := by
  obtain ⟨found, written, trimmed⟩ := pair?_eq_some.mp read
  have inside := subset_of_written written
  cases found with
  | intro _ keyed =>
      constructor
      case uncommented =>
        intro c first
        obtain ⟨d, front, _, plain⟩ := keyed.opens
        rw [List.head?_append, Option.mem_def.mp first] at front
        cases front
        exact plain
      case part => exact keyed.part
      case trimmed => exact trimmed
      case whole => exact fun c member => whole c (inside member)

theorem pair?_lineOf {e : String × String} (normal : Normal e) : pair? (lineOf e) = some e := by
  obtain ⟨key, value⟩ := e
  have opens : Opens (key.toList ++ '=' :: value.toList) := by
    cases chars : key.toList with
    | nil => exact ⟨'=', rfl, by decide⟩
    | cons c cs =>
        have plain := normal.uncommented c (by simp [chars])
        have inside := normal.part c (by simp [chars])
        exact ⟨c, rfl, isBlank_of_not_endsKey inside, plain⟩
  have ends : ∀ c ∈ ('=' :: value.toList).head?, endsKey c = true := by
    intro c first
    cases first
    rfl
  have found : IsFor key ([] ++ (key.toList ++ '=' :: value.toList)) :=
    .intro nofun ⟨opens, normal.part, ends⟩
  have written : Written key value
      ([] ++ (key.toList ++ ([] ++ '=' :: ([] ++ (value.toList ++ []))))) :=
    .marked nofun nofun rfl nofun nofun
  rw [List.append_nil] at written
  exact pair?_of_stands ⟨found, written, normal.trimmed⟩

theorem isLine_lineOf {e : String × String} (normal : Normal e) : IsLine (lineOf e) := by
  intro c member
  rcases List.mem_append.mp member with key | rest
  · have visible := isBlank_of_not_endsKey (normal.part c key)
    rw [← Bool.not_eq_true]
    intro ends
    rw [isBlank_of_isLineBreak ends] at visible
    cases visible
  · rcases List.mem_cons.mp rest with rfl | value
    · rfl
    · exact normal.whole c value

theorem entries_written {es : List (String × String)} (normal : ∀ e ∈ es, Normal e) :
    entries (written es) = es := by
  induction es with
  | nil => rfl
  | cons e es ih =>
      obtain ⟨first, later⟩ := List.forall_mem_cons.mp normal
      have feed : ['\n'] ∈ breaks := List.mem_cons_self
      rw [written, List.flatMap_cons, entries_append_mark (isLine_lineOf first) feed,
        ← written, ih later]
      simp [pair?_lineOf first]

theorem parse_written {es : List (String × String)} (normal : IsNormal es) :
    parse (written es) = ⟨es⟩ := by
  have put : (Table.ofList es).entries = es := Table.entries_putAll normal.distinct
  rw [parse, entries_written normal.each]
  exact congrArg Table.mk put

theorem isNormal_of_perm {es fs : List (String × String)} (perm : fs.Perm es)
    (normal : IsNormal es) : IsNormal fs :=
  ⟨(perm.map Prod.fst).nodup_iff.mpr normal.distinct,
    fun e member => normal.each e (perm.mem_iff.mp member)⟩

theorem isNormal_parse (text : List Char) : IsNormal (Table.entries (parse text)) := by
  constructor
  case distinct => exact Table.nodup_keys_putAll (t := Table.empty) List.nodup_nil (entries text)
  case each =>
    intro e member
    have read := Table.mem_of_mem_ofList member
    obtain ⟨layout, rfl⟩ := exists_layout text
    rw [entries_layout] at read
    obtain ⟨line, inside, found⟩ := List.mem_filterMap.mp read
    exact normal_of_pair? (isLine_of_mem_lines inside) found

/-- The maps of properties texts are those with normal entries, and the entries of a text, each on
a line in whatever order, are read as its map. -/
theorem normalForm :
    (∀ text, ∃ es, HasNormalForm (parse text) es) ∧
      ∀ es, IsNormal es → ∃ text, parse text = ⟨es⟩ := by
  constructor
  · intro text
    have normal := isNormal_parse text
    refine ⟨Table.entries (parse text), rfl, normal, ?_, ?_⟩
    · intro fs perm
      exact parse_written (isNormal_of_perm perm normal)
    · intro fs perm key
      rw [parse_written (isNormal_of_perm perm normal)]
      exact Table.get?_of_perm (isNormal_of_perm perm normal).distinct perm key
  · intro es normal
    exact ⟨written es, parse_written normal⟩

/-- Of two marks the first one separates, also behind an empty key. -/
example : parse "=:x\nk =\n".toList = ⟨[("", ":x"), ("k", "")]⟩ := by
  decide

end SatClient.Properties
