import SatClient.Properties
import SatClient.Proofs.Table
import SatClient.Proofs.Text.Trim
/-!
How entries stand in a properties text, and what is read of it. An entry may be written with a mark
or with blanks alone, and lines that hold no entry, or one for a key that nobody asks for, may come
between; all that is found again is the entries themselves.
-/

namespace SatClient.Properties

open SatClient.Text

def Opens (cs : List Char) : Prop :=
  ∃ c ∈ cs.head?, isBlank c = false ∧ c ≠ '#' ∧ c ≠ '!'

instance : DecidablePred Opens := fun cs =>
  decidable_of_iff (cs.head?.any (fun c => !isBlank c && c != '#' && c != '!') = true) <| by
    simp [Opens, Option.any_eq_true, and_assoc]

def IsPart (cs : List Char) : Prop :=
  ∀ c ∈ cs, endsKey c = false

instance : DecidablePred IsPart := fun cs =>
  List.decidableBAll (fun c => endsKey c = false) cs

/-- Whether a text is cut behind a key: nothing in the key ends it, and what follows does. -/
structure Keyed (key rest : List Char) : Prop where
  opens : Opens (key ++ rest)
  part : IsPart key
  ends : ∀ c ∈ rest.head?, endsKey c = true

/-- The forms in which an entry is written on a line. With blanks alone between key and value the
value may not start with a mark, since that would be taken for the separator. -/
inductive Written (key value : String) : List Char → Prop
  | marked {pad before after tail : List Char} {mark : Char} (padding : IsGap pad)
      (left : IsGap before) (separates : isMark mark = true) (right : IsGap after)
      (trailing : IsGap tail) :
      Written key value
        (pad ++ (key.toList ++ (before ++ mark :: (after ++ (value.toList ++ tail)))))
  | spaced {pad gap tail : List Char} (padding : IsGap pad) (between : IsGap gap)
      (apart : gap ≠ [] ∨ value = "") (plain : ∀ c ∈ value.toList.head?, isMark c = false)
      (trailing : IsGap tail) :
      Written key value (pad ++ (key.toList ++ (gap ++ (value.toList ++ tail))))

/-- The lines that hold none of the entries asked for: blank ones, comments, and entries for other
keys, whatever they look like otherwise. -/
inductive Ignored (keys : List String) : List Char → Prop
  | blank {gap : List Char} (blank : IsGap gap) : Ignored keys gap
  | comment {pad rest : List Char} {c : Char} (padding : IsGap pad) (starts : c = '#' ∨ c = '!') :
      Ignored keys (pad ++ c :: rest)
  | other {pad key rest : List Char} (padding : IsGap pad) (keyed : Keyed key rest)
      (unknown : String.ofList key ∉ keys) : Ignored keys (pad ++ (key ++ rest))

inductive Lays (keys : List String) : List (String × String) → List Char → Prop
  | entry {key value : String} {line : List Char} (written : Written key value line) :
      Lays keys [(key, value)] line
  | nothing {line : List Char} (ignored : Ignored keys line) : Lays keys [] line

/-- What a text holds of the entries asked for, line by line. CR LF is as good as one break: between
the two stands an empty line, which holds nothing. -/
inductive Holds (keys : List String) : List (String × String) → List Char → Prop
  | last {es : List (String × String)} {line : List Char}
      (whole : IsLine line) (lays : Lays keys es line) : Holds keys es line
  | next {es fs : List (String × String)} {line rest : List Char} {b : Char}
      (whole : IsLine line) (lays : Lays keys es line)
      (ends : isLineBreak b = true) (later : Holds keys fs rest) :
      Holds keys (es ++ fs) (line ++ b :: rest)

/-- Whether an entry can be written: its key is one, and blanks around its value would be lost. -/
structure Writable (e : String × String) : Prop where
  opens : Opens e.1.toList
  part : IsPart e.1.toList
  trimmed : Trimmed e.2.toList

theorem isBlank_of_isMark {c : Char} (mark : isMark c = true) : isBlank c = false := by
  simp only [isMark, Bool.or_eq_true, decide_eq_true_eq] at mark
  rcases mark with rfl | rfl <;> rfl

theorem isBlank_of_not_endsKey {c : Char} (inside : endsKey c = false) : isBlank c = false := by
  rw [endsKey, Bool.or_eq_false_iff] at inside
  exact inside.2

theorem endsKey_of_isBlank {c : Char} (blank : isBlank c = true) : endsKey c = true := by
  rw [endsKey, blank, Bool.or_true]

theorem pair?_nil : pair? [] = none :=
  rfl

theorem pair?_of_gap {gap : List Char} (blank : IsGap gap) : pair? gap = none := by
  rw [pair?, trim_of_gap blank]
  rfl

theorem splitEntry_append {key rest : List Char} (part : IsPart key)
    (ends : ∀ c ∈ rest.head?, endsKey c = true) :
    splitEntry (key ++ rest) = (key, dropMark (trimStart rest)) := by
  have inside : ∀ c ∈ key, (!endsKey c) = true := by
    intro c member
    rw [part c member]
    rfl
  have outside : ∀ c ∈ rest.head?, (!endsKey c) = false := by
    intro c first
    rw [ends c first]
    rfl
  rw [splitEntry, List.takeWhile_append_of_pos inside, takeWhile_of_head? outside,
    List.append_nil, List.dropWhile_append_of_pos inside, dropWhile_of_head? outside]

theorem pair?_of_keyed {pad key rest : List Char} (padding : IsGap pad) (keyed : Keyed key rest) :
    pair? (pad ++ (key ++ rest)) =
      some (String.ofList key,
        String.ofList (dropMark (trimStart (dropEndWhile isBlank rest)))) := by
  obtain ⟨⟨c, first, visible, hash, bang⟩, part, ends⟩ := keyed
  obtain ⟨cs, starts⟩ := List.head?_eq_some_iff.mp first
  have front : trim (pad ++ (key ++ rest)) = c :: dropEndWhile isBlank cs := by
    rw [starts, trim_append_cons padding visible]
  -- The key ends with a visible character, so that the trimming stops behind it.
  have last : ∀ d ∈ key.getLast?, isBlank d = false := fun d final =>
    isBlank_of_not_endsKey (part d (List.mem_of_mem_getLast? final))
  have cut : trim (pad ++ (key ++ rest)) = key ++ dropEndWhile isBlank rest := by
    rw [front, ← dropEndWhile_cons visible, ← starts, dropEndWhile_append_of_last last]
  have shown : (trim (pad ++ (key ++ rest))).isEmpty = false ∧
      isComment (trim (pad ++ (key ++ rest))) = false := by
    rw [front]
    exact ⟨rfl, by simp [isComment, hash, bang]⟩
  rw [pair?]
  dsimp only
  rw [shown.1, shown.2, cut, splitEntry_append part fun d here => ends d (head?_dropEndWhile here)]
  rfl

theorem opens_append {cs : List Char} (opens : Opens cs) (rest : List Char) :
    Opens (cs ++ rest) := by
  obtain ⟨c, first, plain⟩ := opens
  refine ⟨c, ?_, plain⟩
  rw [List.head?_append, first]
  rfl

theorem dropMark_of_marked {before after value tail : List Char} {mark : Char}
    (left : IsGap before) (separates : isMark mark = true) (right : IsGap after)
    (trimmed : Trimmed value) (trailing : IsGap tail) :
    dropMark (trimStart (dropEndWhile isBlank (before ++ mark :: (after ++ (value ++ tail))))) =
      value := by
  have visible := isBlank_of_isMark separates
  have last : ∀ c ∈ (before ++ [mark]).getLast?, isBlank c = false := by
    intro c final
    rw [List.getLast?_concat] at final
    cases final
    exact visible
  have kept : dropEndWhile isBlank (before ++ mark :: (after ++ (value ++ tail))) =
      before ++ mark :: dropEndWhile isBlank (after ++ (value ++ tail)) := by
    have cut := dropEndWhile_append_of_last last (after ++ (value ++ tail))
    rwa [List.append_assoc, List.append_assoc] at cut
  have front : ∀ c ∈ (mark :: dropEndWhile isBlank (after ++ (value ++ tail))).head?,
      isBlank c = false := by
    intro c first
    cases first
    exact visible
  rw [kept, trimStart_append_of_gap left, trimStart_of_head? front, dropMark, if_pos separates,
    trimStart_dropEndWhile right trimmed trailing]

theorem dropMark_of_plain {value : List Char} (plain : ∀ c ∈ value.head?, isMark c = false) :
    dropMark value = value := by
  cases value with
  | nil => rfl
  | cons c cs => rw [dropMark, plain c rfl, if_neg (by decide)]

theorem pair?_of_written {key value : String} {line : List Char}
    (writable : Writable (key, value)) (written : Written key value line) :
    pair? line = some (key, value) := by
  obtain ⟨opens, part, trimmed⟩ := writable
  cases written with
  | @marked pad before after tail mark padding left separates right trailing =>
      have ends : ∀ c ∈ (before ++ mark :: (after ++ (value.toList ++ tail))).head?,
          endsKey c = true := by
        intro c first
        cases before with
        | nil =>
            cases first
            rw [endsKey, separates, Bool.true_or]
        | cons d ds =>
            cases first
            exact endsKey_of_isBlank (left c List.mem_cons_self)
      rw [pair?_of_keyed padding ⟨opens_append opens _, part, ends⟩,
        dropMark_of_marked left separates right trimmed trailing, String.ofList_toList,
        String.ofList_toList]
  | @spaced pad gap tail padding between apart plain trailing =>
      have ends : ∀ c ∈ (gap ++ (value.toList ++ tail)).head?, endsKey c = true := by
        intro c first
        cases gap with
        | nil =>
            have empty : value = "" := apart.resolve_left (fun some => some rfl)
            subst empty
            exact endsKey_of_isBlank (trailing c (List.mem_of_mem_head? first))
        | cons d ds =>
            cases first
            exact endsKey_of_isBlank (between c List.mem_cons_self)
      rw [pair?_of_keyed padding ⟨opens_append opens _, part, ends⟩,
        trimStart_dropEndWhile between trimmed trailing, dropMark_of_plain plain,
        String.ofList_toList, String.ofList_toList]

theorem pair?_of_ignored {keys : List String} {line : List Char} (ignored : Ignored keys line)
    {key value : String} (known : key ∈ keys) : pair? line ≠ some (key, value) := by
  cases ignored with
  | blank blank =>
      rw [pair?_of_gap blank]
      exact nofun
  | @comment pad rest c padding starts =>
      have visible : isBlank c = false := by
        rcases starts with rfl | rfl <;> rfl
      have comment : isComment (c :: dropEndWhile isBlank rest) = true := by
        rcases starts with rfl | rfl <;> rfl
      rw [pair?, trim_append_cons padding visible, comment, Bool.or_true]
      exact nofun
  | other padding keyed unknown =>
      rw [pair?_of_keyed padding keyed]
      intro same
      cases same
      exact unknown known

theorem pair?_of_lays {keys : List String} {es : List (String × String)} {line : List Char}
    (lays : Lays keys es line) (writable : ∀ e ∈ es, Writable e) {key value : String}
    (known : key ∈ keys) : pair? line = some (key, value) ↔ (key, value) ∈ es := by
  cases lays with
  | @entry k v line written =>
      rw [pair?_of_written (writable (k, v) List.mem_cons_self) written, List.mem_singleton,
        Option.some.injEq, eq_comm]
  | nothing ignored =>
      exact iff_of_false (pair?_of_ignored ignored known) List.not_mem_nil

/-- What stands before a break is read apart from the rest. An empty line, which may be lost where
the break is one with what follows, holds no entry. -/
theorem entries_append_break {line : List Char} (whole : IsLine line) {b : Char}
    (ends : isLineBreak b = true) (rest : List Char) :
    entries (line ++ b :: rest) = [line].filterMap pair? ++ entries rest := by
  obtain ⟨more, cut, same | same⟩ := lines_append_break whole ends rest
  · rw [entries, cut, entries, same, ← List.filterMap_append]
    rfl
  · rw [entries, cut, entries, same, List.filterMap_cons_none pair?_nil, ← List.filterMap_append]
    rfl

theorem entries_of_whole {line : List Char} (whole : IsLine line) :
    entries line = [line].filterMap pair? := by
  by_cases empty : line = []
  · subst empty
    rfl
  · rw [entries, lines_of_whole whole empty]

theorem mem_entries_append {line : List Char} (whole : IsLine line)
    {b : Char} (ends : isLineBreak b = true) (rest : List Char) (e : String × String) :
    e ∈ entries (line ++ b :: rest) ↔ pair? line = some e ∨ e ∈ entries rest := by
  simp [entries_append_break whole ends, List.mem_filterMap]

theorem mem_entries_of_whole {line : List Char} (whole : IsLine line)
    (e : String × String) : e ∈ entries line ↔ pair? line = some e := by
  simp [entries_of_whole whole, List.mem_filterMap]

theorem mem_entries_of_holds {keys : List String} {es : List (String × String)}
    {text : List Char} (holds : Holds keys es text) (writable : ∀ e ∈ es, Writable e)
    {key value : String} (known : key ∈ keys) :
    (key, value) ∈ entries text ↔ (key, value) ∈ es := by
  induction holds with
  | last whole lays =>
      rw [mem_entries_of_whole whole]
      exact pair?_of_lays lays writable known
  | @next es fs line rest b whole lays ends later ih =>
      have here : pair? line = some (key, value) ↔ (key, value) ∈ es :=
        pair?_of_lays lays (fun e member => writable e (List.mem_append_left _ member)) known
      have there := ih fun e member => writable e (List.mem_append_right _ member)
      rw [mem_entries_append whole ends, List.mem_append, here, there]

theorem get?_parse (text : List Char) (key : String) :
    (parse text).get? key = (entries text).reverse.lookup key :=
  Table.get?_ofList (entries text) key

section

variable {keys : List String} {es : List (String × String)} {text : List Char}
  (holds : Holds keys es text) (writable : ∀ e ∈ es, Writable e)

include holds writable

theorem get?_of_mem {key value : String} (known : key ∈ keys) (member : (key, value) ∈ es)
    (only : ∀ w, (key, w) ∈ es → w = value) : (parse text).get? key = some value := by
  rw [get?_parse]
  cases found : (entries text).reverse.lookup key with
  | none =>
      have absent := List.lookup_eq_none_iff.mp found (key, value)
        (List.mem_reverse.mpr ((mem_entries_of_holds holds writable known).mpr member))
      simp at absent
  | some w =>
      obtain ⟨before, after, cut, _⟩ := List.lookup_eq_some_iff.mp found
      have inside : (key, w) ∈ entries text := by
        rw [← List.mem_reverse, cut]
        simp
      exact congrArg some (only w ((mem_entries_of_holds holds writable known).mp inside))

theorem get?_of_not_mem {key : String} (known : key ∈ keys) (absent : ∀ w, (key, w) ∉ es) :
    (parse text).get? key = none := by
  rw [get?_parse, List.lookup_eq_none_iff]
  rintro ⟨k, w⟩ member
  rw [bne_iff_ne]
  rintro rfl
  exact absent w ((mem_entries_of_holds holds writable known).mp (List.mem_reverse.mp member))

end

end SatClient.Properties
