import SatClient.Proofs.Properties
/-!
The entry that stands on a line. The first of its visible characters, unless they start a comment,
make up the key, and the value is what is left when the separator and the blanks are taken away.
-/

namespace SatClient.Properties

open SatClient.Text

/-- Whether a line is one for a key, which stands behind the padding and ends at a mark, at a blank
or with the line. -/
inductive IsFor (key : String) : List Char → Prop
  | intro {pad rest : List Char} (padding : IsGap pad) (keyed : Keyed key.toList rest) :
      IsFor key (pad ++ (key.toList ++ rest))

structure Stands (key value : String) (line : List Char) : Prop where
  isFor : IsFor key line
  written : Written key value line
  trimmed : Trimmed value.toList

theorem opens_of_append {cs rest : List Char} (filled : cs ≠ []) (opens : Opens (cs ++ rest)) :
    Opens cs := by
  obtain ⟨c, first, plain⟩ := opens
  rw [List.head?_append_of_ne_nil _ filled] at first
  exact ⟨c, first, plain⟩

theorem keyed_nil_of_isMark {mark : Char} (separates : isMark mark = true) (rest : List Char) :
    Keyed [] (mark :: rest) := by
  have plain : mark ≠ '#' ∧ mark ≠ '!' := by
    constructor <;> rintro rfl <;> cases separates
  refine ⟨⟨mark, rfl, isBlank_of_isMark separates, plain⟩, nofun, ?_⟩
  intro c first
  cases first
  rw [endsKey, separates, Bool.true_or]

/-- Behind an empty key stands a mark, since a blank would belong to the padding. -/
theorem exists_mark_of_keyed_nil {rest : List Char} (keyed : Keyed [] rest) :
    ∃ mark more, rest = mark :: more ∧ isMark mark = true := by
  obtain ⟨⟨c, first, visible, _⟩, _, ends⟩ := keyed
  rw [List.nil_append] at first
  obtain ⟨more, rfl⟩ := List.head?_eq_some_iff.mp first
  have mark := ends c rfl
  rw [endsKey, visible, Bool.or_false] at mark
  exact ⟨c, more, rfl, mark⟩

/-- Without a mark an empty key cannot be told from its value. -/
theorem not_isFor_of_spaced {pad gap value tail : List Char} (padding : IsGap pad)
    (between : IsGap gap) (trimmed : Trimmed value) (plain : ∀ c ∈ value.head?, isMark c = false)
    (trailing : IsGap tail) : ¬ IsFor "" (pad ++ ([] ++ (gap ++ (value ++ tail)))) := by
  intro found
  generalize same : pad ++ ([] ++ (gap ++ (value ++ tail))) = line at found
  obtain ⟨left, keyed⟩ := found
  obtain ⟨mark, more, rfl, separates⟩ := exists_mark_of_keyed_nil keyed
  have front : IsGap (pad ++ gap) := List.forall_mem_append.mpr ⟨padding, between⟩
  have read := congrArg trim same
  have cut := trim_append_cons left (isBlank_of_isMark separates) more
  rw [String.toList_empty, List.nil_append, List.nil_append, cut, ← List.append_assoc] at read
  cases value with
  | nil =>
      rw [List.nil_append, trim_of_gap (List.forall_mem_append.mpr ⟨front, trailing⟩)] at read
      cases read
  | cons c cs =>
      rw [List.cons_append, trim_append_cons front (trimmed.1 c rfl), List.cons.injEq] at read
      rw [read.1] at plain
      rw [plain mark rfl] at separates
      cases separates

theorem pair?_of_stands {key value : String} {line : List Char} (stands : Stands key value line) :
    pair? line = some (key, value) := by
  obtain ⟨found, written, trimmed⟩ := stands
  by_cases empty : key = ""
  · -- The blanks before the mark are part of the padding where the key has no character.
    subst empty
    cases written with
    | @marked pad before after tail mark padding left separates right trailing =>
        have front : IsGap (pad ++ before) := List.forall_mem_append.mpr ⟨padding, left⟩
        have read := pair?_of_keyed front
          (keyed_nil_of_isMark separates (after ++ (value.toList ++ tail)))
        have none : IsGap [] := nofun
        have behind := dropMark_of_marked none separates right trimmed trailing
        rw [List.nil_append] at behind
        rw [behind, String.ofList_toList, List.append_assoc] at read
        exact read
    | spaced padding between _ plain trailing =>
        exact absurd found (not_isFor_of_spaced padding between trimmed plain trailing)
  · have filled : key.toList ≠ [] := fun none => empty (String.toList_eq_nil_iff.mp none)
    have writable : Writable (key, value) := by
      cases found with
      | intro _ keyed => exact ⟨opens_of_append filled keyed.opens, keyed.part, trimmed⟩
    exact pair?_of_written writable written

theorem exists_gap_append (cs : List Char) : ∃ gap, IsGap gap ∧ cs = gap ++ trimStart cs :=
  ⟨cs.takeWhile isBlank, List.all_eq_true.mp List.all_takeWhile,
    List.takeWhile_append_dropWhile.symm⟩

theorem exists_append_gap (cs : List Char) :
    ∃ gap, IsGap gap ∧ cs = dropEndWhile isBlank cs ++ gap := by
  refine ⟨(cs.reverse.takeWhile isBlank).reverse, ?_, ?_⟩
  · intro c member
    exact List.all_eq_true.mp List.all_takeWhile c (List.mem_reverse.mp member)
  · rw [dropEndWhile, ← List.reverse_append, List.takeWhile_append_dropWhile, List.reverse_reverse]

theorem written_dropMark {pad rest tail : List Char} (padding : IsGap pad) (key : String)
    (ends : ∀ c ∈ rest.head?, endsKey c = true) (trailing : IsGap tail) :
    Written key (String.ofList (dropMark (trimStart rest)))
      (pad ++ (key.toList ++ (rest ++ tail))) := by
  obtain ⟨gap, between, cut⟩ := exists_gap_append rest
  cases shown : trimStart rest with
  | nil =>
      have written : Written key "" _ := .spaced padding between (Or.inr rfl) nofun trailing
      rw [shown, List.append_nil] at cut
      rwa [cut]
  | cons c more =>
      rw [shown] at cut
      cases separates : isMark c with
      | true =>
          obtain ⟨after, right, behind⟩ := exists_gap_append more
          have written : Written key (String.ofList (trimStart more)) _ :=
            .marked padding between separates right trailing
          rw [String.toList_ofList, ← List.append_assoc after, ← behind, ← List.cons_append,
            ← List.append_assoc gap, ← cut] at written
          rwa [dropMark, if_pos separates]
      | false =>
          have visible := head?_trimStart rest c (by rw [shown]; rfl)
          have apart : gap ≠ [] := by
            rintro rfl
            have cutHere := ends c (by rw [cut]; rfl)
            rw [endsKey, separates, visible] at cutHere
            cases cutHere
          have plain : ∀ d ∈ (String.ofList (c :: more)).toList.head?, isMark d = false := by
            rw [String.toList_ofList]
            intro d first
            cases first
            exact separates
          have written : Written key (String.ofList (c :: more)) _ :=
            .spaced padding between (Or.inl apart) plain trailing
          rw [String.toList_ofList, ← List.append_assoc gap, ← cut] at written
          rwa [dropMark, separates, if_neg Bool.false_ne_true]

theorem suffix_dropMark (cs : List Char) : dropMark cs <:+ cs := by
  cases cs with
  | nil => exact List.suffix_refl []
  | cons c cs =>
      rw [dropMark]
      split
      · exact (List.dropWhile_suffix isBlank).trans (List.suffix_cons c cs)
      · exact List.suffix_refl _

theorem head?_dropMark {cs : List Char} (first : ∀ c ∈ cs.head?, isBlank c = false) :
    ∀ c ∈ (dropMark cs).head?, isBlank c = false := by
  cases cs with
  | nil => exact nofun
  | cons c cs =>
      rw [dropMark]
      split
      · exact head?_trimStart cs
      · exact first

theorem trimmed_dropMark {key rest : List Char}
    (last : ∀ c ∈ (key ++ rest).getLast?, isBlank c = false) :
    Trimmed (dropMark (trimStart rest)) := by
  refine ⟨head?_dropMark (head?_trimStart _), ?_⟩
  intro c final
  have rear : dropMark (trimStart rest) <:+ key ++ rest :=
    ((suffix_dropMark _).trans (List.dropWhile_suffix isBlank)).trans (List.suffix_append key rest)
  obtain ⟨front, whole⟩ := rear
  apply last
  rw [← whole, List.getLast?_append, Option.mem_def.mp final]
  rfl

theorem isAllBlank_of_trim {cs : List Char} (filled : (trim cs).isEmpty = false) :
    isAllBlank cs = false := by
  cases blank : isAllBlank cs with
  | false => rfl
  | true =>
      rw [trim_of_gap (List.all_eq_true.mp blank)] at filled
      cases filled

theorem stands_splitEntry {pad body tail : List Char} (padding : IsGap pad) (opens : Opens body)
    (last : ∀ c ∈ body.getLast?, isBlank c = false) (trailing : IsGap tail) :
    Stands (String.ofList (splitEntry body).1) (String.ofList (splitEntry body).2)
      (pad ++ (body ++ tail)) := by
  have part : IsPart (splitEntry body).1 := by
    intro c member
    simpa using List.all_eq_true.mp List.all_takeWhile c member
  obtain ⟨rest, whole, behind, ends⟩ : ∃ rest, body = (splitEntry body).1 ++ rest ∧
      (splitEntry body).2 = dropMark (trimStart rest) ∧ ∀ c ∈ rest.head?, endsKey c = true := by
    refine ⟨_, List.takeWhile_append_dropWhile.symm, rfl, ?_⟩
    intro c first
    have stops := List.head?_dropWhile_not (fun c => !endsKey c) body
    rw [Option.mem_def.mp first] at stops
    simpa using stops
  have keyed : Keyed (splitEntry body).1 (rest ++ tail) := by
    refine ⟨?_, part, ?_⟩
    · rw [← List.append_assoc, ← whole]
      exact opens_append opens tail
    · intro c first
      cases rest with
      | nil => exact endsKey_of_isBlank (trailing c (List.mem_of_mem_head? first))
      | cons d more => exact ends c first
  have line : pad ++ (body ++ tail) =
      pad ++ ((String.ofList (splitEntry body).1).toList ++ (rest ++ tail)) := by
    rw [String.toList_ofList, ← List.append_assoc _ rest, ← whole]
  rw [whole] at last
  constructor
  case isFor =>
    rw [line]
    exact .intro padding (by rwa [String.toList_ofList])
  case written =>
    rw [line, behind]
    exact written_dropMark padding _ ends trailing
  case trimmed =>
    rw [String.toList_ofList, behind]
    exact trimmed_dropMark last

theorem stands_of_pair? {key value : String} {line : List Char}
    (read : pair? line = some (key, value)) : Stands key value line := by
  rw [pair?] at read
  split at read
  · cases read
  · next shown =>
      rw [Bool.not_eq_true, Bool.or_eq_false_iff] at shown
      obtain ⟨filled, uncommented⟩ := shown
      -- What trimming takes away is put back: the padding in front and the blanks at the end.
      obtain ⟨pad, c, cs, rfl, padding, visible⟩ := exists_visible (isAllBlank_of_trim filled)
      obtain ⟨tail, trailing, behind⟩ := exists_append_gap cs
      have last := getLast?_trim (pad ++ c :: cs)
      rw [trim_append_cons padding visible] at read uncommented last
      have opens : Opens (c :: dropEndWhile isBlank cs) :=
        ⟨c, rfl, visible, by simpa [isComment] using uncommented⟩
      have stands := stands_splitEntry padding opens last trailing
      rw [List.cons_append, ← behind] at stands
      cases read
      exact stands

/-- The reading of a line finds what stands on it, and nothing else. -/
theorem pair?_eq_some {key value : String} {line : List Char} :
    pair? line = some (key, value) ↔ Stands key value line :=
  ⟨stands_of_pair?, pair?_of_stands⟩

theorem exists_pair?_of_isFor {key : String} {line : List Char} (found : IsFor key line) :
    ∃ value, pair? line = some (key, value) := by
  cases found with
  | intro padding keyed =>
      rw [pair?_of_keyed padding keyed, String.ofList_toList]
      exact ⟨_, rfl⟩

theorem isFor_iff {key : String} {line : List Char} :
    IsFor key line ↔ ((pair? line).any (·.1 == key)) = true := by
  constructor
  · intro found
    obtain ⟨value, read⟩ := exists_pair?_of_isFor found
    simp [read]
  · intro read
    obtain ⟨⟨k, value⟩, given, same⟩ := (Option.any_eq_true _ _).mp read
    cases beq_iff_eq.mp same
    exact (stands_of_pair? given).isFor

instance (key : String) : DecidablePred (IsFor key) := fun _ =>
  decidable_of_iff _ isFor_iff.symm

end SatClient.Properties
