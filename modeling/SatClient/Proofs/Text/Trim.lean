import SatClient.Proofs.Text.Pieces
/-!
Trimming and cutting at line breaks. Blanks around a piece of text are dropped as long as the piece
itself neither starts nor ends with one, and what stands before a break is a line.
-/

namespace SatClient.Text

def IsGap (cs : List Char) : Prop :=
  ∀ c ∈ cs, isBlank c = true

instance : DecidablePred IsGap := fun cs =>
  List.decidableBAll (fun c => isBlank c = true) cs

def IsLine (cs : List Char) : Prop :=
  ∀ c ∈ cs, isLineBreak c = false

instance : DecidablePred IsLine := fun cs =>
  List.decidableBAll (fun c => isLineBreak c = false) cs

def Trimmed (cs : List Char) : Prop :=
  (∀ c ∈ cs.head?, isBlank c = false) ∧ ∀ c ∈ cs.getLast?, isBlank c = false

instance : DecidablePred Trimmed := fun cs =>
  decidable_of_iff (cs.head?.all (!isBlank ·) = true ∧ cs.getLast?.all (!isBlank ·) = true) <| by
    simp only [Trimmed, Option.all_eq_true, Bool.not_eq_true', Option.mem_def]

theorem trimmed_of_solid {cs : List Char} (solid : ∀ c ∈ cs, isBlank c = false) : Trimmed cs :=
  ⟨fun c first => solid c (List.mem_of_mem_head? first),
    fun c last => solid c (List.mem_of_mem_getLast? last)⟩

theorem trimmed_append {left right : List Char} (first : Trimmed left) (second : Trimmed right)
    (start : left ≠ []) (finish : right ≠ []) (mid : List Char) :
    Trimmed (left ++ (mid ++ right)) := by
  constructor
  · intro c front
    rw [List.head?_append, List.head?_eq_some_head start, Option.some_or,
      ← List.head?_eq_some_head] at front
    exact first.1 c front
  · intro c final
    rw [← List.append_assoc, List.getLast?_append, List.getLast?_eq_some_getLast finish,
      Option.some_or, ← List.getLast?_eq_some_getLast] at final
    exact second.2 c final

theorem trimmed_intercalate {pieces : List (List Char)}
    (solid : ∀ piece ∈ pieces, piece ≠ [] ∧ ∀ c ∈ piece, isBlank c = false) :
    Trimmed ([' '].intercalate pieces) := by
  induction pieces with
  | nil => exact ⟨nofun, nofun⟩
  | cons piece pieces ih =>
      obtain ⟨nonempty, visible⟩ := solid piece List.mem_cons_self
      have rest := ih fun p member => solid p (List.mem_cons_of_mem _ member)
      cases pieces with
      | nil => simpa using trimmed_of_solid visible
      | cons next pieces =>
          have more : [' '].intercalate (next :: pieces) ≠ [] := by
            obtain ⟨filled, _⟩ := solid next (by simp)
            cases pieces <;> simp [filled]
          rw [List.intercalate_cons_cons, List.append_assoc]
          exact trimmed_append (trimmed_of_solid visible) rest nonempty more [' ']

section

variable {p : Char → Bool}

theorem dropWhile_of_head? {cs : List Char} (first : ∀ c ∈ cs.head?, p c = false) :
    cs.dropWhile p = cs := by
  cases cs with
  | nil => rfl
  | cons c cs =>
      have stops := first c rfl
      simp [stops]

theorem takeWhile_of_head? {cs : List Char} (first : ∀ c ∈ cs.head?, p c = false) :
    cs.takeWhile p = [] := by
  cases cs with
  | nil => rfl
  | cons c cs =>
      have stops := first c rfl
      simp [stops]

theorem dropEndWhile_of_all {cs : List Char} (all : ∀ c ∈ cs, p c = true) :
    dropEndWhile p cs = [] := by
  have reversed : ∀ c ∈ cs.reverse, p c = true := fun c member => all c (List.mem_reverse.mp member)
  have dropped : (cs.reverse ++ []).dropWhile p = [] := List.dropWhile_append_of_pos reversed
  rw [List.append_nil] at dropped
  rw [dropEndWhile, dropped, List.reverse_nil]

theorem dropEndWhile_append_of_last {cs : List Char} (last : ∀ c ∈ cs.getLast?, p c = false)
    (rest : List Char) : dropEndWhile p (cs ++ rest) = cs ++ dropEndWhile p rest := by
  have kept : cs.reverse.dropWhile p = cs.reverse := by
    apply dropWhile_of_head?
    rwa [List.head?_reverse]
  rw [dropEndWhile, dropEndWhile, List.reverse_append, List.dropWhile_append, kept]
  split
  · next empty =>
      rw [List.isEmpty_iff.mp empty, List.reverse_reverse, List.reverse_nil, List.append_nil]
  · rw [List.reverse_append, List.reverse_reverse]

theorem dropEndWhile_cons {c : Char} (kept : p c = false) (cs : List Char) :
    dropEndWhile p (c :: cs) = c :: dropEndWhile p cs := by
  have last : ∀ d ∈ [c].getLast?, p d = false := by
    intro d final
    cases final
    exact kept
  exact dropEndWhile_append_of_last last cs

theorem dropEndWhile_isPrefix (cs : List Char) : dropEndWhile p cs <+: cs := by
  have front := List.reverse_prefix.mpr (cs.reverse.dropWhile_suffix p)
  rwa [List.reverse_reverse] at front

theorem head?_dropEndWhile {cs : List Char} {c : Char} (first : c ∈ (dropEndWhile p cs).head?) :
    c ∈ cs.head? := by
  obtain ⟨rest, whole⟩ := dropEndWhile_isPrefix (p := p) cs
  obtain ⟨tail, starts⟩ := List.head?_eq_some_iff.mp first
  rw [← whole, starts]
  rfl

end

theorem trimStart_append_of_gap {gap : List Char} (blank : IsGap gap) (cs : List Char) :
    trimStart (gap ++ cs) = trimStart cs :=
  List.dropWhile_append_of_pos blank

theorem trimStart_of_head? {cs : List Char} (first : ∀ c ∈ cs.head?, isBlank c = false) :
    trimStart cs = cs :=
  dropWhile_of_head? first

theorem head?_trimStart (cs : List Char) : ∀ c ∈ (trimStart cs).head?, isBlank c = false := by
  intro c first
  have stops := List.head?_dropWhile_not isBlank cs
  rw [← trimStart, Option.mem_def.mp first] at stops
  exact stops

theorem getLast?_trim (cs : List Char) : ∀ c ∈ (trim cs).getLast?, isBlank c = false := by
  intro c final
  rw [trim, dropEndWhile, List.getLast?_reverse] at final
  exact head?_trimStart (trimStart cs).reverse c final

theorem trimmed_trim (cs : List Char) : Trimmed (trim cs) :=
  ⟨fun c first => head?_trimStart cs c (head?_dropEndWhile first), getLast?_trim cs⟩

/-- A trimmed text between blanks is found again, also an empty one. -/
theorem trimStart_dropEndWhile {before value after : List Char} (left : IsGap before)
    (trimmed : Trimmed value) (right : IsGap after) :
    trimStart (dropEndWhile isBlank (before ++ (value ++ after))) = value := by
  by_cases empty : value = []
  · subst empty
    rw [List.nil_append, dropEndWhile_of_all (List.forall_mem_append.mpr ⟨left, right⟩)]
    rfl
  · have last : ∀ c ∈ (before ++ value).getLast?, isBlank c = false := by
      intro c final
      rw [List.getLast?_append, List.getLast?_eq_some_getLast empty, Option.some_or,
        ← List.getLast?_eq_some_getLast] at final
      exact trimmed.2 c final
    rw [← List.append_assoc, dropEndWhile_append_of_last last, dropEndWhile_of_all right,
      List.append_nil, trimStart_append_of_gap left, trimStart_of_head? trimmed.1]

/-- From the first visible character on, only the end of a text is trimmed. -/
theorem trim_append_cons {pad : List Char} (padding : IsGap pad) {c : Char}
    (visible : isBlank c = false) (cs : List Char) :
    trim (pad ++ c :: cs) = c :: dropEndWhile isBlank cs := by
  have first : ∀ d ∈ (c :: cs).head?, isBlank d = false := by
    intro d front
    cases front
    exact visible
  rw [trim, trimStart_append_of_gap padding, trimStart_of_head? first, dropEndWhile_cons visible]

theorem trim_of_trimmed {cs : List Char} (trimmed : Trimmed cs) : trim cs = cs := by
  rw [trim, trimStart_of_head? trimmed.1]
  have kept := dropEndWhile_append_of_last trimmed.2 []
  have empty : dropEndWhile isBlank [] = [] := rfl
  rwa [empty, List.append_nil] at kept

theorem trim_of_gap {cs : List Char} (blank : IsGap cs) : trim cs = [] := by
  have gone := trimStart_append_of_gap blank []
  rw [List.append_nil] at gone
  rw [trim, gone]
  rfl

theorem exists_visible {cs : List Char} (visible : isAllBlank cs = false) :
    ∃ pad c rest, cs = pad ++ c :: rest ∧ IsGap pad ∧ isBlank c = false := by
  induction cs with
  | nil => cases visible
  | cons c cs ih =>
      cases blank : isBlank c with
      | false => exact ⟨[], c, cs, rfl, nofun, blank⟩
      | true =>
          rw [isAllBlank, List.all_cons, blank, Bool.true_and] at visible
          obtain ⟨pad, d, rest, rfl, gap, shown⟩ := ih visible
          exact ⟨c :: pad, d, rest, rfl, List.forall_mem_cons.mpr ⟨blank, gap⟩, shown⟩

theorem isAllBlank_trim (cs : List Char) : isAllBlank (trim cs) = isAllBlank cs := by
  cases blank : isAllBlank cs with
  | true =>
      rw [trim_of_gap (List.all_eq_true.mp blank)]
      rfl
  | false =>
      obtain ⟨pad, c, rest, rfl, gap, visible⟩ := exists_visible blank
      rw [trim_append_cons gap visible, isAllBlank, List.all_cons, visible, Bool.false_and]

theorem lines_cons_of_whole {c : Char} (whole : isLineBreak c = false) (cs : List Char) :
    lines (c :: cs) = extendFirst c (lines cs) := by
  have other : c ≠ '\r' := by
    rintro rfl
    cases whole
  cases cs <;> simp [lines, whole, other]

/-- A break ends a line. Only where it makes one break with the character behind it is there an
empty line less than the rest has by itself. -/
theorem lines_append_break {line : List Char} (whole : IsLine line) {b : Char}
    (ends : isLineBreak b = true) (rest : List Char) :
    ∃ more, lines (line ++ b :: rest) = line :: more ∧
      (lines rest = more ∨ lines rest = [] :: more) := by
  induction line with
  | nil =>
      rw [List.nil_append, lines.eq_def]
      split
      · next empty => cases empty
      · next cs same =>
          cases same
          exact ⟨lines cs, rfl, Or.inr rfl⟩
      · next c cs _ same =>
          cases same
          exact ⟨lines rest, by rw [if_pos ends], Or.inl rfl⟩
  | cons c line ih =>
      obtain ⟨more, cut, after⟩ := ih fun d member => whole d (List.mem_cons_of_mem _ member)
      refine ⟨more, ?_, after⟩
      rw [List.cons_append, lines_cons_of_whole (whole c List.mem_cons_self), cut, extendFirst]

/-- The last line of a text has no break, and an empty one is no line at all. -/
theorem lines_of_whole {line : List Char} (whole : IsLine line) (nonempty : line ≠ []) :
    lines line = [line] := by
  induction line with
  | nil => exact absurd rfl nonempty
  | cons c line ih =>
      rw [lines_cons_of_whole (whole c List.mem_cons_self)]
      cases line with
      | nil => rfl
      | cons d line =>
          rw [ih (fun e member => whole e (List.mem_cons_of_mem _ member)) (by simp), extendFirst]

end SatClient.Text
