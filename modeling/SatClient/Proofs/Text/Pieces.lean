import SatClient.Dimacs
import SatClient.Text.Blank
import SatClient.Text.Digit
import SatClient.Text.Newline
/-!
Texts put together from pieces, and the cuts that give the pieces back: lines with a line feed
after each, and words with blanks between them.
-/

namespace SatClient.Text

theorem not_mem_intercalate {c : Char} {mark : List Char} {pieces : List (List Char)}
    (apart : c ∉ mark) (free : ∀ piece ∈ pieces, c ∉ piece) : c ∉ mark.intercalate pieces := by
  induction pieces with
  | nil => simp
  | cons piece pieces ih =>
      have first := free piece (by simp)
      have rest := ih fun p member => free p (List.mem_cons_of_mem _ member)
      cases pieces with
      | nil => simpa using first
      | cons next pieces => simp [first, apart, rest]

theorem splitOn_joinLines (lines : List String) (whole : ∀ line ∈ lines, '\n' ∉ line.toList) :
    (Dimacs.joinLines lines).toList.splitOn '\n' = lines.map String.toList ++ [[]] := by
  induction lines with
  | nil => simp [Dimacs.joinLines]
  | cons line lines ih =>
      have first := whole line (by simp)
      have rest := ih fun l member => whole l (List.mem_cons_of_mem _ member)
      have cut : (Dimacs.joinLines (line :: lines)).toList =
          line.toList ++ '\n' :: (Dimacs.joinLines lines).toList := by
        simp [Dimacs.joinLines]
      rw [cut, List.splitOn_append_cons_self_of_not_mem first, rest]
      rfl

theorem words_cons_blank {c : Char} (blank : isBlank c = true) (cs : List Char) :
    words (c :: cs) = words cs := by
  cases cs <;> simp [words, blank]

theorem words_append_of_blank {gap : List Char} (blank : ∀ c ∈ gap, isBlank c = true)
    (cs : List Char) : words (gap ++ cs) = words cs := by
  induction gap with
  | nil => rfl
  | cons c gap ih =>
      rw [List.cons_append, words_cons_blank (blank c (by simp))]
      exact ih fun d member => blank d (List.mem_cons_of_mem _ member)

/-- Whether a text starts no further character of a word that stands before it. -/
def StartsApart (cs : List Char) : Prop :=
  ∀ c ∈ cs.head?, isBlank c = true

theorem startsApart_cons {c : Char} (blank : isBlank c = true) (cs : List Char) :
    StartsApart (c :: cs) := by
  intro d first
  cases first
  exact blank

theorem words_append_of_solid {word rest : List Char} (nonempty : word ≠ [])
    (solid : ∀ c ∈ word, isBlank c = false) (apart : StartsApart rest) :
    words (word ++ rest) = word :: words rest := by
  induction word with
  | nil => exact absurd rfl nonempty
  | cons c word ih =>
      have visible := solid c (by simp)
      cases word with
      | nil =>
          cases rest with
          | nil => simp [words, visible]
          | cons b rest =>
              have blank : isBlank b = true := apart b rfl
              simp [words, visible, blank]
      | cons d word =>
          have next := solid d (by simp)
          have cut := ih (by simp) fun e member => solid e (List.mem_cons_of_mem _ member)
          rw [List.cons_append] at cut
          simp [words, visible, next, cut, extendFirst]

/-- Words with gaps behind them are cut at the gaps. -/
theorem words_flatMap {pieces : List (List Char × List Char)}
    (solid : ∀ piece ∈ pieces, piece.1 ≠ [] ∧ ∀ c ∈ piece.1, isBlank c = false)
    (gaps : ∀ piece ∈ pieces, piece.2 ≠ [] ∧ ∀ c ∈ piece.2, isBlank c = true) (cs : List Char) :
    words (pieces.flatMap (fun piece => piece.1 ++ piece.2) ++ cs) =
      pieces.map Prod.fst ++ words cs := by
  induction pieces with
  | nil => rfl
  | cons piece pieces ih =>
      obtain ⟨word, gap⟩ := piece
      obtain ⟨nonempty, visible⟩ := solid (word, gap) (by simp)
      obtain ⟨separate, blank⟩ := gaps (word, gap) (by simp)
      have rest := ih (fun p member => solid p (List.mem_cons_of_mem _ member))
        fun p member => gaps p (List.mem_cons_of_mem _ member)
      -- The gap is what ends the word, so it may not be empty.
      have apart (tail : List Char) : StartsApart (gap ++ tail) := by
        obtain ⟨d, gap, rfl⟩ := List.exists_cons_of_ne_nil separate
        exact startsApart_cons (blank d List.mem_cons_self) (gap ++ tail)
      rw [List.flatMap_cons, List.append_assoc, List.append_assoc,
        words_append_of_solid nonempty visible (apart _), words_append_of_blank blank, rest]
      rfl

theorem words_intercalate {pieces : List (List Char)}
    (solid : ∀ piece ∈ pieces, piece ≠ [] ∧ ∀ c ∈ piece, isBlank c = false) :
    words ([' '].intercalate pieces) = pieces := by
  induction pieces with
  | nil => rfl
  | cons piece pieces ih =>
      obtain ⟨nonempty, visible⟩ := solid piece List.mem_cons_self
      have rest := ih fun p member => solid p (List.mem_cons_of_mem _ member)
      cases pieces with
      | nil =>
          have cut : words (piece ++ []) = piece :: words [] :=
            words_append_of_solid nonempty visible nofun
          simpa [words] using cut
      | cons next pieces =>
          have blank : isBlank ' ' = true := rfl
          rw [List.intercalate_cons_cons, List.append_assoc, List.singleton_append,
            words_append_of_solid nonempty visible (startsApart_cons blank _),
            words_cons_blank blank, rest]

theorem words_of_visible {c : Char} (visible : isBlank c = false) (cs : List Char) :
    ∃ word rest, words (c :: cs) = word :: rest ∧ word <+: c :: cs := by
  induction cs generalizing c with
  | nil => exact ⟨[c], [], by simp [words, visible], List.prefix_refl _⟩
  | cons d cs ih =>
      cases next : isBlank d with
      | true => exact ⟨[c], words (d :: cs), by simp [words, visible, next], by simp⟩
      | false =>
          obtain ⟨word, rest, cut, front⟩ := ih next
          refine ⟨c :: word, rest, ?_, List.prefix_cons_inj c |>.mpr front⟩
          simp [words, visible, next, cut, extendFirst]

theorem infix_of_mem_words {cs word : List Char} (member : word ∈ words cs) : word <:+: cs := by
  fun_induction words cs with
  | case1 => cases member
  | case2 c blank => cases member
  | case3 c visible =>
      cases List.mem_singleton.mp member
      exact List.infix_refl _
  | case4 c d cs blank ih => exact List.infix_cons (ih member)
  | case5 c d cs visible blank ih =>
      rcases List.mem_cons.mp member with rfl | later
      · exact ⟨[], d :: cs, rfl⟩
      · exact List.infix_cons (ih later)
  | case6 c d cs visible next ih =>
      obtain ⟨first, rest, cut, front⟩ := words_of_visible ((Bool.not_eq_true _).mp next) cs
      rw [cut] at member ih
      rcases List.mem_cons.mp member with rfl | later
      · exact ((List.prefix_cons_inj c).mpr front).isInfix
      · exact List.infix_cons (ih (List.mem_cons_of_mem _ later))

theorem solid_of_mem_words {cs word : List Char} (member : word ∈ words cs) :
    word ≠ [] ∧ ∀ c ∈ word, isBlank c = false := by
  fun_induction words cs generalizing word with
  | case1 => cases member
  | case2 c blank => cases member
  | case3 c visible =>
      cases List.mem_singleton.mp member
      simpa using visible
  | case4 c d cs blank ih => exact ih member
  | case5 c d cs visible blank ih =>
      rcases List.mem_cons.mp member with rfl | later
      · simpa using visible
      · exact ih later
  | case6 c d cs visible next ih =>
      obtain ⟨first, rest, cut, _⟩ := words_of_visible ((Bool.not_eq_true _).mp next) cs
      rw [cut] at member ih
      rcases List.mem_cons.mp member with rfl | later
      · obtain ⟨_, solid⟩ := ih List.mem_cons_self
        exact ⟨List.cons_ne_nil _ _,
          List.forall_mem_cons.mpr ⟨(Bool.not_eq_true _).mp visible, solid⟩⟩
      · exact ih (List.mem_cons_of_mem _ later)

theorem isBlank_of_isDigit {c : Char} (digit : isDigit c = true) : isBlank c = false := by
  have table : ∀ first ∈ digitZeros, ∀ k ∈ List.range 10,
      isBlank (Char.ofNat (first + k)) = false := by decide +kernel
  rw [isDigit, digitValue?, List.findSome?_isSome_iff] at digit
  obtain ⟨first, member, found⟩ := digit
  split at found
  · next inside =>
      simp only [Bool.and_eq_true, decide_eq_true_eq] at inside
      have here := table first member (c.toNat - first) (List.mem_range.mpr (by omega))
      have place : first + (c.toNat - first) = c.toNat := by omega
      rw [place, Char.ofNat_toNat] at here
      exact here
  · cases found

theorem ne_newline_of_mem {line : List Char} (whole : '\n' ∉ line) :
    ∀ c ∈ line, decide (c ≠ '\n') = true := by
  intro c member
  have differ : c ≠ '\n' := fun same => whole (same ▸ member)
  exact decide_eq_true differ

theorem readLine_append {line rest : List Char} (whole : '\n' ∉ line) :
    readLine (line ++ '\n' :: rest) = some (line, rest) := by
  have each := ne_newline_of_mem whole
  have kept : (line ++ '\n' :: rest).takeWhile (· ≠ '\n') = line := by
    rw [List.takeWhile_append_of_pos each]
    simp
  have dropped : (line ++ '\n' :: rest).dropWhile (· ≠ '\n') = '\n' :: rest := by
    rw [List.dropWhile_append_of_pos each]
    simp
  unfold readLine
  split
  · next empty => simp at empty
  · rw [kept, dropped]
    rfl

theorem readLine_last {line : List Char} (nonempty : line ≠ []) (whole : '\n' ∉ line) :
    readLine line = some (line, []) := by
  have each := ne_newline_of_mem whole
  obtain ⟨c, rest, rfl⟩ := List.exists_cons_of_ne_nil nonempty
  have taken : (c :: rest ++ []).takeWhile (· ≠ '\n') = c :: rest ++ [].takeWhile (· ≠ '\n') :=
    List.takeWhile_append_of_pos each
  have dropped : (c :: rest ++ []).dropWhile (· ≠ '\n') = [].dropWhile (· ≠ '\n') :=
    List.dropWhile_append_of_pos each
  rw [List.append_nil] at taken dropped
  show some ((c :: rest).takeWhile _, ((c :: rest).dropWhile _).drop 1) = _
  rw [taken, dropped]
  simp

theorem fst_readLine {cs : List Char} (nonempty : cs ≠ []) :
    (readLine cs).map Prod.fst = some (cs.takeWhile (· ≠ '\n')) := by
  obtain ⟨c, rest, rfl⟩ := List.exists_cons_of_ne_nil nonempty
  rfl

theorem infix_of_readLine {cs line rest : List Char} (read : readLine cs = some (line, rest)) :
    line <+: cs ∧ rest <:+ cs := by
  unfold readLine at read
  split at read
  · cases read
  · cases read
    exact ⟨List.takeWhile_prefix _, (List.drop_suffix _ _).trans (List.dropWhile_suffix _)⟩

end SatClient.Text
