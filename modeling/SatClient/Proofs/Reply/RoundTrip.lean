import Mathlib.Data.Nat.Digits.Defs
import SatClient.Proofs.Dimacs.Rendering
import SatClient.Proofs.Reply.Grammar
import SatClient.Proofs.Text.Trim
/-!
Reading undoes writing. The words of a rendered clause stand for its variables and signs, and they
are found again in any layout: blanks of every kind may stand around them, and anything behind the
zero. A line that ends before the zero conveys nothing.
-/

namespace SatClient.Text

/-- Words in a text, each behind blanks or none and before a blank or the end, up to a rest. -/
inductive Laid (rest : List Char) : List (List Char) → List Char → Prop
  | done : Laid rest [] rest
  | word {gap word tail : List Char} {words : List (List Char)} (blank : IsGap gap)
      (apart : StartsApart tail) (more : Laid rest words tail) :
      Laid rest (word :: words) (gap ++ (word ++ tail))

theorem words_of_laid {rest text : List Char} {pieces : List (List Char)}
    (laid : Laid rest pieces text)
    (solid : ∀ piece ∈ pieces, piece ≠ [] ∧ ∀ c ∈ piece, isBlank c = false) :
    words text = pieces ++ words rest := by
  induction laid with
  | done => rfl
  | word blank apart more ih =>
      obtain ⟨⟨nonempty, visible⟩, later⟩ := List.forall_mem_cons.mp solid
      rw [words_append_of_blank blank, words_append_of_solid nonempty visible apart, ih later]
      rfl

theorem laid_cons_blank {rest text word : List Char} {pieces : List (List Char)} {c : Char}
    (blank : isBlank c = true) (laid : Laid rest (word :: pieces) text) :
    Laid rest (word :: pieces) (c :: text) := by
  cases laid with
  | word gap apart more => exact .word (List.forall_mem_cons.mpr ⟨blank, gap⟩) apart more

theorem laid_intercalate (pieces : List (List Char)) :
    Laid [] pieces ([' '].intercalate pieces) := by
  induction pieces with
  | nil => exact .done
  | cons piece pieces ih =>
      have front : IsGap [] := nofun
      cases pieces with
      | nil =>
          have only : Laid [] [piece] ([] ++ (piece ++ [])) := .word front nofun .done
          simpa using only
      | cons next pieces =>
          have blank : isBlank ' ' = true := rfl
          rw [List.intercalate_cons_cons, List.append_assoc]
          exact Laid.word front (startsApart_cons blank _) (laid_cons_blank blank ih)

end SatClient.Text

namespace SatClient.Reply

open SatClient.Text

def told (l : Literal) : Nat × Bool :=
  (l.id, !l.negated)

def tokenOf (pair : Nat × Bool) : List Char :=
  if pair.2 then Nat.toDigits 10 pair.1 else '-' :: Nat.toDigits 10 pair.1

/-- The pairs are read from every layout of their tokens that a zero ends, whatever follows it, and
from no layout of the first of them that ends before the zero. -/
structure ReadsBack (pairs : List (Nat × Bool)) : Prop where
  laid : ∀ rest text, Laid rest (pairs.map tokenOf ++ [['0']]) text →
    assignment (some text) = .ok pairs
  cut : ∀ front gap text, front <+: pairs.map tokenOf → IsGap gap → Laid gap front text →
    ∃ failure, assignment (some text) = .error failure ∧ failure.kind = .reply

theorem writes_toDigits {id : Nat} (positive : 0 < id) : Writes (Nat.toDigits 10 id) id :=
  ⟨Nat.toDigits_ne_nil, fun _ member => plain_of_mem_toDigits member,
    Nat.ofDigitChars_ten_toDigits, positive⟩

theorem denotes_tokenOf {pair : Nat × Bool} (positive : 0 < pair.1) : Denotes (tokenOf pair) pair := by
  obtain ⟨id, value⟩ := pair
  cases value with
  | true => exact .plain (writes_toDigits positive)
  | false => exact .minus (writes_toDigits positive)

theorem fits_tokenOf {pair : Nat × Bool} (positive : 0 < pair.1) (short : pair.1 < 10 ^ digitLimit) :
    Fits (tokenOf pair) := by
  obtain ⟨id, value⟩ := pair
  have size := Nat.toDigits_length 10 id digitLimit (by decide) short
  cases value with
  | true =>
      show (splitMinus (Nat.toDigits 10 id)).2.length ≤ digitLimit
      rwa [splitMinus_of_writes (writes_toDigits positive)]
  | false => exact size

theorem ne_zero_of_denotes {token : List Char} {pair : Nat × Bool} (denotes : Denotes token pair) :
    token ≠ ['0'] := by
  rintro rfl
  exact (pairOf_of_denotes denotes).2.2 (Or.inl (by decide))

theorem readable_tokenOf {pair : Nat × Bool} (positive : 0 < pair.1)
    (short : pair.1 < 10 ^ digitLimit) : Readable (tokenOf pair) :=
  ⟨ne_zero_of_denotes (denotes_tokenOf positive), isLiteral_of_denotes (denotes_tokenOf positive),
    fits_tokenOf positive short⟩

theorem pairOf_tokenOf {pair : Nat × Bool} (positive : 0 < pair.1) : pairOf (tokenOf pair) = pair :=
  (pairOf_of_denotes (denotes_tokenOf positive)).1.symm

theorem toList_text (l : Literal) : l.text.toList = tokenOf (told l) := by
  have sign : l.signed < 0 ↔ l.negated = true := by
    have positive := l.id_pos
    unfold Literal.signed
    split <;> simp_all
  rw [Literal.text, Dimacs.toList_toString, l.natAbs_signed, tokenOf, told]
  cases negated : l.negated <;> simp [sign, negated]

theorem laid_render (ls : List Literal) :
    Laid [] ((ls.map told).map tokenOf ++ [['0']]) (Clause.render ⟨ls⟩).toList := by
  have tokens : (Clause.signed ⟨ls⟩).map (fun l => (toString l).toList) =
      (ls.map told).map tokenOf := by
    rw [Clause.signed, List.map_map, List.map_map]
    exact List.map_congr_left fun l _ => toList_text l
  rw [Dimacs.toList_render, tokens]
  exact laid_intercalate _

theorem readsBack_of_short {pairs : List (Nat × Bool)}
    (small : ∀ pair ∈ pairs, 0 < pair.1 ∧ pair.1 < 10 ^ digitLimit) : ReadsBack pairs := by
  have readable : ∀ word ∈ pairs.map tokenOf, Readable word := by
    intro word member
    obtain ⟨pair, inside, rfl⟩ := List.mem_map.mp member
    exact readable_tokenOf (small pair inside).1 (small pair inside).2
  have solid : ∀ word ∈ pairs.map tokenOf, word ≠ [] ∧ ∀ c ∈ word, isBlank c = false :=
    fun word member => solid_of_isLiteral (readable word member).2.1
  constructor
  case laid =>
    intro rest text laid
    have zero : ['0'] ≠ [] ∧ ∀ c ∈ ['0'], isBlank c = false :=
      ⟨List.cons_ne_nil '0' [], List.forall_mem_singleton.mpr rfl⟩
    have cut := words_of_laid laid
      (List.forall_mem_append.mpr ⟨solid, List.forall_mem_singleton.mpr zero⟩)
    rw [List.append_assoc, List.singleton_append] at cut
    have back : (pairs.map tokenOf).map pairOf = pairs := by
      rw [List.map_map]
      exact (List.map_congr_left fun pair member => pairOf_tokenOf (small pair member).1).trans
        (List.map_id pairs)
    rw [assignment, cut, literals_append _ readable, back]
  case cut =>
    intro front gap text part blank laid
    have cut := words_of_laid laid fun word member => solid word (part.subset member)
    have nothing : words gap = [] := by
      have gone := words_append_of_blank blank []
      rwa [List.append_nil] at gone
    rw [nothing, List.append_nil] at cut
    rw [assignment, cut]
    exact ⟨_, (literals_eq_error front _).mpr
      (.unterminated fun word member => readable word (part.subset member)), rfl⟩

/-- What a clause is rendered as is read as its variables and signs, and so is every other layout of
the same tokens. -/
theorem readsBack_render {ls : List Literal} (short : ∀ l ∈ ls, l.id < 10 ^ digitLimit) :
    assignment (some (Clause.render ⟨ls⟩).toList) = .ok (ls.map told) ∧
      ReadsBack (ls.map told) := by
  have small : ∀ pair ∈ ls.map told, 0 < pair.1 ∧ pair.1 < 10 ^ digitLimit := by
    intro pair member
    obtain ⟨l, inside, rfl⟩ := List.mem_map.mp member
    exact ⟨l.id_pos, short l inside⟩
  have back := readsBack_of_short small
  exact ⟨back.laid [] _ (laid_render ls), back⟩

def repeating : List Literal :=
  [⟨3, false, none, by decide⟩, ⟨12, true, none, by decide⟩, ⟨12, false, some ⟨1⟩, by decide⟩]

theorem readsBack_repeating :
    (∀ l ∈ repeating, l.id < 10 ^ digitLimit) ∧
      assignment (some "3 -12 12 0".toList) = .ok [(3, true), (12, false), (12, true)] ∧
      assignment (some "\t3 \u2003-12\n12\x0b0 -7 x".toList) =
        .ok [(3, true), (12, false), (12, true)] ∧
      ∃ failure, assignment (some "\t3 \u2003-12".toList) = .error failure ∧
        failure.kind = .reply := by
  have short : ∀ l ∈ repeating, l.id < 10 ^ digitLimit := by
    intro l member
    have two : l.id < 10 ^ 2 := by revert l; decide
    exact Nat.lt_of_lt_of_le two (Nat.pow_le_pow_right (by decide) (by decide))
  obtain ⟨rendered, back⟩ := readsBack_render short
  have front : Laid [] [['3'], ['-', '1', '2']] "\t3 \u2003-12".toList :=
    .word (show IsGap ['\t'] by decide) (startsApart_cons rfl _)
      (.word (show IsGap [' ', '\u2003'] by decide) nofun .done)
  have whole : Laid " -7 x".toList [['3'], ['-', '1', '2'], ['1', '2'], ['0']]
      "\t3 \u2003-12\n12\x0b0 -7 x".toList :=
    .word (show IsGap ['\t'] by decide) (startsApart_cons rfl _)
      (.word (show IsGap [' ', '\u2003'] by decide) (startsApart_cons rfl _)
        (.word (show IsGap ['\n'] by decide) (startsApart_cons rfl _)
          (.word (show IsGap ['\x0b'] by decide) (startsApart_cons rfl _) .done)))
  have part : [['3'], ['-', '1', '2']] <+: (repeating.map told).map tokenOf := by decide
  exact ⟨short, rendered, back.laid _ _ whole, back.cut _ [] _ part nofun front⟩

end SatClient.Reply
