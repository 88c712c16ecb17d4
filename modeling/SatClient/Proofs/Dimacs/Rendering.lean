import Mathlib.Algebra.Group.Nat.Defs
import SatClient.Proofs.Dimacs.Reader
import SatClient.Proofs.Text.Pieces
/-!
What is rendered is read back, as long as the header announces every variable of it. Numbers hold
neither blanks nor line feeds, so the tokens of a line and the lines of a text are found again where
they were joined.
-/

namespace SatClient

theorem Failure.isWritable_iff {n : Int} :
    isWritable n = true ↔ n.natAbs < 10 ^ Text.digitLimit := by
  rw [isWritable, decide_eq_true_iff, Nat.pow_eq]

namespace Dimacs

private theorem blank_not_mem_toString (l : Int) : ' ' ∉ (toString l).toList :=
  not_mem_toString l (by decide)

private theorem newline_not_mem_toString (l : Int) : '\n' ∉ (toString l).toList :=
  not_mem_toString l (by decide)

theorem rendered_eq_ok {count : Int} {clauses : List Clause} {given : String}
    (whole : rendered count clauses = .ok given) : given = text count clauses := by
  unfold rendered at whole
  split at whole
  · exact (Except.ok.inj whole).symm
  · cases whole

theorem kind_of_rendered {count : Int} {clauses : List Clause} {failure : Failure}
    (unwritten : rendered count clauses = .error failure) : failure.kind = .value := by
  unfold rendered at unwritten
  split at unwritten
  · cases unwritten
  · rw [← Except.error.inj unwritten, Failure.kind]

theorem rendered_of_digits {count : Int} {clauses : List Clause} (digits : Nat)
    (few : digits ≤ Text.digitLimit)
    (bounded : ∀ n ∈ numbers count clauses, n.natAbs < 10 ^ digits) :
    rendered count clauses = .ok (text count clauses) := by
  have writable : (numbers count clauses).all Failure.isWritable = true := by
    rw [List.all_eq_true]
    intro n member
    exact Failure.isWritable_iff.mpr
      (Nat.lt_of_lt_of_le (bounded n member) (Nat.pow_le_pow_right (by decide) few))
  rw [rendered, if_pos writable]

theorem toList_render (c : Clause) :
    c.render.toList =
      [' '].intercalate (c.signed.map (fun l => (toString l).toList) ++ [['0']]) := by
  simp [Clause.render, Clause.signed, Literal.text, Function.comp_def]

theorem splitOn_render (c : Clause) :
    c.render.toList.splitOn ' ' = c.signed.map (fun l => (toString l).toList) ++ [['0']] := by
  rw [toList_render]
  apply List.splitOn_intercalate
  · intro token member
    rcases List.mem_append.mp member with literal | zero
    · obtain ⟨l, _, rfl⟩ := List.mem_map.mp literal
      exact blank_not_mem_toString l
    · rw [List.mem_singleton.mp zero]
      decide
  · simp

theorem newline_not_mem_render (c : Clause) : '\n' ∉ c.render.toList := by
  rw [toList_render]
  apply Text.not_mem_intercalate (by decide)
  intro token member
  rcases List.mem_append.mp member with literal | zero
  · obtain ⟨l, _, rfl⟩ := List.mem_map.mp literal
    exact newline_not_mem_toString l
  · rw [List.mem_singleton.mp zero]
    decide

theorem clause?_render {count : Nat} {c : Clause} (bounded : ∀ l ∈ c.literals, l.id ≤ count) :
    clause? count c.render.toList = some c.signed := by
  rw [clause?, splitOn_render, if_pos (by simp), List.dropLast_concat]
  have each : ∀ l ∈ c.signed, literal? count (toString l).toList = some (id l) := by
    intro l member
    obtain ⟨m, inside, rfl⟩ := List.mem_map.mp member
    have small : m.signed.natAbs ≤ count := by
      rw [m.natAbs_signed]
      exact bounded m inside
    exact literal?_toString m.signed_ne_zero small
  rw [mapM_map_some _ _ id _ each, List.map_id]

theorem isSome_clause?_render (count : Nat) (c : Clause) :
    (clause? count c.render.toList).isSome = true ↔ ∀ l ∈ c.literals, l.id ≤ count := by
  constructor
  · intro read l member
    rw [clause?, splitOn_render, if_pos (by simp), List.dropLast_concat, isSome_mapM,
      List.forall_mem_map] at read
    have kept := read l.signed (List.mem_map_of_mem member)
    rw [literal?, integer?_toString, Option.isSome_filter, Option.any_some] at kept
    have bounded := (of_decide_eq_true kept).2
    rwa [l.natAbs_signed] at bounded
  · intro bounded
    rw [clause?_render bounded]
    rfl

theorem toList_header (variableCount clauseCount : Nat) :
    (header variableCount clauseCount).toList = [' '].intercalate
      [['p'], ['c', 'n', 'f'], (toString (variableCount : Int)).toList,
        (toString (clauseCount : Int)).toList] := by
  simp [header]

private theorem header_words (variableCount clauseCount : Nat) :
    ∀ token ∈ [['p'], ['c', 'n', 'f'], (toString (variableCount : Int)).toList,
      (toString (clauseCount : Int)).toList], ' ' ∉ token ∧ '\n' ∉ token := by
  intro token member
  simp only [List.mem_cons, List.not_mem_nil, or_false] at member
  rcases member with rfl | rfl | rfl | rfl
  · decide
  · decide
  · exact ⟨blank_not_mem_toString _, newline_not_mem_toString _⟩
  · exact ⟨blank_not_mem_toString _, newline_not_mem_toString _⟩

theorem newline_not_mem_header (variableCount clauseCount : Nat) :
    '\n' ∉ (header variableCount clauseCount).toList := by
  rw [toList_header]
  apply Text.not_mem_intercalate (by decide)
  intro token member
  exact (header_words variableCount clauseCount token member).2

private theorem natural?_toString (n : Nat) : natural? (toString (n : Int)).toList = some n := by
  rw [toList_toString, if_neg (by omega), Int.natAbs_natCast, natural?_toDigits]

theorem header?_header (variableCount clauseCount : Nat) :
    header? (header variableCount clauseCount).toList = some (variableCount, clauseCount) := by
  rw [header?, toList_header, List.splitOn_intercalate ' ']
  · show ((natural? (toString (variableCount : Int)).toList).bind fun v =>
      (natural? (toString (clauseCount : Int)).toList).map fun c => (v, c)) = _
    rw [natural?_toString, natural?_toString]
    rfl
  · intro token member
    exact (header_words variableCount clauseCount token member).1
  · simp

theorem read?_text_eq (count : Nat) (clauses : List Clause) :
    read? (text count clauses).toList =
      ((clauses.map (·.render.toList)).mapM (clause? count)).map fun read => (count, read) := by
  have whole : ∀ line ∈ lines count clauses, '\n' ∉ line.toList := by
    intro line member
    rcases List.mem_cons.mp member with rfl | rendered
    · exact newline_not_mem_header count clauses.length
    · obtain ⟨c, _, rfl⟩ := List.mem_map.mp rendered
      exact newline_not_mem_render c
  have cut : (text count clauses).toList.splitOn '\n' =
      (header count clauses.length).toList :: (clauses.map (·.render.toList) ++ [[]]) := by
    rw [text, Text.splitOn_joinLines _ whole]
    simp [lines, Function.comp_def]
  have body : body? count clauses.length (clauses.map (·.render.toList) ++ [[]]) =
      (clauses.map (·.render.toList)).mapM (clause? count) := by
    rw [body?, if_pos (by simp), List.dropLast_concat]
  rw [read?, cut]
  dsimp only
  rw [header?_header, Option.bind_some]
  dsimp only
  rw [body]

/-- A rendered problem whose variables are all announced is read back as it was given. -/
theorem read?_text {count : Nat} {clauses : List Clause}
    (bounded : ∀ c ∈ clauses, ∀ l ∈ c.literals, l.id ≤ count) :
    read? (text count clauses).toList = some (count, clauses.map Clause.signed) := by
  have read := mapM_map_some (clause? count) (·.render.toList) Clause.signed clauses
    fun c member => clause?_render (bounded c member)
  rw [read?_text_eq, read, Option.map_some]

/-- No other rendered problem is read. -/
theorem isSome_read?_text (count : Nat) (clauses : List Clause) :
    (read? (text count clauses).toList).isSome = true ↔
      ∀ c ∈ clauses, ∀ l ∈ c.literals, l.id ≤ count := by
  rw [read?_text_eq, Option.isSome_map, isSome_mapM, List.forall_mem_map]
  exact forall₂_congr fun c _ => isSome_clause?_render count c

end Dimacs

end SatClient
