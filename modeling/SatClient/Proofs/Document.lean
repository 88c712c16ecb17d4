import SatClient.Document
import SatClient.Proofs.Dimacs.Rendering
import SatClient.Proofs.Field
/-!
Which plain integers make a document. The literals are scanned in reading order for the first one
that may not stand there, and while the number of variables is refused itself, only zero may not. A
document keeps what it is made from, and a strict reader finds it again in its text.
-/

namespace SatClient

namespace Clause

theorem exists_signed {ls : List Int} (nonzero : ∀ l ∈ ls, l ≠ 0) :
    ∃ c : Clause, c.signed = ls := by
  induction ls with
  | nil => exact ⟨{}, rfl⟩
  | cons l ls ih =>
      obtain ⟨c, same⟩ := ih fun m member => nonzero m (List.mem_cons_of_mem _ member)
      have positive : 0 < l.natAbs := Int.natAbs_pos.mpr (nonzero l List.mem_cons_self)
      let m : Literal := ⟨l.natAbs, decide (l < 0), none, positive⟩
      have value : m.signed = l := by
        simp only [m, Literal.signed, decide_eq_true_eq]
        split <;> omega
      refine ⟨⟨m :: c.literals⟩, ?_⟩
      rw [signed, List.map_cons, value, ← same]
      rfl

theorem exists_map_signed {clauses : List (List Int)} (nonzero : ∀ c ∈ clauses, ∀ l ∈ c, l ≠ 0) :
    ∃ cs : List Clause, cs.map signed = clauses := by
  induction clauses with
  | nil => exact ⟨[], rfl⟩
  | cons ls clauses ih =>
      obtain ⟨c, same⟩ := exists_signed (nonzero ls List.mem_cons_self)
      obtain ⟨cs, rest⟩ := ih fun d member => nonzero d (List.mem_cons_of_mem _ member)
      exact ⟨c :: cs, by rw [List.map_cons, same, rest]⟩

end Clause

namespace Document

open SatClient.Field

def Offends (count l : Int) : Prop :=
  l = 0 ∨ 0 ≤ count ∧ count < l.natAbs

instance (count l : Int) : Decidable (Offends count l) :=
  inferInstanceAs (Decidable (_ ∨ _))

def Clean (count : Int) (clauses : List (List Int)) : Prop :=
  ∀ c ∈ clauses, ∀ l ∈ c, ¬ Offends count l

/-- Whether integers are a problem: no literal is zero, and none is beyond the number. -/
structure WellFormed (count : Int) (clauses : List (List Int)) : Prop where
  nonnegative : 0 ≤ count
  literals : ∀ c ∈ clauses, ∀ l ∈ c, l ≠ 0 ∧ (l.natAbs : Int) ≤ count

/-- The first literal in reading order that offends, and the index of its clause. -/
inductive First (count : Int) : List (List Int) → Nat → Int → Prop
  | stands {before after : List (List Int)} {front back : List Int} {l : Int}
      (earlier : Clean count before) (left : ∀ m ∈ front, ¬ Offends count m)
      (offends : Offends count l) :
      First count (before ++ (front ++ l :: back) :: after) before.length l

structure States (fault : Fault) (field message : String) : Prop where
  place : fault.place = [.field field]
  message : fault.cause.message = message

inductive CountFaults (count : Int) : List Fault → Prop
  | nothing (nonnegative : 0 ≤ count) : CountFaults count []
  | negative {fault : Fault} (below : count < 0)
      (states : States fault "num_vars" "Input should be greater than or equal to 0") :
      CountFaults count [fault]

def offenceText (count l : Int) (index : Nat) : String :=
  "Value error, Literal " ++ toString l ++
    (if l = 0 then " is invalid" else " exceeds num_vars " ++ toString count) ++
    " in clause " ++ toString index

inductive ClauseFaults (count : Int) (clauses : List (List Int)) : List Fault → Prop
  | nothing (clean : Clean count clauses) : ClauseFaults count clauses []
  | literal {fault : Fault} {index : Nat} {l : Int} (first : First count clauses index l)
      (states : States fault "clauses" (offenceText count l index)) :
      ClauseFaults count clauses [fault]

def clausesValue (clauses : List (List Int)) : Value :=
  .list (clauses.map fun c => .list (c.map .int))

def fieldsOf (count : Int) (clauses : List (List Int)) : Fields :=
  [("num_vars", .int count), ("clauses", clausesValue clauses)]

/-- What becomes of a number of variables and clauses as fields of a document. -/
structure Validates (count : Int) (clauses : List (List Int)) : Prop where
  accepted : (∃ d, ofFields (fieldsOf count clauses) = .ok d) ↔ WellFormed count clauses
  preserved : ∀ d, ofFields (fieldsOf count clauses) = .ok d →
    ∃ n : Nat, (n : Int) = count ∧ Dimacs.read? d.text.toList = some (n, clauses) ∧
      d.formula = ⟨n, clauses⟩
  refused : ∀ failure, ofFields (fieldsOf count clauses) = .error failure →
    ∃ left right, failure = .rejectedFields Failure.documentRecord (left ++ right) ∧
      CountFaults count left ∧ ClauseFaults count clauses right

def announced? (count : Int) : Option Int :=
  if count < 0 then none else some count

def offence (count l : Int) (index : Nat) : Cause :=
  if l = 0 then .zeroLiteral index else .excessLiteral l count index

theorem known?_checkCount (input : Value) (count : Int) :
    known? (checkCount input count) = announced? count := by
  unfold checkCount announced?
  split
  · rfl
  · next nonnegative =>
      have same : (count.toNat : Int) = count := Int.toNat_of_nonneg (Int.not_lt.mp nonnegative)
      rw [known?, same]

theorem literalCause?_eq (count : Int) (index : Nat) (l : Int) :
    literalCause? (announced? count) index l =
      if Offends count l then some (offence count l index) else none := by
  unfold literalCause? announced? offence Offends
  by_cases zero : l = 0
  · simp [zero]
  · by_cases below : count < 0
    · simp [zero, below, Int.not_le.mpr below]
    · simp [zero, below, Int.not_lt.mp below]

theorem findSome?_of_clean {count : Int} {index : Nat} {ls : List Int}
    (clean : ∀ l ∈ ls, ¬ Offends count l) :
    ls.findSome? (literalCause? (announced? count) index) = none := by
  apply List.findSome?_eq_none_iff.mpr
  intro l member
  rw [literalCause?_eq, if_neg (clean l member)]

theorem clausesCause?_of_clean {count : Int} {index : Nat} {clauses : List (List Int)}
    (clean : Clean count clauses) : clausesCause? (announced? count) index clauses = none := by
  induction clauses generalizing index with
  | nil => rfl
  | cons c clauses ih =>
      rw [clausesCause?, findSome?_of_clean (clean c List.mem_cons_self)]
      exact ih fun d member => clean d (List.mem_cons_of_mem _ member)

theorem clausesCause?_of_stop {count : Int} (index : Nat) {before after : List (List Int)}
    {front back : List Int} {l : Int} (earlier : Clean count before)
    (left : ∀ m ∈ front, ¬ Offends count m) (offends : Offends count l) :
    clausesCause? (announced? count) index (before ++ (front ++ l :: back) :: after) =
      some (offence count l (index + before.length)) := by
  induction before generalizing index with
  | nil =>
      have stops : (front ++ l :: back).findSome? (literalCause? (announced? count) index) =
          some (offence count l index) := by
        rw [List.findSome?_append, findSome?_of_clean left, Option.none_or, List.findSome?_cons,
          literalCause?_eq, if_pos offends]
      rw [List.nil_append, clausesCause?, stops]
      rfl
  | cons c before ih =>
      have rest := ih (index + 1) fun d member => earlier d (List.mem_cons_of_mem _ member)
      rw [List.cons_append, clausesCause?, findSome?_of_clean (earlier c List.mem_cons_self)]
      dsimp only
      rw [rest, List.length_cons, Nat.add_assoc, Nat.add_comm 1]

theorem clausesCause?_of_first {count : Int} {clauses : List (List Int)} {index : Nat} {l : Int}
    (first : First count clauses index l) :
    clausesCause? (announced? count) 0 clauses = some (offence count l index) := by
  cases first with
  | stands earlier left offends =>
      rw [clausesCause?_of_stop 0 earlier left offends, Nat.zero_add]

/-- Of several bad literals the first one in reading order counts; beside a negative number, only
zero is one. -/
example :
    clausesCause? (announced? 2) 0 [[], [1, -3], [0]] = some (.excessLiteral (-3) 2 1) ∧
      clausesCause? (announced? (-1)) 0 [[], [1, -3], [0]] = some (.zeroLiteral 2) := by
  decide

theorem exists_first {α : Type} {p : α → Prop} [DecidablePred p] {items : List α}
    (present : ∃ a ∈ items, p a) :
    ∃ before a after, items = before ++ a :: after ∧ (∀ b ∈ before, ¬ p b) ∧ p a := by
  have stops : (items.find? (p ·)).isSome = true := by
    simpa [List.find?_isSome] using present
  obtain ⟨a, found⟩ := Option.isSome_iff_exists.mp stops
  obtain ⟨here, before, after, cut, clean⟩ := List.find?_eq_some_iff_append.mp found
  exact ⟨before, a, after, cut, by simpa using clean, by simpa using here⟩

theorem exists_first_of_not_clean {count : Int} {clauses : List (List Int)}
    (dirty : ¬ Clean count clauses) : ∃ index l, First count clauses index l := by
  have present : ∃ c ∈ clauses, ∃ l ∈ c, Offends count l := by
    simpa [Clean] using dirty
  obtain ⟨before, c, after, rfl, earlier, found⟩ := exists_first present
  obtain ⟨front, l, back, rfl, left, offends⟩ := exists_first found
  have clean : Clean count before := fun d inside l member offends =>
    earlier d inside ⟨l, member, offends⟩
  exact ⟨before.length, l, .stands clean left offends⟩

theorem wellFormed_iff {count : Int} {clauses : List (List Int)} :
    WellFormed count clauses ↔ 0 ≤ count ∧ Clean count clauses := by
  have literal (nonnegative : 0 ≤ count) (l : Int) :
      (l ≠ 0 ∧ (l.natAbs : Int) ≤ count) ↔ ¬ Offends count l := by
    unfold Offends
    omega
  constructor
  · rintro ⟨nonnegative, literals⟩
    exact ⟨nonnegative, fun c inside l member =>
      (literal nonnegative l).mp (literals c inside l member)⟩
  · rintro ⟨nonnegative, clean⟩
    exact ⟨nonnegative, fun c inside l member =>
      (literal nonnegative l).mpr (clean c inside l member)⟩

theorem message_offence (count l : Int) (index : Nat) :
    (offence count l index).message = offenceText count l index := by
  have lead : "Value error, Literal " = "Value error, " ++ "Literal " := rfl
  unfold offence offenceText
  rw [lead]
  split
  · next zero =>
      have trail : "Literal 0 is invalid in clause " =
          "Literal " ++ (toString l ++ (" is invalid" ++ " in clause ")) := by
        rw [zero]
        rfl
      simp only [Cause.message, Cause.rule?, trail, String.append_assoc]
  · simp only [Cause.message, Cause.rule?, String.append_assoc]

theorem checkClauses_of_clean {count : Int} {clauses : List (List Int)}
    (clean : Clean count clauses) (input : Value) :
    checkClauses (announced? count) input clauses = .ok clauses := by
  rw [checkClauses, clausesCause?_of_clean clean]

theorem checkClauses_of_first {count : Int} {clauses : List (List Int)} {index : Nat} {l : Int}
    (first : First count clauses index l) (input : Value) :
    checkClauses (announced? count) input clauses =
      refuse [.field "clauses"] input (offence count l index) := by
  rw [checkClauses, clausesCause?_of_first first]

theorem checkCount_of_negative {count : Int} (below : count < 0) (input : Value) :
    checkCount input count = refuse [.field "num_vars"] input .negative := by
  rw [checkCount, if_pos below]

theorem checkCount_of_nonnegative {count : Int} (nonnegative : 0 ≤ count) (input : Value) :
    checkCount input count = .ok count.toNat := by
  rw [checkCount, if_neg (Int.not_lt.mpr nonnegative)]

theorem ofReadings_ok (countInput clausesInput : Value) (count : Int)
    (clauses : List (List Int)) :
    ofReadings countInput clausesInput (.ok count) (.ok clauses) =
      (both (checkCount countInput count)
        (checkClauses (announced? count) clausesInput clauses)).map fun pair =>
          ⟨pair.1, pair.2⟩ := by
  rw [← known?_checkCount countInput]
  rfl

theorem ofFields_fieldsOf (count : Int) (clauses : List (List Int)) :
    ofFields (fieldsOf count clauses) =
      (ofReadings (.int count) (clausesValue clauses) (.ok count) (.ok clauses)).mapError
        (.rejectedFields Failure.documentRecord) := by
  have literals (place : List Place) (c : List Int) :
      readList readInteger place (.list (c.map .int)) = .ok c :=
    readItems_map readInteger .int (fun _ _ => rfl) place 0 c
  have read : required (readList (readList readInteger)) (fieldsOf count clauses) "clauses" =
      .ok clauses :=
    readItems_map (readList readInteger) (fun c => .list (c.map .int)) literals _ 0 clauses
  rw [ofFields, read]
  rfl

theorem ofFields_of_wellFormed {count : Int} {clauses : List (List Int)}
    (fine : WellFormed count clauses) :
    ofFields (fieldsOf count clauses) = .ok ⟨count.toNat, clauses⟩ := by
  obtain ⟨nonnegative, clean⟩ := wellFormed_iff.mp fine
  rw [ofFields_fieldsOf, ofReadings_ok, checkCount_of_nonnegative nonnegative,
    checkClauses_of_clean clean]
  rfl

/-- Both fields are checked, whatever the check of the other one finds. -/
theorem ofFields_of_not_wellFormed {count : Int} {clauses : List (List Int)}
    (ill : ¬ WellFormed count clauses) :
    ∃ left right, ofFields (fieldsOf count clauses) =
        .error (.rejectedFields Failure.documentRecord (left ++ right)) ∧
      CountFaults count left ∧ ClauseFaults count clauses right := by
  rw [ofFields_fieldsOf, ofReadings_ok]
  by_cases below : count < 0
  · rw [checkCount_of_negative below]
    by_cases clean : Clean count clauses
    · rw [checkClauses_of_clean clean]
      exact ⟨_, [], rfl, .negative below ⟨rfl, rfl⟩, .nothing clean⟩
    · obtain ⟨index, l, first⟩ := exists_first_of_not_clean clean
      rw [checkClauses_of_first first]
      exact ⟨[_], _, rfl, .negative below ⟨rfl, rfl⟩,
        .literal first ⟨rfl, message_offence count l index⟩⟩
  · have nonnegative := Int.not_lt.mp below
    have dirty : ¬ Clean count clauses := fun clean => ill (wellFormed_iff.mpr ⟨nonnegative, clean⟩)
    obtain ⟨index, l, first⟩ := exists_first_of_not_clean dirty
    rw [checkCount_of_nonnegative nonnegative, checkClauses_of_first first]
    exact ⟨[], _, rfl, .nothing nonnegative,
      .literal first ⟨rfl, message_offence count l index⟩⟩

theorem wellFormed_of_ofFields {count : Int} {clauses : List (List Int)} {d : Document}
    (accepted : ofFields (fieldsOf count clauses) = .ok d) : WellFormed count clauses := by
  refine Classical.byContradiction fun ill => ?_
  obtain ⟨_, _, refused, _⟩ := ofFields_of_not_wellFormed ill
  rw [refused] at accepted
  cases accepted

theorem ofClauses_eq (count : Int) (cs : List Clause) :
    ofClauses (.int count) cs = ofFields (fieldsOf count (cs.map Clause.signed)) := by
  have value : clausesValue (cs.map Clause.signed) =
      .list (cs.map fun c => .list (c.signed.map .int)) := by
    rw [clausesValue, List.map_map]
    rfl
  rw [ofFields_fieldsOf, value]
  rfl

theorem wellFormed_signed {n : Nat} {cs : List Clause} :
    WellFormed n (cs.map Clause.signed) ↔ ∀ c ∈ cs, ∀ l ∈ c.literals, l.id ≤ n := by
  have literal (l : Literal) : (l.signed ≠ 0 ∧ (l.signed.natAbs : Int) ≤ n) ↔ l.id ≤ n := by
    rw [l.natAbs_signed, Int.ofNat_le]
    exact and_iff_right l.signed_ne_zero
  constructor
  · intro fine c inside l member
    exact (literal l).mp
      (fine.literals c.signed (List.mem_map_of_mem inside) l.signed (List.mem_map_of_mem member))
  · intro bounded
    refine ⟨Int.natCast_nonneg n, ?_⟩
    rw [List.forall_mem_map]
    intro c inside
    rw [Clause.signed, List.forall_mem_map]
    exact fun l member => (literal l).mpr (bounded c inside l member)

theorem ofClauses_eq_ok {count : Nat} {clauses : List Clause}
    (bounded : ∀ c ∈ clauses, ∀ l ∈ c.literals, l.id ≤ count) :
    ofClauses (.int count) clauses = .ok ⟨count, clauses.map Clause.signed⟩ := by
  rw [ofClauses_eq, ofFields_of_wellFormed (wellFormed_signed.mpr bounded), Int.toNat_natCast]

theorem renderClause_signed (c : Clause) : renderClause c.signed = c.render := by
  have texts : (c.signed ++ [0]).map toString = c.literals.map Literal.text ++ ["0"] := by
    rw [List.map_append, Clause.signed, List.map_map]
    rfl
  rw [renderClause, texts, Clause.render]

theorem text_signed (count : Nat) (clauses : List Clause) :
    text ⟨count, clauses.map Clause.signed⟩ = Dimacs.text count clauses := by
  have rendered : (clauses.map Clause.signed).map renderClause = clauses.map Clause.render := by
    rw [List.map_map]
    exact List.map_congr_left fun c _ => renderClause_signed c
  simp only [text, Dimacs.text, Dimacs.lines, rendered, List.length_map]

/-- Every well-formed problem is that of some clauses, so its text is read back as theirs is. -/
theorem read?_text {n : Nat} {clauses : List (List Int)} (fine : WellFormed n clauses) :
    Dimacs.read? (text ⟨n, clauses⟩).toList = some (n, clauses) := by
  obtain ⟨cs, rfl⟩ := Clause.exists_map_signed fun c inside l member =>
    (fine.literals c inside l member).1
  rw [text_signed]
  exact Dimacs.read?_text (wellFormed_signed.mp fine)

theorem validates (count : Int) (clauses : List (List Int)) : Validates count clauses := by
  constructor
  case accepted =>
    constructor
    · rintro ⟨d, accepted⟩
      exact wellFormed_of_ofFields accepted
    · intro fine
      exact ⟨_, ofFields_of_wellFormed fine⟩
  case preserved =>
    intro d accepted
    have fine := wellFormed_of_ofFields accepted
    obtain ⟨n, rfl⟩ := Int.eq_ofNat_of_zero_le fine.nonnegative
    rw [ofFields_of_wellFormed fine, Int.toNat_natCast] at accepted
    cases accepted
    exact ⟨n, rfl, read?_text fine, rfl⟩
  case refused =>
    intro failure refused
    have ill : ¬ WellFormed count clauses := by
      intro fine
      rw [ofFields_of_wellFormed fine] at refused
      cases refused
    obtain ⟨left, right, same, faults⟩ := ofFields_of_not_wellFormed ill
    rw [same] at refused
    cases refused
    exact ⟨left, right, rfl, faults⟩

/-- Integers make a document exactly if they are a well-formed problem, and so the literals of
clauses do exactly if every variable of them is announced. -/
theorem validates_fields_and_clauses :
    (∀ count clauses, Validates count clauses) ∧
      ∀ (n : Nat) (cs : List Clause), (∃ d, ofClauses (.int n) cs = .ok d) ↔
        ∀ c ∈ cs, ∀ l ∈ c.literals, l.id ≤ n := by
  refine ⟨validates, fun n cs => ?_⟩
  rw [ofClauses_eq, (validates n (cs.map Clause.signed)).accepted, wellFormed_signed]

end Document

end SatClient
