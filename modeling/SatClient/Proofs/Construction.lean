import SatClient.Proofs.Encoding
/-!
How clauses are made: of literals at hand, of a clause and further literals, and for a constraint.
None of these brings in a variable of its own, so clauses that are made of the literals of other
clauses, however often, are still over the variables that the first of them were made of.
-/

namespace SatClient

inductive Construction
  | clause (literals : List Literal)
  | append (clause : Clause) (literal : Literal)
  | extend (clause : Clause) (literals : List Literal)
  | equivalence (left : Literal) (right : List Literal)
  | atMostOne (literals : List Literal)
  | atLeastOne (literals : List Literal)
  | exactlyOne (literals : List Literal)

namespace Construction

def arguments : Construction → List Literal
  | clause ls => ls
  | append c l => c.literals ++ [l]
  | extend c ls => c.literals ++ ls
  | equivalence left right => left :: right
  | atMostOne ls => ls
  | atLeastOne ls => ls
  | exactlyOne ls => ls

def clauses : Construction → List Clause
  | clause ls => [⟨ls⟩]
  | append c l => [c.append l]
  | extend c ls => [c.extend ls]
  | equivalence left right => Encoding.equivalence left right
  | atMostOne ls => Encoding.atMostOne ls
  | atLeastOne ls => [Encoding.atLeastOne ls]
  | exactlyOne ls => Encoding.exactlyOne ls

theorem over_literals (ls : List Literal) : ∀ c ∈ [(⟨ls⟩ : Clause)], c.Over ls := by
  intro c member l inside
  rw [List.mem_singleton.mp member] at inside
  exact ⟨l, inside, Or.inl rfl⟩

theorem over_arguments (g : Construction) : ∀ c ∈ g.clauses, c.Over g.arguments := by
  cases g with
  | clause ls => exact over_literals ls
  | append c l => exact over_literals (c.literals ++ [l])
  | extend c ls => exact over_literals (c.literals ++ ls)
  | equivalence left right => exact Encoding.over_operands left right
  | atMostOne ls => exact Encoding.over_atMostOne fun l known => known
  | atLeastOne ls => exact over_literals ls
  | exactlyOne ls => exact Encoding.over_exactlyOne fun l known => known

theorem argument_of_mem {g : Construction} {c : Clause} (made : c ∈ g.clauses) {l : Literal}
    (inside : l ∈ c.literals) : ∃ m ∈ g.arguments, l.id = m.id ∧ l.registry = m.registry := by
  obtain ⟨m, given, rfl | rfl⟩ := g.over_arguments c made l inside
  · exact ⟨l, given, rfl, rfl⟩
  · exact ⟨m, given, rfl, rfl⟩

end Construction

/-- Whether a literal comes from known variables: by negations, and out of clauses that were made
of such literals. -/
inductive Literal.Drawn (known : Literal → Prop) : Literal → Prop
  | known {v : Literal} (member : known v) : Drawn known v
  | negated {l : Literal} (drawn : Drawn known l) : Drawn known l.negate
  | taken {g : Construction} (each : ∀ m ∈ g.arguments, Drawn known m) {c : Clause}
      (made : c ∈ g.clauses) {l : Literal} (inside : l ∈ c.literals) : Drawn known l

def Clause.Built (known : Literal → Prop) (c : Clause) : Prop :=
  ∃ g : Construction, (∀ m ∈ g.arguments, m.Drawn known) ∧ c ∈ g.clauses

theorem Clause.drawn_of_built {known : Literal → Prop} {c : Clause} (built : c.Built known) :
    ∀ l ∈ c.literals, l.Drawn known := by
  obtain ⟨g, each, made⟩ := built
  intro l inside
  exact .taken each made inside

theorem Literal.variable_of_drawn {known : Literal → Prop} {l : Literal} (drawn : l.Drawn known) :
    ∃ v, known v ∧ l.id = v.id ∧ l.registry = v.registry := by
  induction drawn with
  | known member => exact ⟨_, member, rfl, rfl⟩
  | negated _ ih => exact ih
  | taken _ made inside ih =>
      obtain ⟨m, given, id, registry⟩ := Construction.argument_of_mem made inside
      obtain ⟨v, member, id', registry'⟩ := ih m given
      exact ⟨v, member, id.trans id', registry.trans registry'⟩

end SatClient
