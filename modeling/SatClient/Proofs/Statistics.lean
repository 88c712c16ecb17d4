import Mathlib.Algebra.Group.Action.Defs
import Mathlib.Algebra.Order.BigOperators.Group.List
import Mathlib.Algebra.Order.Field.Basic
import Mathlib.Algebra.Order.Ring.Rat
import Mathlib.Data.List.Forall2
import Mathlib.Tactic.NormNum
import Mathlib.Tactic.Positivity
import Mathlib.Tactic.Ring
import SatClient.Statistics
import SatClient.Proofs.Document
/-!
What the statistics of a problem say. They are those of a count clause by clause, in which no clause
is without an entry and no division is by zero; every figure is exact; the order of clauses and
literals does not matter, and negation turns the share of positive literals round.
-/

namespace SatClient

def Document.negated (d : Document) : Document :=
  ⟨d.variableCount, d.clauses.map fun c => c.map fun l => -l⟩

/-- Whether documents differ in the order of clauses and of the literals in them, at most. -/
inductive Document.Reordered : Document → Document → Prop
  | clauses {n : Nat} {clauses inner outer : List (List Int)}
      (literals : List.Forall₂ List.Perm clauses inner) (order : inner.Perm outer) :
      Reordered ⟨n, clauses⟩ ⟨n, outer⟩

namespace Statistics

structure Buckets where
  entries : List Nat
  greater : Nat

def Buckets.enter? (b : Buckets) (length : Nat) : Option Buckets :=
  if length ≤ longestCounted then
    b.entries[length]?.map fun n => ⟨b.entries.set length (n + 1), b.greater⟩
  else some ⟨b.entries, b.greater + 1⟩

def Buckets.empty : Buckets :=
  ⟨List.replicate (longestCounted + 1) 0, 0⟩

def quotient? (part whole : Nat) : Option Rat :=
  if whole = 0 then none else some ((part : Rat) / whole)

/-- A share that is divided out only where there is something to share. -/
def share? (part whole : Nat) : Option Rat :=
  if 0 < whole then quotient? part whole else some (1 / 2)

/-- The statistics as they are counted clause by clause. Without a clause nothing is divided, and
there is no least and no greatest length. -/
def counted? (d : Document) : Option Statistics :=
  if d.clauses = [] then
    some ⟨d.variableCount, 0, 0, 0, 0, 1 / 2, Buckets.empty.entries, Buckets.empty.greater⟩
  else do
    let buckets ← (lengths d).foldlM Buckets.enter? Buckets.empty
    let shortest ← (lengths d).min?
    let mean ← quotient? (lengths d).sum d.clauses.length
    let longest ← (lengths d).max?
    let share ← share? (d.clauses.map (List.countP (0 < ·))).sum (lengths d).sum
    some ⟨d.variableCount, d.clauses.length, shortest, mean, longest, share, buckets.entries,
      buckets.greater⟩

structure Describes (d : Document) (s : Statistics) : Prop where
  variableCount : s.variableCount = d.variableCount
  clauses : s.clauseCount = d.clauses.length
  entries : s.histogram.length = 11
  entry : ∀ k, k ≤ 10 → s.histogram[k]? = some (d.clauses.countP (·.length = k))
  overflow : s.overflow = d.clauses.countP (10 < ·.length)
  total : s.histogram.sum + s.overflow = s.clauseCount
  bounds : ∀ c ∈ d.clauses, s.shortest ≤ c.length ∧ c.length ≤ s.longest
  attained : d.clauses ≠ [] →
    (∃ c ∈ d.clauses, c.length = s.shortest) ∧ ∃ c ∈ d.clauses, c.length = s.longest
  absent : d.clauses = [] → s.shortest = 0 ∧ s.longest = 0
  mean : s.mean =
    if d.clauses = [] then 0 else ((d.clauses.map List.length).sum : Rat) / d.clauses.length
  between : (s.shortest : Rat) ≤ s.mean ∧ s.mean ≤ s.longest
  share : s.positiveShare =
    if d.clauses.flatten = [] then 1 / 2
    else (d.clauses.flatten.countP (0 < ·) : Rat) / d.clauses.flatten.length
  proportion : 0 ≤ s.positiveShare ∧ s.positiveShare ≤ 1

structure Exact (d : Document) : Prop where
  counted : counted? d = some (ofDocument d)
  describes : Describes d (ofDocument d)
  unordered : ∀ e, Document.Reordered d e → ofDocument e = ofDocument d
  negated : ofDocument d.negated =
    { ofDocument d with positiveShare := 1 - (ofDocument d).positiveShare }

def bucketsOf (lengths : List Nat) : Buckets :=
  ⟨(List.range (longestCounted + 1)).map fun k => lengths.count k,
    lengths.countP (longestCounted < ·)⟩

theorem getElem?_bucketsOf (lengths : List Nat) (k : Nat) :
    (bucketsOf lengths).entries[k]? =
      if k ≤ longestCounted then some (lengths.count k) else none := by
  rw [bucketsOf, List.getElem?_map]
  by_cases counted : k ≤ longestCounted
  · rw [List.getElem?_range (Nat.lt_succ_of_le counted), if_pos counted, Option.map_some]
  · have outside : (List.range (longestCounted + 1)).length ≤ k := by
      rw [List.length_range]
      omega
    rw [List.getElem?_eq_none outside, if_neg counted, Option.map_none]

theorem greater_append (lengths : List Nat) (length : Nat) :
    (bucketsOf (lengths ++ [length])).greater =
      (bucketsOf lengths).greater + if longestCounted < length then 1 else 0 := by
  simp [bucketsOf, List.countP_append, List.countP_singleton]

theorem count_append_singleton (lengths : List Nat) (length k : Nat) :
    (lengths ++ [length]).count k = lengths.count k + if length = k then 1 else 0 := by
  simp [List.count_append, List.count_singleton]

theorem length_entries (lengths : List Nat) :
    (bucketsOf lengths).entries.length = longestCounted + 1 := by
  rw [bucketsOf, List.length_map, List.length_range]

theorem enter?_bucketsOf (lengths : List Nat) (length : Nat) :
    (bucketsOf lengths).enter? length = some (bucketsOf (lengths ++ [length])) := by
  unfold Buckets.enter?
  split
  · next counted =>
      have entries : (bucketsOf lengths).entries.set length (lengths.count length + 1) =
          (bucketsOf (lengths ++ [length])).entries := by
        apply List.ext_getElem?
        intro k
        rw [List.getElem?_set, getElem?_bucketsOf, getElem?_bucketsOf, count_append_singleton,
          length_entries]
        by_cases same : length = k
        · subst same
          simp [counted, Nat.lt_succ_of_le counted]
        · simp [same]
      have greater : (bucketsOf (lengths ++ [length])).greater = (bucketsOf lengths).greater := by
        rw [greater_append, if_neg (Nat.not_lt.mpr counted), Nat.add_zero]
      rw [getElem?_bucketsOf, if_pos counted, Option.map_some, entries, ← greater]
  · next beyond =>
      have long : longestCounted < length := Nat.not_le.mp beyond
      have entries : (bucketsOf lengths).entries = (bucketsOf (lengths ++ [length])).entries := by
        apply List.ext_getElem?
        intro k
        rw [getElem?_bucketsOf, getElem?_bucketsOf, count_append_singleton]
        by_cases counted : k ≤ longestCounted
        · have other : length ≠ k := by omega
          simp [counted, other]
        · simp [counted]
      have greater : (bucketsOf (lengths ++ [length])).greater =
          (bucketsOf lengths).greater + 1 := by
        rw [greater_append, if_pos long]
      rw [entries, ← greater]

theorem foldlM_enter? (before lengths : List Nat) :
    lengths.foldlM Buckets.enter? (bucketsOf before) = some (bucketsOf (before ++ lengths)) := by
  induction lengths generalizing before with
  | nil => rw [List.append_nil]; rfl
  | cons length lengths ih =>
      rw [List.foldlM_cons, enter?_bucketsOf, Option.bind_eq_bind, Option.bind_some, ih,
        List.append_assoc, List.singleton_append]

theorem bucketsOf_nil : bucketsOf [] = Buckets.empty := rfl

theorem sum_range_single (length size : Nat) :
    ((List.range size).map fun k => if length = k then 1 else 0).sum =
      if length < size then 1 else 0 := by
  induction size with
  | zero => rfl
  | succ size ih =>
      rw [List.range_succ, List.map_append, List.sum_append, ih]
      simp only [List.map_cons, List.map_nil, List.sum_cons, List.sum_nil]
      split <;> split <;> split <;> omega

theorem sum_entries (lengths : List Nat) :
    (bucketsOf lengths).entries.sum = lengths.countP (· ≤ longestCounted) := by
  induction lengths with
  | nil => rfl
  | cons length lengths ih =>
      have single := sum_range_single length (longestCounted + 1)
      simp only [bucketsOf] at ih ⊢
      simp only [List.count_cons, List.countP_cons, beq_iff_eq, List.sum_map_add, ih, single,
        Nat.lt_succ_iff, decide_eq_true_eq]

/-- Every length is in one entry, or among the greater ones. -/
theorem sum_bucketsOf (lengths : List Nat) :
    (bucketsOf lengths).entries.sum + (bucketsOf lengths).greater = lengths.length := by
  have split := List.length_eq_countP_add_countP (· ≤ longestCounted) (l := lengths)
  rw [sum_entries, bucketsOf, split]
  simp only [decide_eq_true_eq, Nat.not_le]

variable {d e : Document}

theorem length_literals (d : Document) : (literals d).length = (lengths d).sum := by
  rw [literals, List.length_flatten, lengths]

theorem countP_literals (d : Document) (p : Int → Bool) :
    (literals d).countP p = (d.clauses.map (List.countP p)).sum := by
  rw [literals, List.countP_flatten]

theorem quotient?_of_pos (part : Nat) {whole : Nat} (positive : 0 < whole) :
    quotient? part whole = some ((part : Rat) / whole) := by
  rw [quotient?, if_neg (Nat.ne_of_gt positive)]

theorem lengths_ne_nil (filled : d.clauses ≠ []) : lengths d ≠ [] :=
  fun empty => filled (List.map_eq_nil_iff.mp empty)

theorem min?_of_ne_nil {ls : List Nat} (nonempty : ls ≠ []) :
    ls.min? = some (ls.min?.getD 0) := by
  cases ls with
  | nil => exact absurd rfl nonempty
  | cons l ls => rfl

theorem max?_of_ne_nil {ls : List Nat} (nonempty : ls ≠ []) :
    ls.max? = some (ls.max?.getD 0) := by
  cases ls with
  | nil => exact absurd rfl nonempty
  | cons l ls => rfl

theorem share?_eq (part whole : Nat) : share? part whole = some (share part whole) := by
  rw [share?, share]
  split
  · next positive => rw [quotient?_of_pos _ positive, if_neg (Nat.ne_of_gt positive)]
  · next none => rw [if_pos (Nat.eq_zero_of_not_pos none)]

theorem ofDocument_of_empty (n : Nat) : ofDocument ⟨n, []⟩ =
    ⟨n, 0, 0, 0, 0, 1 / 2, Buckets.empty.entries, Buckets.empty.greater⟩ := by
  have mean : ((literals ⟨n, []⟩).length : Rat) / (([] : List (List Int)).length) = 0 :=
    div_zero _
  rw [ofDocument, mean]
  rfl

/-- A count clause by clause comes to an end, and to the same statistics. -/
theorem counted?_eq (d : Document) : counted? d = some (ofDocument d) := by
  by_cases empty : d.clauses = []
  · obtain ⟨n, clauses⟩ := d
    subst empty
    rw [ofDocument_of_empty, counted?, if_pos rfl]
  · have positive : 0 < d.clauses.length := List.length_pos_iff.mpr empty
    have buckets := foldlM_enter? [] (lengths d)
    rw [bucketsOf_nil, List.nil_append] at buckets
    rw [counted?, if_neg empty, buckets, min?_of_ne_nil (lengths_ne_nil empty),
      max?_of_ne_nil (lengths_ne_nil empty), quotient?_of_pos _ positive, share?_eq, ofDocument,
      length_literals, countP_literals]
    rfl

theorem count_lengths (d : Document) (k : Nat) :
    (lengths d).count k = d.clauses.countP (·.length = k) := by
  rw [lengths, List.count_eq_countP, List.countP_map]
  rfl

theorem countP_lengths (d : Document) (p : Nat → Bool) :
    (lengths d).countP p = d.clauses.countP fun c => p c.length := by
  rw [lengths, List.countP_map]
  rfl

theorem mean_eq (d : Document) : (ofDocument d).mean =
    if d.clauses = [] then 0 else ((lengths d).sum : Rat) / d.clauses.length := by
  rw [ofDocument, length_literals]
  split
  · next empty => rw [empty, List.length_nil, Nat.cast_zero, div_zero]
  · rfl

theorem mean_between (d : Document) : ((ofDocument d).shortest : Rat) ≤ (ofDocument d).mean ∧
    (ofDocument d).mean ≤ (ofDocument d).longest := by
  by_cases empty : d.clauses = []
  · obtain ⟨n, clauses⟩ := d
    subst empty
    rw [ofDocument_of_empty]
    simp
  · have positive : (0 : Rat) < d.clauses.length :=
      Nat.cast_pos.mpr (List.length_pos_iff.mpr empty)
    have size : (lengths d).length = d.clauses.length := List.length_map ..
    have least : d.clauses.length * (ofDocument d).shortest ≤ (lengths d).sum := by
      rw [← size, ← smul_eq_mul]
      exact List.card_nsmul_le_sum _ _ fun _ member => List.min?_getD_le_of_mem member
    have greatest : (lengths d).sum ≤ d.clauses.length * (ofDocument d).longest := by
      rw [← size, ← smul_eq_mul]
      exact List.sum_le_card_nsmul _ _ fun _ member => List.le_max?_getD_of_mem member
    rw [mean_eq, if_neg empty, le_div_iff₀ positive, div_le_iff₀ positive]
    constructor
    · rw [mul_comm]
      exact_mod_cast least
    · rw [mul_comm]
      exact_mod_cast greatest

theorem share_between {part whole : Nat} (inside : part ≤ whole) :
    0 ≤ share part whole ∧ share part whole ≤ 1 := by
  unfold share
  split
  · norm_num
  · next some =>
      have positive : (0 : Rat) < whole := Nat.cast_pos.mpr (Nat.pos_of_ne_zero some)
      constructor
      · positivity
      · rw [div_le_one positive]
        exact_mod_cast inside

theorem describes (d : Document) : Describes d (ofDocument d) := by
  have histogram : (ofDocument d).histogram = (bucketsOf (lengths d)).entries := rfl
  have overflow : (ofDocument d).overflow = (bucketsOf (lengths d)).greater := rfl
  constructor
  case variableCount => rfl
  case clauses => rfl
  case entries => rw [histogram, length_entries]; rfl
  case entry =>
    intro k counted
    have inside : k ≤ longestCounted := counted
    rw [histogram, getElem?_bucketsOf, if_pos inside, count_lengths]
  case overflow => rw [overflow, bucketsOf, countP_lengths]; rfl
  case total => rw [histogram, overflow, sum_bucketsOf, lengths, List.length_map]; rfl
  case bounds =>
    intro c member
    have inside : c.length ∈ lengths d := List.mem_map_of_mem member
    exact ⟨List.min?_getD_le_of_mem inside, List.le_max?_getD_of_mem inside⟩
  case attained =>
    intro filled
    have least := List.min?_mem (min?_of_ne_nil (lengths_ne_nil filled))
    have greatest := List.max?_mem (max?_of_ne_nil (lengths_ne_nil filled))
    exact ⟨List.mem_map.mp least, List.mem_map.mp greatest⟩
  case absent =>
    intro empty
    obtain ⟨n, clauses⟩ := d
    subst empty
    exact ⟨rfl, rfl⟩
  case mean => exact mean_eq d
  case between => exact mean_between d
  case share =>
    rw [ofDocument, share]
    simp only [literals, List.length_eq_zero_iff]
  case proportion => exact share_between List.countP_le_length

theorem min?_of_perm {ls ms : List Nat} (perm : ls.Perm ms) : ls.min? = ms.min? := by
  apply Option.ext
  intro n
  simp only [List.min?_eq_some_iff, perm.mem_iff]

theorem max?_of_perm {ls ms : List Nat} (perm : ls.Perm ms) : ls.max? = ms.max? := by
  apply Option.ext
  intro n
  simp only [List.max?_eq_some_iff, perm.mem_iff]

/-- Statistics depend on the lengths of clauses and on the literals, each in any order. -/
theorem ofDocument_of_perm (count : d.variableCount = e.variableCount)
    (size : (lengths d).Perm (lengths e)) (content : (literals d).Perm (literals e)) :
    ofDocument d = ofDocument e := by
  have clauses : d.clauses.length = e.clauses.length := by
    simpa only [lengths, List.length_map] using size.length_eq
  simp only [ofDocument, count, clauses, content.length_eq, content.countP_eq, size.count_eq,
    size.countP_eq, min?_of_perm size, max?_of_perm size]

theorem map_length_of_forall₂ {clauses inner : List (List Int)}
    (literals : List.Forall₂ List.Perm clauses inner) :
    inner.map List.length = clauses.map List.length := by
  induction literals with
  | nil => rfl
  | cons perm _ ih => rw [List.map_cons, List.map_cons, perm.length_eq, ih]

theorem ofDocument_of_reordered (reordered : Document.Reordered d e) :
    ofDocument e = ofDocument d := by
  cases reordered with
  | clauses inside order =>
      apply Eq.symm
      apply ofDocument_of_perm
      case count => rfl
      case size =>
        rw [lengths, ← map_length_of_forall₂ inside]
        exact order.map List.length
      case content => exact (List.Perm.flatten_congr inside).trans order.flatten

theorem lengths_negated (d : Document) : lengths d.negated = lengths d := by
  simp only [lengths, Document.negated, List.map_map]
  exact List.map_congr_left fun c _ => List.length_map ..

theorem literals_negated (d : Document) : literals d.negated = (literals d).map (- ·) := by
  rw [literals, literals, Document.negated, List.map_flatten]

theorem countP_neg {ls : List Int} (nonzero : ∀ l ∈ ls, l ≠ 0) :
    (ls.map (- ·)).countP (0 < ·) + ls.countP (0 < ·) = ls.length := by
  induction ls with
  | nil => rfl
  | cons l ls ih =>
      have rest := ih fun m member => nonzero m (List.mem_cons_of_mem _ member)
      have first := nonzero l List.mem_cons_self
      simp only [List.map_cons, List.countP_cons, List.length_cons, decide_eq_true_eq]
      split <;> split <;> omega

theorem share_of_add {part other whole : Nat} (split : other + part = whole) :
    share other whole = 1 - share part whole := by
  unfold share
  by_cases none : whole = 0
  · rw [if_pos none, if_pos none]
    norm_num
  · have some : (whole : Rat) ≠ 0 := Nat.cast_ne_zero.mpr none
    have sum : (other : Rat) = whole - part := by
      rw [← split, Nat.cast_add]
      ring
    rw [if_neg none, if_neg none, sum, sub_div, div_self some]

theorem ofDocument_negated (nonzero : ∀ l ∈ literals d, l ≠ 0) :
    ofDocument d.negated =
      { ofDocument d with positiveShare := 1 - (ofDocument d).positiveShare } := by
  have clauses : d.negated.clauses.length = d.clauses.length := List.length_map ..
  have size : ((literals d).map (- ·)).length = (literals d).length := List.length_map ..
  have opposite := share_of_add (countP_neg nonzero)
  simp only [ofDocument, clauses, lengths_negated, literals_negated, size, opposite]
  rfl

/-- The statistics of a well-formed problem. -/
theorem exact_of_wellFormed {d : Document} (fine : Document.WellFormed d.variableCount d.clauses) :
    Exact d := by
  have nonzero : ∀ l ∈ literals d, l ≠ 0 := by
    intro l member
    obtain ⟨c, inside, literal⟩ := List.mem_flatten.mp member
    exact (fine.literals c inside l literal).1
  exact ⟨counted?_eq d, describes d, fun e => ofDocument_of_reordered, ofDocument_negated nonzero⟩

def sample : Document :=
  ⟨2, [[1, -2, 1], [], List.replicate 11 2]⟩

theorem exact_sample :
    Document.WellFormed 2 sample.clauses ∧ (ofDocument sample).overflow = 1 ∧
      (ofDocument sample).positiveShare = 13 / 14 ∧
      (ofDocument sample.negated).positiveShare = 1 / 14 ∧
      ofDocument ⟨2, sample.clauses.reverse⟩ = ofDocument sample := by
  have fine : Document.WellFormed 2 sample.clauses := ⟨by decide, by decide⟩
  have known := exact_of_wellFormed (d := sample) fine
  have share : (ofDocument sample).positiveShare = 13 / 14 := known.describes.share
  have same : List.Forall₂ List.Perm sample.clauses sample.clauses :=
    List.forall₂_same.mpr fun c _ => .refl c
  refine ⟨fine, known.describes.overflow, share, ?_, ?_⟩
  · rw [known.negated, share]
    norm_num
  · exact known.unordered _ (.clauses same (List.reverse_perm _).symm)

end Statistics

end SatClient
