import Mathlib.Data.List.TakeWhile
import SatClient.Proofs.Decimal.Numeral
import SatClient.Proofs.Text.Decimal
import SatClient.Proofs.Text.Trim
/-!
Numbers in free text are read by the grammar of numerals: a text gives a number exactly if it
spells a numeral, and then the number next to what that stands for. The reader first makes every
digit a plain one and drops the low lines; what is left is followed back to the text piece by piece.
-/

namespace SatClient.Decimal

open SatClient.Text

section

variable {c : Char}

theorem isDigit_of_isAsciiDigit (plain : isAsciiDigit c = true) : isDigit c = true := by
  apply isDigit_of_plain
  simpa [isAsciiDigit, Char.isDigit_iff_toNat] using plain

theorem toAsciiDigit_of_not (other : isDigit c = false) : toAsciiDigit c = c := by
  unfold toAsciiDigit
  cases value : digitValue? c with
  | none => rfl
  | some n => simp [isDigit, value] at other

theorem digitValue?_toAsciiDigit (c : Char) : digitValue? (toAsciiDigit c) = digitValue? c := by
  have table : ∀ n < 10, digitValue? (Nat.digitChar n) = some n := by decide
  unfold toAsciiDigit
  cases value : digitValue? c with
  | none => exact value
  | some n => exact table n (lt_of_digitValue? value)

theorem isAsciiDigit_toAsciiDigit (c : Char) : isAsciiDigit (toAsciiDigit c) = isDigit c := by
  have table : ∀ n < 10, isAsciiDigit (Nat.digitChar n) = true := by decide
  cases digit : isDigit c with
  | false =>
      rw [toAsciiDigit_of_not digit, ← Bool.not_eq_true]
      intro plain
      rw [isDigit_of_isAsciiDigit plain] at digit
      cases digit
  | true =>
      obtain ⟨n, value⟩ := Option.isSome_iff_exists.mp digit
      rw [toAsciiDigit, value]
      exact table n (lt_of_digitValue? value)

theorem digitsValue_map_toAsciiDigit (cs : List Char) :
    digitsValue (cs.map toAsciiDigit) = digitsValue cs := by
  simp only [digitsValue, List.foldl_map, digitValue?_toAsciiDigit]

end

section

theorem digitsValue_dropWhile_zero (cs : List Char) :
    digitsValue (cs.dropWhile (· = '0')) = digitsValue cs := by
  induction cs with
  | nil => rfl
  | cons c cs ih =>
      rw [List.dropWhile_cons]
      split
      · next zero =>
          have value : digitValue? '0' = some 0 := by decide
          rw [ih, digitsValue_cons, of_decide_eq_true zero, value, Option.getD_some, Nat.zero_mul,
            Nat.zero_add]
      · rfl

theorem getD_ne_zero {c : Char} (plain : isAsciiDigit c = true) (nonzero : c ≠ '0') :
    (digitValue? c).getD 0 ≠ 0 := by
  have digit : c.isDigit = true := by simpa [isAsciiDigit, Char.isDigit_iff_toNat] using plain
  have low : '0'.toNat ≤ c.toNat := (Char.isDigit_iff_toNat.mp digit).1
  have apart : c.toNat ≠ '0'.toNat := fun same => nonzero (Char.toNat_inj.mp same)
  rw [digitValue?_of_plain digit, Option.getD_some]
  omega

theorem hasDigits_dropWhile {cs : List Char} (plain : ∀ c ∈ cs, isAsciiDigit c = true) :
    Binary64.HasDigits (digitsValue cs) (cs.dropWhile (· = '0')).length := by
  rw [← digitsValue_dropWhile_zero]
  refine ⟨digitsValue_lt _, fun nonzero => ?_⟩
  have first := List.head?_dropWhile_not (· = '0') cs
  have inside := (List.dropWhile_suffix (· = '0') (l := cs)).subset
  cases digits : cs.dropWhile (· = '0') with
  | nil =>
      rw [digits] at nonzero
      exact absurd rfl nonzero
  | cons c ds =>
      rw [digits] at first inside
      have leading : (digitValue? c).getD 0 ≠ 0 :=
        getD_ne_zero (plain c (inside List.mem_cons_self)) (of_decide_eq_false first)
      calc 10 ^ (ds.length + 1) = 10 * (1 * 10 ^ ds.length) := by rw [pow_succ', Nat.one_mul]
        _ ≤ 10 * ((digitValue? c).getD 0 * 10 ^ ds.length) :=
            Nat.mul_le_mul_left 10 (Nat.mul_le_mul_right _ (Nat.pos_of_ne_zero leading))
        _ ≤ 10 * digitsValue (c :: ds) := by
            rw [digitsValue_cons]
            exact Nat.mul_le_mul_left 10 (Nat.le_add_right _ _)

end

def plainOf? (behind : Bool) (cs : List Char) : Option (List Char) :=
  ungroup? behind (cs.map toAsciiDigit)

section

variable {behind : Bool} {c : Char} {cs ps : List Char}

theorem toAsciiDigit_ne (visible : c ≠ '_') : toAsciiDigit c ≠ '_' := by
  cases digit : isDigit c with
  | false => rwa [toAsciiDigit_of_not digit]
  | true =>
      intro same
      have plain := isAsciiDigit_toAsciiDigit c
      rw [same, digit] at plain
      cases plain

theorem plainOf?_cons (visible : c ≠ '_') :
    plainOf? behind (c :: cs) = (plainOf? (isDigit c) cs).map (toAsciiDigit c :: ·) := by
  have other := toAsciiDigit_ne visible
  rw [plainOf?, List.map_cons, ungroup?.eq_3, if_neg other, isAsciiDigit_toAsciiDigit]
  · rfl
  · intro d ds same
    exact absurd same other

theorem plainOf?_digit (digit : isDigit c = true) :
    plainOf? behind (c :: cs) = (plainOf? true cs).map (toAsciiDigit c :: ·) := by
  have visible : c ≠ '_' := by
    rintro rfl
    revert digit
    decide
  rw [plainOf?_cons visible, digit]

theorem plainOf?_other (other : isDigit c = false) (visible : c ≠ '_') :
    plainOf? behind (c :: cs) = (plainOf? false cs).map (c :: ·) := by
  rw [plainOf?_cons visible, other, toAsciiDigit_of_not other]

theorem plainOf?_low :
    plainOf? behind ('_' :: c :: cs) =
      if behind && isDigit c then (plainOf? true cs).map (toAsciiDigit c :: ·) else none := by
  have low : toAsciiDigit '_' = '_' := by decide
  rw [plainOf?, List.map_cons, List.map_cons, low, ungroup?.eq_2, isAsciiDigit_toAsciiDigit]
  rfl

inductive Begins : Bool → List Char → List Char → Prop
  | done {behind : Bool} : Begins behind [] []
  | digit {behind : Bool} {c : Char} {cs ps : List Char} (digit : isDigit c = true)
      (more : plainOf? true cs = some ps) : Begins behind (c :: cs) (toAsciiDigit c :: ps)
  | grouped {c : Char} {cs ps : List Char} (digit : isDigit c = true)
      (more : plainOf? true cs = some ps) : Begins true ('_' :: c :: cs) (toAsciiDigit c :: ps)
  | other {behind : Bool} {c : Char} {cs ps : List Char} (other : isDigit c = false)
      (more : plainOf? false cs = some ps) : Begins behind (c :: cs) (c :: ps)

theorem begins_of_plainOf? (plain : plainOf? behind cs = some ps) : Begins behind cs ps := by
  cases cs with
  | nil =>
      cases plain
      exact .done
  | cons c cs =>
      by_cases low : c = '_'
      · subst low
        cases cs with
        | nil => cases plain
        | cons d ds =>
            rw [plainOf?_low] at plain
            split at plain
            · next between =>
                obtain ⟨behind, digit⟩ := Bool.and_eq_true_iff.mp between
                obtain ⟨rest, more, rfl⟩ := Option.map_eq_some_iff.mp plain
                subst behind
                exact .grouped digit more
            · cases plain
      · rw [plainOf?_cons low] at plain
        obtain ⟨rest, more, rfl⟩ := Option.map_eq_some_iff.mp plain
        cases digit : isDigit c with
        | true =>
            rw [digit] at more
            exact .digit digit more
        | false =>
            rw [digit] at more
            rw [toAsciiDigit_of_not digit]
            exact .other digit more

theorem eq_nil_of_plainOf? (plain : plainOf? behind cs = some []) : cs = [] := by
  cases begins_of_plainOf? plain
  rfl

theorem exists_of_other {p : Char} (plain : plainOf? behind cs = some (p :: ps))
    (other : isAsciiDigit p = false) : ∃ rest, cs = p :: rest ∧ plainOf? false rest = some ps := by
  cases begins_of_plainOf? plain with
  | digit digit _ | grouped digit _ =>
      rw [isAsciiDigit_toAsciiDigit, digit] at other
      cases other
  | other _ more => exact ⟨_, rfl, more⟩

theorem exists_of_others {front : List Char} (plain : plainOf? false cs = some (front ++ ps))
    (others : ∀ p ∈ front, isAsciiDigit p = false) :
    ∃ rest, cs = front ++ rest ∧ plainOf? false rest = some ps := by
  induction front generalizing cs with
  | nil => exact ⟨cs, rfl, plain⟩
  | cons p front ih =>
      obtain ⟨rest, rfl, more⟩ := exists_of_other plain (others p List.mem_cons_self)
      obtain ⟨last, rfl, final⟩ := ih more fun q member => others q (List.mem_cons_of_mem _ member)
      exact ⟨last, rfl, final⟩

theorem exists_of_digits {digits : List Char} (plain : plainOf? behind cs = some (digits ++ ps))
    (all : ∀ d ∈ digits, isAsciiDigit d = true) :
    ∃ run ds rest after, cs = run ++ rest ∧ DigitRun behind run ds ∧
      ds.map toAsciiDigit = digits ∧ plainOf? after rest = some ps := by
  -- a low line only comes behind a digit, so the flag changes after the first one
  induction digits generalizing behind cs with
  | nil => exact ⟨[], [], cs, behind, rfl, .done, rfl, plain⟩
  | cons d digits ih =>
      have first := all d List.mem_cons_self
      have later : ∀ e ∈ digits, isAsciiDigit e = true := fun e member =>
        all e (List.mem_cons_of_mem _ member)
      cases begins_of_plainOf? plain with
      | digit digit more =>
          obtain ⟨run, ds, rest, after, rfl, runs, rfl, final⟩ := ih more later
          exact ⟨_ :: run, _ :: ds, rest, after, rfl, .digit digit runs, rfl, final⟩
      | grouped digit more =>
          obtain ⟨run, ds, rest, after, rfl, runs, rfl, final⟩ := ih more later
          exact ⟨'_' :: _ :: run, _ :: ds, rest, after, rfl, .grouped digit runs, rfl, final⟩
      | other other _ =>
          rw [isDigit_of_isAsciiDigit first] at other
          cases other

theorem plainOf?_append {run ds rest : List Char} (runs : DigitRun behind run ds)
    (more : ∀ after, plainOf? after rest = some ps) :
    plainOf? behind (run ++ rest) = some (ds.map toAsciiDigit ++ ps) := by
  induction runs with
  | done => exact more _
  | digit digit _ ih => rw [List.cons_append, plainOf?_digit digit, ih]; rfl
  | grouped digit _ ih =>
      rw [List.cons_append, List.cons_append, plainOf?_low, Bool.true_and, if_pos digit, ih]
      rfl

theorem plainOf?_run {run ds : List Char} (runs : DigitRun behind run ds) :
    plainOf? behind run = some (ds.map toAsciiDigit) := by
  have whole : plainOf? behind (run ++ []) = some (ds.map toAsciiDigit ++ []) :=
    plainOf?_append runs fun _ => rfl
  rwa [List.append_nil, List.append_nil] at whole

theorem plain_of_run {run ds : List Char} (runs : DigitRun behind run ds) :
    ∀ d ∈ ds.map toAsciiDigit, isAsciiDigit d = true := by
  induction runs with
  | done => nofun
  | digit digit _ ih | grouped digit _ ih =>
      rw [List.map_cons]
      exact List.forall_mem_cons.mpr ⟨(isAsciiDigit_toAsciiDigit _).trans digit, ih⟩

theorem plainOf?_append_others {front : List Char}
    (others : ∀ c ∈ front, isDigit c = false ∧ c ≠ '_') (more : plainOf? false cs = some ps) :
    plainOf? false (front ++ cs) = some (front ++ ps) := by
  induction front with
  | nil => exact more
  | cons c front ih =>
      obtain ⟨other, visible⟩ := others c List.mem_cons_self
      have rest := ih fun d member => others d (List.mem_cons_of_mem _ member)
      rw [List.cons_append, plainOf?_other other visible, rest]
      rfl

end

section

variable {s body : List Char} {negative : Bool}

theorem sign_of_splitSign {ps : List Char} (split : splitSign ps = (negative, body)) :
    ∃ s, ps = s ++ body ∧ Sign s negative := by
  unfold splitSign at split
  split at split
  · cases split
    exact ⟨['-'], rfl, .minus⟩
  · cases split
    exact ⟨['+'], rfl, .plus⟩
  · cases split
    exact ⟨[], rfl, .none⟩

theorem splitSign_append (sign : Sign s negative)
    (unsigned : ∀ c ∈ body.head?, c ≠ '-' ∧ c ≠ '+') :
    splitSign (s ++ body) = (negative, body) := by
  cases sign with
  | plus | minus => rfl
  | none =>
      rw [List.nil_append]
      cases body with
      | nil => rfl
      | cons c cs =>
          obtain ⟨minus, plus⟩ := unsigned c rfl
          exact splitSign.eq_3 _ (fun _ same => minus (List.cons.inj same).1)
            fun _ same => plus (List.cons.inj same).1

theorem other_of_sign (sign : Sign s negative) :
    ∀ c ∈ s, isAsciiDigit c = false ∧ isDigit c = false ∧ c ≠ '_' ∧ isWhiteSpace c = false := by
  cases sign with
  | none => nofun
  | plus | minus => exact List.forall_mem_singleton.mpr (by decide)

theorem plainOf?_sign {cs ps : List Char} (sign : Sign s negative)
    (plain : plainOf? false cs = some ps) : plainOf? false (s ++ cs) = some (s ++ ps) :=
  plainOf?_append_others (fun c member => (other_of_sign sign c member).2.imp_right And.left) plain

end

theorem unsigned_of_plain {c : Char} (plain : isAsciiDigit c = true) : c ≠ '-' ∧ c ≠ '+' := by
  constructor <;> rintro rfl <;> cases plain

section

variable {behind : Bool} {cs tail : List Char} {exponent : Int}

theorem mark_of_asciiLower {mark : Char} (marked : asciiLower mark = 'e') :
    mark = 'e' ∨ mark = 'E' := by
  have table : ∀ n < 0x5B, 0x41 ≤ n → Char.ofNat (n + 32) = 'e' → n = 'E'.toNat := by decide
  unfold asciiLower at marked
  split at marked
  · next inside =>
      simp only [Bool.and_eq_true, decide_eq_true_eq] at inside
      have place := table mark.toNat (by omega) inside.1 marked
      exact Or.inr (Char.toNat_inj.mp place)
  · exact Or.inl marked

theorem power_of_exponent? (plain : plainOf? behind cs = some tail)
    (read : exponent? tail = some exponent) : Power cs exponent := by
  cases tail with
  | nil =>
      cases read
      rw [eq_nil_of_plainOf? plain]
      exact .none
  | cons mark ps =>
      rw [exponent?] at read
      split at read
      · next lower =>
          have marked := mark_of_asciiLower lower
          have letter : isAsciiDigit mark = false := by rcases marked with rfl | rfl <;> rfl
          obtain ⟨cs, rfl, more⟩ := exists_of_other plain letter
          cases signed : splitSign ps with
          | mk negative digits =>
              obtain ⟨s, rfl, sign⟩ := sign_of_splitSign signed
              obtain ⟨cs, rfl, last⟩ := exists_of_others more fun c member =>
                (other_of_sign sign c member).1
              simp only [signed, Bool.or_eq_true, Bool.not_eq_true', ← Bool.not_eq_true] at read
              split at read
              · cases read
              · next given =>
                  obtain ⟨nonempty, all⟩ := not_or.mp given
                  rw [← List.append_nil digits] at last
                  obtain ⟨run, ds, rest, after, rfl, runs, rfl, none⟩ :=
                    exists_of_digits last (List.all_eq_true.mp (not_not.mp all))
                  cases eq_nil_of_plainOf? none
                  cases read
                  rw [List.append_nil, digitsValue_map_toAsciiDigit]
                  refine .some marked sign runs ?_
                  rintro rfl
                  exact nonempty rfl
      · cases read

theorem exists_of_power (power : Power cs exponent) :
    ∃ tail, (∀ after, plainOf? after cs = some tail) ∧ exponent? tail = some exponent ∧
      ∀ c ∈ tail.head?, isAsciiDigit c = false ∧ c ≠ '.' := by
  cases power with
  | none => exact ⟨[], fun _ => rfl, rfl, nofun⟩
  | @some mark s cs ds negative marked sign digits nonempty =>
      have letter : isDigit mark = false ∧ mark ≠ '_' ∧ asciiLower mark = 'e' ∧
          isAsciiDigit mark = false ∧ mark ≠ '.' := by
        rcases marked with rfl | rfl <;> decide
      obtain ⟨other, visible, lower, plain, point⟩ := letter
      have all := plain_of_run digits
      refine ⟨mark :: (s ++ ds.map toAsciiDigit), fun after => ?_, ?_, ?_⟩
      · rw [plainOf?_other other visible, plainOf?_sign sign (plainOf?_run digits)]
        rfl
      · have unsigned : ∀ c ∈ (ds.map toAsciiDigit).head?, c ≠ '-' ∧ c ≠ '+' := fun c first =>
          unsigned_of_plain (all c (List.mem_of_mem_head? first))
        have given : ((ds.map toAsciiDigit).isEmpty ||
            !(ds.map toAsciiDigit).all isAsciiDigit) = false := by
          rw [List.all_eq_true.mpr all]
          simpa using nonempty
        simp only [exponent?, lower, splitSign_append sign unsigned, given, if_true,
          Bool.false_eq_true, if_false, digitsValue_map_toAsciiDigit]
      · rintro c ⟨⟩
        exact ⟨plain, point⟩

end

def readParts (negative : Bool) (whole fraction tail : List Char) : Option Binary64 :=
  if whole.isEmpty && fraction.isEmpty then none
  else
    match exponent? tail with
    | none => none
    | some exponent =>
      let digits := (whole ++ fraction).dropWhile (· = '0')
      some (.ofDecimal negative (digitsValue digits) digits.length (exponent - fraction.length))

section

variable {negative : Bool} {cs whole fraction tail : List Char} {exponent : Int}

theorem finite?_pointed {after : List Char} (point : cs.dropWhile isAsciiDigit = '.' :: after) :
    finite? negative cs = readParts negative (cs.takeWhile isAsciiDigit)
      (after.takeWhile isAsciiDigit) (after.dropWhile isAsciiDigit) := by
  simp only [finite?, point]
  rfl

theorem finite?_whole (first : ∀ c ∈ (cs.dropWhile isAsciiDigit).head?, c ≠ '.') :
    finite? negative cs = readParts negative (cs.takeWhile isAsciiDigit) []
      (cs.dropWhile isAsciiDigit) := by
  unfold finite?
  generalize cs.dropWhile isAsciiDigit = rest at first
  dsimp only
  split
  · exact absurd rfl (first '.' rfl)
  · rfl

theorem exists_of_readParts {x : Binary64}
    (read : readParts negative whole fraction tail = some x) :
    (whole ≠ [] ∨ fraction ≠ []) ∧ ∃ exponent, exponent? tail = some exponent := by
  unfold readParts at read
  split at read
  · cases read
  · next given =>
      cases power : exponent? tail with
      | none => simp [power] at read
      | some exponent =>
          simp only [Bool.and_eq_true, List.isEmpty_iff, not_and_or] at given
          exact ⟨given, exponent, rfl⟩

theorem readParts_of_digits (negative : Bool) {front back : Bool} {ws fs : List Char}
    (before : DigitRun front ws whole) (behind : DigitRun back fs fraction)
    (given : whole ≠ [] ∨ fraction ≠ []) (power : exponent? tail = some exponent) :
    readParts negative (whole.map toAsciiDigit) (fraction.map toAsciiDigit) tail =
      some (Meaning.scaled negative (digitsValue (whole ++ fraction))
        (exponent - fraction.length)).nearest := by
  have plain : ∀ c ∈ (whole ++ fraction).map toAsciiDigit, isAsciiDigit c = true := by
    rw [List.map_append]
    exact List.forall_mem_append.mpr ⟨plain_of_run before, plain_of_run behind⟩
  have filled : ((whole.map toAsciiDigit).isEmpty && (fraction.map toAsciiDigit).isEmpty) =
      false := by
    rcases given with some | some <;> simp [some]
  have long := hasDigits_dropWhile plain
  rw [digitsValue_map_toAsciiDigit] at long
  rw [← Binary64.ofDecimal_of_hasDigits long]
  simp only [readParts, filled, power, Bool.false_eq_true, if_false, ← List.map_append,
    digitsValue_dropWhile_zero, digitsValue_map_toAsciiDigit, List.length_map]

theorem readParts_of_whole (negative : Bool) {front : Bool} {ws : List Char}
    (digits : DigitRun front ws whole) (given : whole ≠ [])
    (power : exponent? tail = some exponent) :
    readParts negative (whole.map toAsciiDigit) [] tail =
      some (Meaning.scaled negative (digitsValue (whole ++ []))
        (exponent - ([] : List Char).length)).nearest := by
  have none : DigitRun false [] [] := .done
  exact readParts_of_digits negative digits none (Or.inl given) power

theorem scaled_of_finite? {body s : List Char} {x : Binary64} (sign : Sign s negative)
    (plain : plainOf? false cs = some body) (read : finite? negative body = some x) :
    ∃ m, Numeral (s ++ cs) m ∧ m.nearest = x := by
  have digits (ps : List Char) : ∀ c ∈ ps.takeWhile isAsciiDigit, isAsciiDigit c = true :=
    fun c => List.mem_takeWhile_imp
  -- each piece of the plain text is followed back to the piece of the text that it came from
  rw [← List.takeWhile_append_dropWhile (p := isAsciiDigit) (l := body)] at plain
  obtain ⟨ws, whole, rest, after, rfl, before, plainWhole, more⟩ :=
    exists_of_digits plain (digits body)
  by_cases point : ∃ ps, body.dropWhile isAsciiDigit = '.' :: ps
  · obtain ⟨ps, point⟩ := point
    rw [finite?_pointed point, ← plainWhole] at read
    rw [point] at more
    obtain ⟨rest, rfl, follows⟩ := exists_of_other more rfl
    rw [← List.takeWhile_append_dropWhile (p := isAsciiDigit) (l := ps)] at follows
    obtain ⟨fs, fraction, es, after, rfl, behind, plainFraction, last⟩ :=
      exists_of_digits follows (digits ps)
    rw [← plainFraction] at read
    obtain ⟨given, exponent, power⟩ := exists_of_readParts read
    simp only [ne_eq, List.map_eq_nil_iff] at given
    rw [readParts_of_digits negative before behind given power] at read
    have numeral := Numeral.scaled sign (.pointed before behind given)
      (power_of_exponent? last power)
    rw [List.append_assoc, List.cons_append] at numeral
    exact ⟨_, numeral, Option.some.inj read⟩
  · have first : ∀ c ∈ (body.dropWhile isAsciiDigit).head?, c ≠ '.' := by
      rintro c front rfl
      obtain ⟨ps, rest⟩ := List.head?_eq_some_iff.mp front
      exact point ⟨ps, rest⟩
    rw [finite?_whole first, ← plainWhole] at read
    obtain ⟨given, exponent, power⟩ := exists_of_readParts read
    simp only [ne_eq, List.map_eq_nil_iff, not_true_eq_false, or_false] at given
    rw [readParts_of_whole negative before given power] at read
    have numeral := Numeral.scaled sign (.whole before given) (power_of_exponent? more power)
    exact ⟨_, numeral, Option.some.inj read⟩

theorem span_digits {ds rest : List Char} (plain : ∀ d ∈ ds, isAsciiDigit d = true)
    (apart : ∀ c ∈ rest.head?, isAsciiDigit c = false) :
    (ds ++ rest).takeWhile isAsciiDigit = ds ∧ (ds ++ rest).dropWhile isAsciiDigit = rest := by
  constructor
  · rw [List.takeWhile_append_of_pos plain, takeWhile_of_head? apart, List.append_nil]
  · rw [List.dropWhile_append_of_pos plain, dropWhile_of_head? apart]

theorem exists_of_fixed (negative : Bool) {es : List Char} (fixed : Fixed cs whole fraction)
    (power : Power es exponent) :
    ∃ body, plainOf? false (cs ++ es) = some body ∧
      finite? negative body = some (Meaning.scaled negative (digitsValue (whole ++ fraction))
        (exponent - fraction.length)).nearest ∧
      ∃ c ∈ body.head?, isAsciiDigit c = true ∨ c = '.' := by
  obtain ⟨tail, plain, read, apart⟩ := exists_of_power power
  cases fixed with
  | whole digits given =>
      obtain ⟨taken, dropped⟩ := span_digits (plain_of_run digits) fun c first => (apart c first).1
      refine ⟨whole.map toAsciiDigit ++ tail, plainOf?_append digits plain, ?_, ?_⟩
      · rw [finite?_whole, taken, dropped]
        · exact readParts_of_whole negative digits given read
        · rw [dropped]
          exact fun c first => (apart c first).2
      · obtain ⟨c, ds, rfl⟩ := List.exists_cons_of_ne_nil given
        exact ⟨_, rfl, Or.inl (plain_of_run digits _ List.mem_cons_self)⟩
  | @pointed ws fs _ _ before behind given =>
      have point : ∀ c ∈ ('.' :: (fraction.map toAsciiDigit ++ tail)).head?,
          isAsciiDigit c = false := by
        rintro c ⟨⟩
        rfl
      obtain ⟨taken, dropped⟩ := span_digits (plain_of_run before) point
      obtain ⟨taken', dropped'⟩ :=
        span_digits (plain_of_run behind) fun c first => (apart c first).1
      refine ⟨whole.map toAsciiDigit ++ '.' :: (fraction.map toAsciiDigit ++ tail), ?_, ?_, ?_⟩
      · rw [List.append_assoc, List.cons_append]
        refine plainOf?_append before fun after => ?_
        rw [plainOf?_other (by decide) (by decide), plainOf?_append behind plain]
        rfl
      · rw [finite?_pointed dropped, taken, taken', dropped']
        exact readParts_of_digits negative before behind given read
      · cases whole with
        | nil => exact ⟨'.', rfl, Or.inr rfl⟩
        | cons c ds => exact ⟨_, rfl, Or.inl (plain_of_run before _ List.mem_cons_self)⟩

end

def IsLetter (c : Char) : Prop :=
  (0x41 ≤ c.toNat ∧ c.toNat ≤ 0x5A) ∨ (0x61 ≤ c.toNat ∧ c.toNat ≤ 0x7A)

theorem isDigit_of_isLetter {c : Char} (letter : IsLetter c) : isDigit c = false := by
  have table : ∀ first ∈ digitZeros, first = 0x30 ∨ 0x660 ≤ first := by decide
  rw [← Bool.not_eq_true]
  intro digit
  obtain ⟨n, value⟩ := Option.isSome_iff_exists.mp digit
  obtain ⟨first, member, low, high, _⟩ := exists_of_digitValue? value
  have place := table first member
  unfold IsLetter at letter
  omega

theorem isWhiteSpace_of_isLetter {c : Char} (letter : IsLetter c) : isWhiteSpace c = false := by
  have visible : isBlank c = false := by
    rw [← Bool.not_eq_true]
    unfold IsLetter at letter
    simp only [isBlank, Bool.or_eq_true, Bool.and_eq_true, decide_eq_true_eq, beq_iff_eq]
    omega
  rw [isWhiteSpace, visible, Bool.false_and]

theorem ne_of_isLetter {c : Char} (letter : IsLetter c) : c ≠ '_' ∧ c ≠ '-' ∧ c ≠ '+' := by
  refine ⟨?_, ?_, ?_⟩ <;> rintro rfl <;> revert letter <;> simp [IsLetter]

theorem isLetter_of_asciiLower {c : Char} (lower : 0x61 ≤ (asciiLower c).toNat)
    (upper : (asciiLower c).toNat ≤ 0x7A) : IsLetter c := by
  unfold asciiLower at lower upper
  split at lower
  · next inside =>
      simp only [Bool.and_eq_true, decide_eq_true_eq] at inside
      exact Or.inl inside
  · next outside =>
      rw [if_neg outside] at upper
      exact Or.inr ⟨lower, upper⟩

def names : List (List Char) :=
  [['n', 'a', 'n'], ['i', 'n', 'f'], ['i', 'n', 'f', 'i', 'n', 'i', 't', 'y']]

theorem letters_of_named {name : List Char} (named : name.map asciiLower ∈ names) :
    ∀ c ∈ name, IsLetter c := by
  have table : ∀ n ∈ names, n.all (fun d => 0x61 ≤ d.toNat && d.toNat ≤ 0x7A) = true := by decide
  intro c member
  have range := List.all_eq_true.mp (table _ named) _ (List.mem_map_of_mem member)
  simp only [Bool.and_eq_true, decide_eq_true_eq] at range
  exact isLetter_of_asciiLower range.1 range.2

theorem unsigned_of_named {name : List Char} (named : name.map asciiLower ∈ names) :
    ∀ c ∈ name.head?, c ≠ '-' ∧ c ≠ '+' := fun c first =>
  (ne_of_isLetter (letters_of_named named c (List.mem_of_mem_head? first))).2

section

variable {cs s body : List Char} {negative : Bool} {m : Meaning} {x : Binary64}

theorem plainOf?_named {name : List Char} (named : name.map asciiLower ∈ names) :
    plainOf? false name = some name := by
  have letters := letters_of_named named
  have none : plainOf? false [] = some [] := rfl
  have plain := plainOf?_append_others (fun c member =>
    ⟨isDigit_of_isLetter (letters c member), (ne_of_isLetter (letters c member)).1⟩) none
  rwa [List.append_nil] at plain

theorem eq_of_named (named : body.map asciiLower ∈ names)
    (plain : plainOf? false cs = some body) : cs = body := by
  have others : ∀ c ∈ body, isAsciiDigit c = false := by
    intro c member
    rw [← Bool.not_eq_true]
    intro digit
    have letter := isDigit_of_isLetter (letters_of_named named c member)
    rw [isDigit_of_isAsciiDigit digit] at letter
    cases letter
  rw [← List.append_nil body] at plain
  obtain ⟨rest, rfl, none⟩ := exists_of_others plain others
  rw [eq_nil_of_plainOf? none, List.append_nil]

theorem plainNumber?_eq_some {ps : List Char} (signed : splitSign ps = (negative, body)) :
    plainNumber? ps = some x ↔
      body.map asciiLower = ['n', 'a', 'n'] ∧ x = .nan ∨
      (body.map asciiLower = ['i', 'n', 'f'] ∨
        body.map asciiLower = ['i', 'n', 'f', 'i', 'n', 'i', 't', 'y']) ∧ x = .infinity negative ∨
      body.map asciiLower ∉ names ∧ finite? negative body = some x := by
  simp only [plainNumber?, signed]
  generalize body.map asciiLower = name
  split
  · next named =>
      subst named
      constructor
      · rintro ⟨⟩
        exact Or.inl ⟨rfl, rfl⟩
      · rintro (⟨_, rfl⟩ | ⟨other, _⟩ | ⟨unnamed, _⟩)
        · rfl
        · simp at other
        · simp [names] at unnamed
  · next unknown =>
      split
      · next named =>
          simp only [Bool.or_eq_true, decide_eq_true_eq] at named
          constructor
          · rintro ⟨⟩
            exact Or.inr (Or.inl ⟨named, rfl⟩)
          · rintro (⟨nan, _⟩ | ⟨_, rfl⟩ | ⟨unnamed, _⟩)
            · exact absurd nan unknown
            · rfl
            · simp [names, named] at unnamed
      · next unnamed =>
          simp only [Bool.or_eq_true, decide_eq_true_eq] at unnamed
          have out : name ∉ names := by simpa [names, unknown] using unnamed
          simp [unknown, unnamed, out]

theorem numeral_of_plainNumber? {ps : List Char} (plain : plainOf? false cs = some ps)
    (read : plainNumber? ps = some x) : ∃ m, Numeral cs m ∧ m.nearest = x := by
  cases signed : splitSign ps with
  | mk negative body =>
      obtain ⟨s, rfl, sign⟩ := sign_of_splitSign signed
      obtain ⟨cs, rfl, more⟩ := exists_of_others plain fun c member =>
        (other_of_sign sign c member).1
      rcases (plainNumber?_eq_some signed).mp read with ⟨named, rfl⟩ | ⟨named, rfl⟩ | ⟨_, finite⟩
      · rw [eq_of_named (by simp [names, named]) more]
        exact ⟨_, .nan sign named, rfl⟩
      · rw [eq_of_named (by simpa [names] using Or.inr named) more]
        exact ⟨_, .infinity sign named, rfl⟩
      · exact scaled_of_finite? sign more finite

theorem exists_of_numeral (numeral : Numeral cs m) :
    ∃ ps, plainOf? false cs = some ps ∧ plainNumber? ps = some m.nearest := by
  cases numeral with
  | @nan s name negative sign named =>
      have known : name.map asciiLower ∈ names := by simp [names, named]
      refine ⟨s ++ name, plainOf?_sign sign (plainOf?_named known), ?_⟩
      rw [plainNumber?_eq_some (splitSign_append sign (unsigned_of_named known))]
      exact Or.inl ⟨named, rfl⟩
  | @infinity s name negative sign named =>
      have known : name.map asciiLower ∈ names := by simpa [names] using Or.inr named
      refine ⟨s ++ name, plainOf?_sign sign (plainOf?_named known), ?_⟩
      rw [plainNumber?_eq_some (splitSign_append sign (unsigned_of_named known))]
      exact Or.inr (Or.inl ⟨named, rfl⟩)
  | @scaled s cs es whole fraction negative exponent sign fixed power =>
      obtain ⟨body, plain, read, c, first, opens⟩ := exists_of_fixed negative fixed power
      have unsigned : ∀ d ∈ body.head?, d ≠ '-' ∧ d ≠ '+' := by
        intro d front
        cases Option.some.inj (first.symm.trans front)
        rcases opens with digit | rfl
        · exact unsigned_of_plain digit
        · decide
      have unnamed : body.map asciiLower ∉ names := by
        intro named
        have letter := letters_of_named named c (List.mem_of_mem_head? first)
        rcases opens with digit | rfl
        · have other := isDigit_of_isLetter letter
          rw [isDigit_of_isAsciiDigit digit] at other
          cases other
        · revert letter
          simp [IsLetter]
      refine ⟨s ++ body, plainOf?_sign sign plain, ?_⟩
      rw [plainNumber?_eq_some (splitSign_append sign unsigned)]
      exact Or.inr (Or.inr ⟨unnamed, read⟩)

end

section

variable {cs : List Char}

theorem isWhiteSpace_of_isDigit {c : Char} (digit : isDigit c = true) : isWhiteSpace c = false := by
  rw [isWhiteSpace, isBlank_of_isDigit digit, Bool.false_and]

theorem solid_of_run {behind : Bool} {ds : List Char} (runs : DigitRun behind cs ds) :
    ∀ c ∈ cs, isWhiteSpace c = false := by
  induction runs with
  | done => nofun
  | digit digit _ ih => exact List.forall_mem_cons.mpr ⟨isWhiteSpace_of_isDigit digit, ih⟩
  | grouped digit _ ih =>
      have low : isWhiteSpace '_' = false := by decide
      exact List.forall_mem_cons.mpr
        ⟨low, List.forall_mem_cons.mpr ⟨isWhiteSpace_of_isDigit digit, ih⟩⟩

theorem solid_of_power {exponent : Int} (power : Power cs exponent) :
    ∀ c ∈ cs, isWhiteSpace c = false := by
  cases power with
  | none => nofun
  | some marked sign digits _ =>
      refine List.forall_mem_cons.mpr ⟨?_, List.forall_mem_append.mpr ⟨?_, solid_of_run digits⟩⟩
      · rcases marked with rfl | rfl <;> decide
      · exact fun c member => (other_of_sign sign c member).2.2.2

theorem solid_of_fixed {whole fraction : List Char} (fixed : Fixed cs whole fraction) :
    ∀ c ∈ cs, isWhiteSpace c = false := by
  cases fixed with
  | whole digits _ => exact solid_of_run digits
  | pointed before behind _ =>
      have point : isWhiteSpace '.' = false := by decide
      exact List.forall_mem_append.mpr
        ⟨solid_of_run before, List.forall_mem_cons.mpr ⟨point, solid_of_run behind⟩⟩

theorem solid_of_numeral {m : Meaning} (numeral : Numeral cs m) :
    ∀ c ∈ cs, isWhiteSpace c = false := by
  have signs {s : List Char} {negative : Bool} (sign : Sign s negative) :
      ∀ c ∈ s, isWhiteSpace c = false := fun c member => (other_of_sign sign c member).2.2.2
  have letters {name : List Char} (named : name.map asciiLower ∈ names) :
      ∀ c ∈ name, isWhiteSpace c = false := fun c member =>
    isWhiteSpace_of_isLetter (letters_of_named named c member)
  cases numeral with
  | nan sign named =>
      exact List.forall_mem_append.mpr ⟨signs sign, letters (by simp [names, named])⟩
  | infinity sign named =>
      exact List.forall_mem_append.mpr
        ⟨signs sign, letters (by simpa [names] using Or.inr named)⟩
  | scaled sign fixed power =>
      exact List.forall_mem_append.mpr ⟨signs sign,
        List.forall_mem_append.mpr ⟨solid_of_fixed fixed, solid_of_power power⟩⟩

theorem exists_trimNumber (cs : List Char) :
    ∃ before after, cs = before ++ (trimNumber cs ++ after) ∧
      (∀ c ∈ before, isWhiteSpace c = true) ∧ ∀ c ∈ after, isWhiteSpace c = true := by
  have white (ps : List Char) : ∀ c ∈ ps.takeWhile isWhiteSpace, isWhiteSpace c = true :=
    fun c => List.mem_takeWhile_imp
  refine ⟨cs.takeWhile isWhiteSpace,
    ((cs.dropWhile isWhiteSpace).reverse.takeWhile isWhiteSpace).reverse, ?_, white cs, ?_⟩
  · rw [trimNumber, dropEndWhile, ← List.reverse_append, List.takeWhile_append_dropWhile,
      List.reverse_reverse, List.takeWhile_append_dropWhile]
  · exact fun c member => white _ c (List.mem_reverse.mp member)

theorem trimNumber_of_solid {before after : List Char} (solid : ∀ c ∈ cs, isWhiteSpace c = false)
    (front : ∀ c ∈ before, isWhiteSpace c = true) (back : ∀ c ∈ after, isWhiteSpace c = true) :
    trimNumber (before ++ (cs ++ after)) = cs := by
  rw [trimNumber, List.dropWhile_append_of_pos front]
  cases cs with
  | nil =>
      have gone : after.dropWhile isWhiteSpace = [] := List.dropWhile_eq_nil_iff.mpr back
      rw [List.nil_append, gone]
      rfl
  | cons c cs =>
      have first : ∀ d ∈ (c :: cs ++ after).head?, isWhiteSpace d = false := by
        rintro d ⟨⟩
        exact solid c List.mem_cons_self
      have last : ∀ d ∈ (c :: cs).getLast?, isWhiteSpace d = false := fun d final =>
        solid d (List.mem_of_mem_getLast? final)
      rw [dropWhile_of_head? first, dropEndWhile_append_of_last last, dropEndWhile_of_all back,
        List.append_nil]

end

theorem number?_eq_bind (cs : List Char) :
    number? cs = (plainOf? false (trimNumber cs)).bind plainNumber? := by
  unfold number? plainOf?
  cases ungroup? false ((trimNumber cs).map toAsciiDigit) <;> rfl

/-- A text gives a number exactly if it spells a numeral, and then the number next to what that
stands for. -/
theorem number?_eq_some_iff (cs : List Char) (x : Binary64) :
    number? cs = some x ↔ ∃ m, Spells cs m ∧ m.nearest = x := by
  rw [number?_eq_bind, Option.bind_eq_some_iff]
  constructor
  · rintro ⟨ps, plain, read⟩
    obtain ⟨m, numeral, nearest⟩ := numeral_of_plainNumber? plain read
    obtain ⟨before, after, whole, front, back⟩ := exists_trimNumber cs
    have spells := Spells.surrounded front numeral back
    rw [← whole] at spells
    exact ⟨m, spells, nearest⟩
  · rintro ⟨m, ⟨front, numeral, back⟩, rfl⟩
    rw [trimNumber_of_solid (solid_of_numeral numeral) front back]
    exact exists_of_numeral numeral

/-- Digits of two scripts with a low line between them, and a point with nothing behind it. -/
example : (number? [' ', '1', '_', '٣', '.', 'E', '-', '2', '\n']).isSome = true := by decide

theorem number?_isPositive_iff (cs : List Char) :
    (∃ x, number? cs = some x ∧ x.isPositive = true) ↔ ∃ m, Spells cs m ∧ m.IsPositive := by
  simp only [number?_eq_some_iff]
  constructor
  · rintro ⟨_, ⟨m, spells, rfl⟩, positive⟩
    exact ⟨m, spells, (isPositive_nearest m).mp positive⟩
  · rintro ⟨m, spells, positive⟩
    exact ⟨m.nearest, ⟨m, spells, rfl⟩, (isPositive_nearest m).mpr positive⟩

end SatClient.Decimal
