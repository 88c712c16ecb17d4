import SatClient.Proofs.Properties.Line
import SatClient.Proofs.Text.Layout
/-!
A properties text is read line by line: its entries are those of its lines, in their order. So texts
are put together at line breaks, of which it does not matter which ones they are, lines without an
entry may come and go, and for each key the last of its lines decides.
-/

namespace SatClient.Properties

open SatClient.Text

def Idle (line : List Char) : Prop :=
  ∀ c ∈ line.find? (!isBlank ·), c = '#' ∨ c = '!'

instance : DecidablePred Idle := fun line =>
  decidable_of_iff ((line.find? (!isBlank ·)).all (fun c => c = '#' ∨ c = '!') = true) <| by
    simp only [Idle, Option.all_eq_true, Option.mem_def, decide_eq_true_eq]

structure Composes (text : List Char) : Prop where
  /-- A text behind a break overrides the one before it, whatever stands on either side. -/
  joined : ∀ rest, ∀ mark ∈ breaks, ∀ key, (parse (text ++ (mark ++ rest))).get? key =
    ((parse rest).get? key).or ((parse text).get? key)
  laid : ∃ layout : Layout, layout.text = text
  /-- The last of the lines for a key gives it the value that is read. -/
  last : ∀ layout : Layout, layout.text = text → ∀ before line after,
    layout.lines = before ++ line :: after → ∀ key, IsFor key line →
      (∀ l ∈ after, ¬ IsFor key l) →
        (∃ value, Stands key value line) ∧
          ∀ value, Stands key value line ↔ (parse text).get? key = some value
  /-- Blank lines and comments may be put in and left out. -/
  idle : ∀ layout other : Layout, layout.text = text →
    layout.lines.filter (¬ Idle ·) = other.lines.filter (¬ Idle ·) →
      parse other.text = parse text
  /-- Lines may change places as long as those for the same key keep their order. -/
  reordered : ∀ layout other : Layout, layout.text = text →
    (∀ key, layout.lines.filter (IsFor key ·) = other.lines.filter (IsFor key ·)) →
      ∀ key, (parse other.text).get? key = (parse text).get? key
  rebroken : ∀ layout other : Layout, layout.text = text → layout.lines = other.lines →
    parse other.text = parse text

theorem pair?_of_idle {line : List Char} (idle : Idle line) : pair? line = none := by
  cases visible : isAllBlank line with
  | true => exact pair?_of_gap (List.all_eq_true.mp visible)
  | false =>
      obtain ⟨pad, c, rest, rfl, gap, shown⟩ := exists_visible visible
      have blank : pad.find? (!isBlank ·) = none := by
        apply List.find?_eq_none.mpr
        intro d member
        simp [gap d member]
      have first : (pad ++ c :: rest).find? (!isBlank ·) = some c := by
        simp [List.find?_append, blank, shown]
      have comment : isComment (c :: dropEndWhile isBlank rest) = true := by
        simpa [isComment] using idle c first
      rw [pair?, trim_append_cons gap shown, comment, Bool.or_true]
      rfl

/-- Behind a break the reading starts anew; CR LF is a break with an empty line in it. -/
theorem entries_append_mark {line mark : List Char} (whole : IsLine line) (ends : mark ∈ breaks)
    (rest : List Char) :
    entries (line ++ mark ++ rest) = [line].filterMap pair? ++ entries rest := by
  rw [List.append_assoc]
  rcases mem_breaks_iff.mp ends with rfl | ⟨b, rfl, single⟩
  · have empty : IsLine [] := nofun
    have feed := entries_append_break empty (b := '\n') rfl rest
    calc
      entries (line ++ '\r' :: '\n' :: rest) =
          [line].filterMap pair? ++ entries ('\n' :: rest) :=
        entries_append_break whole rfl _
      _ = [line].filterMap pair? ++ entries rest := congrArg _ feed
  · exact entries_append_break whole single rest

theorem entries_flatMap_append {ended : List (List Char × List Char)}
    (whole : ∀ piece ∈ ended, IsLine piece.1 ∧ piece.2 ∈ breaks) (rest : List Char) :
    entries (ended.flatMap (fun piece => piece.1 ++ piece.2) ++ rest) =
      (ended.map Prod.fst).filterMap pair? ++ entries rest := by
  induction ended with
  | nil => rfl
  | cons piece ended ih =>
      obtain ⟨⟨first, mark⟩, later⟩ := List.forall_mem_cons.mp whole
      rw [List.flatMap_cons, List.append_assoc, entries_append_mark first mark, ih later,
        ← List.append_assoc, ← List.filterMap_append]
      rfl

theorem entries_layout (layout : Layout) : entries layout.text = layout.lines.filterMap pair? := by
  rw [Layout.text, entries_flatMap_append layout.whole, entries_of_whole layout.lastWhole,
    ← List.filterMap_append]
  rfl

theorem entries_append (text : List Char) {mark : List Char} (ends : mark ∈ breaks)
    (rest : List Char) : entries (text ++ (mark ++ rest)) = entries text ++ entries rest := by
  obtain ⟨layout, rfl⟩ := exists_layout text
  have last : entries (layout.last ++ (mark ++ rest)) =
      entries layout.last ++ entries rest := by
    rw [← List.append_assoc, entries_append_mark layout.lastWhole ends,
      entries_of_whole layout.lastWhole]
  rw [Layout.text, List.append_assoc, entries_flatMap_append layout.whole, last,
    entries_flatMap_append layout.whole, List.append_assoc]

theorem get?_append (text : List Char) {mark : List Char} (ends : mark ∈ breaks)
    (rest : List Char) (key : String) :
    (parse (text ++ (mark ++ rest))).get? key =
      ((parse rest).get? key).or ((parse text).get? key) := by
  simp only [get?_parse, entries_append text ends, List.reverse_append, List.lookup_append]

theorem lookup_filter (pairs : List (String × String)) (key : String) :
    (pairs.filter (·.1 == key)).lookup key = pairs.lookup key := by
  induction pairs with
  | nil => rfl
  | cons pair pairs ih =>
      obtain ⟨k, value⟩ := pair
      by_cases same : k = key
      · simp [same]
      · have differ : (key == k) = false := beq_false_of_ne (Ne.symm same)
        simp [List.lookup_cons, same, differ, ih]

/-- Only the lines for a key have a part in its value. -/
theorem get?_layout (layout : Layout) (key : String) :
    (parse layout.text).get? key =
      ((layout.lines.filter (IsFor key ·)).filterMap pair?).reverse.lookup key := by
  have kept : (layout.lines.filterMap pair?).filter (·.1 == key) =
      (layout.lines.filter (IsFor key ·)).filterMap pair? := by
    rw [List.filter_filterMap, List.filterMap_filter]
    apply List.filterMap_congr
    intro line _
    simp only [isFor_iff]
    cases pair? line <;> simp [Option.filter]
  rw [get?_parse, entries_layout, ← kept, ← lookup_filter, List.filter_reverse]

theorem filterMap_pair?_of_idle (lines : List (List Char)) :
    (lines.filter (¬ Idle ·)).filterMap pair? = lines.filterMap pair? := by
  rw [List.filterMap_filter]
  apply List.filterMap_congr
  intro line _
  by_cases idle : Idle line
  · simp [idle, pair?_of_idle idle]
  · simp [idle]

theorem get?_of_last {layout : Layout} {before after : List (List Char)} {line : List Char}
    (cut : layout.lines = before ++ line :: after) {key : String} (here : IsFor key line)
    (final : ∀ l ∈ after, ¬ IsFor key l) :
    ∃ value, pair? line = some (key, value) ∧ (parse layout.text).get? key = some value := by
  obtain ⟨value, given⟩ := exists_pair?_of_isFor here
  have none : after.filter (IsFor key ·) = [] := by
    apply List.filter_eq_nil_iff.mpr
    intro l member
    simpa using final l member
  have found : (decide (IsFor key line)) = true := decide_eq_true here
  refine ⟨value, given, ?_⟩
  rw [get?_layout, cut, List.filter_append, List.filter_cons, if_pos found, none,
    List.filterMap_append, List.reverse_append]
  simp [given]

/-- A text is read by its lines, whatever its breaks, its comments and the order of its keys. -/
theorem composes (text : List Char) : Composes text := by
  constructor
  case joined =>
    intro rest mark ends key
    exact get?_append text ends rest key
  case laid => exact exists_layout text
  case last =>
    rintro layout rfl before line after cut key here final
    obtain ⟨value, given, found⟩ := get?_of_last cut here final
    refine ⟨⟨value, pair?_eq_some.mp given⟩, ?_⟩
    intro other
    rw [← pair?_eq_some, given, found, Option.some.injEq, Option.some.injEq, Prod.mk.injEq]
    exact and_iff_right rfl
  case idle =>
    rintro layout other rfl same
    rw [parse, parse, entries_layout, entries_layout, ← filterMap_pair?_of_idle other.lines,
      ← same, filterMap_pair?_of_idle]
  case reordered =>
    rintro layout other rfl same key
    rw [get?_layout, get?_layout, same]
  case rebroken =>
    rintro layout other rfl same
    rw [parse, parse, entries_layout, entries_layout, same]

/-- CR LF at the seam is one break, and the later entry for a key keeps the place of the first. -/
example : parse ("k=1\r".toList ++ (['\n'] ++ "# l\u2028m 2\x0bk: 3".toList)) =
    ⟨[("k", "3"), ("m", "2")]⟩ := by
  decide

end SatClient.Properties
