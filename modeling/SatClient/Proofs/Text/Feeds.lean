import SatClient.Proofs.Text.Trim
import SatClient.Text.Newline
/-!
Lines that end with LF alone, against the cut at every line break. Of a text without CR, as streams
give it, the cut makes the lines that the text has once each of its breaks is a line feed; the break
that stood there is gone, so the cut is right for the texts that break their lines with LF only.
-/

namespace SatClient.Text

/-- The lines of a text whose lines end with LF; behind the last LF an empty line does not count. -/
def feedLines (cs : List Char) : List (List Char) :=
  if (cs.splitOn '\n').getLast? = some [] then (cs.splitOn '\n').dropLast else cs.splitOn '\n'

def IsOpen (cs : List Char) : Prop :=
  ∃ c ∈ cs.getLast?, c ≠ '\n'

instance : DecidablePred IsOpen := fun cs =>
  decidable_of_iff (cs.getLast?.any (· ≠ '\n') = true) <| by
    simp only [IsOpen, Option.any_eq_true, Option.mem_def, decide_eq_true_eq]

def closed (cs : List Char) : List Char :=
  if IsOpen cs then cs ++ ['\n'] else cs

def asFeed (c : Char) : Char :=
  if isLineBreak c then '\n' else c

def BreaksAtFeeds (cs : List Char) : Prop :=
  ∀ c ∈ cs, isLineBreak c = true → c = '\n'

instance : DecidablePred BreaksAtFeeds := fun cs =>
  List.decidableBAll (fun c => isLineBreak c = true → c = '\n') cs

theorem not_mem_normalizeNewlines (cs : List Char) : '\r' ∉ normalizeNewlines cs := by
  induction cs using normalizeNewlines.induct with
  | case1 => exact List.not_mem_nil
  | case2 cs ih => simpa [normalizeNewlines] using ih
  | case3 c cs single ih =>
      have other : '\r' ≠ if c = '\r' then '\n' else c := by
        split
        · decide
        · next apart => exact Ne.symm apart
      rw [normalizeNewlines.eq_3 c cs single]
      exact List.not_mem_cons_of_ne_of_not_mem other ih

theorem asFeed_eq_feed {c : Char} : asFeed c = '\n' ↔ isLineBreak c = true := by
  cases broken : isLineBreak c with
  | true => simp [asFeed, broken]
  | false =>
      have apart : c ≠ '\n' := by
        rintro rfl
        cases broken
      simp [asFeed, broken, apart]

theorem asFeed_of_feed {c : Char} (feed : isLineBreak c = true → c = '\n') : asFeed c = c := by
  cases broken : isLineBreak c with
  | true => rw [asFeed_eq_feed.mpr broken, feed broken]
  | false => simp [asFeed, broken]

theorem isOpen_cons {c : Char} {cs : List Char} (more : cs ≠ []) :
    IsOpen (c :: cs) ↔ IsOpen cs := by
  obtain ⟨d, cs, rfl⟩ := List.exists_cons_of_ne_nil more
  rw [IsOpen, IsOpen, List.getLast?_cons_cons]

theorem closed_cons_feed (cs : List Char) : closed ('\n' :: cs) = '\n' :: closed cs := by
  cases cs with
  | nil => rfl
  | cons d cs =>
      simp only [closed, isOpen_cons (List.cons_ne_nil d cs)]
      split <;> rfl

theorem closed_cons_of_ne {c : Char} (apart : c ≠ '\n') (cs : List Char) :
    closed (c :: cs) = c :: if cs = [] then ['\n'] else closed cs := by
  cases cs with
  | nil =>
      have unended : IsOpen [c] := ⟨c, rfl, apart⟩
      rw [closed, if_pos unended]
      rfl
  | cons d cs =>
      simp only [closed, isOpen_cons (List.cons_ne_nil d cs), if_neg (List.cons_ne_nil d cs)]
      split <;> rfl

theorem feedLines_cons_feed (cs : List Char) : feedLines ('\n' :: cs) = [] :: feedLines cs := by
  have cut : ('\n' :: cs).splitOn '\n' = [] :: cs.splitOn '\n' := by
    rw [List.splitOn_cons_eq_if_modifyHead, if_pos (beq_self_eq_true '\n')]
  obtain ⟨piece, pieces, rest⟩ := List.exists_cons_of_ne_nil (List.splitOn_ne_nil '\n' cs)
  simp only [feedLines, cut, rest, List.getLast?_cons_cons, List.dropLast_cons_cons]
  split <;> rfl

theorem feedLines_cons_of_ne {c : Char} (apart : c ≠ '\n') (cs : List Char) :
    feedLines (c :: cs) = extendFirst c (feedLines cs) := by
  have cut : (c :: cs).splitOn '\n' = (cs.splitOn '\n').modifyHead (List.cons c) := by
    rw [List.splitOn_cons_eq_if_modifyHead, if_neg (by simpa using apart)]
  obtain ⟨piece, pieces, rest⟩ := List.exists_cons_of_ne_nil (List.splitOn_ne_nil '\n' cs)
  simp only [feedLines, cut, rest, List.modifyHead_cons]
  cases pieces with
  | nil => cases piece <;> simp [extendFirst]
  | cons next pieces =>
      simp only [List.getLast?_cons_cons, List.dropLast_cons_cons]
      split <;> rfl

/-- The cut at every break is the cut at line feeds of the text with a feed for each break. -/
theorem lines_of_free {cs : List Char} (free : '\r' ∉ cs) :
    lines cs = feedLines (cs.map asFeed) := by
  induction cs with
  | nil => rfl
  | cons c cs ih =>
      have other : c ≠ '\r' := fun same => free (same ▸ List.mem_cons_self)
      have rest := ih fun member => free (List.mem_cons_of_mem c member)
      rw [lines.eq_3 c cs fun tail same _ => other same, List.map_cons, rest]
      by_cases broken : isLineBreak c = true
      · rw [if_pos broken, asFeed_eq_feed.mpr broken, feedLines_cons_feed]
      · have apart : asFeed c ≠ '\n' := mt asFeed_eq_feed.mp broken
        rw [asFeed_of_feed fun ends => absurd ends broken] at apart ⊢
        rw [if_neg broken, feedLines_cons_of_ne apart]

theorem flatMap_extendFirst (c : Char) (pieces : List (List Char)) :
    (extendFirst c pieces).flatMap (· ++ ['\n']) =
      c :: if pieces = [] then ['\n'] else pieces.flatMap (· ++ ['\n']) := by
  cases pieces <;> rfl

theorem feedLines_eq_nil (cs : List Char) : feedLines cs = [] ↔ cs = [] := by
  cases cs with
  | nil => exact iff_of_true rfl rfl
  | cons c cs =>
      refine iff_of_false ?_ (List.cons_ne_nil c cs)
      by_cases feed : c = '\n'
      · subst feed
        rw [feedLines_cons_feed]
        exact List.cons_ne_nil _ _
      · rw [feedLines_cons_of_ne feed]
        cases feedLines cs <;> exact List.cons_ne_nil _ _

theorem flatMap_feedLines (cs : List Char) : (feedLines cs).flatMap (· ++ ['\n']) = closed cs := by
  induction cs with
  | nil => rfl
  | cons c cs ih =>
      by_cases feed : c = '\n'
      · subst feed
        rw [feedLines_cons_feed, closed_cons_feed, ← ih]
        rfl
      · simp only [feedLines_cons_of_ne feed, closed_cons_of_ne feed, flatMap_extendFirst,
          feedLines_eq_nil, ih]

theorem length_feedLines (cs : List Char) : (feedLines cs).length = (closed cs).count '\n' := by
  induction cs with
  | nil => rfl
  | cons c cs ih =>
      by_cases feed : c = '\n'
      · subst feed
        rw [feedLines_cons_feed, closed_cons_feed, List.length_cons, List.count_cons_self, ih]
      · rw [feedLines_cons_of_ne feed, closed_cons_of_ne feed, List.count_cons_of_ne feed]
        cases cs with
        | nil => rfl
        | cons d cs =>
            have more := mt (feedLines_eq_nil (d :: cs)).mp (List.cons_ne_nil d cs)
            obtain ⟨piece, pieces, cut⟩ := List.exists_cons_of_ne_nil more
            rw [if_neg (List.cons_ne_nil d cs), ← ih, cut]
            rfl

theorem count_closed (cs : List Char) :
    (closed cs).count '\n' = cs.count '\n' + if IsOpen cs then 1 else 0 := by
  unfold closed
  split
  · rw [List.count_append]
    rfl
  · rfl

theorem count_map_asFeed (cs : List Char) :
    (cs.map asFeed).count '\n' = cs.countP isLineBreak := by
  rw [List.count, List.countP_map]
  congr 1
  funext c
  rw [Function.comp_apply, Bool.eq_iff_iff, beq_iff_eq, asFeed_eq_feed]

theorem map_asFeed_of_feeds {cs : List Char} (feeds : BreaksAtFeeds cs) : cs.map asFeed = cs := by
  have same : cs.map asFeed = cs.map id :=
    List.map_congr_left fun c member => asFeed_of_feed (feeds c member)
  rw [same, List.map_id]

theorem mem_closed {c : Char} {cs : List Char} (apart : c ≠ '\n') : c ∈ closed cs ↔ c ∈ cs := by
  unfold closed
  split <;> simp [apart]

/-- Feeds for the breaks give the same closed text only where each break was a feed already. -/
theorem closed_map_asFeed_eq (cs : List Char) :
    closed (cs.map asFeed) = closed cs ↔ BreaksAtFeeds cs := by
  constructor
  · intro same c member broken
    refine Decidable.by_contra fun apart => ?_
    have kept : c ∈ cs.map asFeed := by
      rw [← mem_closed apart, same, mem_closed apart]
      exact member
    obtain ⟨d, _, made⟩ := List.mem_map.mp kept
    -- A break turns into a feed, and what is no break is unchanged and so none either.
    by_cases ends : isLineBreak d = true
    · exact apart (made ▸ asFeed_eq_feed.mpr ends)
    · rw [asFeed_of_feed fun breaks => absurd breaks ends] at made
      exact ends (made ▸ broken)
  · intro feeds
    rw [map_asFeed_of_feeds feeds]

theorem feedLines_map_asFeed_eq (cs : List Char) :
    feedLines (cs.map asFeed) = feedLines cs ↔ BreaksAtFeeds cs := by
  constructor
  · intro same
    apply (closed_map_asFeed_eq cs).mp
    rw [← flatMap_feedLines, same, flatMap_feedLines]
  · intro feeds
    rw [map_asFeed_of_feeds feeds]

end SatClient.Text
