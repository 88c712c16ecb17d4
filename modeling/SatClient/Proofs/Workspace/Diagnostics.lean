import SatClient.Proofs.Text.Feeds
import SatClient.Proofs.Workspace.Noninterference
/-!
The diagnostic lines of a result. They are cut at every line break of the text that was drained from
the process, so the lines that it ended with line feeds come out whole, and the text can be told
from them, only if it has no other break.
-/

namespace SatClient

open SatClient.Decimal (Seconds)
open SatClient.Text (BreaksAtFeeds asFeed closed feedLines isLineBreak)

namespace Solver

/-- What the lines of a result say about a drained text: they are those of the text with a feed for
each of its breaks, and its own ones where every break is a feed. -/
structure Diagnoses (stderr : List Char) (result : Result) : Prop where
  cut : result.statistics = (feedLines (stderr.map asFeed)).map String.ofList
  size : result.statistics.length =
    stderr.countP isLineBreak + if Text.IsOpen (stderr.map asFeed) then 1 else 0
  shown : result.text.toList = closed (stderr.map asFeed)
  kept : result.statistics = (feedLines stderr).map String.ofList ↔ BreaksAtFeeds stderr
  restored : result.text.toList = closed stderr ↔ BreaksAtFeeds stderr

theorem toList_text {result : Result} {lines : List (List Char)}
    (written : result.statistics = lines.map String.ofList) :
    result.text.toList = lines.flatMap (· ++ ['\n']) := by
  rw [Result.text, written, String.toList_join]
  simp [List.flatMap_map]

theorem diagnosticLines_eq (c : Completion) : diagnosticLines c =
    (feedLines ((decode c.stderr).map asFeed)).map String.ofList := by
  have free : '\r' ∉ decode c.stderr := Text.not_mem_normalizeNewlines _
  rw [diagnosticLines, Text.lines_of_free free]

theorem diagnoses_of_lines {c : Completion} {result : Result}
    (drained : result.statistics = diagnosticLines c) : Diagnoses (decode c.stderr) result := by
  have cut := drained.trans (diagnosticLines_eq c)
  have shown : result.text.toList = closed ((decode c.stderr).map asFeed) := by
    rw [toList_text cut, Text.flatMap_feedLines]
  constructor
  case cut => exact cut
  case size =>
    rw [cut, List.length_map, Text.length_feedLines, Text.count_closed, Text.count_map_asFeed]
  case shown => exact shown
  case kept =>
    rw [cut, List.map_inj_right fun _ _ => String.ofList_injective, Text.feedLines_map_asFeed_eq]
  case restored => rw [shown, Text.closed_map_asFeed_eq]

end Solver

namespace Workspace

/-- Whatever a process writes to its error stream, the result of a solve that returns has the lines
between its breaks, and a line is split or loses a character exactly at breaks that are no feeds. -/
theorem diagnoses_solve {w : Workspace} {s : SolverId} {detailed : Bool} {limit : Option Seconds}
    {behaviour : Behaviour} {sink : Sink} {result : Solver.Result}
    (returns : (w.solve s detailed limit behaviour sink).2.outcome = .ok result) :
    ∃ c, Solver.RunsToEnd (w.solver s).settings limit behaviour c ∧
      Solver.Diagnoses (Solver.decode c.stderr) result := by
  obtain ⟨c, _, runs, _, made⟩ := Solver.reply_of_solve returns
  exact ⟨c, runs, Solver.diagnoses_of_lines (congrArg Solver.Result.statistics made)⟩

def tabbedEnd : Completion :=
  { stdout := Text.Utf8.encode "UNSAT\n", stderr := Text.Utf8.encode "c cpu\x0btime 1.5\r\nc done",
    status := 20 }

theorem diagnoses_tabbedEnd :
    ∃ result, (plain.solve ⟨0⟩ false none (.completes tabbedEnd)).2.outcome = .ok result ∧
      result.statistics = ["c cpu", "time 1.5", "c done"] ∧
      result.text = "c cpu\ntime 1.5\nc done\n" ∧
      result.statistics ≠
        (feedLines (Solver.decode tabbedEnd.stderr)).map String.ofList := by
  have made : Solver.observed (plain.solve ⟨0⟩ false none (.completes tabbedEnd)).2.outcome =
      .ok false := by decide +kernel
  have lines : (feedLines ((Solver.decode tabbedEnd.stderr).map asFeed)).map String.ofList =
      ["c cpu", "time 1.5", "c done"] := by decide +kernel
  have broken : ¬ BreaksAtFeeds (Solver.decode tabbedEnd.stderr) := by decide +kernel
  cases returns : (plain.solve ⟨0⟩ false none (.completes tabbedEnd)).2.outcome with
  | error failure =>
      rw [returns] at made
      cases made
  | endless =>
      rw [returns] at made
      cases made
  | ok result =>
      obtain ⟨c, runs, diagnoses⟩ := diagnoses_solve returns
      cases Behaviour.completes.inj runs.completes
      have cut := diagnoses.cut.trans lines
      refine ⟨result, rfl, cut, ?_, fun kept => broken (diagnoses.kept.mp kept)⟩
      rw [Solver.Result.text, cut]
      decide +kernel

end Workspace

end SatClient
