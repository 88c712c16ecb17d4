import SatClient.Proofs.Workspace.Solving
/-!
What decides the outcome of a completed run: the clauses, the number of variables, the verdict line
and the assignment line after a satisfying verdict. Two runs that agree there send the same text and
come out the same, however they are configured and whatever else their processes leave.
-/

namespace SatClient.Solver

structure SameLines (c d : Completion) : Prop where
  first : firstLine (decode c.stdout) = firstLine (decode d.stdout)
  second : ∀ line, firstLine (decode c.stdout) = some line → Text.trim line = ['S', 'A', 'T'] →
    secondLine (decode c.stdout) = secondLine (decode d.stdout)

theorem Problem.text_congr {p q : Problem} (count : p.variableCount = q.variableCount)
    (clauses : p.clauses.map Clause.signed = q.clauses.map Clause.signed) : p.text = q.text := by
  calc
    p.text = Document.text ⟨p.variableCount, p.clauses.map Clause.signed⟩ :=
      (Document.text_signed p.variableCount p.clauses).symm
    _ = Document.text ⟨q.variableCount, q.clauses.map Clause.signed⟩ := by rw [count, clauses]
    _ = q.text := Document.text_signed q.variableCount q.clauses

section

variable {r q : Registry} (left : r.Sound) (right : q.Sound) (count : r.count = q.count)
  (results : r.results = q.results)

include left right count

theorem Result.firstUnknown?_congr (pairs : List (Nat × Bool)) :
    firstUnknown? r pairs = firstUnknown? q pairs := by
  have same : (fun pair : Nat × Bool => (r.find? pair.1).isNone) =
      fun pair => (q.find? pair.1).isNone := by
    funext pair
    apply Bool.eq_iff_iff.mpr
    rw [Registry.find?_isNone_iff left, Registry.find?_isNone_iff right, Registry.Allocates,
      Registry.Allocates, count]
  rw [firstUnknown?, firstUnknown?, same]

include results

theorem Result.recordReply_congr (line : Option (List Char)) :
    (∃ failure, recordReply r line = .error failure ∧ recordReply q line = .error failure) ∨
      ∃ s t, recordReply r line = .ok s ∧ recordReply q line = .ok t ∧ s.results = t.results := by
  unfold recordReply
  cases Reply.assignment line with
  | error failure => exact Or.inl ⟨failure, rfl, rfl⟩
  | ok pairs =>
      dsimp only
      have unknown := firstUnknown?_congr left right count pairs
      cases first : firstUnknown? q pairs with
      | some id =>
          rw [first] at unknown
          rw [unknown]
          exact Or.inl ⟨.neverAllocated id, rfl, rfl⟩
      | none =>
          rw [first] at unknown
          have known := (firstUnknown?_eq_none left pairs).mp unknown
          have allocated := (firstUnknown?_eq_none right pairs).mp first
          rw [unknown]
          refine Or.inr ⟨_, _, Registry.recordAll_eq left pairs known,
            Registry.recordAll_eq right pairs allocated, ?_⟩
          exact congrArg (·.putAll pairs) results

theorem readReply_congr {c d : Completion} (same : SameLines c d) :
    (∃ failure other, readReply r c = .error failure ∧ readReply q d = .error other ∧
        failure.kind = other.kind) ∨
      ∃ satisfiable s t, readReply r c = .ok (satisfiable, s) ∧
        readReply q d = .ok (satisfiable, t) ∧ s.results = t.results := by
  have agree := same.second
  unfold readReply
  dsimp only
  rw [← same.first]
  cases first : firstLine (decode c.stdout) with
  | none => exact Or.inl ⟨_, _, rfl, rfl, rfl⟩
  | some line =>
      simp only [Reply.verdict]
      -- Only a satisfying verdict makes the second lines agree, and only then is one read.
      by_cases satisfied : Text.trim line = ['S', 'A', 'T']
      · rw [if_pos satisfied, if_pos satisfied, ← agree line first satisfied]
        rcases Result.recordReply_congr left right count results (secondLine (decode c.stdout)) with
          ⟨failure, here, there⟩ | ⟨s, t, here, there, kept⟩
        · rw [here, there]
          exact Or.inl ⟨failure, failure, rfl, rfl, rfl⟩
        · rw [here, there]
          exact Or.inr ⟨true, s, t, rfl, rfl, kept⟩
      · rw [if_neg satisfied, if_neg satisfied]
        by_cases refuted : Text.trim line = ['U', 'N', 'S', 'A', 'T']
        · rw [if_pos refuted, if_pos refuted]
          exact Or.inr ⟨false, r, q, rfl, rfl, results⟩
        · rw [if_neg refuted, if_neg refuted]
          exact Or.inl ⟨_, _, rfl, rfl, rfl⟩

end

end SatClient.Solver

namespace SatClient.Workspace

open SatClient.Decimal (Seconds)

/-- Two solves of one problem whose processes run to their ends and agree on the lines of the
protocol. Settings, detail, limits, streams for the echo, values of earlier runs, statuses,
diagnostics and the rest of the outputs may differ. -/
theorem solve_noninterference {w v : Workspace} (reached : w.Reachable) (reached' : v.Reachable)
    {s t : SolverId} (passes : (w.problem s).check = .ok ())
    (passes' : (v.problem t).check = .ok ())
    (count : (w.problem s).variableCount = (v.problem t).variableCount)
    (clauses : (w.problem s).clauses.map Clause.signed = (v.problem t).clauses.map Clause.signed)
    {detailed detailed' : Bool} {limit limit' : Option Seconds} {behaviour behaviour' : Behaviour}
    {sink sink' : Sink} (echoes : Solver.Echoes (w.problem s) (w.solver s).settings sink)
    (echoes' : Solver.Echoes (v.problem t) (v.solver t).settings sink')
    {c d : Completion} (runs : Solver.RunsToEnd (w.solver s).settings limit behaviour c)
    (runs' : Solver.RunsToEnd (v.solver t).settings limit' behaviour' d)
    (same : Solver.SameLines c d) :
    (∃ text,
      (w.solve s detailed limit behaviour sink).2.trace.exchange.map (·.received) = some text ∧
      (v.solve t detailed' limit' behaviour' sink').2.trace.exchange.map (·.received) =
        some text) ∧
    Solver.observed (w.solve s detailed limit behaviour sink).2.outcome =
      Solver.observed (v.solve t detailed' limit' behaviour' sink').2.outcome ∧
    ((w.solve s detailed limit behaviour sink).1.registry (w.solver s).registry).results =
      ((v.solve t detailed' limit' behaviour' sink').1.registry (v.solver t).registry).results := by
  rw [solve_of_echoes s detailed limit behaviour sink echoes,
    solve_of_echoes t detailed' limit' behaviour' sink' echoes']
  have sound := sound_of_reachable reached
  have sound' := sound_of_reachable reached'
  have clean := Registry.sound_clearResults (registry_sound sound (w.solver s).registry).2
  have clean' := Registry.sound_clearResults (registry_sound sound' (v.solver t).registry).2
  refine ⟨⟨(w.problem s).text, ?_, ?_⟩, ?_⟩
  · have sent := Solver.exchange_of_runsToEnd passes _ (w.registry (w.solver s).registry) detailed
      _ _ runs
    exact congrArg (Option.map (·.received)) sent
  · have sent := Solver.exchange_of_runsToEnd passes' _ (v.registry (v.solver t).registry) detailed'
      _ _ runs'
    rw [Solver.Problem.text_congr count clauses]
    exact congrArg (Option.map (·.received)) sent
  rw [registry_solve sound, registry_solve sound']
  simp only [solve]
  rcases Solver.readReply_congr clean clean' count rfl same with
    ⟨failure, other, here, there, kind⟩ | ⟨satisfiable, r, q, here, there, kept⟩
  · obtain ⟨outcome, left⟩ := Solver.solve_of_reply_error passes _ _ detailed _ _ runs here
    obtain ⟨outcome', right⟩ := Solver.solve_of_reply_error passes' _ _ detailed' _ _ runs' there
    rw [outcome, outcome', left, right]
    exact ⟨congrArg Solver.Fate.error kind, rfl⟩
  · obtain ⟨⟨result, outcome, verdict⟩, left⟩ :=
      Solver.solve_of_reply_ok passes _ _ detailed _ _ runs here
    obtain ⟨⟨result', outcome', verdict'⟩, right⟩ :=
      Solver.solve_of_reply_ok passes' _ _ detailed' _ _ runs' there
    rw [outcome, outcome', left, right]
    exact ⟨congrArg Solver.Fate.ok (verdict.trans verdict'.symm), kept⟩

def plain : Workspace :=
  holding 2 [⟨[⟨1, true, some ⟨0⟩, Nat.one_pos⟩, ⟨2, false, none, Nat.two_pos⟩]⟩] {}

def worn : Workspace :=
  run {} [.newRegistry, .newRegistry, .createBlock ⟨1⟩ 2, .recordResult ⟨1⟩ 1 true,
    .addClauses [⟨[⟨1, true, none, Nat.one_pos⟩, ⟨2, false, some ⟨1⟩, Nat.two_pos⟩]⟩],
    .newSolver { executable := "other", verbose := true } ⟨1⟩, .give ⟨0⟩ [⟨0⟩]]

def quietEnd : Completion :=
  { stdout := Text.Utf8.encode "SAT\n-1 2 0\n", status := 10 }

def noisyEnd : Completion :=
  { stdout := Text.Utf8.encode "SAT\r\n-1 2 0\r\nUNSAT", stderr := Text.Utf8.encode "lost",
    status := -9 }

theorem noninterference_plain_worn :
    (plain.Reachable ∧ worn.Reachable) ∧ Solver.SameLines quietEnd noisyEnd ∧
      Solver.observed
          (plain.solve ⟨0⟩ false none (.completes quietEnd) (.fails 0 .closed)).2.outcome =
        Solver.observed (worn.solve ⟨0⟩ true none (.completes noisyEnd)).2.outcome ∧
      ((plain.solve ⟨0⟩ false none (.completes quietEnd) (.fails 0 .closed)).1.registry ⟨0⟩).results =
        ((worn.solve ⟨0⟩ true none (.completes noisyEnd)).1.registry ⟨1⟩).results := by
  have reached : plain.Reachable := ⟨{}, _, rfl⟩
  have reached' : worn.Reachable := ⟨{}, _, rfl⟩
  have runs : Solver.RunsToEnd (plain.solver ⟨0⟩).settings none (.completes quietEnd) quietEnd :=
    ⟨by decide, rfl, rfl⟩
  have runs' : Solver.RunsToEnd (worn.solver ⟨0⟩).settings none (.completes noisyEnd) noisyEnd :=
    ⟨by decide, rfl, rfl⟩
  have lines : Solver.SameLines quietEnd noisyEnd :=
    ⟨by decide +kernel, fun _ _ _ => by decide +kernel⟩
  have clauses : (plain.problem ⟨0⟩).clauses.map Clause.signed =
      (worn.problem ⟨0⟩).clauses.map Clause.signed := by decide
  have quiet : Solver.Echoes (plain.problem ⟨0⟩) (plain.solver ⟨0⟩).settings (.fails 0 .closed) :=
    by decide
  have taken : Solver.Echoes (worn.problem ⟨0⟩) (worn.solver ⟨0⟩).settings .takesAll := trivial
  exact ⟨⟨reached, reached'⟩, lines,
    (solve_noninterference reached reached' rfl rfl rfl clauses quiet taken runs runs' lines).2⟩

end SatClient.Workspace
