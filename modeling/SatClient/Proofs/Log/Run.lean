import SatClient.Proofs.Log.Level
import SatClient.Proofs.Table
/-!
Loggers under any series of set-ups, refused ones among them. A set-up touches its own logger alone
and a refused one changes none that is there, so a logger stands as the last set-up that gave it out
left it, whatever was asked for others and whatever was refused before or since. Two names mean one
logger only where both mean the root.
-/

namespace SatClient.Log

structure Request where
  name : String
  requested : Option String
  environment : Option String

/-- The level that a text means: the one that its capitals name, else the ordinary one. -/
inductive Means (text : String) : Nat → Prop
  | named {n : Nat} (named : (capitals text, n) ∈ levelNames) : Means text n
  | ordinary (unnamed : ∀ n, (capitals text, n) ∉ levelNames) : Means text info

namespace Request

def id (request : Request) : LoggerId :=
  .ofName request.name

def Chooses (request : Request) (n : Nat) : Prop :=
  ∃ text, Chosen request.requested request.environment text ∧ Means text n

end Request

structure Response where
  request : Request
  outcome : Except Failure Logger

/-- Whether this logger was asked for, under whatever name, and given out. -/
def Response.Grants (response : Response) (id : LoggerId) : Prop :=
  response.request.id = id ∧ ∃ logger, response.outcome = .ok logger

def GrantedLast (responses : List Response) (id : LoggerId) (request : Request) : Prop :=
  ∃ earlier logger later, responses = earlier ++ ⟨request, .ok logger⟩ :: later ∧
    request.id = id ∧ ∀ response ∈ later, ¬ response.Grants id

namespace Loggers

def Single (loggers : Loggers) : Prop :=
  ∀ id, (loggers.find id).handlers ≤ 1

def perform (loggers : Loggers) (request : Request) : Loggers × Except Failure Logger :=
  loggers.setUp request.name request.requested request.environment

/-- The loggers after all requests; a refused one does not keep the next from being made. -/
def run (loggers : Loggers) (requests : List Request) : Loggers :=
  requests.foldl (fun loggers request => (loggers.perform request).1) loggers

def responses (loggers : Loggers) : List Request → List Response
  | [] => []
  | request :: requests =>
    ⟨request, (loggers.perform request).2⟩ :: responses (loggers.perform request).1 requests

def rootNames : List String := ["", "root"]

/-- What a series of requests makes of the loggers that it finds, and what one more can do. -/
structure Orderly (found : Loggers) (requests : List Request) : Prop where
  shared : ∀ name other : String, LoggerId.ofName name = .ofName other ↔
    name = other ∨ (name ∈ rootNames ∧ other ∈ rootNames)
  single : (found.run requests).Single
  ready : ∀ id, (∃ response ∈ found.responses requests, response.Grants id) →
    ∃ request, GrantedLast (found.responses requests) id request ∧
      ∃ n, request.Chooses n ∧ (found.run requests).find id = ⟨n, 1, false⟩
  waiting : ∀ id, (∀ response ∈ found.responses requests, ¬ response.Grants id) →
    (found.run requests).find id = found.find id
  refused : ∀ request failure, ((found.run requests).perform request).2 = .error failure →
    ∀ id logger, (found.run requests).get? id = some logger →
      ((found.run requests).perform request).1.get? id = some logger
  apart : ∀ request id, id ≠ request.id →
    ((found.run requests).perform request).1.get? id = (found.run requests).get? id

end Loggers

theorem LoggerId.ofName_eq_root {name : String} :
    ofName name = .root ↔ name ∈ Loggers.rootNames := by
  by_cases empty : name = ""
  · simp [ofName, Loggers.rootNames, empty]
  · by_cases spelled : name = "root" <;> simp [ofName, Loggers.rootNames, empty, spelled]

theorem LoggerId.ofName_of_not_mem {name : String} (other : name ∉ Loggers.rootNames) :
    ofName name = .named name := by
  simp only [Loggers.rootNames, List.mem_cons, List.not_mem_nil, or_false, not_or] at other
  simp [ofName, other]

theorem LoggerId.ofName_eq_iff (name other : String) : ofName name = ofName other ↔
    name = other ∨ (name ∈ Loggers.rootNames ∧ other ∈ Loggers.rootNames) := by
  by_cases root : name ∈ Loggers.rootNames
  · rw [ofName_eq_root.mpr root, eq_comm, ofName_eq_root]
    constructor
    · exact fun both => .inr ⟨root, both⟩
    · rintro (same | ⟨_, both⟩)
      · exact same ▸ root
      · exact both
  · rw [ofName_of_not_mem root]
    by_cases rootToo : other ∈ Loggers.rootNames
    · rw [ofName_eq_root.mpr rootToo]
      simp only [reduceCtorEq, false_iff, not_or, not_and]
      exact ⟨fun same => root (same ▸ rootToo), fun absent => absurd absent root⟩
    · rw [ofName_of_not_mem rootToo, LoggerId.named.injEq]
      simp [root]

theorem GrantedLast.cons {responses : List Response} {id : LoggerId} {request : Request}
    (last : GrantedLast responses id request) (first : Response) :
    GrantedLast (first :: responses) id request := by
  obtain ⟨earlier, logger, later, cut, own, waiting⟩ := last
  exact ⟨first :: earlier, logger, later, congrArg (first :: ·) cut, own, waiting⟩

theorem grantedLast_of_first {response : Response} {responses : List Response} {id : LoggerId}
    (granted : response.Grants id) (waiting : ∀ later ∈ responses, ¬ later.Grants id) :
    GrantedLast (response :: responses) id response.request := by
  obtain ⟨request, outcome⟩ := response
  obtain ⟨own, logger, rfl⟩ := granted
  exact ⟨[], logger, responses, rfl, own, waiting⟩

theorem means_of_level {text : String} {n : Nat} (given : level text = .ok n) : Means text n := by
  by_cases named : ∃ m, (capitals text, m) ∈ levelNames
  · obtain ⟨m, member⟩ := named
    rw [level_of_named member] at given
    cases given
    exact .named member
  · have unnamed : ∀ m, (capitals text, m) ∉ levelNames := not_exists.mp named
    have noFormat : capitals text ≠ formatName := by
      intro same
      rw [level_of_format same] at given
      cases given
    have noStyles : capitals text ≠ stylesName := by
      intro same
      rw [level_of_styles same] at given
      cases given
    rw [level_of_unnamed unnamed noFormat noStyles] at given
    cases given
    exact .ordinary unnamed

namespace Loggers

theorem get?_put_of_ne (loggers : Loggers) {id other : LoggerId} (logger : Logger)
    (differ : id ≠ other) : (loggers.put logger id).get? other = loggers.get? other := by
  cases id with
  | root =>
      cases other with
      | root => exact absurd rfl differ
      | named name => rfl
  | named name =>
      cases other with
      | root => rfl
      | named second =>
          have apart : name ≠ second := fun same => differ (congrArg LoggerId.named same)
          exact loggers.others.get?_put_of_ne logger apart

/-- All that a request can do: the logger is made ready at the level that is chosen, or it is kept
as it was, and made bare where there was none. -/
theorem perform_cases (loggers : Loggers) (request : Request) :
    (∃ ready : Logger, loggers.perform request = (loggers.put ready request.id, .ok ready) ∧
      request.Chooses ready.level ∧
      ready.handlers = max 1 (loggers.find request.id).handlers ∧
      ready.propagates = false) ∨
    ∃ failure, loggers.perform request =
      (loggers.put (loggers.find request.id) request.id, .error failure) := by
  have chosen := chosen_chosenName request.requested request.environment
  unfold perform setUp
  cases given : level (chosenName request.requested request.environment) with
  | ok n => exact .inl ⟨_, rfl, ⟨_, chosen, means_of_level given⟩, rfl, rfl⟩
  | error failure => exact .inr ⟨failure, rfl⟩

theorem get?_perform_of_ne (loggers : Loggers) {request : Request} {id : LoggerId}
    (other : id ≠ request.id) :
    (loggers.perform request).1.get? id = loggers.get? id := by
  obtain ⟨ready, performed, _⟩ | ⟨failure, performed⟩ := loggers.perform_cases request
  · rw [performed]
    exact loggers.get?_put_of_ne ready (Ne.symm other)
  · rw [performed]
    exact loggers.get?_put_of_ne _ (Ne.symm other)

theorem get?_perform_of_error {loggers : Loggers} {request : Request} {failure : Failure}
    (refused : (loggers.perform request).2 = .error failure) {id : LoggerId} {logger : Logger}
    (known : loggers.get? id = some logger) :
    (loggers.perform request).1.get? id = some logger := by
  by_cases own : id = request.id
  · subst own
    obtain ⟨ready, performed, _⟩ | ⟨_, performed⟩ := loggers.perform_cases request
    · rw [performed] at refused
      cases refused
    · rw [performed, get?_put_self, find, known, Option.getD_some]
  · rw [loggers.get?_perform_of_ne own, known]

theorem find_perform_of_not_grants (loggers : Loggers) {request : Request} {id : LoggerId}
    (kept : ¬ Response.Grants ⟨request, (loggers.perform request).2⟩ id) :
    (loggers.perform request).1.find id = loggers.find id := by
  by_cases own : request.id = id
  · subst own
    obtain ⟨ready, performed, _⟩ | ⟨_, performed⟩ := loggers.perform_cases request
    · rw [performed] at kept
      exact absurd ⟨rfl, ready, rfl⟩ kept
    · rw [performed, find, get?_put_self, Option.getD_some]
  · rw [find, find, loggers.get?_perform_of_ne (Ne.symm own)]

theorem find_perform_of_grants {loggers : Loggers} (single : loggers.Single) {request : Request}
    {id : LoggerId} (granted : Response.Grants ⟨request, (loggers.perform request).2⟩ id) :
    ∃ n, request.Chooses n ∧ (loggers.perform request).1.find id = ⟨n, 1, false⟩ := by
  obtain ⟨own, logger, given⟩ := granted
  subst own
  obtain ⟨⟨n, handlers, propagates⟩, performed, chooses, handled, closed⟩ | ⟨_, performed⟩ :=
    loggers.perform_cases request
  · have one : handlers = 1 := handled.trans (Nat.max_eq_left (single request.id))
    subst one closed
    refine ⟨n, chooses, ?_⟩
    rw [performed, find, get?_put_self, Option.getD_some]
  · rw [performed] at given
    cases given

theorem single_perform {loggers : Loggers} (single : loggers.Single) (request : Request) :
    (loggers.perform request).1.Single := by
  intro id
  by_cases granted : Response.Grants ⟨request, (loggers.perform request).2⟩ id
  · obtain ⟨n, _, ready⟩ := find_perform_of_grants single granted
    exact Nat.le_of_eq (congrArg Logger.handlers ready)
  · rw [loggers.find_perform_of_not_grants granted]
    exact single id

theorem run_cons (loggers : Loggers) (request : Request) (requests : List Request) :
    loggers.run (request :: requests) = run (loggers.perform request).1 requests := rfl

theorem responses_cons (loggers : Loggers) (request : Request) (requests : List Request) :
    loggers.responses (request :: requests) =
      ⟨request, (loggers.perform request).2⟩ :: responses (loggers.perform request).1 requests := rfl

theorem single_run {loggers : Loggers} (single : loggers.Single) (requests : List Request) :
    (loggers.run requests).Single := by
  induction requests generalizing loggers with
  | nil => exact single
  | cons request requests ih =>
      rw [run_cons]
      exact ih (single_perform single request)

/-- A logger that no request gives out, because none names it or all that do are refused. -/
theorem find_run_of_waiting {loggers : Loggers} {requests : List Request} {id : LoggerId}
    (waiting : ∀ response ∈ loggers.responses requests, ¬ response.Grants id) :
    (loggers.run requests).find id = loggers.find id := by
  induction requests generalizing loggers with
  | nil => rfl
  | cons request requests ih =>
      rw [responses_cons, List.forall_mem_cons] at waiting
      rw [run_cons, ih waiting.2, loggers.find_perform_of_not_grants waiting.1]

/-- A logger that is given out stands as the last time that it was. -/
theorem ready_run {loggers : Loggers} (single : loggers.Single) {requests : List Request}
    {id : LoggerId} (granted : ∃ response ∈ loggers.responses requests, response.Grants id) :
    ∃ request, GrantedLast (loggers.responses requests) id request ∧
      ∃ n, request.Chooses n ∧ (loggers.run requests).find id = ⟨n, 1, false⟩ := by
  induction requests generalizing loggers with
  | nil =>
      obtain ⟨response, member, _⟩ := granted
      cases member
  | cons request requests ih =>
      rw [responses_cons] at granted ⊢
      rw [run_cons]
      -- Only the last grant counts, so the case is split on the rest of the requests.
      by_cases later :
          ∃ response ∈ responses (loggers.perform request).1 requests, response.Grants id
      · obtain ⟨last, final, ready⟩ := ih (single_perform single request) later
        exact ⟨last, final.cons _, ready⟩
      · -- Nothing later gives the logger out, so it stays as this request leaves it.
        have waiting : ∀ response ∈ responses (loggers.perform request).1 requests,
            ¬ response.Grants id := fun response member given => later ⟨response, member, given⟩
        have first : Response.Grants ⟨request, (loggers.perform request).2⟩ id := by
          obtain ⟨response, member, given⟩ := granted
          obtain same | inside := List.mem_cons.mp member
          · rwa [same] at given
          · exact absurd given (waiting response inside)
        obtain ⟨n, chooses, ready⟩ := find_perform_of_grants single first
        refine ⟨request, grantedLast_of_first first waiting, n, chooses, ?_⟩
        rw [find_run_of_waiting waiting, ready]

/-- Whatever loggers are asked for, in whatever order and with whatever refusals. -/
theorem orderly_run {found : Loggers} (single : found.Single) (requests : List Request) :
    found.Orderly requests := by
  constructor
  case shared => exact LoggerId.ofName_eq_iff
  case single => exact single_run single requests
  case ready =>
    intro id granted
    exact ready_run single granted
  case waiting =>
    intro id waiting
    exact find_run_of_waiting waiting
  case refused =>
    intro request failure refused id logger known
    exact get?_perform_of_error refused known
  case apart =>
    intro request id other
    exact (found.run requests).get?_perform_of_ne other

def equipped : Loggers :=
  { others := Table.put {} "p" ⟨warning, 1, true⟩ }

def interrupted : List Request :=
  [⟨"q", some "basic_format", none⟩, ⟨"p", none, some "_styles"⟩, ⟨"q", some "error", none⟩,
    ⟨"root", some "error", none⟩, ⟨"p.q", some "", some "debug"⟩, ⟨"q", none, some "Basic_Format"⟩,
    ⟨"", some "info", none⟩]

theorem orderly_interrupted :
    equipped.Single ∧ equipped.Orderly interrupted ∧
      (equipped.run interrupted).logger "q" = ⟨error, 1, false⟩ ∧
      (equipped.run interrupted).logger "p" = ⟨warning, 1, true⟩ ∧
      (equipped.run interrupted).logger "p.q" = ⟨debug, 1, false⟩ ∧
      (equipped.run interrupted).logger "root" = ⟨info, 1, false⟩ := by
  have single : equipped.Single := by
    rintro (_ | name)
    · exact Nat.zero_le 1
    · rw [find, get?, equipped, Table.get?_put]
      by_cases own : name = "p"
      · rw [own]
        decide
      · rw [if_neg (mt beq_iff_eq.mp own)]
        exact Nat.zero_le 1
  exact ⟨single, orderly_run single interrupted, by decide, by decide, by decide, by decide⟩

/-- The logger without a name is the root, so asking for the root changes it too. -/
theorem renamed_root_follows :
    let asked := run {} [⟨"", some "error", none⟩]
    "" ≠ "root" ∧ asked.logger "" = ⟨error, 1, false⟩ ∧
      (perform asked ⟨"root", some "debug", none⟩).1.logger "" = ⟨debug, 1, false⟩ := by
  decide

end Loggers

end SatClient.Log
