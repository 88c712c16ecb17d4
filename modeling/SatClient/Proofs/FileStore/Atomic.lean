import SatClient.Proofs.Dimacs.Rendering
import SatClient.Proofs.FileStore
/-!
How far writing is atomic. Wherever a fault strikes, every place has the entry that it had before,
but for directories that were made on the way to the file, and for the file itself once all went
well. The temporary file takes a place that was free, so that it leaves no trace unless its removal
is struck as well.
-/

namespace SatClient.FileStore

open SatClient.Text.Utf8 (encode)

def Passes (path : Path) (place : Location) : Prop :=
  ∃ parts, parts <+: path.parts ∧ place = parts.foldl Location.step (start path)

/-- Whether a place is as it was, or was free and has a directory now that a path needs. -/
def Kept (before after : FileStore) (path : Path) (place : Location) : Prop :=
  after.stored? place = before.stored? place ∨
    before.stored? place = none ∧ after.stored? place = some .directory ∧ Passes path place

def Disturbance.keepsTemporary (disturbance : Disturbance) : Bool :=
  (disturbance.strikes .findTemporary).isSome || (disturbance.strikes .removeTemporary).isSome

/-- Whether a temporary file stays at a place, with as much of its text as was written. -/
structure Leftover (before after : FileStore) (disturbance : Disturbance) (path : Path)
    (text : String) (place : Location) : Prop where
  struck : disturbance.keepsTemporary = true
  free : before.stored? place = none
  named : ∃ directory n, after.locate path.parent = .ok directory ∧
    place = directory.child (temporaryName path.name n)
  holds : ∃ bytes, bytes <+: encode text ∧ after.stored? place = some (.file bytes)

/-- How a write of a problem leaves the files, whatever strikes it. -/
structure Atomic (before : FileStore) (disturbance : Disturbance) (path : Path) (count : Int)
    (clauses : List Clause) : Prop where
  written : ∀ after,
    before.write disturbance path (Dimacs.rendered count clauses) = (after, .ok ()) →
    after.content? path = .ok (some (encode (Dimacs.text count clauses))) ∧
      ∃ place, after.locate path = .ok place ∧
        ∀ other, other ≠ place → Kept before after path.parent other
  refused : ∀ after failure,
    before.write disturbance path (Dimacs.rendered count clauses) = (after, .error failure) →
    (∀ place, Kept before after path.parent place) ∨
      ∃ temporary,
        Leftover before after disturbance path (Dimacs.text count clauses) temporary ∧
          ∀ place, place ≠ temporary → Kept before after path.parent place
  /-- The target is as it was, unless it is itself a directory that was made on the way. -/
  target : ∀ after failure,
    before.write disturbance path (Dimacs.rendered count clauses) = (after, .error failure) →
    ∀ place, before.locate path = .ok place ∨ after.locate path = .ok place →
      Kept before after path.parent place
  /-- Where no directory on the way is missing, a write that fails changes nothing else. -/
  unchanged : ∀ after failure,
    before.write disturbance path (Dimacs.rendered count clauses) = (after, .error failure) →
    ∀ place, before.locate path = .ok place → ∀ other,
      after.stored? other = before.stored? other ∨
        Leftover before after disturbance path (Dimacs.text count clauses) other

theorem passes_parent {path : Path} {place : Location} (passes : Passes path.parent place) :
    Passes path place := by
  obtain ⟨parts, front, same⟩ := passes
  exact ⟨parts, front.trans (List.dropLast_prefix path.parts), same⟩

section

variable {before middle after : FileStore} {path : Path} {place : Location}

theorem kept_of_eq (same : after.stored? place = before.stored? place) :
    Kept before after path place :=
  Or.inl same

theorem kept_trans (first : Kept before middle path place) (second : Kept middle after path place) :
    Kept before after path place := by
  rcases second with same | ⟨free, made, passes⟩
  · rcases first with unchanged | ⟨free, made, passes⟩
    · exact Or.inl (same.trans unchanged)
    · exact Or.inr ⟨free, same.trans made, passes⟩
  · rcases first with unchanged | ⟨_, directory, _⟩
    · exact Or.inr ⟨unchanged ▸ free, made, passes⟩
    · rw [free] at directory
      cases directory

theorem kept_parent (kept : Kept before after path.parent place) : Kept before after path place := by
  rcases kept with same | ⟨free, made, passes⟩
  · exact Or.inl same
  · exact Or.inr ⟨free, made, passes_parent passes⟩

end

theorem walk_eq_ok {store : FileStore} {here place : Location} {parts : List String}
    (walked : store.walk here parts = .ok place) : place = parts.foldl Location.step here := by
  induction parts generalizing here with
  | nil =>
      cases walked
      rfl
  | cons part parts ih =>
      rw [walk] at walked
      split at walked
      · cases walked
      · split at walked
        · cases walked
        · exact ih walked
      · cases walked

theorem directory_of_walk {store : FileStore} {here place : Location} {parts : List String}
    (walked : store.walk here parts = .ok place) {front : List String}
    (passed : front <+: parts.dropLast) (more : parts ≠ []) :
    store.stored? (front.foldl Location.step here) = some .directory := by
  induction parts generalizing here front with
  | nil => exact absurd rfl more
  | cons part parts ih =>
      rw [walk] at walked
      split at walked
      · cases walked
      · next directory =>
          split at walked
          · cases walked
          · cases front with
            | nil => exact directory
            | cons first front =>
                cases parts with
                | nil => exact absurd passed (by simp)
                | cons next parts =>
                    rw [List.dropLast_cons_cons, List.cons_prefix_cons] at passed
                    obtain ⟨rfl, rest⟩ := passed
                    exact ih walked rest (List.cons_ne_nil next parts)
      · cases walked

theorem directory_of_passes {store : FileStore} {path : Path} {place passed : Location}
    (located : store.locate path = .ok place) (passes : Passes path.parent passed) :
    store.stored? passed = some .directory := by
  obtain ⟨_, walked⟩ := locate_eq_ok.mp located
  obtain ⟨front, above, rfl⟩ := passes
  by_cases more : path.parts = []
  · have empty : front = [] := by
      simpa [Path.parent, more] using above
    subst empty
    exact stored?_of_isStart _ rfl
  · exact directory_of_walk walked above more

theorem kept_makeDirectory {store after : FileStore} {disturbance : Disturbance} {path : Path}
    {again : Bool} (made : store.makeDirectory disturbance path again = .ok after)
    (place : Location) : Kept store after path place := by
  unfold makeDirectory at made
  split at made
  · cases made
  · split at made
    · cases made
    · next spot located =>
        split at made
        · cases made
        · next free =>
            cases made
            by_cases same : place = spot
            · subst same
              have fixed := isStart_of_free free
              have walked := (locate_eq_ok.mp located).2
              exact Or.inr ⟨free, stored?_put_self _ _ fixed, path.parts, List.prefix_refl _,
                walk_eq_ok walked⟩
            · exact kept_of_eq (stored?_put_of_ne _ _ same)

theorem kept_accept {store : FileStore} {path : Path} {outcome : Except OsFault FileStore}
    {place : Location} (each : ∀ made, outcome = .ok made → Kept store made path place) :
    Kept store (store.accept path outcome).1 path place := by
  cases outcome with
  | ok made => exact each made rfl
  | error fault => exact kept_of_eq rfl

/-- Directories are made on the way only, also where not all of them can be made. -/
theorem kept_makeDirectories (store : FileStore) (disturbance : Disturbance) (path : Path)
    (missing : Nat) (place : Location) :
    Kept store (store.makeDirectories disturbance path missing).1 path place := by
  -- One level at a time: what is made above a path is on the way to the path as well.
  induction missing generalizing path with
  | zero => exact kept_accept fun made => (kept_makeDirectory · place)
  | succ missing ih =>
      have above := kept_parent (ih path.parent)
      rw [makeDirectories]
      split
      · split
        · next left _ stopped =>
            rw [stopped] at above
            exact above
        · next left complete =>
            rw [complete] at above
            exact kept_trans above (kept_accept fun made => (kept_makeDirectory · place))
      · exact kept_accept fun made => (kept_makeDirectory · place)

def Stays (store after : FileStore) (disturbance : Disturbance) (path : Path)
    (content : List UInt8) : Prop :=
  disturbance.keepsTemporary = true ∧ ∃ temporary directory n bytes,
    store.stored? temporary = none ∧ store.locate path.parent = .ok directory ∧
      temporary = directory.child (temporaryName path.name n) ∧ bytes <+: content ∧
      after = store.put temporary (.file bytes)

theorem clearTemporary_cases {store after : FileStore} {disturbance : Disturbance}
    {temporary : Location} {bytes : List UInt8} {fault raised : OsFault}
    (free : store.stored? temporary = none)
    (ended : (store.put temporary (.file bytes)).clearTemporary disturbance temporary fault =
      (after, .error raised)) :
    (∀ place, after.stored? place = store.stored? place) ∨
      disturbance.keepsTemporary = true ∧ after = store.put temporary (.file bytes) := by
  unfold clearTemporary at ended
  split at ended
  · next found =>
      cases ended
      exact Or.inr ⟨by simp [Disturbance.keepsTemporary, found], rfl⟩
  · next removed =>
      cases ended
      exact Or.inr ⟨by simp [Disturbance.keepsTemporary, removed], rfl⟩
  · cases ended
    exact Or.inl (stored?_remove_put free _)

/-- A file that is not finished leaves no trace, or its temporary file stays as it is. -/
theorem fillTemporary_cases {store after : FileStore} {disturbance : Disturbance} {path : Path}
    {content : List UInt8} {fault : OsFault}
    (refused : store.fillTemporary disturbance path content = (after, .error fault)) :
    (∀ place, after.stored? place = store.stored? place) ∨
      Stays store after disturbance path content := by
  unfold fillTemporary at refused
  split at refused
  · cases refused
    exact Or.inl fun _ => rfl
  · next temporary opened =>
      obtain ⟨free, directory, n, located, place⟩ := openTemporary_eq_ok opened
      have ends {bytes : List UInt8} {first : OsFault} (front : bytes <+: content)
          (ended : (store.put temporary (.file bytes)).clearTemporary disturbance temporary first =
            (after, .error fault)) :
          (∀ place, after.stored? place = store.stored? place) ∨
            Stays store after disturbance path content := by
        rcases clearTemporary_cases free ended with clean | ⟨struck, stays⟩
        · exact Or.inl clean
        · exact Or.inr
            ⟨struck, temporary, directory, n, bytes, free, located, place, front, stays⟩
      split at refused
      · exact ends (List.take_prefix _ _) refused
      · unfold replaceTarget at refused
        split at refused
        · exact ends (List.prefix_refl _) refused
        · split at refused
          · exact ends (List.prefix_refl _) refused
          · cases refused

theorem locate_put {store : FileStore} {place : Location} (free : store.stored? place = none)
    (bytes : List UInt8) {path : Path} {spot : Location} (located : store.locate path = .ok spot) :
    (store.put place (.file bytes)).locate path = .ok spot := by
  obtain ⟨short, walked⟩ := locate_eq_ok.mp located
  refine locate_eq_ok.mpr ⟨short, walk_of_directories (fun other directory => ?_) walked⟩
  have apart : other ≠ place := by
    rintro rfl
    rw [free] at directory
    cases directory
  rw [stored?_put_of_ne _ _ apart, directory]

/-- A temporary file that stays is one also for the store before the directories were made. -/
theorem leftover_of_stays {before made after : FileStore} {disturbance : Disturbance} {path : Path}
    {text : String} (directories : ∀ place, Kept before made path.parent place)
    (stays : Stays made after disturbance path (encode text)) :
    ∃ temporary, Leftover before after disturbance path text temporary ∧
      ∀ place, place ≠ temporary → Kept before after path.parent place := by
  obtain ⟨struck, temporary, directory, n, bytes, free, located, named, front, rfl⟩ := stays
  refine ⟨temporary, ?_, fun place apart => ?_⟩
  · constructor
    case struck => exact struck
    case free =>
      rcases directories temporary with same | ⟨_, directory, _⟩
      · rw [← same, free]
      · rw [free] at directory
        cases directory
    case named => exact ⟨directory, n, locate_put free bytes located, named⟩
    case holds => exact ⟨bytes, front, stored?_put_self _ _ (isStart_of_free free)⟩
  · exact kept_trans (directories place) (kept_of_eq (stored?_put_of_ne _ _ apart))

/-- Whatever a write is struck by, nothing changes but for directories on the way and at most one
temporary file. -/
theorem kept_of_refused {before after : FileStore} {disturbance : Disturbance} {path : Path}
    {rendered : Except Failure String} {text : String} {failure : Failure}
    (whole : ∀ given, rendered = .ok given → given = text)
    (refused : before.write disturbance path rendered = (after, .error failure)) :
    (∀ place, Kept before after path.parent place) ∨
      ∃ temporary, Leftover before after disturbance path text temporary ∧
        ∀ place, place ≠ temporary → Kept before after path.parent place := by
  have directories := before.kept_makeDirectories disturbance path.parent path.parent.parts.length
  unfold write at refused
  split at refused
  · cases refused
    exact Or.inl fun _ => kept_of_eq rfl
  · split at refused
    · next made _ stopped =>
        cases refused
        rw [stopped] at directories
        exact Or.inl directories
    · next made _ complete =>
        cases refused
        rw [complete] at directories
        exact Or.inl directories
    · next made given complete =>
        -- All directories are there, so only the temporary file can make a difference from here on.
        cases whole given rfl
        rw [complete] at directories
        split at refused
        · cases refused
          exact Or.inl directories
        · cases outcome : made.fillTemporary disturbance path (encode text) with
          | mk left result =>
              rw [outcome] at refused
              cases result with
              | ok _ => cases refused
              | error fault =>
                  cases refused
                  rcases fillTemporary_cases outcome with clean | stays
                  · exact Or.inl fun place => kept_trans (directories place)
                      (kept_of_eq (clean place))
                  · exact Or.inr (leftover_of_stays directories stays)

theorem temporary_ne_target {store other : FileStore} {path : Path} {directory place : Location}
    (above : store.locate path.parent = .ok directory) (n : Nat)
    (located : other.locate path = .ok place) :
    place ≠ directory.child (temporaryName path.name n) := by
  have spot := walk_eq_ok (locate_eq_ok.mp located).2
  have parent : directory = path.parent.parts.foldl Location.step (start path) :=
    walk_eq_ok (locate_eq_ok.mp above).2
  by_cases named : path.parts = []
  · intro same
    have begins : place.isStart = true := by
      rw [spot, named]
      rfl
    rw [same, isStart_temporary] at begins
    cases begins
  · have split : path.parts = path.parent.parts ++ [path.name] := by
      rw [Path.parent, Path.name, List.getLastD_eq_getLast?, List.getLast?_eq_some_getLast named]
      exact (List.dropLast_concat_getLast named).symm
    rw [spot, split, List.foldl_append, ← parent]
    exact step_ne_temporary directory path.name n

/-- A problem is written as a whole or not at all, and nothing else changes but for the directories
on its way and a temporary file that cannot be cleared away. -/
theorem atomic_write (before : FileStore) (disturbance : Disturbance) (path : Path) (count : Int)
    (clauses : List Clause) : Atomic before disturbance path count clauses := by
  have whole : ∀ given, Dimacs.rendered count clauses = .ok given →
      given = Dimacs.text count clauses := fun _ => Dimacs.rendered_eq_ok
  constructor
  case written =>
    intro after written
    obtain ⟨text, rendered, content⟩ := content?_of_write written
    rw [whole text rendered] at content
    refine ⟨content, ?_⟩
    obtain ⟨_, _, made, _, complete, _, filled⟩ := write_eq_ok written
    obtain ⟨_, place, replaces⟩ := replaces_of_fillTemporary filled
    refine ⟨place, replaces.located, fun other apart => ?_⟩
    have directories := before.kept_makeDirectories disturbance path.parent
      path.parent.parts.length other
    rw [complete] at directories
    exact kept_trans directories (kept_of_eq (replaces.others other apart))
  case refused =>
    intro after failure refused
    exact kept_of_refused whole refused
  case target =>
    intro after failure refused place located
    rcases kept_of_refused whole refused with kept | ⟨temporary, leftover, kept⟩
    · exact kept place
    · obtain ⟨directory, n, above, rfl⟩ := leftover.named
      rcases located with here | there
      · exact kept place (temporary_ne_target above n here)
      · exact kept place (temporary_ne_target above n there)
  case unchanged =>
    intro after failure refused place located other
    have same (kept : Kept before after path.parent other) :
        after.stored? other = before.stored? other := by
      rcases kept with same | ⟨free, _, passes⟩
      · exact same
      · rw [directory_of_passes located passes] at free
        cases free
    rcases kept_of_refused whole refused with kept | ⟨temporary, leftover, kept⟩
    · exact Or.inl (same (kept other))
    · by_cases this : other = temporary
      · exact Or.inr (this ▸ leftover)
      · exact Or.inl (same (kept other this))

/-- A target that is one of the directories on its own way. The write fails because it has made
that directory itself, and the directory stays. -/
theorem directory_at_target :
    ∃ after, write {} calm (Path.ofText "a/../a") (Dimacs.rendered 0 []) =
        (after, .error (.system .isDirectory)) ∧
      stored? {} ⟨true, ["a"]⟩ = none ∧
      after.locate (Path.ofText "a/../a") = .ok ⟨true, ["a"]⟩ ∧
      after.stored? ⟨true, ["a"]⟩ = some .directory := by
  have rendered : Dimacs.rendered 0 [] = .ok (Dimacs.text 0 []) :=
    Dimacs.rendered_of_digits 1 (by decide) (by decide)
  rw [rendered]
  exact ⟨_, rfl, by decide, rfl, rfl⟩

/-- A full disk at the last stage: the old file stays, and the temporary one is gone. -/
example :
    let before := install {} (Path.ofText "out/p.cnf") (.file [111, 108, 100])
    let full : Disturbance :=
      { strikes := fun stage => if stage = .replaceTarget then some ⟨28⟩ else none }
    before.write full (Path.ofText "out/p.cnf") (.ok (Dimacs.text 1 [])) =
      (before, .error (.system ⟨28⟩)) := by
  rfl

end SatClient.FileStore
