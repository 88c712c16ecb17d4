import Mathlib.Data.List.Nodup
import SatClient.FileStore.Atomic
import SatClient.Proofs.Table
import SatClient.Proofs.Text.Pieces
/-!
What writing a file leaves behind. A walk looks only at directories, so a path leads to the same
place after a file is put or removed, and the content that was written is found at its path. For the
same reason the text has no part in whether it is written.
-/

namespace SatClient

open SatClient.Text.Utf8 (hasNull encode)

namespace Path

theorem hasNull_eq_false {text : String} : hasNull text = false ↔ Char.ofNat 0 ∉ text.toList := by
  simp [hasNull]

theorem hasNull_text {path : Path} (named : path.parts ≠ [])
    (parent : path.parent.parts.any hasNull = false) (name : hasNull path.name = false) :
    hasNull path.text = false := by
  have last : path.name = path.parts.getLast named := by
    rw [Path.name, List.getLastD_eq_getLast?, List.getLast?_eq_some_getLast named]
    rfl
  have free : ∀ part ∈ path.parts, Char.ofNat 0 ∉ part.toList := by
    intro part member
    rw [← List.dropLast_concat_getLast named, List.mem_append, List.mem_singleton] at member
    rcases member with above | rfl
    · have clean := List.any_eq_false.mp parent part above
      exact hasNull_eq_false.mp (Bool.not_eq_true _ ▸ clean)
    · exact hasNull_eq_false.mp (last ▸ name)
  have visible : path.parts.isEmpty = false := List.isEmpty_eq_false_iff.mpr named
  rw [hasNull_eq_false, Path.text, visible, Bool.and_false, if_neg (by decide),
    String.toList_append, List.mem_append, not_or]
  constructor
  · rw [String.toList_ofList]
    intro member
    exact absurd (List.eq_of_mem_replicate member) (by decide)
  · rw [String.toList_intercalate]
    apply Text.not_mem_intercalate (by decide)
    intro cs member
    obtain ⟨part, inside, rfl⟩ := List.mem_map.mp member
    exact free part inside

end Path

namespace FileStore

theorem stored?_of_isStart (store : FileStore) {place : Location} (start : place.isStart = true) :
    store.stored? place = some .directory := by
  rw [stored?, if_pos start]

theorem isStart_eq_false {store : FileStore} {place : Location}
    (none : store.stored? place ≠ some .directory) : place.isStart = false := by
  rw [← Bool.not_eq_true]
  exact fun start => none (stored?_of_isStart store start)

theorem isStart_of_free {store : FileStore} {place : Location} (free : store.stored? place = none) :
    place.isStart = false :=
  isStart_eq_false (by rw [free]; nofun)

theorem stored?_put_self (store : FileStore) {place : Location} (entry : Entry)
    (fixed : place.isStart = false) : stored? (store.put place entry) place = some entry := by
  simp [stored?, put, fixed, Table.get?_put]

theorem stored?_put_of_ne (store : FileStore) {place other : Location} (entry : Entry)
    (apart : other ≠ place) : stored? (store.put place entry) other = store.stored? other := by
  simp [stored?, put, apart, Table.get?_put]

theorem stored?_remove_self (store : FileStore) {place : Location}
    (fixed : place.isStart = false) : stored? (store.remove place) place = none := by
  simp [stored?, remove, fixed, Table.get?_erase]

theorem stored?_remove_of_ne (store : FileStore) {place other : Location}
    (apart : other ≠ place) : stored? (store.remove place) other = store.stored? other := by
  simp [stored?, remove, apart, Table.get?_erase]

theorem walk_of_directories {before after : FileStore}
    (kept : ∀ place, before.stored? place = some .directory →
      after.stored? place = some .directory)
    {here place : Location} {parts : List String} (walked : before.walk here parts = .ok place) :
    after.walk here parts = .ok place := by
  induction parts generalizing here with
  | nil => exact walked
  | cons part parts ih =>
      rw [walk] at walked ⊢
      split at walked
      · cases walked
      · next directory =>
          rw [kept here directory]
          dsimp only
          split at walked
          · cases walked
          · next short =>
              rw [if_neg short]
              exact ih walked
      · cases walked

theorem locate_eq_ok {store : FileStore} {path : Path} {place : Location} :
    store.locate path = .ok place ↔
      path.text.utf8ByteSize ≤ pathLimit ∧ store.walk (start path) path.parts = .ok place := by
  unfold locate
  split
  · next long => simp [Nat.not_le.mpr long]
  · next short => simp [Nat.not_lt.mp short]

theorem target_eq_ok {store : FileStore} {path : Path} {place : Location}
    (found : store.target path = .ok place) :
    path.parts ≠ [] ∧ store.locate path = .ok place ∧ store.stored? place ≠ some .directory := by
  unfold target at found
  split at found
  · cases found
  · next usual =>
      have named : path.parts ≠ [] := by
        intro empty
        apply usual
        simp [empty]
      split at found
      · cases found
      · next spot located =>
          split at found
          · cases found
          · next free =>
              cases found
              exact ⟨named, located, free⟩

/-- Whether a path leads to a file with a content that was not there before, and all else is as it
was. -/
structure Replaces (before after : FileStore) (path : Path) (content : List UInt8)
    (place : Location) : Prop where
  located : after.locate path = .ok place
  holds : after.stored? place = some (.file content)
  others : ∀ other, other ≠ place → after.stored? other = before.stored? other

theorem stored?_remove_put {store : FileStore} {place : Location} (free : store.stored? place = none)
    (entry : Entry) (other : Location) :
    stored? ((store.put place entry).remove place) other = store.stored? other := by
  by_cases same : other = place
  · subst same
    rw [stored?_remove_self _ (isStart_of_free free), free]
  · rw [stored?_remove_of_ne _ same, stored?_put_of_ne _ _ same]

theorem replaces_of_target {store : FileStore} {path : Path} {place temporary : Location}
    {content : List UInt8} (free : store.stored? temporary = none)
    (found : (store.put temporary (.file content)).target path = .ok place) :
    Replaces store (((store.put temporary (.file content)).remove temporary).put place
      (.file content)) path content place := by
  obtain ⟨_, located, notDirectory⟩ := target_eq_ok found
  obtain ⟨short, walked⟩ := locate_eq_ok.mp located
  have others (other : Location) (apart : other ≠ place) :
      stored? (((store.put temporary (.file content)).remove temporary).put place (.file content))
        other = store.stored? other := by
    rw [stored?_put_of_ne _ _ apart, stored?_remove_put free]
  have kept : ∀ other, stored? (store.put temporary (.file content)) other = some .directory →
      stored? (((store.put temporary (.file content)).remove temporary).put place (.file content))
        other = some .directory := by
    intro other directory
    have apart : other ≠ place := by
      rintro rfl
      exact notDirectory directory
    rw [others other apart]
    by_cases same : other = temporary
    · subst same
      rw [stored?_put_self _ _ (isStart_of_free free)] at directory
      cases directory
    · rw [← directory, stored?_put_of_ne _ _ same]
  constructor
  case located => exact locate_eq_ok.mpr ⟨short, walk_of_directories kept walked⟩
  case holds => exact stored?_put_self _ _ (isStart_eq_false notDirectory)
  case others => exact others

theorem temporaryName_ne (name : String) (n : Nat) : temporaryName name n ≠ ".." := by
  intro same
  have length := congrArg String.length same
  have rendered : (".tmp" : String).length = 4 := rfl
  have dots : (".." : String).length = 2 := rfl
  rw [temporaryName, String.length_append, String.length_append, rendered, dots] at length
  omega

theorem isStart_temporary (directory : Location) (name : String) (n : Nat) :
    (directory.child (temporaryName name n)).isStart = false := by
  simp [Location.isStart, Location.child, temporaryName_ne]

theorem temporaryLocation_eq (store : FileStore) (directory : Location) (name : String) :
    ∃ n, store.temporaryLocation directory name = directory.child (temporaryName name n) := by
  unfold temporaryLocation
  dsimp only
  split
  · next n _ => exact ⟨n, rfl⟩
  · exact ⟨0, rfl⟩

theorem step_ne_temporary (directory : Location) (name : String) (n : Nat) :
    directory.step name ≠ directory.child (temporaryName name n) := by
  intro same
  have components := congrArg Location.components same
  have length := congrArg List.length components
  unfold Location.step at components length
  simp only [Location.child, List.length_append, List.length_singleton] at length
  split at components
  · next dot => simp [dot] at length
  · next name' =>
      rw [if_neg name'] at length
      split at components
      · next up =>
          rw [if_pos up] at length
          simp only [List.length_dropLast] at length
          omega
      · have last : [name] = [temporaryName name n] := List.append_cancel_left components
        have size := congrArg String.length (List.cons.inj last).1
        have rendered : (".tmp" : String).length = 4 := rfl
        rw [temporaryName, String.length_append, String.length_append, rendered] at size
        omega

theorem temporaryName_inj {name : String} {n m : Nat} :
    temporaryName name n = temporaryName name m ↔ n = m := by
  constructor
  · intro same
    have digits : Nat.toDigits 10 n = Nat.toDigits 10 m := by
      simpa [temporaryName] using congrArg String.toList same
    rw [← Nat.ofDigitChars_ten_toDigits (n := n), digits, Nat.ofDigitChars_ten_toDigits]
  · rintro rfl
    rfl

/-- One name more than there are entries is tried, so that one of them is free. -/
theorem stored?_temporaryLocation (store : FileStore) (directory : Location) (name : String) :
    store.stored? (store.temporaryLocation directory name) = none := by
  obtain ⟨n, place⟩ := store.temporaryLocation_eq directory name
  rw [stored?, place, isStart_temporary, if_neg Bool.false_ne_true, ← place]
  unfold temporaryLocation
  dsimp only
  split
  · next n found => simpa using List.find?_some found
  · next taken =>
      have candidate_inj : Function.Injective fun n => directory.child (temporaryName name n) := by
        intro n m same
        simpa [Location.child, temporaryName_inj] using same
      have distinct := (List.nodup_range (n := store.entries.entries.length + 1)).map candidate_inj
      obtain ⟨place, member, free⟩ := store.entries.exists_get?_eq_none distinct (by simp)
      obtain ⟨n, inside, rfl⟩ := List.mem_map.mp member
      have never := List.find?_eq_none.mp taken n inside
      simp [free] at never

theorem openTemporary_eq_ok {store : FileStore} {disturbance : Disturbance} {path : Path}
    {temporary : Location} (opened : store.openTemporary disturbance path = .ok temporary) :
    store.stored? temporary = none ∧ ∃ directory n, store.locate path.parent = .ok directory ∧
      temporary = directory.child (temporaryName path.name n) := by
  unfold openTemporary at opened
  split at opened
  · cases opened
  · split at opened
    · cases opened
    · split at opened
      · cases opened
      · next directory located =>
          cases opened
          obtain ⟨n, place⟩ := store.temporaryLocation_eq directory path.name
          exact ⟨stored?_temporaryLocation _ _ _, directory, n, located, place⟩

theorem clearTemporary_ne_ok (store : FileStore) (disturbance : Disturbance) (temporary : Location)
    (fault : OsFault) : (store.clearTemporary disturbance temporary fault).2 ≠ .ok () := by
  unfold clearTemporary
  split <;> nofun

theorem replaces_of_fillTemporary {store after : FileStore} {disturbance : Disturbance}
    {path : Path} {content : List UInt8}
    (filled : store.fillTemporary disturbance path content = (after, .ok ())) :
    path.parts ≠ [] ∧ ∃ place, Replaces store after path content place := by
  have cleared {left : FileStore} {temporary : Location} {fault : OsFault}
      (ended : left.clearTemporary disturbance temporary fault = (after, .ok ())) : False :=
    clearTemporary_ne_ok _ _ _ _ (congrArg Prod.snd ended)
  unfold fillTemporary at filled
  split at filled
  · cases filled
  · next temporary opened =>
      split at filled
      · exact (cleared filled).elim
      · unfold replaceTarget at filled
        split at filled
        · exact (cleared filled).elim
        · split at filled
          · exact (cleared filled).elim
          · next place found =>
              cases filled
              exact ⟨(target_eq_ok found).1, place,
                replaces_of_target (openTemporary_eq_ok opened).1 found⟩

theorem write_eq_ok {store after : FileStore} {disturbance : Disturbance} {path : Path}
    {rendered : Except Failure String}
    (written : store.write disturbance path rendered = (after, .ok ())) :
    path.parent.parts.any hasNull = false ∧ hasNull path.name = false ∧ ∃ made text,
      store.makeDirectories disturbance path.parent path.parent.parts.length = (made, .ok ()) ∧
      rendered = .ok text ∧
      made.fillTemporary disturbance path (encode text) = (after, .ok ()) := by
  unfold write at written
  split at written
  · cases written
  · next parent =>
      split at written
      · cases written
      · cases written
      · next made text complete =>
          split at written
          · cases written
          · next name =>
              refine ⟨Bool.not_eq_true _ ▸ parent, Bool.not_eq_true _ ▸ name, made, text, complete,
                rfl, ?_⟩
              cases outcome : made.fillTemporary disturbance path (encode text) with
              | mk left result =>
                  rw [outcome] at written
                  cases result with
                  | ok _ =>
                      cases written
                      rfl
                  | error fault => cases written

theorem content?_of_write {store after : FileStore} {disturbance : Disturbance} {path : Path}
    {rendered : Except Failure String}
    (written : store.write disturbance path rendered = (after, .ok ())) :
    ∃ text, rendered = .ok text ∧ after.content? path = .ok (some (encode text)) := by
  obtain ⟨parent, name, made, text, _, whole, filled⟩ := write_eq_ok written
  obtain ⟨named, place, replaces⟩ := replaces_of_fillTemporary filled
  have found : after.find path = .ok (.file (encode text)) := by
    rw [find, replaces.located]
    dsimp only
    rw [replaces.holds]
  refine ⟨text, whole, ?_⟩
  rw [content?, Path.hasNull_text named parent name, found]
  rfl

def SameTree (store other : FileStore) : Prop :=
  ∀ place, store.stored? place = other.stored? place ∨
    ∃ content content', store.stored? place = some (.file content) ∧
      other.stored? place = some (.file content')

theorem sameTree_put (store : FileStore) (place : Location) (content content' : List UInt8) :
    SameTree (store.put place (.file content)) (store.put place (.file content')) := by
  intro other
  by_cases same : other = place
  · subst same
    cases start : other.isStart with
    | true => exact Or.inl (by rw [stored?_of_isStart _ start, stored?_of_isStart _ start])
    | false =>
        exact Or.inr ⟨content, content', stored?_put_self _ _ start, stored?_put_self _ _ start⟩
  · exact Or.inl (by rw [stored?_put_of_ne _ _ same, stored?_put_of_ne _ _ same])

theorem walk_of_sameTree {store other : FileStore} (same : SameTree store other) (here : Location)
    (parts : List String) : store.walk here parts = other.walk here parts := by
  induction parts generalizing here with
  | nil => rfl
  | cons part parts ih =>
      rw [walk, walk]
      rcases same here with equal | ⟨_, _, left, right⟩
      · rw [equal]
        split
        · rfl
        · rw [ih]
        · rfl
      · rw [left, right]

theorem target_of_sameTree {store other : FileStore} (same : SameTree store other) (path : Path) :
    store.target path = other.target path := by
  simp only [target, locate, walk_of_sameTree same]
  split
  · rfl
  · split
    · rfl
    · next place _ =>
        rcases same place with equal | ⟨_, _, left, right⟩
        · rw [equal]
        · rw [left, right]

theorem outcome_clearTemporary (store other : FileStore) (disturbance : Disturbance)
    (temporary : Location) (fault : OsFault) :
    (store.clearTemporary disturbance temporary fault).2 =
      (other.clearTemporary disturbance temporary fault).2 := by
  unfold clearTemporary
  split <;> rfl

theorem outcome_replaceTarget {store other : FileStore} (same : SameTree store other)
    (disturbance : Disturbance) (path : Path) (temporary : Location)
    (content content' : List UInt8) :
    (store.replaceTarget disturbance path temporary content).2 =
      (other.replaceTarget disturbance path temporary content').2 := by
  unfold replaceTarget
  rw [target_of_sameTree same]
  split
  · exact outcome_clearTemporary _ _ _ _ _
  · split
    · exact outcome_clearTemporary _ _ _ _ _
    · rfl

theorem outcome_fillTemporary (store : FileStore) (disturbance : Disturbance) (path : Path)
    (content content' : List UInt8) :
    (store.fillTemporary disturbance path content).2 =
      (store.fillTemporary disturbance path content').2 := by
  unfold fillTemporary
  split
  · rfl
  · split
    · exact outcome_clearTemporary _ _ _ _ _
    · exact outcome_replaceTarget (sameTree_put _ _ _ _) _ _ _ _ _

/-- Whether a text that can be rendered is written depends on the path and on the files, and not on
the text. -/
theorem outcome_write (store : FileStore) (disturbance : Disturbance) (path : Path)
    (rendered : Except Failure String) (text : String) :
    (store.write disturbance path rendered).2 =
      (store.write disturbance path (rendered.map fun _ => text)).2 := by
  unfold write
  split
  · rfl
  · cases store.makeDirectories disturbance path.parent path.parent.parts.length with
    | mk made directories =>
        cases directories with
        | error fault => rfl
        | ok _ =>
            cases rendered with
            | error failure => rfl
            | ok whole =>
                simp only [Except.map]
                split
                · rfl
                · exact congrArg (Except.mapError Failure.system)
                    (outcome_fillTemporary _ _ _ _ _)

/-- A write is refused for a null in the path or for its text, and otherwise by the system alone. -/
theorem kind_of_write {store : FileStore} {disturbance : Disturbance} {path : Path}
    {rendered : Except Failure String} {failure : Failure}
    (refused : (store.write disturbance path rendered).2 = .error failure) :
    failure.kind = .value ∨ rendered = .error failure ∨ ∃ fault, failure.kind = .system fault := by
  unfold write at refused
  split at refused
  · cases refused
    exact Or.inl rfl
  · split at refused
    · cases refused
      exact Or.inr (Or.inr ⟨_, rfl⟩)
    · cases refused
      exact Or.inr (Or.inl rfl)
    · split at refused
      · cases refused
        exact Or.inl rfl
      · simp only [asFailure] at refused
        generalize (fillTemporary _ _ _ _).2 = outcome at refused
        cases outcome with
        | ok _ => cases refused
        | error fault =>
            cases refused
            exact Or.inr (Or.inr ⟨fault, rfl⟩)

end FileStore

end SatClient
