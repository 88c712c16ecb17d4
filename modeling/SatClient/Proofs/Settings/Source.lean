import SatClient.Settings.Source
import SatClient.Proofs.Settings.Validity
/-!
Settings out of a file. A file gives settings, and valid ones, unless it is missing, cannot be read
or holds properties that are not admitted; a path that cannot be examined is a fault of its own.
-/

namespace SatClient

theorem FileStore.content?_of_lock {files : FileStore} {path : Path} {fault : OsFault}
    (locked : files.lock? path = some fault) : files.content? path = .ok none := by
  unfold lock? at locked
  split at locked
  · cases locked
  · next plain =>
      split at locked
      · next found => rw [content?, if_neg plain, found]
      · cases locked

namespace Settings

inductive Faulty (files : FileStore) (path : Path) : Prop
  | missing (absent : files.content? path = .ok none) (unlocked : files.lock? path = none)
  | locked {fault : OsFault} (locked : files.lock? path = some fault)
  | undecodable {content : List UInt8} {fault : Text.Utf8.Fault}
      (present : files.content? path = .ok (some content))
      (broken : Text.Utf8.decodeStrict content = .error fault)
  | unadmitted {content : List UInt8} {text : List Char}
      (present : files.content? path = .ok (some content))
      (decoded : Text.Utf8.decodeStrict content = .ok text)
      (refused : ¬ Admits (Properties.parse (Text.normalizeNewlines text)))

def Examinable (files : FileStore) (path : Path) : Prop :=
  ∀ fault, files.content? path ≠ .error fault

structure SameFile (files files' : FileStore) (path : Path) : Prop where
  content : files'.content? path = files.content? path
  lock : files'.lock? path = files.lock? path

theorem ofFile_of_sameFile {files files' : FileStore} {path : Path}
    (same : SameFile files files' path) : ofFile files' path = ofFile files path := by
  rw [ofFile, ofFile, same.content, same.lock]

section

variable {files : FileStore} {path : Path}

theorem ofFile_of_content {content : List UInt8}
    (present : files.content? path = .ok (some content)) :
    ofFile files path = ofContent path content := by
  rw [ofFile, present]

theorem ofContent_of_decoded {content : List UInt8} {text : List Char}
    (decoded : Text.Utf8.decodeStrict content = .ok text) :
    ofContent path content = ofProperties (Properties.parse (Text.normalizeNewlines text)) := by
  rw [ofContent, decoded]

/-- A file gives the settings that its properties stand for, if they are admitted. -/
theorem ofFile_eq_ok (s : Settings) :
    ofFile files path = .ok s ↔ ∃ content text, files.content? path = .ok (some content) ∧
      Text.Utf8.decodeStrict content = .ok text ∧
      Admits (Properties.parse (Text.normalizeNewlines text)) ∧
      s = valuesOf (Properties.parse (Text.normalizeNewlines text)) := by
  constructor
  · intro accepted
    cases present : files.content? path with
    | error fault =>
        rw [ofFile, present] at accepted
        cases accepted
    | ok held =>
        cases held with
        | none =>
            simp only [ofFile, present] at accepted
            split at accepted <;> cases accepted
        | some content =>
            rw [ofFile_of_content present] at accepted
            cases decoded : Text.Utf8.decodeStrict content with
            | error fault =>
                rw [ofContent, decoded] at accepted
                cases accepted
            | ok text =>
                rw [ofContent_of_decoded decoded, ofProperties_eq_ok] at accepted
                exact ⟨content, text, rfl, decoded, accepted⟩
  · rintro ⟨content, text, present, decoded, accepted⟩
    rwa [ofFile_of_content present, ofContent_of_decoded decoded, ofProperties_eq_ok]

theorem exists_of_ofFile {s : Settings} (accepted : ofFile files path = .ok s) :
    ∃ properties, ofProperties properties = .ok s := by
  obtain ⟨_, _, _, _, read⟩ := (ofFile_eq_ok s).mp accepted
  exact ⟨_, (ofProperties_eq_ok _ s).mpr read⟩

theorem valid_of_ofFile {s : Settings} (accepted : ofFile files path = .ok s) : s.Valid := by
  obtain ⟨_, read⟩ := exists_of_ofFile accepted
  exact valid_of_ofProperties read

theorem not_faulty_of_admits {content : List UInt8} {text : List Char}
    (present : files.content? path = .ok (some content))
    (decoded : Text.Utf8.decodeStrict content = .ok text)
    (admits : Admits (Properties.parse (Text.normalizeNewlines text))) : ¬ Faulty files path := by
  intro faulty
  cases faulty with
  | missing absent _ => simp [present] at absent
  | locked locked =>
      have absent := FileStore.content?_of_lock locked
      simp [present] at absent
  | undecodable other broken =>
      rw [present] at other
      cases other
      simp [decoded] at broken
  | unadmitted other readable refused =>
      rw [present] at other
      cases other
      rw [decoded] at readable
      cases readable
      exact refused admits

theorem ofFile_cases (examinable : Examinable files path) :
    (∃ s, ofFile files path = .ok s ∧ ¬ Faulty files path) ∨
      ∃ failure, ofFile files path = .error failure ∧ failure.kind = .configuration ∧
        Faulty files path := by
  cases present : files.content? path with
  | error fault => exact absurd present (examinable fault)
  | ok held =>
      cases held with
      | none =>
          refine Or.inr ?_
          cases locked : files.lock? path with
          | none => exact ⟨.settingsFileMissing path.text, by simp [ofFile, present, locked], rfl,
              .missing present locked⟩
          | some fault => exact ⟨.settingsFileLocked path.text fault,
              by simp [ofFile, present, locked], rfl, .locked locked⟩
      | some content =>
          rw [ofFile_of_content present]
          cases decoded : Text.Utf8.decodeStrict content with
          | error fault => exact Or.inr ⟨.settingsFileUnreadable path.text fault,
              by simp [ofContent, decoded], rfl, .undecodable present decoded⟩
          | ok text =>
              rw [ofContent_of_decoded decoded]
              cases read : ofProperties (Properties.parse (Text.normalizeNewlines text)) with
              | error failure =>
                  refine Or.inr ⟨failure, rfl, kind_of_ofProperties read, ?_⟩
                  refine .unadmitted present decoded fun admits => ?_
                  have given := (ofProperties_eq_ok _ _).mpr ⟨admits, rfl⟩
                  rw [read] at given
                  cases given
              | ok s =>
                  have admits := ((ofProperties_eq_ok _ s).mp read).1
                  exact Or.inl ⟨s, rfl, not_faulty_of_admits present decoded admits⟩

end

end Settings

end SatClient
