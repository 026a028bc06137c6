/-
Suggestions files on disk. What was saved at a path reads back under the identity that saved it, in
order and unchanged, and reads as nothing under any other identity.
-/
import Investigations.Proofs.Files.Directories
import Investigations.Proofs.Suggestion.Sheet

namespace Investigations.SuggestionStore

open Files

/-! ## What is checked -/

theorem checkAll_eq_ok_iff {suggestions : List Suggestion} :
    checkAll suggestions = .ok () ↔ ∀ s ∈ suggestions, s.defect? = none := by
  induction suggestions with
  | nil => simp [checkAll]
  | cons s rest ih =>
    rw [checkAll, List.forall_mem_cons, ← ih]
    rcases s.defect? with _ | defect <;> simp

/-- A refusal is for a suggestion among those that were to be saved. -/
theorem checkAll_eq_error {suggestions : List Suggestion} {failure : Error}
    (h : checkAll suggestions = .error failure) :
    ∃ s ∈ suggestions, ∃ defect, s.defect? = some defect ∧
      failure = .invalidSuggestion s.testNameId defect.message := by
  induction suggestions with
  | nil => cases h
  | cons s rest ih =>
    rw [checkAll] at h
    split at h
    · rename_i defect hd
      cases h
      exact ⟨s, List.mem_cons_self .., defect, hd, rfl⟩
    · obtain ⟨t, ht, hrest⟩ := ih h
      exact ⟨t, List.mem_cons_of_mem _ ht, hrest⟩

theorem checkIdentity_eq_ok_iff {identity : ServerIdentity} :
    checkIdentity identity = .ok () ↔ identity.hasLineBreak = false := by
  unfold checkIdentity
  split <;> simp_all

/-! ## Saving -/

/-- Once nothing is refused, saving is replacing the file. -/
theorem save_of_checked {identity : ServerIdentity} {suggestions : List Suggestion}
    (hs : ∀ s ∈ suggestions, s.defect? = none) (hi : identity.hasLineBreak = false) (disk : Disk)
    (path : Path) :
    save disk identity path suggestions =
      match disk.replace path (Sheet.encode identity suggestions) with
      | (.ok (), written) => ⟨.ok (), written, [.suggestionsWritten path suggestions.length]⟩
      | (.error fault, left) => ⟨.error (.io fault), left, []⟩ := by
  rcases hr : disk.replace path (Sheet.encode identity suggestions) with ⟨fault | done, left⟩ <;>
    simp only [save, checkAll_eq_ok_iff.2 hs, checkIdentity_eq_ok_iff.2 hi, hr]

/-- The ways in which saving can end: a suggestion is refused, the identity is, or the file is to be
replaced. -/
theorem save_cases (disk : Disk) (identity : ServerIdentity) (path : Path)
    (suggestions : List Suggestion) :
    (∃ failure, checkAll suggestions = .error failure ∧
      save disk identity path suggestions = ⟨.error failure, disk, []⟩) ∨
    (∃ failure, checkIdentity identity = .error failure ∧
      save disk identity path suggestions = ⟨.error failure, disk, []⟩) ∨
    ((∀ s ∈ suggestions, s.defect? = none) ∧ identity.hasLineBreak = false) := by
  unfold save
  rcases ha : checkAll suggestions with failure | done
  · exact .inl ⟨failure, rfl, rfl⟩
  · rcases hi : checkIdentity identity with failure | done
    · exact .inr (.inl ⟨failure, rfl, rfl⟩)
    · exact .inr (.inr ⟨checkAll_eq_ok_iff.1 ha, checkIdentity_eq_ok_iff.1 hi⟩)

/-- Saving that succeeds has checked everything and replaced the file. -/
theorem save_ok {disk : Disk} {identity : ServerIdentity} {path : Path}
    {suggestions : List Suggestion} (h : (save disk identity path suggestions).answer = .ok ()) :
    (∀ s ∈ suggestions, s.defect? = none) ∧ identity.hasLineBreak = false ∧
      disk.replace path (Sheet.encode identity suggestions) =
        (.ok (), (save disk identity path suggestions).disk) := by
  rcases save_cases disk identity path suggestions with ⟨_, -, he⟩ | ⟨_, -, he⟩ | ⟨hs, hi⟩
  · rw [he] at h; cases h
  · rw [he] at h; cases h
  · refine ⟨hs, hi, ?_⟩
    rw [save_of_checked hs hi] at h ⊢
    rcases hr : disk.replace path (Sheet.encode identity suggestions) with ⟨fault | ⟨⟩, left⟩
    · rw [hr] at h; cases h
    · rfl

/-- Saving that fails leaves everything as it is. -/
theorem save_error {disk : Disk} {identity : ServerIdentity} {path : Path}
    {suggestions : List Suggestion} {failure : Error}
    (h : (save disk identity path suggestions).answer = .error failure) :
    (save disk identity path suggestions).disk = disk := by
  rcases save_cases disk identity path suggestions with ⟨_, -, he⟩ | ⟨_, -, he⟩ | ⟨hs, hi⟩
  · rw [he]
  · rw [he]
  · rw [save_of_checked hs hi] at h ⊢
    rcases hr : disk.replace path (Sheet.encode identity suggestions) with ⟨fault | ⟨⟩, left⟩
    · exact Disk.replace_error hr
    · rw [hr] at h; cases h

/-- On two disks on which replacing the file has the same answer, saving has the same answer: either it
comes to replacing the file on both, or it does nothing on either. -/
theorem save_congr {a b : Disk} {identity : ServerIdentity} {path : Path}
    {suggestions : List Suggestion}
    (h : (a.replace path (Sheet.encode identity suggestions)).1 =
      (b.replace path (Sheet.encode identity suggestions)).1) :
    let left := save a identity path suggestions
    let right := save b identity path suggestions
    let replaced := a.replace path (Sheet.encode identity suggestions)
    left.answer = right.answer ∧
      ((left.answer ≠ .ok () ∧ left.disk = a ∧ right.disk = b) ∨
        (left.answer = .ok () → replaced.1 = .ok ()) ∧ left.disk = replaced.2 ∧
          right.disk = (b.replace path (Sheet.encode identity suggestions)).2) := by
  unfold save
  rcases checkAll suggestions with failure | done
  · exact ⟨rfl, .inl ⟨by simp, rfl, rfl⟩⟩
  · rcases checkIdentity identity with failure | done
    · exact ⟨rfl, .inl ⟨by simp, rfl, rfl⟩⟩
    · dsimp only
      rcases ha : a.replace path (Sheet.encode identity suggestions) with ⟨fault | ⟨⟩, left⟩ <;>
        rcases hb : b.replace path (Sheet.encode identity suggestions) with ⟨fault' | ⟨⟩, right⟩ <;>
        rw [ha, hb] at h <;> cases h
      · exact ⟨rfl, .inr ⟨by simp, rfl, rfl⟩⟩
      · exact ⟨rfl, .inr ⟨fun _ => rfl, rfl, rfl⟩⟩

/-- What is checked can be saved, unless there is no place for the file. -/
theorem save_checked {identity : ServerIdentity} {suggestions : List Suggestion}
    (hs : ∀ s ∈ suggestions, s.defect? = none) (hi : identity.hasLineBreak = false) (disk : Disk)
    (path : Path) :
    (save disk identity path suggestions).answer = .ok () ∨
      ∃ fault, disk.destination path = .error fault ∧
        save disk identity path suggestions = ⟨.error (.io fault), disk, []⟩ := by
  rw [save_of_checked hs hi, Disk.replace_eq]
  rcases disk.destination path with fault | target
  · exact .inr ⟨fault, rfl, rfl⟩
  · exact .inl rfl

/-- One suggestion that can not be stored keeps all of them from being saved. -/
theorem save_refused {suggestions : List Suggestion} (h : ¬ ∀ s ∈ suggestions, s.defect? = none)
    (disk : Disk) (identity : ServerIdentity) (path : Path) :
    ∃ s ∈ suggestions, ∃ defect, s.defect? = some defect ∧
      save disk identity path suggestions =
        ⟨.error (.invalidSuggestion s.testNameId defect.message), disk, []⟩ := by
  rcases hk : checkAll suggestions with failure | done
  · obtain ⟨s, hm, defect, hd, rfl⟩ := checkAll_eq_error hk
    exact ⟨s, hm, defect, hd, by rw [save, hk]⟩
  · exact absurd (checkAll_eq_ok_iff.1 hk) h

/-! ## Reading what was saved -/

theorem read_of_look {disk : Disk} {path : Path} {content : List UInt8}
    (h : disk.look path = .ok (.file content)) (identity : ServerIdentity) :
    read disk identity path = .ok (Sheet.decode identity content) := by
  unfold read
  rw [Disk.read_eq, h]

theorem read_congr {a b : Disk} {path : Path} (h : a.look path = b.look path)
    (identity : ServerIdentity) : read a identity path = read b identity path := by
  unfold read
  rw [Disk.read_eq, Disk.read_eq, h]

/-- What was saved is read as it was, or as foreign. -/
theorem read_saved {disk : Disk} {writer : ServerIdentity} {path : Path}
    {suggestions : List Suggestion} (h : (save disk writer path suggestions).answer = .ok ())
    (reader : ServerIdentity) :
    read (save disk writer path suggestions).disk reader path =
      .ok (if writer = reader then .accepted suggestions [] else .foreign writer.value) := by
  obtain ⟨hs, hi, hr⟩ := save_ok h
  rw [read_of_look (Disk.replace_ok hr).2, Sheet.encode, Sheet.decode_encode,
    Sheet.decodeText_text hi hs]

/-- Saving and reading is a round trip for each server by itself: whatever is saved comes back,
in the same order, to a reader of the same identity, and nothing comes back to any other. -/
theorem read_save {disk : Disk} {writer reader : ServerIdentity} {path : Path}
    {suggestions : List Suggestion} (h : (save disk writer path suggestions).answer = .ok ()) :
    (read (save disk writer path suggestions).disk reader path).map Sheet.Reading.suggestions =
      .ok (if reader = writer then suggestions else []) := by
  rw [read_saved h]
  by_cases he : reader = writer
  · rw [if_pos he, if_pos he.symm]
    rfl
  · rw [if_neg he, if_neg (Ne.symm he)]
    rfl

/-- A shared directory: what one server saves there, another one does not see. -/
theorem read_save_shared :
    let disk : Disk := ⟨.directory [("d", .directory [])], []⟩
    let saved := save disk ⟨"a b\t"⟩ ⟨"d/f"⟩ [⟨"", "", ""⟩, ⟨"é", "1", "\t"⟩]
    saved.answer = .ok () ∧
      (read saved.disk ⟨"a b\t"⟩ ⟨"d/f"⟩).map Sheet.Reading.suggestions =
        .ok [⟨"", "", ""⟩, ⟨"é", "1", "\t"⟩] ∧
      (read saved.disk ⟨"a b"⟩ ⟨"d/f"⟩).map Sheet.Reading.suggestions = .ok [] := by
  refine ⟨by decide +kernel, (read_save (by decide +kernel)).trans ?_, (read_save (by decide +kernel)).trans ?_⟩
  · rw [if_pos rfl]
  · rw [if_neg (by decide)]

end Investigations.SuggestionStore
