/-
The path of an entry of a directory: its walk is the walk of the directory and one step into the
entry, whatever the spelling of the directory's path (`steps_child`).
-/
import Investigations.Files.Disk
import Investigations.Proofs.Text.Bytes

namespace Investigations.Files

/-- A text that can be the name of an entry: it is one component of a path and leads down. -/
structure IsName (name : String) : Prop where
  slash : '/' ∉ name.toList
  step : Step.ofComponent? name.toList = some (.into name)

namespace IsName

variable {name : String}

theorem ne_nil (h : IsName name) : name.toList ≠ [] := by
  intro hn
  have := h.step
  rw [hn] at this
  cases this

theorem ne_dot (h : IsName name) : name.toList ≠ ['.'] := by
  intro hn
  have := h.step
  rw [hn] at this
  cases this

end IsName

namespace Path

/-- The names that the walk of a path goes into. -/
def names (path : Path) : List String :=
  path.steps.filterMap fun
    | .into name => some name
    | .up => none

/-- A path without `..` is its names. -/
theorem steps_eq_map_names {path : Path} (h : .up ∉ path.steps) :
    path.steps = path.names.map .into := by
  unfold names
  generalize path.steps = steps at h ⊢
  induction steps with
  | nil => rfl
  | cons step steps ih =>
    cases step with
    | up => exact absurd (List.mem_cons_self ..) h
    | into name =>
      rw [List.filterMap_cons, List.map_cons, ← ih fun hm => h (List.mem_cons_of_mem _ hm)]

/-- The last step of a path that names an entry and does not end as the path of a directory. -/
theorem steps_eq_concat {path : Path} {component : List Char}
    (hl : path.lastComponent? = some component) (hd : component ≠ ['.']) (hu : component ≠ ['.', '.'])
    (hm : path.meansDirectory = false) :
    path.steps = path.steps.dropLast ++ [.into (String.ofList component)] := by
  unfold lastComponent? at hl
  unfold meansDirectory at hm
  unfold steps
  rcases List.eq_nil_or_concat path.components with hn | ⟨above, last, hc⟩
  · rw [hn] at hl
    cases hl
  · rw [List.concat_eq_append] at hc
    rw [hc] at hl hm ⊢
    have hlast : last ≠ [] := by
      rintro rfl
      simp at hm
    have : last = component := by
      simpa [hlast] using hl
    subst this
    rw [List.filterMap_append]
    have hstep : Step.ofComponent? last = some (.into (String.ofList last)) := by
      unfold Step.ofComponent?
      split
      · exact absurd rfl hlast
      · exact absurd rfl hd
      · exact absurd rfl hu
      · rfl
    simp [hstep]

theorem text_ne_empty_of_meansDirectory {path : Path} (h : path.meansDirectory = false) :
    path.text ≠ "" := by
  intro ht
  unfold meansDirectory components at h
  rw [ht] at h
  cases h

/-! ## The path of an entry -/

/-- How the path of an entry is written: after an empty path or a slash the name follows, after
anything else a slash comes first. -/
theorem toList_child (dir : Path) (name : String) :
    (dir.text.toList = [] ∧ (dir.child name).text.toList = name.toList) ∨
      (∃ init, dir.text.toList = init ++ ['/'] ∧
        (dir.child name).text.toList = init ++ '/' :: name.toList) ∨
      (dir.text.toList ≠ [] ∧
        (dir.child name).text.toList = dir.text.toList ++ '/' :: name.toList) := by
  unfold child
  split
  · rename_i hl
    have hd := List.getLast?_eq_none_iff.1 hl
    exact .inl ⟨hd, by rw [String.toList_append, hd, List.nil_append]⟩
  · rename_i hl
    obtain ⟨init, hd⟩ := List.getLast?_eq_some_iff.1 hl
    exact .inr (.inl ⟨init, hd, by rw [String.toList_append, hd]; simp⟩)
  · rename_i last _ hl
    refine .inr (.inr ⟨?_, ?_⟩)
    · intro hd
      rw [hd] at hl
      cases hl
    · have hslash : "/".toList = ['/'] := rfl
      simp [String.toList_append, hslash]

/-- The components of the path of an entry: those that spell the walk of the directory, and the
name. -/
theorem components_child (dir : Path) {name : String} (h : IsName name) :
    ∃ above, (dir.child name).components = above ++ [name.toList] ∧
      above.filterMap Step.ofComponent? = dir.steps := by
  have hname : Lines.pieces '/' name.toList = [name.toList] := by
    unfold Lines.pieces
    rw [Lines.split_of_notMem h.slash]
  unfold steps components
  rcases toList_child dir name with ⟨hd, hc⟩ | ⟨init, hd, hc⟩ | ⟨-, hc⟩
  · exact ⟨[], by rw [hc, hname]; rfl, by rw [hd]; rfl⟩
  · -- The slash at the end serves for the name, too. The empty piece after it was no step.
    refine ⟨Lines.pieces '/' init, by rw [hc, Lines.pieces_append_cons, hname], ?_⟩
    rw [hd, Lines.pieces_append_cons, List.filterMap_append]
    simp [Lines.pieces, Step.ofComponent?]
  · exact ⟨Lines.pieces '/' dir.text.toList, by rw [hc, Lines.pieces_append_cons, hname], rfl⟩

theorem steps_child {dir : Path} {name : String} (h : IsName name) :
    (dir.child name).steps = dir.steps ++ [.into name] := by
  obtain ⟨above, hc, ha⟩ := components_child dir h
  unfold steps at ha ⊢
  rw [hc, List.filterMap_append, ha]
  simp [h.step]

theorem names_child {dir : Path} {name : String} (h : IsName name) :
    (dir.child name).names = dir.names ++ [name] := by
  unfold names
  rw [steps_child h, List.filterMap_append]
  rfl

theorem up_notMem_child {dir : Path} {name : String} (h : IsName name) (hd : .up ∉ dir.steps) :
    .up ∉ (dir.child name).steps := by
  rw [steps_child h]
  simp [hd]

theorem lastComponent?_child {dir : Path} {name : String} (h : IsName name) :
    (dir.child name).lastComponent? = some name.toList := by
  obtain ⟨above, hc, -⟩ := components_child dir h
  unfold lastComponent?
  rw [hc, List.filter_append]
  simp [h.ne_nil]

theorem meansDirectory_child {dir : Path} {name : String} (h : IsName name) :
    (dir.child name).meansDirectory = false := by
  obtain ⟨above, hc, -⟩ := components_child dir h
  unfold meansDirectory
  rw [hc, List.getLast?_concat]
  simp [h.ne_nil, h.ne_dot]

theorem isAbsolute_child {dir : Path} {name : String} (h : IsName name) :
    (dir.child name).isAbsolute = dir.isAbsolute := by
  have hslash : name.toList.head? ≠ some '/' := fun hh => h.slash (List.mem_of_head? hh)
  unfold isAbsolute
  rcases toList_child dir name with ⟨hd, hc⟩ | ⟨init, hd, hc⟩ | ⟨hd, hc⟩
  · rw [hc, hd]
    simpa using hslash
  · rw [hc, hd]
    cases init <;> rfl
  · rw [hc, List.head?_append_of_ne_nil _ hd]

theorem text_child_ne_empty {dir : Path} {name : String} (h : IsName name) :
    (dir.child name).text ≠ "" := by
  intro ht
  rw [← String.toList_eq_nil_iff] at ht
  rcases toList_child dir name with ⟨-, hc⟩ | ⟨init, -, hc⟩ | ⟨-, hc⟩ <;> rw [hc] at ht
  · exact h.ne_nil ht
  · simp at ht
  · simp at ht

theorem mem_toList_child {dir : Path} {name : String} {c : Char} (h : c ≠ '/') :
    c ∈ (dir.child name).text.toList ↔ c ∈ dir.text.toList ∨ c ∈ name.toList := by
  rcases toList_child dir name with ⟨hd, hc⟩ | ⟨init, hd, hc⟩ | ⟨-, hc⟩ <;> rw [hc]
  · simp [hd]
  · simp [hd, h]
  · simp [h]

/-- The directory of an entry is the directory that its path was made from, if that is relative and
ends in a name. -/
theorem parent_child {dir : Path} {name : String} (h : IsName name) {last : List Char}
    (hl : dir.components.getLast? = some last) (hi : isIdle last = false)
    (ha : dir.isAbsolute = false) : (dir.child name).parent = dir := by
  have hname : isIdle name.toList = false := by
    simp [isIdle, h.ne_nil, h.ne_dot]
  have hpieces : Lines.pieces '/' name.toList = [name.toList] := by
    rw [Lines.pieces, Lines.split_of_notMem h.slash]
  have hcomponents : (dir.child name).components = dir.components ++ [name.toList] := by
    unfold components at hl ⊢
    rcases toList_child dir name with ⟨hd, -⟩ | ⟨init, hd, -⟩ | ⟨-, hc⟩
    · rw [hd] at hl
      cases hl
      cases hi
    · rw [hd, Lines.pieces_append_cons] at hl
      have hnil : Lines.pieces '/' [] = [[]] := rfl
      rw [hnil, List.getLast?_concat] at hl
      cases hl
      cases hi
    · rw [hc, Lines.pieces_append_cons, hpieces]
  have hjoined : ⟨String.ofList (List.intercalate ['/'] dir.components)⟩ = dir := by
    rw [components, Lines.intercalate_pieces, String.ofList_toList]
  unfold parent
  rw [hcomponents, isAbsolute_child h, ha]
  rcases hc : dir.components with _ | ⟨first, rest⟩
  · rw [hc] at hl
    cases hl
  · rw [hc] at hl hjoined
    rcases List.eq_nil_or_concat rest with rfl | ⟨init, final, rfl⟩
    · simp [hname, ← hjoined]
    · rw [List.concat_eq_append] at hl hjoined ⊢
      rw [← List.cons_append, List.getLast?_concat, Option.some.injEq] at hl
      subst hl
      simp [hname, hi, ← hjoined]

/-- The path of an entry is longer than that of its directory by the name, and a slash perhaps. -/
theorem utf8ByteSize_child (dir : Path) (name : String) :
    dir.text.utf8ByteSize + name.utf8ByteSize ≤ (dir.child name).text.utf8ByteSize ∧
      (dir.child name).text.utf8ByteSize ≤ dir.text.utf8ByteSize + 1 + name.utf8ByteSize := by
  have hslash : "/".utf8ByteSize = 1 := by decide
  unfold child
  split <;> simp only [String.utf8ByteSize_append] <;> omega

/-- What keeps a directory's path from being followed keeps the paths of its entries, too. -/
theorem fault?_of_child {dir : Path} {name : String} (h : (dir.child name).fault? = none) :
    dir.fault? = none := by
  unfold fault? at h ⊢
  have hsize := (utf8ByteSize_child dir name).1
  have hmem : '\x00' ∈ dir.text.toList → '\x00' ∈ (dir.child name).text.toList :=
    fun hm => (mem_toList_child (by decide)).2 (.inl hm)
  split at h
  · cases h
  · rename_i hn
    rw [if_neg fun hm => hn (hmem hm)]
    split at h
    · cases h
    · rename_i hl
      rw [if_neg (by omega)]

/-! ## Slashes at the end -/

/-- The path of a directory with any number of slashes after its name. -/
def slashed (name : String) (count : Nat) : Path := ⟨name ++ String.ofList (List.replicate count '/')⟩

theorem toList_slashed (name : String) (count : Nat) :
    (slashed name count).text.toList = name.toList ++ List.replicate count '/' := by
  rw [slashed, String.toList_append, String.toList_ofList]

theorem utf8ByteSize_slashed (name : String) (count : Nat) :
    (slashed name count).text.utf8ByteSize = name.utf8ByteSize + count := by
  rw [slashed, String.utf8ByteSize_append, Nat.add_left_cancel_iff]
  induction count with
  | zero => rfl
  | succ count ih =>
    have hslash : (String.singleton '/').utf8ByteSize = 1 := by decide
    rw [List.replicate_succ, String.ofList_cons, String.utf8ByteSize_append, ih]
    omega

/-- However many slashes there are, the walk is the same. -/
theorem steps_slashed {name : String} (h : IsName name) (count : Nat) :
    (slashed name count).steps = [.into name] := by
  have hname : Lines.pieces '/' name.toList = [name.toList] := by
    rw [Lines.pieces, Lines.split_of_notMem h.slash]
  have hslashes : ∀ n, Lines.pieces '/' (List.replicate n '/') = List.replicate (n + 1) [] := by
    intro n
    induction n with
    | zero => rfl
    | succ n ih =>
      rw [List.replicate_succ, Lines.pieces, Lines.split_cons_self, ih]
      rfl
  unfold steps components
  rw [toList_slashed]
  cases count with
  | zero => simp [hname, h.step]
  | succ n =>
    have hnone : (List.replicate (n + 1) []).filterMap Step.ofComponent? = [] := by
      rw [List.filterMap_replicate]
      rfl
    rw [List.replicate_succ, Lines.pieces_append_cons, hname, hslashes, List.filterMap_append, hnone]
    simp [h.step]

theorem isAbsolute_slashed {name : String} (h : IsName name) (count : Nat) :
    (slashed name count).isAbsolute = false := by
  have hslash : name.toList.head? ≠ some '/' := fun hh => h.slash (List.mem_of_head? hh)
  unfold isAbsolute
  rw [toList_slashed, List.head?_append_of_ne_nil _ h.ne_nil]
  simpa using hslash

end Path

/-- Paths start at the same place in disks with one working directory. -/
theorem Disk.start_congr {a b : Disk} (h : a.cwd = b.cwd) (path : Path) :
    a.start path = b.start path := by
  unfold Disk.start
  rw [h]

theorem Disk.start_child (disk : Disk) {dir : Path} {name : String} (h : IsName name) :
    disk.start (dir.child name) = disk.start dir := by
  unfold Disk.start
  rw [Path.isAbsolute_child h]

end Investigations.Files
