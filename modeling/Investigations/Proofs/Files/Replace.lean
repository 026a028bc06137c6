/-
Replacing a file. The draft is a file of the tree while it is there, yet what comes out is either
the tree with the new file in its place and nothing else touched, or the failure and the very tree
from before (`replace_eq`). Where a file goes to does not depend on its content (`destination`).
-/
import Investigations.Proofs.Files.Walk

namespace Investigations.Files

namespace Tree

/-! ## Entries put in and taken out again -/

theorem insertEntry_insertEntry (name : String) (old new : Tree) (entries : List (String × Tree)) :
    insertEntry name new (insertEntry name old entries) = insertEntry name new entries := by
  induction entries with
  | nil => simp [insertEntry]
  | cons entry rest ih =>
    by_cases h : entry.1 = name
    · simp [insertEntry, h]
    · simp [insertEntry, h, ih]

theorem insertEntry_lookup {name : String} {child : Tree} {entries : List (String × Tree)}
    (h : entries.lookup name = some child) : insertEntry name child entries = entries := by
  induction entries with
  | nil => cases h
  | cons entry rest ih =>
    obtain ⟨key, old⟩ := entry
    by_cases hk : key = name
    · subst hk
      simp only [List.lookup_cons, beq_self_eq_true, Option.some.injEq] at h
      simp [insertEntry, h]
    · have other : (name == key) = false := by simpa using Ne.symm hk
      simp only [List.lookup_cons, other] at h
      simp [insertEntry, hk, ih h]

theorem insertEntry_of_notMem {name : String} {child : Tree} {entries : List (String × Tree)}
    (h : name ∉ entries.map (·.1)) : insertEntry name child entries = entries ++ [(name, child)] := by
  induction entries with
  | nil => rfl
  | cons entry rest ih =>
    simp only [List.map_cons, List.mem_cons, not_or] at h
    simp [insertEntry, Ne.symm h.1, ih h.2]

theorem filter_ne_insertEntry {name other : String} (h : name ≠ other) (child : Tree)
    (entries : List (String × Tree)) :
    (insertEntry name child entries).filter (·.1 ≠ other) =
      insertEntry name child (entries.filter (·.1 ≠ other)) := by
  induction entries with
  | nil => simp [insertEntry, h]
  | cons entry rest ih =>
    by_cases hk : entry.1 = name
    · simp [insertEntry, hk, h]
    · by_cases ho : entry.1 = other
      · simp only [insertEntry, if_neg hk]
        simpa [ho] using ih
      · simp only [insertEntry, if_neg hk]
        simpa [ho, insertEntry, hk] using ih

theorem exists_cons_of_append (above : Place) (name : String) :
    ∃ next rest, above ++ [name] = next :: rest := by
  cases above with
  | nil => exact ⟨name, [], rfl⟩
  | cons next above => exact ⟨next, above ++ [name], rfl⟩

theorem set_cons {entries : List (String × Tree)} {first : String} {child : Tree}
    (h : entries.lookup first = some child) (rest : Place) (new : Tree) :
    (directory entries).set (first :: rest) new =
      .directory (insertEntry first (child.set rest new) entries) := by
  rw [set, h]
  rfl

theorem erase_cons {entries : List (String × Tree)} {first : String} {child : Tree}
    (h : entries.lookup first = some child) (above : Place) (name : String) :
    (directory entries).erase (first :: (above ++ [name])) =
      .directory (insertEntry first (child.erase (above ++ [name])) entries) := by
  obtain ⟨next, rest, he⟩ := exists_cons_of_append above name
  rw [he, erase, h]

theorem get?_set_above {root : Tree} {above : Place} {entries : List (String × Tree)}
    (h : root.get? above = some (.directory entries)) (name : String) (new : Tree) :
    (root.set (above ++ [name]) new).get? above =
      some (.directory (insertEntry name new entries)) := by
  induction above generalizing root with
  | nil =>
    rw [get?_nil, Option.some.injEq] at h
    subst h
    rw [get?_nil, List.nil_append, set, set]
  | cons first above ih =>
    obtain ⟨es, child, rfl, hc, hchild⟩ := exists_child h
    rw [List.cons_append, set_cons hc, get?_cons, lookup_insertEntry_self]
    exact ih hchild

/-- Taking away what was put under a new name gives back the tree. -/
theorem erase_set {root : Tree} {above : Place} {entries : List (String × Tree)}
    (h : root.get? above = some (.directory entries)) {name : String}
    (hfree : name ∉ entries.map (·.1)) (new : Tree) :
    (root.set (above ++ [name]) new).erase (above ++ [name]) = root := by
  induction above generalizing root with
  | nil =>
    rw [get?_nil, Option.some.injEq] at h
    subst h
    rw [List.nil_append, set, erase, insertEntry_of_notMem hfree]
    simp only [List.filter_append, directory.injEq]
    rw [List.filter_eq_self.2]
    · simp
    · intro entry he
      simp only [ne_eq, decide_eq_true_eq]
      rintro rfl
      exact hfree (List.mem_map_of_mem he)
  | cons first above ih =>
    obtain ⟨es, child, rfl, hc, hchild⟩ := exists_child h
    rw [List.cons_append, set_cons hc, erase_cons (lookup_insertEntry_self ..), ih hchild,
      insertEntry_insertEntry, insertEntry_lookup hc]

/-- What was put under a new name can be moved to another name of the directory; it is then as if
it had been put there at once. -/
theorem move_set {root : Tree} {above : Place} {entries : List (String × Tree)}
    (h : root.get? above = some (.directory entries)) {draft name : String}
    (hfree : draft ∉ entries.map (·.1)) (hne : name ≠ draft) (new : Tree) :
    (root.set (above ++ [draft]) new).move (above ++ [draft]) (above ++ [name]) =
      root.set (above ++ [name]) new := by
  have hsource : (root.set (above ++ [draft]) new).get? (above ++ [draft]) = some new := by
    have := get?_set_self (node?_eq_directory.2 ⟨entries, h⟩) draft new []
    rwa [get?_nil] at this
  rw [move, hsource]
  dsimp only
  clear hsource
  -- Both puts and the erasure go down to the same directory, one entry at a level.
  induction above generalizing root with
  | nil =>
    rw [get?_nil, Option.some.injEq] at h
    subst h
    rw [List.nil_append, List.nil_append, set, set, set, erase, insertEntry_of_notMem hfree,
      filter_ne_insertEntry hne]
    simp only [List.filter_append, directory.injEq, set]
    rw [List.filter_eq_self.2]
    · simp
    · intro entry he
      simp only [ne_eq, decide_eq_true_eq]
      rintro rfl
      exact hfree (List.mem_map_of_mem he)
  | cons first above ih =>
    obtain ⟨es, child, rfl, hc, hchild⟩ := exists_child h
    rw [List.cons_append, List.cons_append, set_cons hc, set_cons (lookup_insertEntry_self ..),
      erase_cons (lookup_insertEntry_self ..), ih hchild, insertEntry_insertEntry,
      insertEntry_insertEntry, set_cons hc]

end Tree

namespace Disk

theorem freeName?_notMem {taken : List String} {name : String} :
    ∀ {count : Nat}, freeName? taken count = some name → name ∉ taken
  | 0, h => by cases h
  | count + 1, h => by
    rw [freeName?] at h
    split at h
    · exact freeName?_notMem h
    · cases h
      assumption

/-! ## The draft -/

/-- What it is for a draft to have been made. -/
structure Drafted (disk : Disk) (path : Path) (content : List UInt8) (draft : Draft)
    (entries : List (String × Tree)) : Prop where
  walk : disk.root.follow (disk.start path) path.steps.dropLast = .ok draft.above
  above : disk.root.get? draft.above = some (.directory entries)
  free : draft.name ∉ entries.map (·.1)
  unmentioned : draft.name ∉ path.components.map String.ofList
  disk_eq : draft.disk = { disk with root := disk.root.set draft.place (.file content) }

theorem drafted_of_makeDraft {disk : Disk} {path : Path} {content : List UInt8} {draft : Draft}
    (h : disk.makeDraft path content = .ok draft) :
    ∃ entries, Drafted disk path content draft entries := by
  unfold makeDraft at h
  split at h
  · cases h
  · split at h
    · cases h
    · rename_i above hwalk
      split at h
      · cases h
      · cases h
      · rename_i entries habove
        split at h
        · cases h
        · rename_i name hname
          cases h
          have hn := freeName?_notMem hname
          simp only [List.mem_append, not_or] at hn
          exact ⟨entries, hwalk, habove, hn.1, hn.2, rfl⟩

/-- A place and the steps of a walk from there that keeps out of a draft: it neither starts there nor
has a step into it. -/
def Draft.Beside (draft : Draft) (p : Place) (steps : List Step) : Prop :=
  ¬ draft.place <+: p ∧ .into draft.name ∉ steps

theorem Draft.Beside.up {draft : Draft} {p : Place} {steps : List Step}
    (h : draft.Beside p (.up :: steps)) : draft.Beside p.dropLast steps :=
  ⟨fun hd => h.1 (hd.trans (List.dropLast_prefix p)), fun hm => h.2 (List.mem_cons_of_mem _ hm)⟩

theorem Draft.Beside.into {draft : Draft} {p : Place} {name : String} {steps : List Step}
    (h : draft.Beside p (.into name :: steps)) : draft.Beside (p ++ [name]) steps := by
  refine ⟨fun hd => ?_, fun hm => h.2 (List.mem_cons_of_mem _ hm)⟩
  rcases List.prefix_concat_iff.1 hd with he | hd
  · have hname := (List.append_inj' he rfl).2
    simp only [List.cons.injEq, and_true] at hname
    exact h.2 (by rw [hname]; exact List.mem_cons_self ..)
  · exact h.1 hd

namespace Drafted

variable {disk : Disk} {path : Path} {content : List UInt8} {draft : Draft}
  {entries : List (String × Tree)}

theorem above_directory (h : Drafted disk path content draft entries) :
    disk.root.node? draft.above = some .directory :=
  Tree.node?_eq_directory.2 ⟨entries, h.above⟩

theorem nothing_below (h : Drafted disk path content draft entries) {p : Place}
    (hp : draft.place <+: p) : disk.root.node? p = none := by
  obtain ⟨rest, rfl⟩ := hp
  rw [Draft.place, List.append_assoc, List.singleton_append, Tree.node?_eq_none, Tree.get?_append,
    h.above, Option.bind_some, Tree.get?_cons, Tree.lookup_eq_none_iff.2 h.free]
  rfl

/-- The way of the path does not come by the draft. -/
theorem start_beside (h : Drafted disk path content draft entries) :
    ¬ draft.place <+: disk.start path := by
  intro hp
  have hn := h.nothing_below hp
  rcases Tree.follow_ok_exists h.walk with hs | hs
  · exact hs hn
  · rw [← hs, h.above_directory] at hn
    cases hn

theorem into_notMem (h : Drafted disk path content draft entries) :
    .into draft.name ∉ path.steps := by
  intro hm
  obtain ⟨component, hc, hs⟩ := List.mem_filterMap.1 hm
  refine h.unmentioned (List.mem_map.2 ⟨component, hc, ?_⟩)
  unfold Step.ofComponent? at hs
  split at hs
  · cases hs
  · cases hs
  · cases hs
  · simpa using hs

theorem look_eq (h : Drafted disk path content draft entries) :
    draft.disk.look path = disk.look path := by
  have same : ∀ p, ¬ draft.place <+: p →
      (disk.root.set draft.place (.file content)).node? p = disk.root.node? p :=
    fun p hp => Tree.node?_set_of_not_below h.above_directory draft.name _ hp
  have hstart : draft.disk.start path = disk.start path := by rw [h.disk_eq]; rfl
  -- The walk keeps out of the draft, and outside of it the trees do not differ.
  have hway : draft.Beside (disk.start path) path.steps := ⟨h.start_beside, h.into_notMem⟩
  have hwalk := Tree.follow_congr (P := draft.Beside) (fun p _ hp => same p hp.1) (fun _ _ => Draft.Beside.up)
    (fun _ _ _ => Draft.Beside.into) hway
  rw [Disk.look_eq, Disk.look_eq, hstart, h.disk_eq]
  dsimp only
  rw [hwalk]
  rcases hf : disk.root.follow (disk.start path) path.steps with fault | place
  · rfl
  · dsimp only
    have hend := Tree.follow_on_way (P := draft.Beside) (fun _ _ => Draft.Beside.up)
      (fun _ _ _ => Draft.Beside.into)
      hway hf
    rw [same place hend.1]

theorem entry_eq (h : Drafted disk path content draft entries) {component : List Char}
    (hc : component ∈ path.components) :
    draft.disk.root.entry draft.above (String.ofList component) =
      disk.root.entry draft.above (String.ofList component) := by
  have hne : String.ofList component ≠ draft.name := fun he =>
    h.unmentioned (List.mem_map.2 ⟨component, hc, he⟩)
  unfold Tree.entry
  rw [h.disk_eq]
  dsimp only
  rw [Draft.place, Tree.get?_set_above h.above, h.above]
  dsimp only
  rw [Tree.lookup_insertEntry_of_ne hne]

end Drafted

theorem lastComponent?_mem {path : Path} {component : List Char}
    (h : path.lastComponent? = some component) : component ∈ path.components :=
  (List.mem_filter.1 (List.mem_of_getLast? h)).1

/-- A path that ends in `.` or `..` is refused, for what keeps it from being followed if something
does. -/
theorem find_busy (disk : Disk) (path : Path) :
    (disk.find path >>= fun _ => (.error .resourceBusy : Except Fault Place)) =
      disk.look path >>= fun _ => .error .resourceBusy := by
  unfold look
  rcases disk.find path with fault | tree <;> rfl

/-- Where a draft goes to does not depend on the draft. -/
theorem target_drafted {disk : Disk} {path : Path} {content : List UInt8} {draft : Draft}
    {entries : List (String × Tree)} (h : Drafted disk path content draft entries) :
    draft.target path = Draft.target ⟨draft.above, draft.name, disk⟩ path := by
  have hfind : (draft.disk.find path >>= fun _ => (.error .resourceBusy : Except Fault Place)) =
      disk.find path >>= fun _ => .error .resourceBusy := by
    rw [find_busy, find_busy, h.look_eq]
  unfold Draft.target
  split
  · rfl
  · split
    · rfl
    · exact hfind
    · exact hfind
    · rename_i component _ _ hl
      dsimp only
      rw [h.entry_eq (lastComponent?_mem hl)]

/-! ## The place of the new file -/

/-- The place of the file that replacing the file at a path gives. -/
def destination (disk : Disk) (path : Path) : Except Fault Place :=
  match disk.makeDraft path [] with
  | .error fault => .error fault
  | .ok draft => Draft.target ⟨draft.above, draft.name, disk⟩ path

/-- What the place of a new file is: a name in a directory that the path leads to, with no directory
there. -/
structure Destined (disk : Disk) (path : Path) (above : Place) (name : String) : Prop where
  walk : disk.root.follow (disk.start path) path.steps.dropLast = .ok above
  directory : disk.root.node? above = some .directory
  free : disk.root.node? (above ++ [name]) ≠ some .directory
  short : ¬ nameLimit < name.utf8ByteSize
  steps : path.steps = path.steps.dropLast ++ [.into name]
  fault : path.fault? = none
  named : path.meansDirectory = false

theorem Draft.target_named {draft : Draft} {path : Path} {component : List Char} (hf : path.fault? = none)
    (hl : path.lastComponent? = some component) (hd : component ≠ ['.'])
    (hu : component ≠ ['.', '.']) :
    draft.target path =
      match draft.disk.root.entry draft.above (String.ofList component) with
      | .error fault => .error fault
      | .ok found =>
        if path.meansDirectory then .error .notADirectory
        else
          match found with
          | some (.directory _) => .error .isADirectory
          | _ => .ok (draft.above ++ [String.ofList component]) := by
  unfold Draft.target
  rw [hf]
  dsimp only
  split
  · rename_i hn
    rw [hl] at hn
    cases hn
  · rename_i hn
    exact absurd (Option.some.inj (hl.symm.trans hn)) hd
  · rename_i hn
    exact absurd (Option.some.inj (hl.symm.trans hn)) hu
  · rename_i name _ _ hn
    cases hl.symm.trans hn
    rfl

theorem Draft.target_ok {draft : Draft} {path : Path} {target : Place}
    (h : draft.target path = .ok target) :
    ∃ component, path.lastComponent? = some component ∧ component ≠ ['.'] ∧
      component ≠ ['.', '.'] ∧ path.fault? = none ∧ path.meansDirectory = false ∧
      target = draft.above ++ [String.ofList component] ∧
      ∃ found, draft.disk.root.entry draft.above (String.ofList component) = .ok found ∧
        ∀ entries, found ≠ some (.directory entries) := by
  unfold Draft.target at h
  split at h
  · cases h
  · rename_i hf
    split at h
    · cases h
    · rcases hf : draft.disk.find path with _ | _ <;> rw [hf] at h <;> cases h
    · rcases hf : draft.disk.find path with _ | _ <;> rw [hf] at h <;> cases h
    · rename_i component hd hu hl
      dsimp only at h
      split at h
      · cases h
      · rename_i found he
        split at h
        · cases h
        · rename_i hm
          split at h
          · cases h
          · rename_i hfree
            cases h
            exact ⟨component, hl, hd, hu, hf, by simpa using hm, rfl, found, he, hfree⟩

theorem makeDraft_eq (disk : Disk) (path : Path) (content : List UInt8) :
    disk.makeDraft path content = (disk.makeDraft path []).map fun draft =>
      { draft with disk := { disk with root := disk.root.set draft.place (.file content) } } := by
  unfold makeDraft
  split
  · rfl
  · split
    · rfl
    · split
      · rfl
      · rfl
      · split <;> rfl

theorem destined_of_destination {disk : Disk} {path : Path} {target : Place}
    (h : disk.destination path = .ok target) :
    ∃ above name, target = above ++ [name] ∧ Destined disk path above name := by
  unfold destination at h
  split at h
  · cases h
  · rename_i draft hdraft
    obtain ⟨entries, hd⟩ := drafted_of_makeDraft hdraft
    obtain ⟨component, hl, hdot, hup, hf, hm, rfl, found, he, hfree⟩ := Draft.target_ok h
    dsimp only at he
    unfold Tree.entry at he
    rw [hd.above] at he
    dsimp only at he
    split at he
    · cases he
    · rename_i hshort
      cases he
      -- What is found under the name is what stands at the place.
      refine ⟨draft.above, String.ofList component, rfl, hd.walk, hd.above_directory, ?_, hshort,
        Path.steps_eq_concat hl hdot hup hm, hf, hm⟩
      rw [Tree.node?_child hd.above]
      rcases hl : entries.lookup (String.ofList component) with _ | ⟨content⟩ | ⟨es⟩
      · nofun
      · nofun
      · exact absurd hl (hfree es)

/-- Replacing a file: all goes well and the file is in its place with nothing else touched, or
nothing has changed at all. -/
theorem replace_eq (disk : Disk) (path : Path) (content : List UInt8) :
    disk.replace path content =
      match disk.destination path with
      | .ok target => (.ok (), { disk with root := disk.root.set target (.file content) })
      | .error fault => (.error fault, disk) := by
  unfold replace destination
  rw [makeDraft_eq]
  rcases hm : disk.makeDraft path [] with fault | draft
  · rfl
  · have hmade : disk.makeDraft path content = .ok
        { draft with disk := { disk with root := disk.root.set draft.place (.file content) } } := by
      rw [makeDraft_eq, hm]; rfl
    obtain ⟨entries, hd⟩ := drafted_of_makeDraft hmade
    simp only [Except.map]
    -- Where the draft goes to can be told before it is made.
    rw [target_drafted hd]
    dsimp only
    rcases ht : Draft.target ⟨draft.above, draft.name, disk⟩ path with fault | target
    · dsimp only [Draft.place]
      rw [Tree.erase_set hd.above hd.free]
    · obtain ⟨component, hl, -, -, -, -, rfl, -⟩ := Draft.target_ok ht
      have hne : String.ofList component ≠ draft.name := fun he =>
        hd.unmentioned (List.mem_map.2 ⟨component, lastComponent?_mem hl, he⟩)
      dsimp only [Draft.place]
      rw [Tree.move_set hd.above hd.free hne]

end Disk

end Investigations.Files
