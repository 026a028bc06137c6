/-
What does not depend on the bytes in files. Two trees have the same shape if nothing tells them apart
but the content of files. Walks go the same way in both (`SameShape.follow_eq`), a path leads to the
same kind of thing (`look_cases`), and a new file has the same place (`destination_congr`).
-/
import Investigations.Proofs.Files.Directories

namespace Investigations.Files

namespace Tree

/-- At each place there is the same in both trees, or a file in both. -/
def SameShape (a b : Tree) : Prop :=
  ∀ p, a.node? p = b.node? p ∨
    ∃ content content', a.node? p = some (.file content) ∧ b.node? p = some (.file content')

namespace SameShape

variable {a b : Tree}

theorem directory_iff (h : SameShape a b) (p : Place) :
    a.node? p = some .directory ↔ b.node? p = some .directory := by
  rcases h p with he | ⟨content, content', ha, hb⟩
  · rw [he]
  · rw [ha, hb]
    simp

theorem none_iff (h : SameShape a b) (p : Place) : a.node? p = none ↔ b.node? p = none := by
  rcases h p with he | ⟨content, content', ha, hb⟩
  · rw [he]
  · rw [ha, hb]
    simp

theorem follow_eq (h : SameShape a b) (here : Place) (steps : List Step) :
    a.follow here steps = b.follow here steps := by
  induction steps generalizing here with
  | nil => rfl
  | cons step steps ih =>
    cases step with
    | up =>
      rw [follow_up, follow_up, ih]
      rcases h here with he | ⟨content, content', ha, hb⟩
      · rw [he]
      · rw [ha, hb]
    | into name =>
      have hnext := h.none_iff (here ++ [name])
      rw [follow_into, follow_into, ih]
      simp only [hnext]
      rcases h here with he | ⟨content, content', ha, hb⟩
      · rw [he]
      · rw [ha, hb]

end SameShape

/-- The names that a directory holds are those that something stands under. -/
theorem mem_names {root : Tree} {above : Place} {entries : List (String × Tree)}
    (h : root.get? above = some (.directory entries)) (name : String) :
    name ∈ entries.map (·.1) ↔ root.node? (above ++ [name]) ≠ none := by
  rw [node?_child h, ne_eq, Option.map_eq_none_iff, lookup_eq_none_iff, not_not]

/-- An entry is refused for the same reason in both trees, or is a directory in both or in
neither. -/
theorem SameShape.entry_cases {a b : Tree} (h : SameShape a b) (here : Place) (name : String) :
    (∃ fault, a.entry here name = .error fault ∧ b.entry here name = .error fault) ∨
      ∃ found found', a.entry here name = .ok found ∧ b.entry here name = .ok found' ∧
        (found.map node = some .directory ↔ found'.map node = some .directory) := by
  have hdir := h.directory_iff (here ++ [name])
  have hkind := h here
  unfold entry
  rcases ha : a.get? here with _ | ⟨content⟩ | ⟨entries⟩ <;>
    rcases hb : b.get? here with _ | ⟨content'⟩ | ⟨entries'⟩ <;>
    simp [node?, node, ha, hb] at hkind
  · exact .inl ⟨_, rfl, rfl⟩
  · exact .inl ⟨_, rfl, rfl⟩
  · by_cases hs : nameLimit < name.utf8ByteSize
    · exact .inl ⟨.invalidFilename, if_pos hs, if_pos hs⟩
    · rw [node?_child ha, node?_child hb] at hdir
      exact .inr ⟨_, _, if_neg hs, if_neg hs, hdir⟩

end Tree

namespace Disk

theorem freeName?_congr {taken taken' : List String} (h : ∀ name, name ∈ taken ↔ name ∈ taken')
    (count : Nat) : freeName? taken count = freeName? taken' count := by
  induction count with
  | zero => rfl
  | succ count ih => simp only [freeName?, h, ih]

section SameShape

variable {a b : Disk} (hc : a.cwd = b.cwd) (h : a.root.SameShape b.root)

include hc

theorem draftPath_congr (path : Path) : a.draftPath path = b.draftPath path := by
  unfold draftPath absolute
  rw [hc]

include h

/-- A path leads to the same, or to files at one place. -/
theorem look_cases (path : Path) :
    a.look path = b.look path ∨ ∃ p content content', a.root.node? p = some (.file content) ∧
      b.root.node? p = some (.file content') ∧ a.look path = .ok (.file content) ∧
      b.look path = .ok (.file content') := by
  rw [look_eq, look_eq, start_congr hc, h.follow_eq]
  rcases path.fault? with _ | fault
  · dsimp only
    by_cases ht : path.text = ""
    · rw [if_pos ht, if_pos ht]
      exact .inl rfl
    · rw [if_neg ht, if_neg ht]
      rcases b.root.follow (b.start path) path.steps with fault | p
      · exact .inl rfl
      · dsimp only
        rcases h p with he | ⟨content, content', ha, hb⟩
        · rw [he]
          exact .inl rfl
        · rw [ha, hb]
          dsimp only
          cases path.meansDirectory with
          | true => exact .inl rfl
          | false => exact .inr ⟨p, content, content', ha, hb, rfl, rfl⟩
  · exact .inl rfl

theorem isDirectory_congr (path : Path) : a.isDirectory path = b.isDirectory path := by
  rw [Bool.eq_iff_iff, isDirectory_iff, isDirectory_iff]
  rcases look_cases hc h path with he | ⟨_, _, _, -, -, ha, hb⟩
  · rw [he]
  · rw [ha, hb]
    simp

theorem find_busy_congr (path : Path) :
    (a.find path >>= fun _ => (.error .resourceBusy : Except Fault Place)) =
      b.find path >>= fun _ => .error .resourceBusy := by
  rw [find_busy, find_busy]
  rcases look_cases hc h path with he | ⟨_, _, _, -, -, ha, hb⟩
  · rw [he]
  · rw [ha, hb]
    rfl

theorem target_congr (above : Place) (name : String) (path : Path) :
    Draft.target ⟨above, name, a⟩ path = Draft.target ⟨above, name, b⟩ path := by
  unfold Draft.target
  split
  · rfl
  · split
    · rfl
    · exact find_busy_congr hc h path
    · exact find_busy_congr hc h path
    · rename_i component _ _ _
      dsimp only
      rcases h.entry_cases above (String.ofList component) with
        ⟨fault, ha, hb⟩ | ⟨found, found', ha, hb, hd⟩
      · rw [ha, hb]
      · rw [ha, hb]
        dsimp only
        split
        · rfl
        · rcases found with _ | ⟨content⟩ | ⟨entries⟩ <;>
            rcases found' with _ | ⟨content'⟩ | ⟨entries'⟩ <;> simp [Tree.node] at hd ⊢

/-- Drafts are made in the same place and under the same name. -/
theorem makeDraft_congr (path : Path) (content : List UInt8) :
    (a.makeDraft path content).map (fun draft => (draft.above, draft.name)) =
      (b.makeDraft path content).map fun draft => (draft.above, draft.name) := by
  unfold makeDraft
  generalize draftNames = count
  rw [draftPath_congr hc, start_congr hc, h.follow_eq]
  rcases (b.draftPath path).fault? with _ | fault
  · dsimp only
    rcases b.root.follow (b.start path) path.steps.dropLast with fault | above
    · rfl
    · have hkind := h above
      dsimp only
      rcases ha : a.root.get? above with _ | ⟨content⟩ | ⟨entries⟩ <;>
        rcases hb : b.root.get? above with _ | ⟨content'⟩ | ⟨entries'⟩ <;>
        simp [Tree.node?, Tree.node, ha, hb] at hkind
      · rfl
      · rfl
      · have htaken : ∀ name, name ∈ entries.map (·.1) ++ path.components.map String.ofList ↔
            name ∈ entries'.map (·.1) ++ path.components.map String.ofList := by
          intro name
          rw [List.mem_append, List.mem_append, Tree.mem_names ha, Tree.mem_names hb, ne_eq, ne_eq,
            h.none_iff]
        dsimp only
        rw [freeName?_congr htaken]
        rcases freeName? (entries'.map (·.1) ++ path.components.map String.ofList) count with
          _ | name <;> rfl
  · rfl

/-- Where a new file goes to does not depend on the bytes of any file. -/
theorem destination_congr (path : Path) : a.destination path = b.destination path := by
  have hdraft := makeDraft_congr hc h path []
  unfold destination
  rcases ha : a.makeDraft path [] with fault | ⟨above, name, made⟩ <;>
    rcases hb : b.makeDraft path [] with fault' | ⟨above', name', made'⟩ <;>
    rw [ha, hb] at hdraft <;> cases hdraft
  · rfl
  · exact target_congr hc h above name path

end SameShape

/-! ## Replacing a file that is there -/

variable {disk written : Disk} {path : Path} {old content : List UInt8}

/-- The last component of the path of a file is its name. -/
theorem lastComponent?_of_look (h : disk.look path = .ok (.file old)) :
    ∃ component, path.lastComponent? = some component ∧ component ≠ ['.'] ∧
      component ≠ ['.', '.'] := by
  obtain ⟨-, -, hm, place, hwalk, hnode⟩ := look_eq_file.1 h
  unfold Path.meansDirectory at hm
  simp only [Bool.or_eq_false_iff, decide_eq_false_iff_not] at hm
  unfold Path.steps at hwalk
  unfold Path.lastComponent?
  rcases List.eq_nil_or_concat path.components with hn | ⟨above, last, hc⟩
  · exact absurd hn (List.cons_ne_nil _ _)
  · rw [List.concat_eq_append] at hc
    rw [hc, List.getLast?_concat, Option.some.injEq, Option.some.injEq] at hm
    rw [hc] at hwalk ⊢
    refine ⟨last, by simp [List.filter_append, hm.1], hm.2, ?_⟩
    rintro rfl
    -- A walk that ends with a step up ends in a directory.
    have hup : [['.', '.']].filterMap Step.ofComponent? = [.up] := rfl
    rw [List.filterMap_append, Tree.follow_append, hup] at hwalk
    split at hwalk
    · rw [Tree.follow_up] at hwalk
      split at hwalk
      · rename_i hd
        cases hwalk
        rw [Tree.node?_dropLast hd] at hnode
        cases hnode
      · cases hwalk
      · cases hwalk
    · cases hwalk

/-- The file at a path is an entry of a directory that the path leads to. -/
theorem entry_of_look (h : disk.look path = .ok (.file old)) {component : List Char}
    (hl : path.lastComponent? = some component) (hd : component ≠ ['.'])
    (hu : component ≠ ['.', '.']) :
    ∃ above entries, disk.root.follow (disk.start path) path.steps.dropLast = .ok above ∧
      disk.root.get? above = some (.directory entries) ∧
      disk.root.entry above (String.ofList component) = .ok (some (.file old)) := by
  obtain ⟨-, -, hm, place, hwalk, hnode⟩ := look_eq_file.1 h
  rw [Path.steps_eq_concat hl hd hu hm] at hwalk
  obtain ⟨above, habove, hdir, hshort, rfl⟩ := Tree.follow_concat_ok hwalk
  obtain ⟨entries, he⟩ := Tree.node?_eq_directory.1 hdir
  refine ⟨above, entries, habove, he, ?_⟩
  rw [Tree.node?_child he] at hnode
  rw [Tree.entry, he]
  dsimp only
  rw [if_neg hshort]
  rcases hc : entries.lookup (String.ofList component) with _ | ⟨content⟩ | ⟨below⟩ <;>
    rw [hc] at hnode <;> cases hnode
  rfl

/-- A draft of a file that is there can be made, unless its path can not be followed or all names for
drafts are taken. -/
theorem makeDraft_of_look (h : disk.look path = .ok (.file old)) (content : List UInt8) :
    (∃ draft, disk.makeDraft path content = .ok draft) ∨
      disk.makeDraft path content = .error .alreadyExists ∨
      ∃ fault, (disk.draftPath path).fault? = some fault ∧
        disk.makeDraft path content = .error fault := by
  obtain ⟨component, hl, hd, hu⟩ := lastComponent?_of_look h
  obtain ⟨above, entries, habove, he, -⟩ := entry_of_look h hl hd hu
  unfold makeDraft
  generalize draftNames = count
  rcases (disk.draftPath path).fault? with _ | fault
  · dsimp only
    rw [habove]
    dsimp only
    rw [he]
    dsimp only
    rcases freeName? (entries.map (·.1) ++ path.components.map String.ofList) count with _ | name
    · exact .inr (.inl rfl)
    · exact .inl ⟨_, rfl⟩
  · exact .inr (.inr ⟨fault, rfl, rfl⟩)

/-- Without a draft nothing is replaced. -/
theorem replace_of_undrafted {fault : Fault} (h : disk.makeDraft path content = .error fault) :
    disk.replace path content = (.error fault, disk) := by
  unfold replace
  split
  · rename_i refused hr
    cases h.symm.trans hr
    rfl
  · rename_i draft hr
    cases h.symm.trans hr

/-- A file that is there can be replaced if a draft of it can be made. -/
theorem replace_of_look (h : disk.look path = .ok (.file old)) (content : List UInt8) :
    (disk.replace path content).1 = .ok () ↔ ∃ draft, disk.makeDraft path content = .ok draft := by
  unfold replace
  constructor
  · intro hr
    split at hr
    · cases hr
    · rename_i draft hm
      exact ⟨draft, hm⟩
  · rintro ⟨draft, hm⟩
    obtain ⟨_, hdrafted⟩ := drafted_of_makeDraft hm
    obtain ⟨component, hl, hd, hu⟩ := lastComponent?_of_look h
    obtain ⟨above, entries, habove, -, hentry⟩ := entry_of_look h hl hd hu
    obtain ⟨hf, -, hmeans, -⟩ := look_eq_file.1 h
    cases Except.ok.inj (habove.symm.trans hdrafted.walk)
    have htarget : draft.target path = .ok (draft.above ++ [String.ofList component]) := by
      rw [target_drafted hdrafted, Draft.target_named hf hl hd hu, hentry, hmeans]
      rfl
    simp only [hm, htarget]

/-- A draft that can not be made can not be made with other content. -/
theorem makeDraft_error {fault : Fault} (h : disk.makeDraft path content = .error fault)
    (other : List UInt8) : disk.makeDraft path other = .error fault := by
  rw [makeDraft_eq] at h ⊢
  generalize disk.makeDraft path [] = made at h ⊢
  cases made with
  | error refused => exact h
  | ok draft => cases h

/-- A file that is there fails to be replaced for want of a draft only: there is no way to one, or no
name for one. -/
theorem replace_error_of_look {fault : Fault} (hl : disk.look path = .ok (.file old))
    (h : (disk.replace path content).1 = .error fault) :
    (∀ other, disk.makeDraft path other = .error fault) ∧
      (fault = .alreadyExists ∨ (disk.draftPath path).fault? = some fault) := by
  have hfault : ∀ {refused}, disk.makeDraft path content = .error refused → refused = fault := by
    intro refused hd
    rw [replace_of_undrafted hd] at h
    exact Except.error.inj h
  rcases makeDraft_of_look hl content with hd | hd | ⟨refused, hr, hd⟩
  · rw [(replace_of_look hl content).2 hd] at h
    cases h
  · cases hfault hd
    exact ⟨makeDraft_error hd, .inl rfl⟩
  · cases hfault hd
    exact ⟨makeDraft_error hd, .inr hr⟩

/-- The new file stands where the old one stood. -/
theorem replace_leads (ho : disk.look path = .ok (.file old))
    (h : disk.replace path content = (.ok (), written)) {p : Place} (hp : written.Leads path p) :
    disk.root.node? p = some (.file old) ∧ written.root.node? p = some (.file content) := by
  obtain ⟨hchanged, hlook⟩ := replace_ok h
  obtain ⟨-, -, -, before, hb, hbefore⟩ := look_eq_file.1 ho
  obtain ⟨-, -, -, after, ha, hafter⟩ := look_eq_file.1 hlook
  have hgrown : written.Leads path before := Leads.grow hchanged hb
  cases Except.ok.inj (hp.symm.trans hgrown)
  cases Except.ok.inj (hp.symm.trans ha)
  exact ⟨hbefore, hafter⟩

theorem replace_shape (ho : disk.look path = .ok (.file old))
    (h : disk.replace path content = (.ok (), written)) : written.root.SameShape disk.root := by
  intro p
  rcases (replace_ok h).1.tree p with he | ⟨hf, -⟩ | ⟨hp, -⟩
  · exact .inl he
  · exact hf.elim
  · obtain ⟨hbefore, hafter⟩ := replace_leads ho h hp
    exact .inr ⟨content, old, hafter, hbefore⟩

/-- A file that was replaced can be replaced again. -/
theorem replace_again (ho : disk.look path = .ok (.file old))
    (h : disk.replace path content = (.ok (), written)) (new : List UInt8) :
    (written.replace path new).1 = .ok () := by
  have hsame := destination_congr (replace_ok h).1.cwd (replace_shape ho h) path
  rw [replace_eq] at h
  split at h
  · rename_i target htarget
    rw [replace_eq, hsame, htarget]
  · cases h

/-- Replacing a file by its own bytes changes nothing. -/
theorem replace_same (ho : disk.look path = .ok (.file old))
    (h : disk.replace path old = (.ok (), written)) (p : Place) :
    written.root.node? p = disk.root.node? p := by
  rcases (replace_ok h).1.tree p with he | ⟨hf, -⟩ | ⟨hp, -⟩
  · exact he
  · exact hf.elim
  · obtain ⟨hbefore, hafter⟩ := replace_leads ho h hp
    rw [hbefore, hafter]

end Disk

end Investigations.Files
