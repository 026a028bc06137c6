/-
What the file operations may change. Making directories adds directories on the way of the path and
leaves every file as it is, whether it succeeds or not (`makeDirectories_changed`); replacing a file
changes the file that the path leads to, or nothing (`replace_ok`, `replace_error`).
-/
import Investigations.Proofs.Files.Replace

namespace Investigations.Files

namespace Tree

/-! ## Changes -/

/-- All that may be different after some operations: directories are new at places of `made`, and
files have new bytes, or are new, at places of `written`. -/
def Changed (made written : Place → Prop) (before after : Tree) : Prop :=
  ∀ p, after.node? p = before.node? p ∨
    (made p ∧ before.node? p = none ∧ after.node? p = some .directory) ∨
    (written p ∧ before.node? p ≠ some .directory ∧ ∃ content, after.node? p = some (.file content))

namespace Changed

variable {made made' written written' : Place → Prop} {a b c : Tree}

theorem refl (made written : Place → Prop) (a : Tree) : Changed made written a a := fun _ => .inl rfl

theorem mono (h : Changed made written a b) (hm : ∀ p, made p → made' p)
    (hw : ∀ p, written p → written' p) : Changed made' written' a b := by
  intro p
  rcases h p with h | ⟨hp, h⟩ | ⟨hp, h⟩
  · exact .inl h
  · exact .inr (.inl ⟨hm p hp, h⟩)
  · exact .inr (.inr ⟨hw p hp, h⟩)

theorem trans (h : Changed made written a b) (h' : Changed made written b c) :
    Changed made written a c := by
  intro p
  -- What was made in between can not be made again, and no file is written over it.
  rcases h' p with hc | ⟨hp, hb, hc⟩ | ⟨hp, hb, hc⟩
  · rw [hc]
    exact h p
  · rcases h p with h | ⟨-, -, h⟩ | ⟨-, -, content, h⟩
    · exact .inr (.inl ⟨hp, h ▸ hb, hc⟩)
    · rw [h] at hb; cases hb
    · rw [h] at hb; cases hb
  · rcases h p with h | ⟨-, -, h⟩ | ⟨-, ha, -⟩
    · exact .inr (.inr ⟨hp, h ▸ hb, hc⟩)
    · exact absurd h hb
    · exact .inr (.inr ⟨hp, ha, hc⟩)

theorem grows (h : Changed made written a b) : Grows a b := by
  refine ⟨fun p hp => ?_, fun p hp => ?_⟩
  · rcases h p with h | ⟨-, h, -⟩ | ⟨-, h, -⟩
    · rw [h, hp]
    · rw [h] at hp; cases hp
    · exact absurd hp h
  · rcases h p with h | ⟨-, h, -⟩ | ⟨-, -, content, h⟩
    · rwa [h]
    · exact absurd h hp
    · rw [h]; simp

/-- Where nothing was written, the files are those from before, byte for byte. -/
theorem file_iff (h : Changed made written a b) {p : Place} (hp : ¬ written p)
    (content : List UInt8) : b.node? p = some (.file content) ↔ a.node? p = some (.file content) := by
  rcases h p with h | ⟨-, ha, hb⟩ | ⟨hw, -⟩
  · rw [h]
  · rw [ha, hb]; simp
  · exact absurd hw hp

end Changed

theorem changed_set_directory {root : Tree} {above : Place} {name : String}
    (ha : root.node? above = some .directory) (hn : root.node? (above ++ [name]) = none) :
    Changed (· = above ++ [name]) (fun _ => False) root
      (root.set (above ++ [name]) (.directory [])) := by
  intro p
  rw [node?_set ha (by rw [hn]; simp) (.inr rfl)]
  split
  · rename_i hp
    exact .inr (.inl ⟨hp, hp ▸ hn, rfl⟩)
  · exact .inl rfl

theorem changed_set_file {root : Tree} {above : Place} {name : String} (content : List UInt8)
    (ha : root.node? above = some .directory)
    (hn : root.node? (above ++ [name]) ≠ some .directory) :
    Changed (fun _ => False) (· = above ++ [name]) root
      (root.set (above ++ [name]) (.file content)) := by
  intro p
  rw [node?_set ha hn (.inl (by simp [node]))]
  split
  · rename_i hp
    exact .inr (.inr ⟨hp, hp ▸ hn, content, rfl⟩)
  · exact .inl rfl

/-! ## Making directories -/

/-- The way of some steps comes by a place. -/
def OnWay (root : Tree) (start : Place) (steps : List Step) (p : Place) : Prop :=
  ∃ way, way <+: steps ∧ root.follow start way = .ok p

theorem OnWay.grow {a b : Tree} (hg : Grows a b) {start p : Place} {steps : List Step}
    (h : OnWay a start steps p) : OnWay b start steps p := by
  obtain ⟨way, hp, hw⟩ := h
  exact ⟨way, hp, follow_grow hg hw⟩

theorem OnWay.append {root : Tree} {start p : Place} {steps : List Step}
    (h : OnWay root start steps p) (more : List Step) : OnWay root start (steps ++ more) p := by
  obtain ⟨way, hp, hw⟩ := h
  exact ⟨way, hp.trans (List.prefix_append _ _), hw⟩

theorem follow_concat {root : Tree} {start here : Place} {steps : List Step} {name : String}
    (hf : root.follow start steps = .ok here) (hd : root.node? here = some .directory)
    (hs : ¬ nameLimit < name.utf8ByteSize) (hn : root.node? (here ++ [name]) ≠ none) :
    root.follow start (steps ++ [.into name]) = .ok (here ++ [name]) := by
  rw [follow_append, hf]
  dsimp only
  rw [follow_into, hd]
  dsimp only
  rw [if_neg hs, if_neg hn]
  rfl

/-- What it is for one directory to have been made. -/
structure Made (root : Tree) (start : Place) (above : List Step) (here : Place) (name : String)
    (made : Tree) : Prop where
  walk : root.follow start above.reverse = .ok here
  directory : root.node? here = some .directory
  short : ¬ nameLimit < name.utf8ByteSize
  free : root.node? (here ++ [name]) = none
  made_eq : made = root.set (here ++ [name]) (.directory [])

theorem makeDirectory_ok {root made : Tree} {start : Place} {last : Step} {above : List Step}
    (h : root.makeDirectory start (last :: above) = .ok made) :
    ∃ here name, last = .into name ∧ Made root start above here name made := by
  cases last with
  | up =>
    simp only [makeDirectory] at h
    split at h <;> cases h
  | into name =>
    rw [makeDirectory] at h
    split at h
    · cases h
    · rename_i here hwalk
      unfold entry at h
      rcases hg : root.get? here with _ | ⟨content⟩ | ⟨entries⟩ <;> rw [hg] at h
      · cases h
      · cases h
      · by_cases hs : nameLimit < name.utf8ByteSize
        · simp [hs] at h
        · simp only [if_neg hs] at h
          split at h
          · cases h
          · cases h
          · rename_i hfree
            cases h
            refine ⟨here, name, rfl, hwalk, node?_eq_directory.2 ⟨entries, hg⟩, hs, ?_, rfl⟩
            rw [node?_child hg, Except.ok.inj hfree]
            rfl

theorem Made.changed {root made : Tree} {start here : Place} {above : List Step} {name : String}
    (h : Made root start above here name made) :
    Changed (OnWay made start (.into name :: above).reverse) (fun _ => False) root made := by
  have hset := changed_set_directory h.directory h.free
  rw [← h.made_eq] at hset
  refine hset.mono (fun p hp => ⟨_, List.prefix_refl _, ?_⟩) fun _ => id
  have hn : made.node? (here ++ [name]) = some .directory := by
    rw [h.made_eq, node?_set h.directory (by rw [h.free]; simp) (.inr rfl), if_pos rfl]
    rfl
  rw [List.reverse_cons, hp]
  exact follow_concat (follow_grow hset.grows h.walk) (hset.grows.directory _ h.directory) h.short
    (by rw [hn]; simp)

theorem makeDirectory_changed {root made : Tree} {start : Place} {last : Step} {above : List Step}
    (h : root.makeDirectory start (last :: above) = .ok made) :
    Changed (OnWay made start (last :: above).reverse) (fun _ => False) root made := by
  obtain ⟨here, name, rfl, hm⟩ := makeDirectory_ok h
  exact hm.changed

/-- Whatever comes of making directories, they are the only thing that is new, and each of them is
on the way. -/
theorem makeDirectories_changed (root : Tree) (start : Place) (steps : List Step) :
    Changed (OnWay (root.makeDirectories start steps).2 start steps.reverse) (fun _ => False) root
      (root.makeDirectories start steps).2 := by
  induction steps generalizing root with
  | nil => exact .refl _ _ _
  | cons last above ih =>
    rw [makeDirectories]
    split
    · rename_i made hmade
      exact makeDirectory_changed hmade
    · have ih := ih root
      have way : ∀ {left p}, OnWay left start above.reverse p →
          OnWay left start (last :: above).reverse p := by
        intro left p h
        rw [List.reverse_cons]
        exact h.append _
      split
      · rename_i fault left hleft
        rw [hleft] at ih
        exact ih.mono (fun _ => way) fun _ => id
      · rename_i left hleft
        rw [hleft] at ih
        split
        · -- The directories above are still on the way after the last one is made.
          rename_i made hmade
          have hlast := makeDirectory_changed hmade
          exact (ih.mono (fun _ h => (way h).grow hlast.grows) fun _ => id).trans hlast
        · exact ih.mono (fun _ => way) fun _ => id
    · exact .refl _ _ _

end Tree

namespace Disk

/-- All that may be different between two disks. The working directory is the same. -/
structure Changed (made written : Place → Prop) (before after : Disk) : Prop where
  cwd : after.cwd = before.cwd
  tree : before.root.Changed made written after.root

namespace Changed

variable {made made' written written' : Place → Prop} {a b c : Disk}

theorem refl (made written : Place → Prop) (a : Disk) : Changed made written a a := ⟨rfl, .refl _ _ _⟩

theorem mono (h : Changed made written a b) (hm : ∀ p, made p → made' p)
    (hw : ∀ p, written p → written' p) : Changed made' written' a b := ⟨h.cwd, h.tree.mono hm hw⟩

theorem trans (h : Changed made written a b) (h' : Changed made written b c) :
    Changed made written a c := ⟨h'.cwd.trans h.cwd, h.tree.trans h'.tree⟩

theorem start_eq (h : Changed made written a b) (path : Path) : b.start path = a.start path :=
  start_congr h.cwd path

end Changed

/-- A path leads to a place. -/
def Leads (disk : Disk) (path : Path) (p : Place) : Prop :=
  disk.root.follow (disk.start path) path.steps = .ok p

theorem Leads.child {disk : Disk} {dir : Path} {above : Place} (h : disk.Leads dir above)
    {name : String} (hn : IsName name) (hs : ¬ nameLimit < name.utf8ByteSize)
    (hd : disk.root.node? above = some .directory)
    (he : disk.root.node? (above ++ [name]) ≠ none) :
    disk.Leads (dir.child name) (above ++ [name]) := by
  unfold Leads
  rw [disk.start_child hn, Path.steps_child hn]
  exact Tree.follow_concat h hd hs he

/-- The path of an entry leads to a place of the name of the entry. -/
theorem Leads.getLast?_child {disk : Disk} {dir : Path} {name : String} {p : Place}
    (h : disk.Leads (dir.child name) p) (hn : IsName name) : p.getLast? = some name := by
  unfold Leads at h
  rw [Path.steps_child hn, Tree.follow_append] at h
  split at h
  · rename_i above _
    have hdown : p = above ++ [name] := Tree.follow_down h
    rw [hdown, List.getLast?_concat]
  · cases h

theorem Leads.isDirectory {disk : Disk} {path : Path} {p : Place} (h : disk.Leads path p)
    (hf : path.fault? = none) (ht : path.text ≠ "") (hd : disk.root.node? p = some .directory) :
    disk.isDirectory path = true :=
  isDirectory_iff.2 (look_eq_directory.2 ⟨hf, ht, p, h, hd⟩)

/-- A place that the way of a path comes by. -/
def OnWay (disk : Disk) (path : Path) (p : Place) : Prop :=
  disk.root.OnWay (disk.start path) path.steps p

theorem Leads.grow {made written : Place → Prop} {a b : Disk} (h : Changed made written a b)
    {path : Path} {p : Place} (hp : a.Leads path p) : b.Leads path p := by
  unfold Leads
  rw [h.start_eq]
  exact Tree.follow_grow h.tree.grows hp

/-- Where nothing was written, a path still leads to the file that it led to. -/
theorem Changed.look_file {made written : Place → Prop} {a b : Disk} (h : Changed made written a b)
    {path : Path} {content : List UInt8} (hl : a.look path = .ok (.file content))
    (hw : ∀ p, b.Leads path p → ¬ written p) : b.look path = .ok (.file content) := by
  obtain ⟨hf, ht, hm, p, hp, hnode⟩ := look_eq_file.1 hl
  have hgrown : b.Leads path p := Leads.grow h hp
  exact look_eq_file.2 ⟨hf, ht, hm, p, hgrown, (h.tree.file_iff (hw p hgrown) content).2 hnode⟩

theorem OnWay.grow {made written : Place → Prop} {a b : Disk} (h : Changed made written a b)
    {path : Path} {p : Place} (hp : a.OnWay path p) : b.OnWay path p := by
  unfold OnWay
  rw [h.start_eq]
  exact Tree.OnWay.grow h.tree.grows hp

theorem makeDirectories_changed (disk : Disk) (path : Path) :
    Changed ((disk.makeDirectories path).2.OnWay path) (fun _ => False) disk
      (disk.makeDirectories path).2 := by
  unfold makeDirectories
  dsimp only
  split
  · exact .refl ..
  · split
    · split
      · exact .refl ..
      · have h := disk.root.makeDirectories_changed (disk.start path) path.steps.reverse.tail
        rw [List.tail_reverse, List.reverse_reverse, ← List.tail_reverse] at h
        have hway : ∀ root start p, Tree.OnWay root start path.steps.dropLast p →
            Tree.OnWay root start path.steps p := by
          rintro root start p ⟨way, hpre, hw⟩
          exact ⟨way, hpre.trans (List.dropLast_prefix _), hw⟩
        split <;> exact ⟨rfl, h.mono (hway _ _) fun _ => id⟩
      · exact .refl ..
    · have h := disk.root.makeDirectories_changed (disk.start path) path.steps.reverse
      rw [List.reverse_reverse] at h
      exact ⟨rfl, h⟩

theorem makeDirectories_fault {disk : Disk} {path : Path} {fault : Fault}
    (h : path.fault? = some fault) : disk.makeDirectories path = (.error fault, disk) := by
  rw [makeDirectories, h]

/-- Making an entry of a directory that exists: either nothing stands there and the directory is
made, or nothing is done. -/
theorem makeDirectories_child {disk : Disk} {dir : Path} {name : String} {above : Place}
    (hn : IsName name) (hs : ¬ nameLimit < name.utf8ByteSize) (hl : disk.Leads dir above)
    (hd : disk.root.node? above = some .directory) (hf : (dir.child name).fault? = none) :
    disk.makeDirectories (dir.child name) =
      if disk.root.node? (above ++ [name]) = none then
        (.ok (), { disk with root := disk.root.set (above ++ [name]) (.directory []) })
      else if disk.root.node? (above ++ [name]) = some .directory then (.ok (), disk)
      else (.error .alreadyExists, disk) := by
  obtain ⟨entries, he⟩ := Tree.node?_eq_directory.1 hd
  have hdot : (dir.child name).lastComponent? ≠ some ['.'] := by
    rw [Path.lastComponent?_child hn, ne_eq, Option.some.injEq]
    exact hn.ne_dot
  unfold makeDirectories
  rw [hf]
  dsimp only
  rw [if_neg hdot, disk.start_child hn, Path.steps_child hn, List.reverse_append,
    List.reverse_singleton, List.singleton_append]
  have hentry : disk.root.entry above name = .ok (entries.lookup name) := by
    rw [Tree.entry, he]
    dsimp only
    rw [if_neg hs]
  have hget : disk.root.get? (above ++ [name]) = entries.lookup name := by
    rw [Tree.get?_append, he, Option.bind_some, Tree.get?_cons]
    rcases entries.lookup name with _ | child
    · rfl
    · exact Tree.get?_nil child
  rw [Tree.makeDirectories, Tree.makeDirectory, List.reverse_reverse, hl]
  dsimp only
  rw [hentry, Tree.node?, hget]
  rcases hc : entries.lookup name with _ | child
  · rfl
  · -- Something stands there, and is asked for again to tell a directory from a file.
    have hfollow : disk.root.follow (disk.start dir) (dir.steps ++ [.into name]) =
        .ok (above ++ [name]) := by
      refine Tree.follow_concat hl hd hs ?_
      rw [ne_eq, Tree.node?_eq_none, hget, hc]
      exact Option.some_ne_none _
    have hleads : disk.root.leadsToDirectory (disk.start dir) (.into name :: dir.steps.reverse) =
        disk.root.hasDirectory (above ++ [name]) := by
      rw [Tree.leadsToDirectory, List.reverse_cons, List.reverse_reverse, hfollow]
    dsimp only
    rw [hleads, Tree.hasDirectory, hget, hc]
    cases child <;> rfl

/-- There is nothing to make where there is a directory. -/
theorem makeDirectories_of_directory {disk : Disk} {dir : Path} {name : String} (hn : IsName name)
    (h : disk.isDirectory (dir.child name) = true) :
    disk.makeDirectories (dir.child name) = (.ok (), disk) := by
  obtain ⟨hf, -, place, hwalk, hnode⟩ := look_eq_directory.1 (isDirectory_iff.1 h)
  rw [disk.start_child hn, Path.steps_child hn] at hwalk
  obtain ⟨above, habove, hdir, hshort, rfl⟩ := Tree.follow_concat_ok hwalk
  rw [makeDirectories_child hn hshort habove hdir hf, if_neg (by rw [hnode]; simp), if_pos hnode]

/-! ## Replacing a file -/

theorem Destined.changed {disk : Disk} {path : Path} {above : Place} {name : String}
    (h : Destined disk path above name) (content : List UInt8) :
    Changed (fun _ => False) (· = above ++ [name]) disk
      { disk with root := disk.root.set (above ++ [name]) (.file content) } :=
  ⟨rfl, Tree.changed_set_file content h.directory h.free⟩

theorem Destined.node?_eq {disk : Disk} {path : Path} {above : Place} {name : String}
    (h : Destined disk path above name) (content : List UInt8) :
    (disk.root.set (above ++ [name]) (.file content)).node? (above ++ [name]) =
      some (.file content) := by
  rw [Tree.node?_set h.directory h.free (.inl (by simp [Tree.node])), if_pos rfl]
  rfl

/-- The path leads to the new file. -/
theorem Destined.leads {disk : Disk} {path : Path} {above : Place} {name : String}
    (h : Destined disk path above name) (content : List UInt8) :
    Leads { disk with root := disk.root.set (above ++ [name]) (.file content) } path
      (above ++ [name]) := by
  have hg := (h.changed content).tree.grows
  unfold Leads
  rw [h.steps]
  exact Tree.follow_concat (Tree.follow_grow hg h.walk) (hg.directory _ h.directory) h.short
    (by rw [h.node?_eq]; simp)

/-- Replacing a file that fails leaves everything as it is. -/
theorem replace_error {disk left : Disk} {path : Path} {content : List UInt8} {fault : Fault}
    (h : disk.replace path content = (.error fault, left)) : left = disk := by
  rw [replace_eq] at h
  split at h
  · cases h
  · cases h; rfl

/-- Replacing a file that succeeds writes the one file that the path leads to. -/
theorem replace_ok {disk written : Disk} {path : Path} {content : List UInt8}
    (h : disk.replace path content = (.ok (), written)) :
    Changed (fun _ => False) (written.Leads path) disk written ∧
      written.look path = .ok (.file content) := by
  rw [replace_eq] at h
  split at h
  · rename_i target htarget
    cases h
    obtain ⟨above, name, rfl, hd⟩ := destined_of_destination htarget
    have hleads := hd.leads content
    refine ⟨(hd.changed content).mono (fun _ => id) ?_, ?_⟩
    · rintro p rfl
      exact hleads
    · exact look_eq_file.2 ⟨hd.fault, Path.text_ne_empty_of_meansDirectory hd.named, hd.named, _,
        hleads, hd.node?_eq content⟩
  · cases h

end Disk

end Investigations.Files
