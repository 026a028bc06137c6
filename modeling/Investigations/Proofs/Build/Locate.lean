/-
Where the suggestions of a build are. Looking them up changes nothing; resolving the path makes our
directory where it is missing and does nothing else (`resolve_cases`). The view of a build is what
a reader finds of it, and depends on what stands inside its artifacts directory only (`view_congr`).
-/
import Investigations.Proofs.Files.Way
import Investigations.Proofs.Suggestion.Store
import Investigations.Suggestion.Artifact

namespace Investigations.Build

open Files

theorem isName_hostDirectoryName : IsName hostDirectoryName := ⟨by decide, by decide⟩

theorem isName_pluginDirectoryName : IsName pluginDirectoryName := ⟨by decide, by decide⟩

theorem isName_suggestionsFileName : IsName suggestionsFileName := ⟨by decide, by decide⟩

/-! ## The directories on the way -/

/-- Where there is an entry, there is its directory. -/
theorem isDirectory_of_child {disk : Disk} {dir : Path} {name : String} (hn : IsName name)
    {node : Node} (h : disk.look (dir.child name) = .ok node) (hd : dir.text ≠ "") :
    disk.isDirectory dir = true := by
  have hwalk : (dir.child name).fault? = none ∧
      ∃ place, disk.root.follow (disk.start (dir.child name)) (dir.child name).steps = .ok place := by
    cases node with
    | directory =>
      obtain ⟨hf, -, place, hp, -⟩ := Disk.look_eq_directory.1 h
      exact ⟨hf, place, hp⟩
    | file content =>
      obtain ⟨hf, -, -, place, hp, -⟩ := Disk.look_eq_file.1 h
      exact ⟨hf, place, hp⟩
  obtain ⟨hf, place, hp⟩ := hwalk
  rw [disk.start_child hn, Path.steps_child hn] at hp
  obtain ⟨above, habove, hdir, -, -⟩ := Tree.follow_concat_ok hp
  rw [Disk.isDirectory_iff, Disk.look_eq_directory]
  exact ⟨Path.fault?_of_child hf, hd, above, habove, hdir⟩

theorem isDirectory_host {build : Build} {disk : Disk}
    (h : disk.isDirectory build.pluginDirectory = true) :
    disk.isDirectory build.hostDirectory = true :=
  isDirectory_of_child isName_pluginDirectoryName (Disk.isDirectory_iff.1 h)
    (Path.text_child_ne_empty isName_hostDirectoryName)

theorem isDirectory_plugin {build : Build} {disk : Disk} {node : Node}
    (h : disk.look build.suggestionsFile = .ok node) :
    disk.isDirectory build.pluginDirectory = true :=
  isDirectory_of_child isName_suggestionsFileName h
    (Path.text_child_ne_empty isName_pluginDirectoryName)

theorem find_eq (build : Build) (disk : Disk) :
    (build.find disk).1 =
      if disk.isDirectory build.pluginDirectory then some build.suggestionsFile else none := by
  unfold find
  by_cases hp : disk.isDirectory build.pluginDirectory = true
  · rw [if_pos (isDirectory_host hp), if_pos hp]
  · rw [if_neg hp]
    split <;> rfl

/-! ## Resolving -/

/-- Without the directory of the host the build has no room. -/
theorem resolve_of_no_host {build : Build} {disk : Disk}
    (h : ¬ disk.isDirectory build.hostDirectory = true) :
    build.resolve disk = ⟨.error (.hostDirectoryMissing build.id build.hostDirectory), disk,
      [.hostDirectoryMissing build.id build.hostDirectory]⟩ := by
  unfold resolve
  rw [if_neg h]

/-- Where our directory is, there is nothing to make. -/
theorem resolve_of_directory {build : Build} {disk : Disk}
    (h : disk.isDirectory build.pluginDirectory = true) :
    build.resolve disk = ⟨.ok build.suggestionsFile, disk, []⟩ := by
  unfold resolve
  rw [if_pos (isDirectory_host h), if_pos h]

theorem resolve_of_look {build : Build} {disk : Disk} {node : Node}
    (h : disk.look build.suggestionsFile = .ok node) :
    build.resolve disk = ⟨.ok build.suggestionsFile, disk, []⟩ :=
  resolve_of_directory (isDirectory_plugin h)

/-- A path that can not be followed is refused before anything is made. -/
theorem resolve_of_fault {build : Build} {disk : Disk} {fault : Fault}
    (hh : disk.isDirectory build.hostDirectory = true)
    (hp : ¬ disk.isDirectory build.pluginDirectory = true)
    (hf : build.pluginDirectory.fault? = some fault) :
    build.resolve disk = ⟨.error (.io fault), disk, []⟩ := by
  unfold resolve
  rw [if_pos hh, if_neg hp, Disk.makeDirectories_fault hf]

/-- Otherwise our directory is made, unless something else stands in its place. -/
theorem resolve_of_missing {build : Build} {disk : Disk} {above : Place}
    (hp : ¬ disk.isDirectory build.pluginDirectory = true)
    (hf : build.pluginDirectory.fault? = none) (hl : disk.Leads build.hostDirectory above)
    (hd : disk.root.node? above = some .directory) :
    build.resolve disk =
      if disk.root.node? (above ++ [pluginDirectoryName]) = none then
        ⟨.ok build.suggestionsFile,
          { disk with root := disk.root.set (above ++ [pluginDirectoryName]) (.directory []) },
          [.pluginDirectoryMade build.id build.pluginDirectory]⟩
      else ⟨.error (.io .alreadyExists), disk, []⟩ := by
  have hh : disk.isDirectory build.hostDirectory = true :=
    hl.isDirectory (Path.fault?_of_child hf) (Path.text_child_ne_empty isName_hostDirectoryName) hd
  have hmake := Disk.makeDirectories_child isName_pluginDirectoryName (by decide) hl hd hf
  rw [← pluginDirectory] at hmake
  unfold resolve
  rw [if_pos hh, if_neg hp, hmake]
  rcases hn : disk.root.node? (above ++ [pluginDirectoryName]) with _ | ⟨content⟩ | _
  · rfl
  · rfl
  · -- A directory there would be ours, and it is missing.
    have hplugin : disk.Leads build.pluginDirectory (above ++ [pluginDirectoryName]) :=
      Disk.Leads.child hl isName_pluginDirectoryName (by decide) hd (by rw [hn]; simp)
    exact absurd
      (hplugin.isDirectory hf (Path.text_child_ne_empty isName_pluginDirectoryName) hn) hp

/-- Our directory was missing and has been made in the place `above`. -/
structure Opened (build : Build) (disk made : Disk) (above : Place) : Prop where
  host : disk.Leads build.hostDirectory above
  directory : disk.root.node? above = some .directory
  free : disk.root.node? (above ++ [pluginDirectoryName]) = none
  fault : build.pluginDirectory.fault? = none
  made_eq : made =
    { disk with root := disk.root.set (above ++ [pluginDirectoryName]) (.directory []) }

/-- All that resolving can come to. -/
theorem resolve_cases (build : Build) (disk : Disk) :
    (∃ failure events, build.resolve disk = ⟨.error failure, disk, events⟩) ∨
    (disk.isDirectory build.pluginDirectory = true ∧
      build.resolve disk = ⟨.ok build.suggestionsFile, disk, []⟩) ∨
    ∃ made above events, build.resolve disk = ⟨.ok build.suggestionsFile, made, events⟩ ∧
      Opened build disk made above := by
  by_cases hh : disk.isDirectory build.hostDirectory = true
  · by_cases hp : disk.isDirectory build.pluginDirectory = true
    · exact .inr (.inl ⟨hp, resolve_of_directory hp⟩)
    · obtain ⟨-, -, above, hl, hd⟩ := Disk.look_eq_directory.1 (Disk.isDirectory_iff.1 hh)
      rcases hf : build.pluginDirectory.fault? with _ | fault
      · rw [resolve_of_missing hp hf hl hd]
        by_cases hn : disk.root.node? (above ++ [pluginDirectoryName]) = none
        · rw [if_pos hn]
          exact .inr (.inr ⟨_, above, _, rfl, hl, hd, hn, hf, rfl⟩)
        · rw [if_neg hn]
          exact .inl ⟨_, _, rfl⟩
      · exact .inl ⟨_, _, resolve_of_fault hh hp hf⟩
  · exact .inl ⟨_, _, resolve_of_no_host hh⟩

namespace Opened

variable {build : Build} {disk made : Disk} {above : Place}

theorem changed (h : Opened build disk made above) :
    disk.Changed (· = above ++ [pluginDirectoryName]) (fun _ => False) made := by
  rw [h.made_eq]
  exact ⟨rfl, Tree.changed_set_directory h.directory h.free⟩

theorem node? (h : Opened build disk made above) (p : Place) :
    made.root.node? p =
      if p = above ++ [pluginDirectoryName] then some .directory else disk.root.node? p := by
  rw [h.made_eq]
  exact Tree.node?_set h.directory (by rw [h.free]; simp) (.inr rfl) p

theorem leads (h : Opened build disk made above) :
    made.Leads build.pluginDirectory (above ++ [pluginDirectoryName]) := by
  refine (h.host.grow h.changed).child isName_pluginDirectoryName (by decide) ?_ ?_
  · exact h.changed.tree.grows.directory _ h.directory
  · rw [h.node?, if_pos rfl]
    simp

theorem isDirectory (h : Opened build disk made above) :
    made.isDirectory build.pluginDirectory = true :=
  h.leads.isDirectory h.fault (Path.text_child_ne_empty isName_pluginDirectoryName)
    (by rw [h.node?, if_pos rfl])

/-- Before, our directory was not there. -/
theorem isDirectory_before (h : Opened build disk made above) :
    disk.isDirectory build.pluginDirectory = false := by
  rw [Bool.eq_false_iff, ne_eq, Disk.isDirectory_iff, Disk.look_eq_directory]
  rintro ⟨-, -, place, hp, hd⟩
  -- The path led to a place before, so it is the place it leads to now, and that was free.
  have hsame := (Disk.Leads.grow h.changed hp).symm.trans h.leads
  rw [Except.ok.inj hsame, h.free] at hd
  cases hd

/-- In a directory that was just made there is no file; a path too long to be followed leads
nowhere, though. -/
theorem look_file (h : Opened build disk made above) :
    made.look build.suggestionsFile = .error (build.suggestionsFile.fault?.getD .notFound) := by
  refine Disk.look_of_follow_error (Path.text_child_ne_empty isName_suggestionsFileName) ?_
  have hfree : made.root.node? (above ++ [pluginDirectoryName] ++ [suggestionsFileName]) = none := by
    rw [h.node?, if_neg (by simp)]
    exact Tree.node?_below (by rw [h.free]; simp) suggestionsFileName []
  unfold suggestionsFile
  rw [made.start_child isName_suggestionsFileName, Path.steps_child isName_suggestionsFileName,
    Tree.follow_append, h.leads]
  dsimp only
  rw [Tree.follow_into, h.node?, if_pos rfl]
  dsimp only
  rw [if_neg (by decide), if_pos hfree]

/-- There was no file before, either. -/
theorem look_file_before (h : Opened build disk made above) :
    disk.look build.suggestionsFile = .error (build.suggestionsFile.fault?.getD .notFound) := by
  refine Disk.look_of_follow_error (Path.text_child_ne_empty isName_suggestionsFileName) ?_
  unfold suggestionsFile pluginDirectory
  rw [disk.start_child isName_suggestionsFileName, disk.start_child isName_pluginDirectoryName,
    Path.steps_child isName_suggestionsFileName, Path.steps_child isName_pluginDirectoryName,
    List.append_assoc, Tree.follow_append, h.host]
  dsimp only [List.cons_append, List.nil_append]
  rw [Tree.follow_into, h.directory]
  dsimp only
  rw [if_neg (by decide), if_pos h.free]

end Opened

/-- Where nothing stands in the way, our directory is made. -/
theorem Opened.resolve_eq {build : Build} {disk made : Disk} {above : Place}
    (h : Opened build disk made above) : build.resolve disk =
      ⟨.ok build.suggestionsFile, made, [.pluginDirectoryMade build.id build.pluginDirectory]⟩ := by
  have hp : ¬ disk.isDirectory build.pluginDirectory = true := by
    rw [h.isDirectory_before]
    decide
  rw [resolve_of_missing hp h.fault h.host h.directory, if_pos h.free, h.made_eq]

/-- Resolving makes our directory at most. -/
theorem resolve_changed (build : Build) (disk : Disk) :
    disk.Changed ((build.resolve disk).disk.Leads build.pluginDirectory) (fun _ => False)
      (build.resolve disk).disk := by
  rcases build.resolve_cases disk with ⟨_, _, he⟩ | ⟨-, he⟩ | ⟨made, above, _, he, ho⟩ <;> rw [he]
  · exact .refl ..
  · exact .refl ..
  · refine ho.changed.mono ?_ fun _ h => h
    rintro p rfl
    exact ho.leads

/-- Resolving does not change what the path of the suggestions file leads to. -/
theorem look_resolve (build : Build) (disk : Disk) :
    (build.resolve disk).disk.look build.suggestionsFile = disk.look build.suggestionsFile := by
  rcases build.resolve_cases disk with ⟨_, _, he⟩ | ⟨-, he⟩ | ⟨made, above, _, he, ho⟩ <;> rw [he]
  rw [ho.look_file, ho.look_file_before]

theorem isDirectory_resolve {build : Build} {disk : Disk} {path : Path}
    (h : (build.resolve disk).answer = .ok path) :
    (build.resolve disk).disk.isDirectory build.pluginDirectory = true := by
  rcases build.resolve_cases disk with ⟨_, _, he⟩ | ⟨hp, he⟩ | ⟨made, above, _, he, ho⟩ <;> rw [he]
  · rw [he] at h; cases h
  · exact hp
  · exact ho.isDirectory

/-! ## The view of a build -/

/-- What a reader finds of a build: its suggestions, or what keeps them from being read. Without a
path there are none. -/
def view (build : Build) (disk : Disk) (reader : ServerIdentity) : Except Error (List Suggestion) :=
  match (build.find disk).1 with
  | none => .ok []
  | some path => (SuggestionStore.read disk reader path).map Sheet.Reading.suggestions

theorem view_of_directory {build : Build} {disk : Disk}
    (h : disk.isDirectory build.pluginDirectory = true) (reader : ServerIdentity) :
    build.view disk reader =
      (SuggestionStore.read disk reader build.suggestionsFile).map Sheet.Reading.suggestions := by
  unfold view
  rw [find_eq, if_pos h]

theorem view_of_none {build : Build} {disk : Disk}
    (h : disk.isDirectory build.pluginDirectory = false) (reader : ServerIdentity) :
    build.view disk reader = .ok [] := by
  unfold view
  rw [find_eq, h]
  rfl

/-- The path of the suggestions file is too long to be followed, though the path of our directory
need not be. -/
def Overlong (build : Build) : Prop := pathLimit < build.suggestionsFile.text.utf8ByteSize

instance (build : Build) : Decidable build.Overlong := Nat.decLt ..

theorem fault?_suggestionsFile {build : Build} (h : build.pluginDirectory.fault? = none) :
    build.suggestionsFile.fault? = if build.Overlong then some .invalidFilename else none := by
  have hnul : '\x00' ∉ build.suggestionsFile.text.toList := by
    have hdir : '\x00' ∉ build.pluginDirectory.text.toList := by
      unfold Path.fault? at h
      split at h
      · cases h
      · assumption
    unfold suggestionsFile
    rw [Path.mem_toList_child (by decide), not_or]
    exact ⟨hdir, by decide⟩
  unfold Path.fault?
  rw [if_neg hnul]
  rfl

/-- Making our directory does not change what readers find of the build, unless the path of the
suggestions file is too long: it leads nowhere, where there was no path before. -/
theorem Opened.view {build : Build} {disk made : Disk} {above : Place}
    (h : Opened build disk made above) :
    build.view disk = (fun _ => .ok []) ∧
      build.view made = fun _ =>
        if build.Overlong then .error (.io .invalidFilename) else .ok [] := by
  refine ⟨funext fun reader => view_of_none h.isDirectory_before reader, funext fun reader => ?_⟩
  rw [view_of_directory h.isDirectory, SuggestionStore.read, Disk.read_eq, h.look_file,
    fault?_suggestionsFile h.fault]
  by_cases ho : build.Overlong
  · rw [if_pos ho, if_pos ho]
    rfl
  · rw [if_neg ho, if_neg ho]
    rfl

/-- The names on the way from the artifacts directory to the suggestions file. -/
def below : Place := [hostDirectoryName, pluginDirectoryName, suggestionsFileName]

/-- The place of the artifacts directory of a build. -/
def place (build : Build) (disk : Disk) : Place := disk.place build.artifactsDirectory

section Down

variable {build : Build} (hup : .up ∉ build.artifactsDirectory.steps)

include hup

theorem up_notMem_hostDirectory : .up ∉ build.hostDirectory.steps :=
  Path.up_notMem_child isName_hostDirectoryName hup

theorem up_notMem_pluginDirectory : .up ∉ build.pluginDirectory.steps :=
  Path.up_notMem_child isName_pluginDirectoryName (up_notMem_hostDirectory hup)

theorem up_notMem_suggestionsFile : .up ∉ build.suggestionsFile.steps :=
  Path.up_notMem_child isName_suggestionsFileName (up_notMem_pluginDirectory hup)

end Down

theorem place_resolve (build : Build) (disk : Disk) :
    build.place (build.resolve disk).disk = build.place disk := by
  unfold place Disk.place
  rw [Disk.start_congr (build.resolve_changed disk).cwd]

theorem place_pluginDirectory (build : Build) (disk : Disk) :
    disk.place build.pluginDirectory =
      build.place disk ++ [hostDirectoryName, pluginDirectoryName] := by
  unfold Disk.place place pluginDirectory hostDirectory
  rw [disk.start_child isName_pluginDirectoryName, disk.start_child isName_hostDirectoryName,
    Path.names_child isName_pluginDirectoryName, Path.names_child isName_hostDirectoryName]
  simp [Disk.place]

theorem place_suggestionsFile (build : Build) (disk : Disk) :
    disk.place build.suggestionsFile = build.place disk ++ below := by
  have hp := place_pluginDirectory build disk
  unfold Disk.place at hp ⊢
  unfold suggestionsFile
  rw [disk.start_child isName_suggestionsFileName, Path.names_child isName_suggestionsFileName,
    ← List.append_assoc, hp]
  simp [below]

theorem place_prefix_hostDirectory (build : Build) (disk : Disk) :
    build.place disk <+: disk.place build.hostDirectory := by
  unfold hostDirectory
  rw [Disk.place, disk.start_child isName_hostDirectoryName, Path.names_child isName_hostDirectoryName,
    ← List.append_assoc]
  exact List.prefix_append ..

theorem place_prefix_pluginDirectory (build : Build) (disk : Disk) :
    build.place disk <+: disk.place build.pluginDirectory := by
  rw [place_pluginDirectory]
  exact List.prefix_append ..

theorem place_prefix_suggestionsFile (build : Build) (disk : Disk) :
    build.place disk <+: disk.place build.suggestionsFile := by
  rw [place_suggestionsFile]
  exact List.prefix_append ..

/-- The view of a build without `..` in its path depends on nothing but what stands inside its artifacts
directory. -/
theorem view_congr {build : Build} {a b : Disk} (hc : a.cwd = b.cwd)
    (hup : .up ∉ build.artifactsDirectory.steps)
    (same : ∀ p, build.place a <+: p → a.root.node? p = b.root.node? p) :
    build.view a = build.view b := by
  funext reader
  have hplugin : a.root.node? (a.place build.pluginDirectory) =
      b.root.node? (a.place build.pluginDirectory) :=
    same _ (build.place_prefix_pluginDirectory a)
  have hfile : a.root.node? (a.place build.pluginDirectory ++ [suggestionsFileName]) =
      b.root.node? (a.place build.pluginDirectory ++ [suggestionsFileName]) :=
    same _ ((build.place_prefix_pluginDirectory a).trans (List.prefix_append ..))
  have hup := up_notMem_pluginDirectory hup
  have hdir := Disk.isDirectory_congr_down hc hup hplugin
  by_cases hp : a.isDirectory build.pluginDirectory = true
  · have hplace : b.place build.pluginDirectory = a.place build.pluginDirectory := by
      rw [Disk.place, Disk.place, Disk.start_congr hc]
    have ha := Disk.leads_place hup hp
    have hb := Disk.leads_place hup (hdir ▸ hp)
    rw [hplace] at hb
    rw [view_of_directory hp, view_of_directory (hdir ▸ hp), SuggestionStore.read_congr]
    exact Disk.look_child_congr isName_suggestionsFileName ha hb hplugin hfile
  · rw [Bool.not_eq_true] at hp
    rw [view_of_none hp, view_of_none (hdir ▸ hp)]

/-- What stands at the place that a path without `..` leads to is below the artifacts directory. -/
theorem leads_below {build : Build} {disk : Disk} (hup : .up ∉ build.artifactsDirectory.steps)
    {p : Place} (h : disk.Leads build.pluginDirectory p ∨ disk.Leads build.suggestionsFile p) :
    build.place disk <+: p := by
  rcases h with h | h <;> unfold Disk.Leads at h
  · rw [Path.steps_eq_map_names (up_notMem_pluginDirectory hup)] at h
    have hp := place_pluginDirectory build disk
    rw [Disk.place, ← Tree.follow_down h] at hp
    exact ⟨_, hp.symm⟩
  · rw [Path.steps_eq_map_names (up_notMem_suggestionsFile hup)] at h
    have hp := place_suggestionsFile build disk
    rw [Disk.place, ← Tree.follow_down h] at hp
    exact ⟨_, hp.symm⟩

/-- Two builds are apart: neither has its artifacts directory inside that of the other. -/
def Apart (disk : Disk) (build other : Build) : Prop :=
  ¬ build.place disk <+: other.place disk ∧ ¬ other.place disk <+: build.place disk

theorem Apart.symm {disk : Disk} {build other : Build} (h : Apart disk build other) :
    Apart disk other build := And.symm h

/-- Changes outside of the artifacts directory of a build are not seen in it. -/
theorem view_untouched {build : Build} {made written : Place → Prop} {a b : Disk}
    (hup : .up ∉ build.artifactsDirectory.steps) (hc : a.Changed made written b)
    (hout : ∀ p, build.place b <+: p → ¬ made p ∧ ¬ written p) : build.view b = build.view a := by
  refine view_congr hc.cwd hup fun p hp => ?_
  rcases hc.tree p with h | ⟨h, -⟩ | ⟨h, -⟩
  · exact h
  · exact absurd h (hout p hp).1
  · exact absurd h (hout p hp).2

/-- Changes below the artifacts directory of a build are not seen in another build. -/
theorem view_changed {build other : Build} {made written : Place → Prop} {a b : Disk}
    (hup : .up ∉ other.artifactsDirectory.steps) (hc : a.Changed made written b)
    (hbelow : ∀ p, made p ∨ written p → build.place b <+: p) (hapart : Apart b build other) :
    other.view b = other.view a := by
  refine view_untouched hup hc fun p hp => not_or.1 fun h => ?_
  -- A place inside both would have one of them inside the other.
  rcases List.prefix_or_prefix_of_prefix (hbelow p h) hp with hin | hin
  · exact hapart.1 hin
  · exact hapart.2 hin

end Investigations.Build
