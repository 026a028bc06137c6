/-
Resolving the path of a suggestions file beside looking it up. Both go the same way and give the same
path; they differ where our directory is missing, which the one makes and the other takes for a reason
to give none (`resolve_find`). Whatever is done for a build, the directory of the host is never made
(`HostKept`).
-/
import Investigations.Proofs.Build.Append
import Investigations.Command.Run

namespace Investigations

open Files

/-- A run of the command leaves the files as carrying it out does. -/
theorem Command.Invocation.run_disk (invocation : Invocation) (disk : Disk) :
    (invocation.run disk).disk = (perform invocation disk).disk := by
  unfold run
  dsimp only
  split <;> rfl

namespace Build

/-! ## Looking up after resolving -/

/-- There is a path to be found exactly where our directory is. -/
theorem find_eq_some_iff {build : Build} {disk : Disk} {path : Path} :
    (build.find disk).1 = some path ↔
      disk.isDirectory build.pluginDirectory = true ∧ path = build.suggestionsFile := by
  rw [find_eq]
  split
  · rename_i hp
    rw [Option.some.injEq, eq_comm]
    exact ⟨fun h => ⟨hp, h⟩, And.right⟩
  · rename_i hp
    exact ⟨nofun, fun h => absurd h.1 hp⟩

theorem find_eq_none_iff {build : Build} {disk : Disk} :
    (build.find disk).1 = none ↔ disk.isDirectory build.pluginDirectory = false := by
  rw [find_eq]
  split <;> simp_all

/-- Our directory has been made, and nothing else in the tree is different. -/
structure MadeOnly (build : Build) (before after : Disk) (place : Place) : Prop where
  leads : after.Leads build.pluginDirectory place
  missing : before.root.node? place = none
  node? : ∀ p, after.root.node? p = if p = place then some .directory else before.root.node? p
  cwd : after.cwd = before.cwd

theorem Opened.madeOnly {build : Build} {disk made : Disk} {above : Place}
    (h : Opened build disk made above) :
    MadeOnly build disk made (above ++ [pluginDirectoryName]) :=
  ⟨h.leads, h.free, h.node?, h.changed.cwd⟩

/-- A path that is resolved is that of the suggestions file, and our directory is there from then on. -/
theorem resolve_ok {build : Build} {disk : Disk} {path : Path}
    (h : (build.resolve disk).answer = .ok path) :
    let left := (build.resolve disk).disk
    path = build.suggestionsFile ∧ left.isDirectory build.pluginDirectory = true ∧
      ((disk.isDirectory build.pluginDirectory = true ∧ left = disk) ∨
        disk.isDirectory build.pluginDirectory = false ∧ ∃ place, MadeOnly build disk left place) := by
  refine ⟨resolve_answer h, isDirectory_resolve h, ?_⟩
  rcases build.resolve_cases disk with ⟨_, _, he⟩ | ⟨hp, he⟩ | ⟨made, above, _, he, ho⟩ <;>
    rw [he] at h ⊢
  · cases h
  · exact .inl ⟨hp, rfl⟩
  · exact .inr ⟨ho.isDirectory_before, _, ho.madeOnly⟩

/-- A failure to resolve the path leaves everything as it is, and our directory is not there. -/
theorem resolve_error {build : Build} {disk : Disk} {failure : Error}
    (h : (build.resolve disk).answer = .error failure) :
    (build.resolve disk).disk = disk ∧ disk.isDirectory build.pluginDirectory = false := by
  rcases build.resolve_cases disk with ⟨_, _, he⟩ | ⟨hp, he⟩ | ⟨made, above, _, he, ho⟩
  · -- If our directory were there, there would be nothing to fail.
    refine ⟨by rw [he], Bool.eq_false_iff.2 fun hp => ?_⟩
    rw [resolve_of_directory hp] at h
    cases h
  · rw [he] at h
    cases h
  · rw [he] at h
    cases h

/-- It is the directory of the host alone whose absence is reported as such. -/
theorem resolve_missing_iff {build : Build} {disk : Disk} {id : UInt64} {path : Path} :
    (build.resolve disk).answer = .error (.hostDirectoryMissing id path) ↔
      disk.isDirectory build.hostDirectory = false ∧ id = build.id ∧ path = build.hostDirectory := by
  by_cases hh : disk.isDirectory build.hostDirectory = true
  · refine ⟨fun h => ?_, fun h => ?_⟩
    · unfold resolve at h
      rw [if_pos hh] at h
      split at h
      · cases h
      · split at h <;> cases h
    · rw [h.1] at hh
      cases hh
  · rw [resolve_of_no_host hh, Except.error.injEq, Error.hostDirectoryMissing.injEq, eq_comm,
      @eq_comm _ build.hostDirectory]
    simp [hh]

/-! ## The directory of the host -/

/-- No directory of a host has been made or taken away: what has the name of one is as it was, and the
path of that of the build leads to a directory if it did before. -/
structure HostKept (build : Build) (before after : Disk) : Prop where
  named : ∀ p, p.getLast? = some hostDirectoryName → after.root.node? p = before.root.node? p
  own : after.isDirectory build.hostDirectory = before.isDirectory build.hostDirectory

/-- Whatever changes our directory and the suggestions file only, and nothing without a directory of the
host, leaves that directory as it is. -/
theorem hostKept_of_changed {build : Build} {disk left : Disk} {written : Place → Prop}
    (hc : disk.Changed (left.Leads build.pluginDirectory) written left)
    (hw : ∀ p, written p → p.getLast? = some suggestionsFileName)
    (hh : disk.isDirectory build.hostDirectory = false → left = disk) : HostKept build disk left := by
  constructor
  · -- A place that has changed has another name.
    intro p hp
    rcases hc.tree p with he | ⟨hm, -⟩ | ⟨hm, -⟩
    · exact he
    · have hlast := hm.getLast?_child isName_pluginDirectoryName
      rw [hp] at hlast
      exact absurd hlast (by decide)
    · have hlast := hw p hm
      rw [hp] at hlast
      exact absurd hlast (by decide)
  · rcases hb : disk.isDirectory build.hostDirectory with _ | _
    · rw [hh hb, hb]
    · exact Disk.isDirectory_grow hc.cwd hc.tree.grows hb

theorem hostKept_resolve (build : Build) (disk : Disk) :
    HostKept build disk (build.resolve disk).disk := by
  refine hostKept_of_changed (build.resolve_changed disk) (fun _ => False.elim) fun hh => ?_
  rw [resolve_of_no_host (by rw [hh]; decide)]

theorem hostKept_append (build : Build) (identity : ServerIdentity) (new : List Suggestion)
    (reporter : Reporter) (disk : Disk) :
    HostKept build disk (build.append identity new reporter disk).1.disk := by
  refine hostKept_of_changed (append_changed ..) (fun p hp => hp.getLast?_child isName_suggestionsFileName)
    fun hh => ?_
  have hmissing : ¬ disk.isDirectory build.hostDirectory = true := by
    rw [hh]
    decide
  have hresolve := resolve_of_no_host hmissing
  rcases append_cases build identity new reporter disk with ⟨-, he⟩ | ⟨-, _, -, hd⟩ | ⟨-, reading, h⟩
  · rw [he]
  · rw [hd, hresolve]
  · -- Where something was added, the path was resolved.
    have hlocated := h.located
    rw [hresolve] at hlocated
    cases hlocated

/-! ## Both ways together -/

/-- Resolving the path of a suggestions file and looking it up agree, however the artifacts directory
is spelled. Where looking up gives a path, resolving gives the same and does nothing. A path that was
resolved is found and resolved from then on, and all that is new is our directory, if it was missing. A
failure to resolve the path changes nothing, and there is none to be found; it is for want of the
directory of the host exactly if there is none. Looking up changes nothing, no file is ever made, and
nor is the directory of the host, be it in resolving, in adding suggestions or by the command. -/
theorem resolve_find (build : Build) (disk : Disk) :
    let resolved := build.resolve disk
    let left := resolved.disk
    (∀ path, (build.find disk).1 = some path → resolved.answer = .ok path ∧ left = disk) ∧
    (∀ path, resolved.answer = .ok path →
      path = ((build.artifactsDirectory.child ".teamcity").child "investigationsAutoAssigner").child
        "suggestions.txt" ∧
      (build.find left).1 = some path ∧
      (build.resolve left).answer = .ok path ∧ (build.resolve left).disk = left ∧
      ((disk.isDirectory build.pluginDirectory = true ∧ left = disk) ∨
        disk.isDirectory build.pluginDirectory = false ∧
          ∃ place, MadeOnly build disk left place)) ∧
    (∀ failure, resolved.answer = .error failure →
      left = disk ∧ (build.find disk).1 = none ∧ (build.find left).1 = none) ∧
    (∀ id path, resolved.answer = .error (.hostDirectoryMissing id path) ↔
      disk.isDirectory build.hostDirectory = false ∧ id = build.id ∧
        path = build.artifactsDirectory.child ".teamcity") ∧
    (∀ p content, left.root.node? p = some (.file content) ↔
      disk.root.node? p = some (.file content)) ∧
    HostKept build disk left ∧
    (∀ identity new reporter,
      HostKept build disk (build.append identity new reporter disk).1.disk) ∧
    ∀ settings verbose,
      (Command.Invocation.run ⟨settings, verbose, .path build false⟩ disk).disk = disk ∧
      (Command.Invocation.run ⟨settings, verbose, .path build true⟩ disk).disk = left := by
  intro resolved left
  refine ⟨fun path h => ?_, fun path h => ?_, fun failure h => ?_, fun _ _ => resolve_missing_iff,
    fun p => (build.resolve_changed disk).tree.file_iff not_false, build.hostKept_resolve disk,
    fun identity new reporter => build.hostKept_append identity new reporter disk,
    fun settings verbose => ⟨?_, ?_⟩⟩
  · obtain ⟨hp, rfl⟩ := find_eq_some_iff.1 h
    have hresolved : resolved = _ := resolve_of_directory hp
    unfold left
    rw [hresolved]
    exact ⟨rfl, rfl⟩
  · obtain ⟨rfl, hp, hmade⟩ := resolve_ok h
    have hagain : build.resolve left = _ := resolve_of_directory hp
    rw [hagain]
    exact ⟨rfl, find_eq_some_iff.2 ⟨hp, rfl⟩, rfl, rfl, hmade⟩
  · obtain ⟨hleft, hp⟩ := resolve_error h
    have hnone := find_eq_none_iff.2 hp
    exact ⟨hleft, hnone, (congrArg (fun d => (build.find d).1) hleft).trans hnone⟩
  · rw [Command.Invocation.run_disk]
    rfl
  · rw [Command.Invocation.run_disk]
    unfold left resolved Command.perform Command.performPath
    dsimp only
    rw [if_pos rfl]
    split <;> rfl

/-- A path that goes down and up again before it comes to the directory of the host. -/
theorem resolve_find_dotted :
    let build : Build := ⟨7, ⟨"a//b/.."⟩⟩
    let disk : Disk :=
      ⟨.directory [("a", .directory [("b", .directory []), (hostDirectoryName, .directory [])])], []⟩
    let path : Path := ⟨"a//b/../.teamcity/investigationsAutoAssigner/suggestions.txt"⟩
    (build.find disk).1 = none ∧ (build.resolve disk).answer = .ok path ∧
      (build.find (build.resolve disk).disk).1 = some path := by
  intro build disk path
  have hanswer : (build.resolve disk).answer = .ok path := by decide +kernel
  exact ⟨by decide +kernel, hanswer, ((resolve_find build disk).2.1 path hanswer).2.1⟩

end Build

end Investigations
