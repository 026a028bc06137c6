/-
Adding to independent builds. All that adding sees and changes of the files is inside the artifacts
directory (`append_inside`). So adding to two builds that are apart comes to the same in both orders,
whether the calls succeed or not (`append_comm`).
-/
import Investigations.Proofs.Build.Append
import Investigations.Proofs.Files.Subtree

namespace Investigations.Build

open Files

/-! ## Inside the artifacts directory -/

section Inside

variable {build : Build} {a b : Disk} (hup : .up ∉ build.artifactsDirectory.steps)

include hup

theorem resolve_inside (h : SameInside (build.place a) a b) :
    (build.resolve a).answer = (build.resolve b).answer ∧
      ChangedInside (build.place a) a b (build.resolve a).disk (build.resolve b).disk := by
  have hhost := build.place_prefix_hostDirectory a
  have hsameHost := h.isDirectory_eq (up_notMem_hostDirectory hup) hhost
  have hsamePlugin := h.isDirectory_eq (up_notMem_pluginDirectory hup)
    (build.place_prefix_pluginDirectory a)
  by_cases hh : a.isDirectory build.hostDirectory = true
  · have hh' := hsameHost ▸ hh
    by_cases hp : a.isDirectory build.pluginDirectory = true
    · rw [resolve_of_directory hp, resolve_of_directory (hsamePlugin ▸ hp)]
      exact ⟨rfl, .refl ..⟩
    · have hp' := hsamePlugin ▸ hp
      rcases hf : build.pluginDirectory.fault? with _ | fault
      · -- The directory of the host is at one place in both, and the same is in it.
        have hl := Disk.leads_place (up_notMem_hostDirectory hup) hh
        have hl' := Disk.leads_place (up_notMem_hostDirectory hup) hh'
        rw [h.place_eq] at hl'
        obtain ⟨-, -, -, hd⟩ := (Disk.isDirectory_iff_down (up_notMem_hostDirectory hup)).1 hh
        obtain ⟨sub, hs⟩ := Disk.exists_above (up_notMem_hostDirectory hup) hh hhost
        have hd' := hd
        rw [h.node?_eq hs (.inr hhost)] at hd'
        have hentry := hhost.trans (List.prefix_append _ [pluginDirectoryName])
        rw [resolve_of_missing hp hf hl hd, resolve_of_missing hp' hf hl' hd',
          ← h.node?_eq hs (.inr hentry)]
        split
        · exact ⟨rfl, .of_set h hs hentry _⟩
        · exact ⟨rfl, .refl ..⟩
      · rw [resolve_of_fault hh hp hf, resolve_of_fault hh' hp' hf]
        exact ⟨rfl, .refl ..⟩
  · rw [resolve_of_no_host hh, resolve_of_no_host (hsameHost ▸ hh)]
    exact ⟨rfl, .refl ..⟩

/-- After the path was resolved the same is still inside, and there is something. -/
theorem resolved_inside (h : SameInside (build.place a) a b) {path : Path}
    (hl : (build.resolve a).answer = .ok path) :
    let made := (build.resolve a).disk
    SameInside (build.place made) made (build.resolve b).disk ∧
      ∃ sub, made.root.get? (build.place made) = some sub := by
  constructor
  · rw [place_resolve]
    exact (resolve_inside hup h).2.sameInside h
  · exact Disk.exists_above (up_notMem_pluginDirectory hup) (isDirectory_resolve hl)
      (build.place_prefix_pluginDirectory _)

theorem read_inside (h : SameInside (build.place a) a b) {sub : Tree}
    (hs : a.root.get? (build.place a) = some sub) (identity : ServerIdentity) :
    SuggestionStore.read a identity build.suggestionsFile =
      SuggestionStore.read b identity build.suggestionsFile :=
  SuggestionStore.read_congr (h.look_eq hs (up_notMem_suggestionsFile hup)
    (build.place_prefix_suggestionsFile a)) identity

/-- What new suggestions are added to is inside the artifacts directory. -/
theorem held_inside (h : SameInside (build.place a) a b) (identity : ServerIdentity) :
    build.held identity a = build.held identity b := by
  obtain ⟨hanswer, -⟩ := resolve_inside hup h
  unfold held
  rw [← hanswer]
  rcases hl : (build.resolve a).answer with failure | path
  · rfl
  · cases resolve_answer hl
    obtain ⟨hsame, sub, hs⟩ := resolved_inside hup h hl
    dsimp only [Except.bind]
    rw [read_inside hup hsame hs]

theorem save_inside (h : SameInside (build.place a) a b) {sub : Tree}
    (hs : a.root.get? (build.place a) = some sub) (identity : ServerIdentity)
    (suggestions : List Suggestion) :
    let left := SuggestionStore.save a identity build.suggestionsFile suggestions
    let right := SuggestionStore.save b identity build.suggestionsFile suggestions
    left.answer = right.answer ∧ ChangedInside (build.place a) a b left.disk right.disk := by
  intro left right
  obtain ⟨hanswer, hleft⟩ := h.replace hs isName_suggestionsFileName
    (up_notMem_pluginDirectory hup) (build.place_prefix_pluginDirectory a)
    (Sheet.encode identity suggestions)
  rw [← suggestionsFile] at hanswer hleft
  obtain ⟨hsame, ⟨-, hd, hd'⟩ | ⟨-, hd, hd'⟩⟩ := SuggestionStore.save_congr hanswer
  · refine ⟨hsame, ?_⟩
    rw [hd, hd']
    exact .refl ..
  · refine ⟨hsame, ?_⟩
    rw [hd, hd']
    exact hleft

/-- Disks with the same inside an artifacts directory are the same to the call that adds to its build:
it gives the same answer and counts the same, and what it does to the files is the same and inside. -/
theorem append_inside (h : SameInside (build.place a) a b) (identity : ServerIdentity)
    (new : List Suggestion) (reporter reporter' : Reporter) :
    let left := (build.append identity new reporter a).1
    let right := (build.append identity new reporter' b).1
    left.answer = right.answer ∧ build.usages identity new a = build.usages identity new b ∧
      ChangedInside (build.place a) a b left.disk right.disk := by
  intro left right
  have hheld := held_inside hup h identity
  have husages : build.usages identity new a = build.usages identity new b := by
    unfold usages
    rw [hheld]
  by_cases hn : new = []
  · subst hn
    exact ⟨rfl, husages, .refl ..⟩
  · obtain ⟨-, hmade⟩ := resolve_inside hup h
    have hleft : (left.answer, left.disk, _) = _ := build.append_eq identity hn reporter a
    have hright : (right.answer, right.disk, _) = _ := build.append_eq identity hn reporter' b
    rw [← hheld] at hright
    rcases hold : build.held identity a with failure | old <;> rw [hold] at hleft hright <;>
      simp only [Prod.mk.injEq] at hleft hright
    · obtain ⟨⟨ha, hd, -⟩, ha', hd', -⟩ := hleft, hright
      rw [ha, ha', hd, hd']
      exact ⟨rfl, husages, hmade⟩
    · obtain ⟨hl, -⟩ := held_ok hold
      obtain ⟨hsame, sub, hs⟩ := resolved_inside hup h hl
      obtain ⟨hsaved, hdisk⟩ := save_inside hup hsame hs identity (new ++ old)
      obtain ⟨⟨ha, hd, -⟩, ha', hd', -⟩ := hleft, hright
      rw [place_resolve] at hdisk
      rw [ha, ha', hd, hd', hsaved]
      exact ⟨rfl, husages, hmade.trans h hdisk⟩

end Inside

/-! ## Two builds -/

/-- Adding to one of two builds that are apart changes nothing for the other: the call that adds to it
gives the same answer and does the same, whether the first call has been made or not. -/
theorem append_elsewhere {first second : Build} {disk : Disk}
    (hf : .up ∉ first.artifactsDirectory.steps) (hs : .up ∉ second.artifactsDirectory.steps)
    (hapart : Apart disk first second) (identity : ServerIdentity) (new newer : List Suggestion)
    (reporter reporter' : Reporter) :
    let left := (first.append identity new reporter disk).1.disk
    let before := (second.append identity newer reporter disk).1
    let after := (second.append identity newer reporter' left).1
    after.answer = before.answer ∧
      second.usages identity newer left = second.usages identity newer disk ∧
      ChangedInside (second.place disk) disk left before.disk after.disk := by
  intro left before after
  obtain ⟨-, -, hchanged⟩ := append_inside hf (.refl _ disk) identity new reporter reporter
  have hsame := hchanged.elsewhere hapart.1 hapart.2
  obtain ⟨hanswer, husages, hdisk⟩ := append_inside hs hsame identity newer reporter reporter'
  exact ⟨hanswer.symm, husages.symm, hdisk⟩

/-- Adding suggestions to two builds, neither of which has its artifacts directory inside that of the
other, comes to the same in both orders: each call gives the same answer, and the files and the
counters are the same in the end. -/
theorem append_comm {first second : Build} {disk : Disk}
    (hf : .up ∉ first.artifactsDirectory.steps) (hs : .up ∉ second.artifactsDirectory.steps)
    (hapart : Apart disk first second) (identity : ServerIdentity) (new newer : List Suggestion)
    (reporter : Reporter) :
    let one := first.append identity new reporter disk
    let oneThenOther := second.append identity newer one.2 one.1.disk
    let other := second.append identity newer reporter disk
    let otherThenOne := first.append identity new other.2 other.1.disk
    otherThenOne.1.answer = one.1.answer ∧ oneThenOther.1.answer = other.1.answer ∧
      oneThenOther.1.disk = otherThenOne.1.disk ∧ oneThenOther.2 = otherThenOne.2 := by
  intro one oneThenOther other otherThenOne
  obtain ⟨hother, hotherUsages, hotherDisk⟩ :=
    append_elsewhere hf hs hapart identity new newer reporter one.2
  obtain ⟨hone, honeUsages, honeDisk⟩ :=
    append_elsewhere hs hf hapart.symm identity newer new reporter other.2
  have hdisk := ChangedInside.comm honeDisk hotherDisk hapart.1 hapart.2
  have hreporter : oneThenOther.2 = otherThenOne.2 := by
    calc oneThenOther.2
        = one.2.reportAll (second.usages identity newer one.1.disk) := append_reporter ..
      _ = (reporter.reportAll (first.usages identity new disk)).reportAll
            (second.usages identity newer disk) := by rw [hotherUsages, append_reporter first]
      _ = (reporter.reportAll (second.usages identity newer disk)).reportAll
            (first.usages identity new disk) := Reporter.reportAll_comm ..
      _ = other.2.reportAll (first.usages identity new other.1.disk) := by
            rw [honeUsages, append_reporter second]
      _ = otherThenOne.2 := (append_reporter ..).symm
  exact ⟨hone, hother, hdisk, hreporter⟩

/-- Two builds side by side, and a counter that is full. What is added to the one is refused after our
directory was made, what is added to the other is saved. -/
theorem append_comm_side_by_side :
    let first : Build := ⟨1, ⟨"x"⟩⟩
    let second : Build := ⟨2, ⟨"./y/"⟩⟩
    let disk : Disk := ⟨.directory [("x", .directory [(hostDirectoryName, .directory [])]),
      ("y", .directory [(hostDirectoryName, .directory [])])], []⟩
    let reporter := Reporter.inMemory.report (.savedSuggestions counterLimit)
    let one := first.append ⟨"s"⟩ [⟨"1\t", "2", ""⟩] reporter disk
    let oneThenOther := second.append ⟨"s"⟩ [⟨"3", "4", ""⟩] one.2 one.1.disk
    let other := second.append ⟨"s"⟩ [⟨"3", "4", ""⟩] reporter disk
    let otherThenOne := first.append ⟨"s"⟩ [⟨"1\t", "2", ""⟩] other.2 other.1.disk
    one.1.answer.toOption = none ∧ other.1.answer = .ok (.appended 1 1) ∧
      one.1.disk.isDirectory first.pluginDirectory = true ∧
      otherThenOne.1.answer = one.1.answer ∧ oneThenOther.1.answer = other.1.answer ∧
      oneThenOther.1.disk = otherThenOne.1.disk ∧ oneThenOther.2 = otherThenOne.2 := by
  intro first second disk reporter
  have hf : .up ∉ first.artifactsDirectory.steps := by decide +kernel
  have hs : .up ∉ second.artifactsDirectory.steps := by decide +kernel
  have hapart : Apart disk first second := ⟨by decide +kernel, by decide +kernel⟩
  have hcomm := append_comm hf hs hapart ⟨"s"⟩ [⟨"1\t", "2", ""⟩] [⟨"3", "4", ""⟩] reporter
  exact ⟨by decide +kernel, by decide +kernel, by decide +kernel, hcomm⟩

end Investigations.Build
