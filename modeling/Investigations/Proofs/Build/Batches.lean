/-
What a run of calls under one identity comes to, told by the batches that it added. The suggestion that
is found for a test is the first one of the latest batch for the build that has one, or the one from
before the run (`newest_found`). Every build that got a batch is counted once, and besides them each
call is counted that found a build with nothing stored and did not change that (`builds_counted`).
-/
import Investigations.Proofs.Build.Session

namespace Investigations

open Files

variable {ι : Type}

/-! ## Batches -/

/-- The suggestions that a call added, with the build that got them. -/
def batch? : Call ι × Answer → Option (ι × List Suggestion)
  | (.append b new, .added (.ok (.appended _ _))) => some (b, new)
  | _ => none

/-- The batches that were added in a run, the oldest first. -/
def batches (trace : List (Call ι × Answer)) : List (ι × List Suggestion) := trace.filterMap batch?

theorem batches_cons (entry : Call ι × Answer) (trace : List (Call ι × Answer)) :
    batches (entry :: trace) = (batch? entry).toList ++ batches trace := by
  unfold batches
  rcases h : batch? entry with _ | batch
  · rw [List.filterMap_cons_none h]
    rfl
  · rw [List.filterMap_cons_some h]
    rfl

theorem batch?_append_cases (b : ι) (new : List Suggestion) (answer : Answer) :
    batch? (.append b new, answer) = none ∨ batch? (.append b new, answer) = some (b, new) := by
  unfold batch?
  split
  · rename_i heq
    cases heq
    exact .inr rfl
  · exact .inl rfl

section

variable [DecidableEq ι]

/-- The first suggestion for a test in the latest of the batches for a build that have one. -/
def newest? (added : List (ι × List Suggestion)) (b : ι) (testNameId : String) :
    Option Suggestion :=
  (added.filter (·.1 = b)).reverse.findSome? fun batch =>
    batch.2.find? (·.testNameId = testNameId)

theorem newest?_append (earlier later : List (ι × List Suggestion)) (b : ι) (testNameId : String) :
    newest? (earlier ++ later) b testNameId =
      (newest? later b testNameId).or (newest? earlier b testNameId) := by
  unfold newest?
  rw [List.filter_append, List.reverse_append, List.findSome?_append]

/-- The builds that got a batch. -/
def supplied (added : List (ι × List Suggestion)) : Finset ι := (added.map Prod.fst).toFinset

theorem supplied_append (earlier later : List (ι × List Suggestion)) :
    supplied (earlier ++ later) = supplied earlier ∪ supplied later := by
  unfold supplied
  rw [List.map_append, List.toFinset_append]

end

/-- Those that are new in two sets are those that are new in the first, and those of the second that
are new still. -/
theorem card_union_sdiff [DecidableEq ι] (first second known : Finset ι) :
    ((first ∪ second) \ known).card = (first \ known).card + (second \ (known ∪ first)).card := by
  have hunion : (first ∪ second) \ known = (first \ known) ∪ (second \ (known ∪ first)) := by
    ext b
    simp only [Finset.mem_sdiff, Finset.mem_union]
    tauto
  have hdisjoint : Disjoint (first \ known) (second \ (known ∪ first)) := by
    rw [Finset.disjoint_left]
    intro b hfirst hsecond
    simp only [Finset.mem_sdiff, Finset.mem_union] at hfirst hsecond
    exact hsecond.2 (.inr hfirst.1)
  rw [hunion, Finset.card_union_of_disjoint hdisjoint]

/-! ## One step under one identity -/

namespace Ledger

variable [DecidableEq ι] {overlong : ι → Prop} {before after : Ledger ι} {call : Call ι}
  {answer : Answer}

/-- What a call can do to a ledger if it keeps the identity: it adds its batch, or it adds none, and
then no build loses suggestions. -/
theorem Step.cases (h : Step overlong before after call answer)
    (hid : ∀ identity, call ≠ .setIdentity identity) :
    (∃ b new old, batch? (call, answer) = some (b, new) ∧
      before.views b before.identity = .ok old ∧
      after = before.put b fun reader => .ok (if reader = before.identity then new ++ old else [])) ∨
    batch? (call, answer) = none ∧ (after = before ∨
      ∃ b failure, before.views b = (fun _ => .ok []) ∧
        after = before.put b fun _ => .error failure) := by
  have located {b : ι} (hl : Located overlong before after b) : after = before ∨
      ∃ b failure, before.views b = (fun _ => .ok []) ∧
        after = before.put b fun _ => .error failure :=
    hl.imp_right fun ⟨_, hbare, he⟩ => ⟨b, _, hbare, he⟩
  cases call with
  | setIdentity identity => exact absurd rfl (hid identity)
  | append b new =>
    cases answer with
    | added result =>
      rcases result with failure | _ | ⟨added, total⟩
      · exact .inr ⟨rfl, located h⟩
      · exact .inr ⟨rfl, .inl h⟩
      · obtain ⟨old, hold, -, -, he⟩ := h
        exact .inl ⟨b, new, old, rfl, hold, he⟩
    | done => exact .inr ⟨rfl, .inl h⟩
    | suggestion found => exact .inr ⟨rfl, .inl h⟩
    | reading result => exact .inr ⟨rfl, .inl h⟩
    | located result => exact .inr ⟨rfl, .inl h⟩
    | existing found => exact .inr ⟨rfl, .inl h⟩
  | findSuggestion b testNameId => exact .inr ⟨rfl, .inl h.1⟩
  | read path => exact .inr ⟨rfl, .inl h⟩
  | resolve b => exact .inr ⟨rfl, located h⟩
  | find b => exact .inr ⟨rfl, .inl h⟩

/-- The suggestion for a test that stands first in a build's list. -/
def found (ledger : Ledger ι) (b : ι) (testNameId : String) : Option Suggestion :=
  match ledger.views b ledger.identity with
  | .ok held => held.find? (·.testNameId = testNameId)
  | .error _ => none

/-- A batch hides what is older; a call without one hides nothing and shows nothing. -/
theorem Step.found (h : Step overlong before after call answer)
    (hid : ∀ identity, call ≠ .setIdentity identity) (b : ι) (testNameId : String) :
    after.found b testNameId =
      (newest? (batch? (call, answer)).toList b testNameId).or (before.found b testNameId) := by
  rcases h.cases hid with ⟨c, new, old, hb, hold, rfl⟩ | ⟨hb, rfl | ⟨c, failure, hbare, rfl⟩⟩ <;>
    rw [hb]
  · by_cases hc : b = c
    · subst hc
      simp [Ledger.found, newest?, hold, List.find?_append]
    · simp [Ledger.found, newest?, put_views_of_ne before hc, Ne.symm hc]
  · rfl
  · by_cases hc : b = c
    · subst hc
      simp [Ledger.found, newest?, hbare]
    · simp [Ledger.found, newest?, put_views_of_ne before hc]

/-- These are the builds that have suggestions. -/
def Stocked (ledger : Ledger ι) (stocked : Finset ι) : Prop :=
  ∀ b, b ∈ stocked ↔ ∃ held, ledger.views b ledger.identity = .ok held ∧ held ≠ []

omit [DecidableEq ι] in
theorem Stocked.mem_iff {ledger : Ledger ι} {stocked : Finset ι} (hs : ledger.Stocked stocked) {b : ι}
    {held : List Suggestion} (hview : ledger.views b ledger.identity = .ok held) :
    b ∈ stocked ↔ held ≠ [] := by
  rw [hs b]
  constructor
  · rintro ⟨held', hheld, hne⟩
    cases hview.symm.trans hheld
    exact hne
  · intro hne
    exact ⟨held, hview, hne⟩

theorem Step.stocked (h : Step overlong before after call answer)
    (hid : ∀ identity, call ≠ .setIdentity identity)
    (hne : ∀ b new, batch? (call, answer) = some (b, new) → new ≠ []) {stocked : Finset ι}
    (hs : before.Stocked stocked) :
    after.Stocked (stocked ∪ supplied (batch? (call, answer)).toList) := by
  intro b
  rcases h.cases hid with ⟨c, new, old, hb, hold, rfl⟩ | ⟨hb, rfl | ⟨c, failure, hbare, rfl⟩⟩ <;>
    rw [hb]
  · by_cases hc : b = c
    · subst hc
      simp [supplied, hne b new hb]
    · simpa [supplied, put_views_of_ne before hc, hc] using hs b
  · simpa [supplied] using hs b
  · by_cases hc : b = c
    · subst hc
      have hmem := hs.mem_iff (congrFun hbare before.identity)
      simpa [supplied] using hmem
    · simpa [supplied, put_views_of_ne before hc] using hs b

end Ledger

/-- Adding counts the build if it is known to have had no suggestions. -/
theorem Build.total_usages (build : Build) (identity : ServerIdentity) (new : List Suggestion)
    (disk : Disk) :
    Usage.total .buildsWithSuggestions (build.usages identity new disk) =
      if new ≠ [] ∧ build.held identity disk = .ok [] then 1 else 0 := by
  unfold usages
  by_cases hn : new = []
  · simp [hn, Usage.total]
  · rcases build.held identity disk with failure | _ | ⟨first, old⟩ <;>
      simp [hn, Usage.total, Usage.counter, Usage.amount]

namespace Session

variable {builds : ι → Build}

/-! ## The newest suggestion -/

theorem found_ledger (session : Session) (b : ι) (testNameId : String) :
    (ledger builds session).found b testNameId =
      ((builds b).findSuggestion session.identity testNameId session.disk).1 :=
  ((builds b).findSuggestion_eq session.identity testNameId session.disk).symm

variable [DecidableEq ι]

/-- The newest suggestion is found. After any run of calls under one identity, from any files, what is
found for a test is the first suggestion for it in the latest batch for the build that has one, and if
no batch has one, it is what was found before the run. Neither calls that fail nor batches for other
builds make a difference. -/
theorem newest_found {session : Session} (hs : Separate builds session.disk) {calls : List (Call ι)}
    (hid : ∀ identity, .setIdentity identity ∉ calls) (b : ι) (testNameId : String) :
    let ran := session.run builds calls
    ((builds b).findSuggestion session.identity testNameId ran.2.disk).1 =
      (newest? (batches ran.1) b testNameId).or
        ((builds b).findSuggestion session.identity testNameId session.disk).1 := by
  induction calls generalizing session with
  | nil => rfl
  | cons call rest ih =>
    obtain ⟨hcall, hid⟩ := keeps_of_cons hid
    have hstep := (perform_step hs call).found hcall b testNameId
    have hrest := ih (separate_perform hs call) hid
    rw [found_ledger, found_ledger, session.perform_identity builds hcall] at hstep
    rw [session.perform_identity builds hcall, hstep] at hrest
    show ((builds b).findSuggestion session.identity testNameId
      ((session.perform builds call).2.run builds rest).2.disk).1 = _
    rw [hrest, ← Option.or_assoc, ← newest?_append, ← batches_cons]
    rfl

/-- A file from before, two suggestions for one test in a batch, a batch for another build, and a call
that fails. -/
theorem newest_found_retried :
    let builds : Bool → Build := fun b => ⟨1, ⟨if b then "x" else "./y/"⟩⟩
    let text := "serverUUID\ts\n1\told\t\n9\told\t\n"
    let disk : Disk := ⟨.directory [("x", .directory [(hostDirectoryName, .directory
      [(pluginDirectoryName, .directory [(suggestionsFileName, .file (Utf8.encode text))])])]),
      ("y", .directory [(hostDirectoryName, .directory [])])], []⟩
    let session : Session := ⟨disk, ⟨"s"⟩, .inMemory⟩
    let calls : List (Call Bool) := [.append true [⟨"1", "a", ""⟩, ⟨"1", "b", ""⟩],
      .append false [⟨"1", "c", ""⟩], .append true [⟨"1", "d\t", ""⟩], .append true [⟨"2", "e", ""⟩]]
    let left := (session.run builds calls).2.disk
    Separate builds session.disk ∧ (∀ identity, .setIdentity identity ∉ calls) ∧
      ((builds true).findSuggestion ⟨"s"⟩ "1" left).1 = some ⟨"1", "a", ""⟩ ∧
      ((builds true).findSuggestion ⟨"s"⟩ "9" left).1 = some ⟨"9", "old", ""⟩ ∧
      ((builds false).findSuggestion ⟨"s"⟩ "9" left).1 = none := by
  intro builds text disk session calls left
  have hs : Separate builds session.disk := ⟨by decide +kernel, by decide +kernel⟩
  have hid : ∀ identity, .setIdentity identity ∉ calls := by simp [calls]
  have hbatches : batches (session.run builds calls).1 =
      [(true, [⟨"1", "a", ""⟩, ⟨"1", "b", ""⟩]), (false, [⟨"1", "c", ""⟩]),
        (true, [⟨"2", "e", ""⟩])] := by decide +kernel
  refine ⟨hs, hid, ?_, ?_, ?_⟩
  · rw [newest_found hs hid true "1", hbatches]
    decide +kernel
  · rw [newest_found hs hid true "9", hbatches]
    decide +kernel
  · rw [newest_found hs hid false "9", hbatches]
    decide +kernel

/-! ## The builds that are counted -/

section Counted

variable (builds : ι → Build)

omit [DecidableEq ι]

/-- The usages that a call counts. -/
def usagesOf (session : Session) : Call ι → List Usage
  | .append b new => (builds b).usages session.identity new session.disk
  | _ => []

/-- The usages that the calls of a run count. -/
def usages (session : Session) : List (Call ι) → List Usage
  | [] => []
  | call :: rest => session.usagesOf builds call ++ (session.perform builds call).2.usages rest

theorem perform_reporter (session : Session) (call : Call ι) :
    (session.perform builds call).2.reporter =
      session.reporter.reportAll (session.usagesOf builds call) := by
  cases call with
  | setIdentity identity => rfl
  | append b new => exact (builds b).append_reporter ..
  | findSuggestion b testNameId => rfl
  | read path => rfl
  | resolve b => rfl
  | find b => rfl

theorem run_reporter (session : Session) (calls : List (Call ι)) :
    (session.run builds calls).2.reporter =
      session.reporter.reportAll (session.usages builds calls) := by
  induction calls generalizing session with
  | nil => rfl
  | cons call rest ih =>
    rw [usages, Reporter.reportAll_append, ← perform_reporter]
    exact ih _

/-- A call misses if it is to add the first suggestions of a build and fails when they are to be
saved. -/
def misses (session : Session) (call : Call ι) : Bool :=
  match call with
  | .append b new =>
    decide (new ≠ []) && decide ((builds b).held session.identity session.disk = .ok []) &&
      (batch? (call, (session.perform builds call).1)).isNone
  | _ => false

/-- The calls of a run that miss. -/
def missed (session : Session) : List (Call ι) → List (Call ι)
  | [] => []
  | call :: rest =>
    let later := (session.perform builds call).2.missed rest
    if session.misses builds call then call :: later else later

/-- A batch is not empty, and was added to the build. -/
theorem appended_of_batch {session : Session} {call : Call ι} {b : ι} {new : List Suggestion}
    (h : batch? (call, (session.perform builds call).1) = some (b, new)) :
    new ≠ [] ∧ ∃ reading, (builds b).Appended session.identity new session.disk
      ((builds b).append session.identity new session.reporter session.disk).1 reading := by
  cases call with
  | append c added =>
    have hcases := batch?_append_cases c added (session.perform builds (.append c added)).1
    rw [h] at hcases
    obtain ⟨rfl, rfl⟩ : b = c ∧ new = added := by simpa using hcases
    rw [perform] at h
    rcases (builds b).append_cases session.identity new session.reporter session.disk with
      ⟨-, he⟩ | ⟨-, failure, ha, -⟩ | ⟨hn, reading, ha⟩
    · rw [he] at h
      cases h
    · dsimp only at h
      rw [ha] at h
      cases h
    · exact ⟨hn, reading, ha⟩
  | _ => cases h

end Counted

/-- A call counts a build if its batch is the first for a build that had no suggestions, or if it
misses. -/
theorem total_usagesOf {session : Session} {stocked : Finset ι}
    (hs : (ledger builds session).Stocked stocked) (call : Call ι) :
    Usage.total .buildsWithSuggestions (session.usagesOf builds call) =
      (supplied (batch? (call, (session.perform builds call).1)).toList \ stocked).card +
        if session.misses builds call then 1 else 0 := by
  cases call with
  | append b new =>
    have hcount := (builds b).total_usages session.identity new session.disk
    have hbatch := batch?_append_cases b new (session.perform builds (.append b new)).1
    rw [usagesOf, hcount, misses]
    rcases hbatch with hnone | hsome
    · -- Nothing was added, so the build is counted if the call misses.
      rw [hnone]
      simp [supplied]
    · obtain ⟨hn, reading, ha⟩ := appended_of_batch builds hsome
      have hh := Build.held_of_read ha.located ha.read
      have hmem := hs.mem_iff (Build.view_of_held hh)
      generalize reading.suggestions = old at hh hmem
      rw [hsome, hh]
      by_cases hold : old = []
      · have hdiff : {b} \ stocked = {b} := by
          apply Finset.sdiff_eq_self_of_disjoint
          simpa [hmem] using hold
        simp [supplied, hn, hold, hdiff]
      · have hdiff : {b} \ stocked = ∅ := by
          rw [Finset.sdiff_eq_empty_iff_subset, Finset.singleton_subset_iff, hmem]
          exact hold
        simp [supplied, hold, hdiff]
  | _ => simp [usagesOf, misses, batch?, supplied, Usage.total]

omit [DecidableEq ι] in
/-- Where no path leads to a file, no build has suggestions. -/
theorem stocked_empty {session : Session}
    (hnone : ∀ b content, session.disk.look (builds b).suggestionsFile ≠ .ok (.file content)) :
    (ledger builds session).Stocked ∅ := by
  intro b
  refine iff_of_false (Finset.notMem_empty b) ?_
  rintro ⟨held, hheld, hne⟩
  have hview : (builds b).view session.disk session.identity = .ok held := hheld
  by_cases hdir : session.disk.isDirectory (builds b).pluginDirectory = true
  · rw [Build.view_of_directory hdir, SuggestionStore.read, Disk.read_eq] at hview
    rcases hlook : session.disk.look (builds b).suggestionsFile with fault | content | _
    · rw [hlook] at hview
      cases fault <;> cases hview
      exact hne rfl
    · exact hnone b content hlook
    · rw [hlook] at hview
      cases hview
  · rw [Bool.not_eq_true] at hdir
    rw [Build.view_of_none hdir] at hview
    cases hview
    exact hne rfl

/-- Over a run, the builds that got a batch come to have suggestions, and those among them that had none
before are counted, each of them once. -/
theorem run_stocked {session : Session} (hs : Separate builds session.disk) {stocked : Finset ι}
    (h : (ledger builds session).Stocked stocked) {calls : List (Call ι)}
    (hid : ∀ identity, .setIdentity identity ∉ calls) :
    let ran := session.run builds calls
    (ledger builds ran.2).Stocked (stocked ∪ supplied (batches ran.1)) ∧
      Usage.total .buildsWithSuggestions (session.usages builds calls) =
        (supplied (batches ran.1) \ stocked).card + (session.missed builds calls).length := by
  induction calls generalizing session stocked with
  | nil =>
    constructor
    · simpa [run, batches, supplied] using h
    · simp [usages, missed, run, batches, supplied, Usage.total]
  | cons call rest ih =>
    obtain ⟨hcall, hid⟩ := keeps_of_cons hid
    have hstep := (perform_step hs call).stocked hcall
      (fun b new hb => (appended_of_batch builds hb).1) h
    have hcount := total_usagesOf h call
    obtain ⟨hstocked, hrest⟩ := ih (separate_perform hs call) hstep hid
    have htrace : (session.run builds (call :: rest)).1 =
        (call, (session.perform builds call).1) ::
          ((session.perform builds call).2.run builds rest).1 := rfl
    dsimp only
    rw [htrace, batches_cons, supplied_append]
    constructor
    · rw [← Finset.union_assoc]
      exact hstocked
    · rw [usages, Usage.total_append, hcount, hrest, card_union_sdiff, missed]
      by_cases hmiss : session.misses builds call = true
      · rw [if_pos hmiss, if_pos hmiss, List.length_cons]
        omega
      · rw [if_neg hmiss, if_neg hmiss]
        omega

/-- What is reported of the number of builds with suggestions. In a run under one identity, of builds
that have no suggestions file when it starts, a build is counted once if any batch was added to it,
however often that happened, and besides that each call is counted that misses. -/
theorem builds_counted {session : Session} (hs : Separate builds session.disk)
    (hnone : ∀ b content, session.disk.look (builds b).suggestionsFile ≠ .ok (.file content))
    {calls : List (Call ι)} (hid : ∀ identity, .setIdentity identity ∉ calls) :
    let ran := session.run builds calls
    let count := min counterLimit
      ((session.reporter.statistics.get .buildsWithSuggestions).toNat +
        (supplied (batches ran.1)).card + (session.missed builds calls).length)
    (ran.2.reporter.statistics.get .buildsWithSuggestions).toNat = count ∧
      ∃ start, ran.2.reporter.statistics.report =
        start ++ " suggestions saved in " ++ toString count ++ " builds.\n" := by
  intro ran count
  obtain ⟨-, htotal⟩ := run_stocked hs (stocked_empty hnone) hid
  rw [Finset.sdiff_empty] at htotal
  have hcount : (ran.2.reporter.statistics.get .buildsWithSuggestions).toNat = count := by
    rw [run_reporter, Reporter.toNat_get_reportAll, htotal, ← Nat.add_assoc]
  refine ⟨hcount, ?_⟩
  rw [← hcount]
  exact ⟨_, rfl⟩

/-- A call that misses, and two that add to the same build after it. Another build gets nothing. -/
theorem builds_counted_missed :
    let builds : Bool → Build := fun b => ⟨1, ⟨if b then "x" else "./y/"⟩⟩
    let disk : Disk := ⟨.directory [("x", .directory [(hostDirectoryName, .directory [])]),
      ("y", .directory [(hostDirectoryName, .directory [])])], []⟩
    let session : Session := ⟨disk, ⟨"s"⟩, .inMemory⟩
    let calls : List (Call Bool) := [.append true [⟨"1\t", "2", ""⟩], .append true [⟨"1", "2", ""⟩],
      .append true [⟨"3", "4", ""⟩]]
    let ran := session.run builds calls
    Separate builds session.disk ∧
      (∀ b content, session.disk.look (builds b).suggestionsFile ≠ .ok (.file content)) ∧
      (∀ identity, .setIdentity identity ∉ calls) ∧
      supplied (batches ran.1) = {true} ∧ (session.missed builds calls).length = 1 ∧
      (ran.2.reporter.statistics.get .buildsWithSuggestions).toNat = 2 := by
  intro builds disk session calls ran
  have hs : Separate builds session.disk := ⟨by decide +kernel, by decide +kernel⟩
  have hnone : ∀ b content, session.disk.look (builds b).suggestionsFile ≠ .ok (.file content) := by
    intro b content
    have hfree : ∀ b, session.disk.look (builds b).suggestionsFile = .error .notFound := by
      decide +kernel
    rw [hfree b]
    simp
  have hid : ∀ identity, .setIdentity identity ∉ calls := by simp [calls]
  have hsupplied : supplied (batches ran.1) = {true} := by decide +kernel
  have hmissed : (session.missed builds calls).length = 1 := by decide +kernel
  refine ⟨hs, hnone, hid, hsupplied, hmissed, ?_⟩
  rw [(builds_counted hs hnone hid).1, hsupplied, hmissed]
  decide +kernel

/-- It is not enough to count the builds that got a batch: here no build got one, and one is reported.
The suggestion that was to be added can not be stored. -/
theorem builds_counted_refused :
    let builds : Unit → Build := fun _ => ⟨7, ⟨"a"⟩⟩
    let session : Session := ⟨freshDisk, ⟨"s"⟩, .inMemory⟩
    let calls : List (Call Unit) := [.append () [⟨"t\t", "u", "r"⟩]]
    let ran := session.run builds calls
    Separate builds session.disk ∧
      (∀ b content, session.disk.look (builds b).suggestionsFile ≠ .ok (.file content)) ∧
      (∀ identity, .setIdentity identity ∉ calls) ∧ supplied (batches ran.1) = ∅ ∧
      (ran.2.reporter.statistics.get .buildsWithSuggestions).toNat ≠
        min counterLimit ((session.reporter.statistics.get .buildsWithSuggestions).toNat +
          (supplied (batches ran.1)).card) := by
  intro builds session calls ran
  refine ⟨⟨by decide +kernel, fun b c hne => absurd rfl hne⟩, ?_, by simp [calls], by decide +kernel,
    by decide +kernel⟩
  intro b content
  have hfree : session.disk.look (builds b).suggestionsFile = .error .notFound := by decide +kernel
  rw [hfree]
  simp

end Session

end Investigations
