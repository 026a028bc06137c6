/-
What a run of calls does to the counts. Suggestions are counted as they are handed in, whether they can
be stored or not, and a build is counted whenever suggestions are handed in for it and it is found to
have none (`run_counts`). All of it stays in memory: what calls make and write is known by its name, and
the statistics file has another one (`run_changed`).
-/
import Investigations.Proofs.Build.Batches
import Investigations.Proofs.Command.Record

namespace Investigations

open Files

variable {ι : Type}

/-! ## What a call counts -/

namespace Build

variable (build : Build) (identity : ServerIdentity) (new : List Suggestion) (disk : Disk)

/-- Adding counts all suggestions that are handed in. -/
theorem total_savedSuggestions :
    Usage.total .savedSuggestions (build.usages identity new disk) = new.length := by
  unfold usages
  by_cases hn : new = []
  · simp [hn, Usage.total]
  · rcases build.held identity disk with failure | _ | ⟨first, old⟩ <;>
      simp [hn, Usage.total, Usage.counter, Usage.amount]

/-- Adding counts on two counters at most. -/
theorem counter_of_mem_usages {usage : Usage} (h : usage ∈ build.usages identity new disk) :
    usage.counter = .savedSuggestions ∨ usage.counter = .buildsWithSuggestions := by
  unfold usages at h
  split at h
  · cases h
  · rcases List.mem_cons.1 h with rfl | h
    · exact .inl rfl
    · split at h
      · rw [List.mem_singleton.1 h]
        exact .inr rfl
      · cases h

end Build

/-- The number of suggestions that a call hands in. -/
def Call.handedIn : Call ι → Nat
  | .append _ new => new.length
  | _ => 0

namespace Session

variable (builds : ι → Build)

/-- The call hands in suggestions, the path of the build's suggestions file resolves, and reading that
file succeeds and gives no suggestion. -/
def findsNone (session : Session) : Call ι → Bool
  | .append b new =>
    decide (new ≠ []) && decide ((builds b).held session.identity session.disk = .ok [])
  | _ => false

/-- The calls of a run, each with the session as it is when the call is made. -/
def moments (session : Session) : List (Call ι) → List (Session × Call ι)
  | [] => []
  | call :: rest => (session, call) :: (session.perform builds call).2.moments rest

theorem total_usagesOf_saved (session : Session) (call : Call ι) :
    Usage.total .savedSuggestions (session.usagesOf builds call) = call.handedIn := by
  cases call with
  | append b new => exact (builds b).total_savedSuggestions ..
  | _ => rfl

theorem total_usagesOf_builds (session : Session) (call : Call ι) :
    Usage.total .buildsWithSuggestions (session.usagesOf builds call) =
      if session.findsNone builds call then 1 else 0 := by
  cases call with
  | append b new =>
    rw [usagesOf, Build.total_usages, findsNone]
    simp only [Bool.and_eq_true, decide_eq_true_eq]
  | _ => rfl

theorem total_usages_saved (session : Session) (calls : List (Call ι)) :
    Usage.total .savedSuggestions (session.usages builds calls) =
      (calls.map Call.handedIn).sum := by
  induction calls generalizing session with
  | nil => rfl
  | cons call rest ih =>
    rw [usages, Usage.total_append, total_usagesOf_saved, ih, List.map_cons, List.sum_cons]

theorem total_usages_builds (session : Session) (calls : List (Call ι)) :
    Usage.total .buildsWithSuggestions (session.usages builds calls) =
      (session.moments builds calls).countP fun moment => moment.1.findsNone builds moment.2 := by
  induction calls generalizing session with
  | nil => rfl
  | cons call rest ih =>
    rw [usages, Usage.total_append, total_usagesOf_builds, ih, moments, List.countP_cons, Nat.add_comm]

theorem counter_of_mem_usages {session : Session} {calls : List (Call ι)} {usage : Usage}
    (h : usage ∈ session.usages builds calls) :
    usage.counter = .savedSuggestions ∨ usage.counter = .buildsWithSuggestions := by
  induction calls generalizing session with
  | nil => cases h
  | cons call rest ih =>
    rcases List.mem_append.1 h with h | h
    · cases call with
      | append b new => exact (builds b).counter_of_mem_usages _ _ _ h
      | _ => cases h
    · exact ih h

/-! ## What a call changes -/

/-- What a call makes has the name of our directory, and what it writes has that of a suggestions
file. -/
theorem perform_changed_named (session : Session) (call : Call ι) :
    session.disk.Changed (·.getLast? = some pluginDirectoryName)
      (·.getLast? = some suggestionsFileName) (session.perform builds call).2.disk := by
  cases call with
  | append b new =>
    have hc := (builds b).append_changed session.identity new session.reporter session.disk
    exact hc.mono (fun _ h => h.getLast?_child Build.isName_pluginDirectoryName)
      fun _ h => h.getLast?_child Build.isName_suggestionsFileName
  | resolve b =>
    have hc := (builds b).resolve_changed session.disk
    exact hc.mono (fun _ h => h.getLast?_child Build.isName_pluginDirectoryName)
      fun _ => False.elim
  | setIdentity identity => exact .refl ..
  | findSuggestion b testNameId => exact .refl ..
  | read path => exact .refl ..
  | find b => exact .refl ..

theorem run_changed (session : Session) (calls : List (Call ι)) :
    session.disk.Changed (·.getLast? = some pluginDirectoryName)
      (·.getLast? = some suggestionsFileName) (session.run builds calls).2.disk := by
  induction calls generalizing session with
  | nil => exact .refl ..
  | cons call rest ih => exact (session.perform_changed_named builds call).trans (ih _)

/-- Whatever has another name stays as it is. -/
theorem run_node? (session : Session) (calls : List (Call ι)) {p : Place}
    (hd : p.getLast? ≠ some pluginDirectoryName) (hf : p.getLast? ≠ some suggestionsFileName) :
    (session.run builds calls).2.disk.root.node? p = session.disk.root.node? p := by
  rcases (session.run_changed builds calls).tree p with h | ⟨h, -⟩ | ⟨h, -⟩
  · exact h
  · exact absurd h hd
  · exact absurd h hf

/-- A statistics file that is there is read as before. -/
theorem run_read_statistics (session : Session) (calls : List (Call ι)) {store : StatisticsStore}
    {content : List UInt8} (h : session.disk.read store.path = .ok content) :
    (session.run builds calls).2.disk.read store.path = .ok content := by
  have hc := session.run_changed builds calls
  -- The path leads to a place of its own name, and what is written has another one.
  rw [Disk.read_eq, hc.look_file (Disk.look_of_read h) fun p hp hw => ?_]
  rw [hp.getLast?_child isName_statisticsFileName] at hw
  exact absurd hw (by decide)

/-! ## Runs -/

/-- What a run of calls comes to in the counts, from any files and under any identities. All suggestions
that were handed in are counted as saved, be the calls successful or not. A build is counted for each
call that hands in suggestions for it and finds it to have none at that moment, and nothing else is
counted. To hand in no suggestions does nothing at all. On disk, the statistics file stays as it is,
whether the reporter may save or not: no place of its name changes, and its path leads to what it
led to. -/
theorem run_counts (session : Session) (calls : List (Call ι)) :
    let last := (session.run builds calls).2
    let before := session.reporter.statistics
    let after := last.reporter.statistics
    (after.get .savedSuggestions).toNat =
      min counterLimit
        ((before.get .savedSuggestions).toNat + (calls.map Call.handedIn).sum) ∧
    (after.get .buildsWithSuggestions).toNat =
      min counterLimit ((before.get .buildsWithSuggestions).toNat +
        (session.moments builds calls).countP fun moment => moment.1.findsNone builds moment.2) ∧
    (∀ counter, counter ≠ .savedSuggestions → counter ≠ .buildsWithSuggestions →
      after.values.get? counter = before.values.get? counter) ∧
    (∀ b, session.perform builds (.append b []) = (.added (.ok .skipped), session)) ∧
    (∀ p, p.getLast? = some statisticsFileName →
      last.disk.root.node? p = session.disk.root.node? p) ∧
    ∀ (store : StatisticsStore) content, session.disk.read store.path = .ok content →
      last.disk.read store.path = .ok content := by
  intro last before after
  have hreporter : last.reporter = _ := session.run_reporter builds calls
  refine ⟨?saved, ?built, fun counter hs hb => ?others, fun b => ?skipped, fun p hp => ?file,
    fun _ _ h => session.run_read_statistics builds calls h⟩
  case saved =>
    unfold after
    rw [hreporter, Reporter.toNat_get_reportAll, total_usages_saved]
  case built =>
    unfold after
    rw [hreporter, Reporter.toNat_get_reportAll, total_usages_builds]
  case others =>
    unfold after
    rw [hreporter, Reporter.get?_reportAll_of_ne]
    intro usage hm he
    rcases counter_of_mem_usages builds hm with h | h
    · exact hs (he.symm.trans h)
    · exact hb (he.symm.trans h)
  case skipped => rw [perform, Build.append_nil]
  case file =>
    refine session.run_node? builds calls ?_ ?_ <;> rw [hp] <;> decide

/-- The build `x` has one suggestion, which does not count under another identity; `y` has no directory of
the host. Of the four calls that add, one succeeds, one can not resolve the path, one can not store
what it is handed, and one has nothing to do. -/
theorem run_counts_failing :
    let builds : Bool → Build := fun b => ⟨1, ⟨if b then "x" else "./y/"⟩⟩
    let store : StatisticsStore := .ofDataDirectory ⟨"d"⟩
    let counts : Statistics := ⟨statisticsVersion, { clickedButtons := some 3 }⟩
    let disk : Disk := ⟨.directory [("x", .directory [(hostDirectoryName, .directory
      [(pluginDirectoryName, .directory
        [(suggestionsFileName, .file (Utf8.encode "serverUUID\ts\n1\told\t\n"))])])]),
      ("d", .directory [(pluginDirectoryName, .directory
        [(statisticsFileName, .file (StatisticsStore.encode counts))])])], []⟩
    let session : Session := ⟨disk, ⟨"s"⟩, ⟨store, counts, true⟩⟩
    let calls : List (Call Bool) := [.append true [⟨"1", "a", ""⟩, ⟨"1", "b", ""⟩],
      .append false [⟨"1", "c", ""⟩, ⟨"2", "c", ""⟩, ⟨"3", "c", ""⟩], .setIdentity ⟨"o"⟩,
      .append true [⟨"1\t", "d", ""⟩], .append true []]
    let last := (session.run builds calls).2
    (last.reporter.statistics.get .savedSuggestions).toNat = 6 ∧
      (last.reporter.statistics.get .buildsWithSuggestions).toNat = 1 ∧
      last.reporter.statistics.values.get? .clickedButtons = some 3 ∧
      last.disk.read store.path = .ok (StatisticsStore.encode counts) := by
  intro builds store counts disk session calls last
  obtain ⟨hsaved, hbuilt, hothers, -, -, hfile⟩ := run_counts builds session calls
  refine ⟨?_, ?_, ?_, hfile store _ (by decide +kernel)⟩
  · rw [hsaved]
    decide +kernel
  · rw [hbuilt]
    decide +kernel
  · rw [hothers .clickedButtons (by decide) (by decide)]
    rfl

end Session

end Investigations
