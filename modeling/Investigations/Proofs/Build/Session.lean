/-
Sessions: any number of builds, and any run of calls that add suggestions to them, look suggestions
up, and change the identity in between. To a reader, a session is a ledger with one list for each build
and identity (`run_refines`). A call that adds puts the new suggestions in front of the list of its
build and identity and empties the lists of that build for other identities; no other call changes a
list, and nothing that fails does.
-/
import Investigations.Proofs.Build.Append

namespace Investigations

open Files

/-- The files, the identity of the server, and the counters in memory. -/
structure Session where
  disk : Disk
  identity : ServerIdentity
  reporter : Reporter

/-- A call in a session. Builds are known by an index. -/
inductive Call (ι : Type) where
  | setIdentity (identity : ServerIdentity)
  | append (build : ι) (new : List Suggestion)
  | findSuggestion (build : ι) (testNameId : String)
  | read (path : Path)
  | resolve (build : ι)
  | find (build : ι)

/-- The answer to a call. -/
inductive Answer where
  | done
  | added (result : Except Error Added)
  | suggestion (found : Option Suggestion)
  | reading (result : Except Error (List Suggestion))
  | located (result : Except Error Path)
  | existing (found : Option Path)

namespace Session

variable {ι : Type} (builds : ι → Build)

/-- The answer to a call, and the session after it. -/
def perform (session : Session) : Call ι → Answer × Session
  | .setIdentity identity => (.done, { session with identity })
  | .append b new =>
    let (outcome, reporter) :=
      (builds b).append session.identity new session.reporter session.disk
    (.added outcome.answer, { session with disk := outcome.disk, reporter })
  | .findSuggestion b testNameId =>
    (.suggestion ((builds b).findSuggestion session.identity testNameId session.disk).1, session)
  | .read path =>
    (.reading ((SuggestionStore.read session.disk session.identity path).map
      Sheet.Reading.suggestions), session)
  | .resolve b =>
    let resolved := (builds b).resolve session.disk
    (.located resolved.answer, { session with disk := resolved.disk })
  | .find b => (.existing ((builds b).find session.disk).1, session)

/-- The calls of a run with their answers, and the session after it. -/
def run (session : Session) : List (Call ι) → List (Call ι × Answer) × Session
  | [] => ([], session)
  | call :: rest =>
    let (answer, next) := session.perform builds call
    let (trace, last) := next.run rest
    ((call, answer) :: trace, last)

/-- A run under one identity starts with a call that keeps it. -/
theorem keeps_of_cons {call : Call ι} {rest : List (Call ι)}
    (hid : ∀ identity, .setIdentity identity ∉ call :: rest) :
    (∀ identity, call ≠ .setIdentity identity) ∧ ∀ identity, .setIdentity identity ∉ rest := by
  constructor
  · rintro identity rfl
    exact hid identity (List.mem_cons_self ..)
  · intro identity hm
    exact hid identity (List.mem_cons_of_mem _ hm)

theorem perform_identity (session : Session) {call : Call ι}
    (hid : ∀ identity, call ≠ .setIdentity identity) :
    (session.perform builds call).2.identity = session.identity := by
  cases call with
  | setIdentity identity => exact absurd rfl (hid identity)
  | append b new => rfl
  | findSuggestion b testNameId => rfl
  | read path => rfl
  | resolve b => rfl
  | find b => rfl

theorem run_identity {session : Session} {calls : List (Call ι)}
    (hid : ∀ identity, .setIdentity identity ∉ calls) :
    (session.run builds calls).2.identity = session.identity := by
  induction calls generalizing session with
  | nil => rfl
  | cons call rest ih =>
    obtain ⟨hcall, hrest⟩ := keeps_of_cons hid
    exact (ih hrest).trans (session.perform_identity builds hcall)

end Session

/-- The answer to a call that added suggestions. -/
def Answer.Appended (answer : Answer) : Prop :=
  ∃ added total, answer = .added (.ok (.appended added total))

/-- What a call changes are directories that it makes, and files only if it added suggestions. -/
theorem Session.perform_changed {ι : Type} (builds : ι → Build) (session : Session) (call : Call ι) :
    ∃ made written, session.disk.Changed made written (session.perform builds call).2.disk ∧
      (¬ (session.perform builds call).1.Appended → ∀ p, ¬ written p) := by
  have same (h : (session.perform builds call).2.disk = session.disk) :
      ∃ made written, session.disk.Changed made written (session.perform builds call).2.disk ∧
        (¬ (session.perform builds call).1.Appended → ∀ p, ¬ written p) := by
    rw [h]
    exact ⟨fun _ => False, fun _ => False, .refl .., fun _ _ => id⟩
  cases call with
  | setIdentity identity => exact same rfl
  | append b new =>
    rcases (builds b).append_cases session.identity new session.reporter session.disk with
      ⟨-, he⟩ | ⟨-, failure, ha, -⟩ | ⟨-, reading, h⟩
    · exact same (congrArg (·.1.disk) he)
    · exact ⟨_, _, Build.append_error_changed ha, fun _ _ => id⟩
    · exact ⟨_, _, (builds b).append_changed session.identity new session.reporter session.disk,
        fun hn => absurd ⟨_, _, congrArg Answer.added h.answer⟩ hn⟩
  | findSuggestion b testNameId => exact same rfl
  | read path => exact same rfl
  | resolve b => exact ⟨_, _, (builds b).resolve_changed session.disk, fun _ _ => id⟩
  | find b => exact same rfl

/-! ## Ledgers -/

/-- What readers find of each build. -/
structure Ledger (ι : Type) where
  identity : ServerIdentity
  views : ι → ServerIdentity → Except Error (List Suggestion)

namespace Ledger

variable {ι : Type} [DecidableEq ι]

/-- The ledger with these views of one build. -/
def put (ledger : Ledger ι) (build : ι) (view : ServerIdentity → Except Error (List Suggestion)) : Ledger ι :=
  { ledger with views := Function.update ledger.views build view }

@[simp] theorem put_identity (ledger : Ledger ι) (build : ι)
    (view : ServerIdentity → Except Error (List Suggestion)) :
    (ledger.put build view).identity = ledger.identity := rfl

@[simp] theorem put_views_self (ledger : Ledger ι) (build : ι)
    (view : ServerIdentity → Except Error (List Suggestion)) :
    (ledger.put build view).views build = view := Function.update_self ..

theorem put_views_of_ne (ledger : Ledger ι) {build other : ι} (h : other ≠ build)
    (view : ServerIdentity → Except Error (List Suggestion)) :
    (ledger.put build view).views other = ledger.views other := Function.update_of_ne h ..

/-- What becomes of a ledger when the directory for a build is made: nothing, or, if the path of the
suggestions file is too long to be followed, the build that had no suggestions can not be read. -/
def Located (overlong : ι → Prop) (before after : Ledger ι) (build : ι) : Prop :=
  after = before ∨
    overlong build ∧ before.views build = (fun _ => .ok []) ∧
      after = before.put build fun _ => .error (.io .invalidFilename)

/-- What a call and its answer say of the ledger before and after. -/
def Step (overlong : ι → Prop) (before after : Ledger ι) : Call ι → Answer → Prop
  | .setIdentity identity, _ => after = { before with identity }
  | .append b new, .added (.ok (.appended added total)) =>
    ∃ old, before.views b before.identity = .ok old ∧
      added = new.length ∧ total = new.length + old.length ∧
      after = before.put b fun reader => .ok (if reader = before.identity then new ++ old else [])
  | .append b _, .added (.error _) => Located overlong before after b
  | .resolve b, _ => Located overlong before after b
  | .findSuggestion b testNameId, answer =>
    after = before ∧ answer = .suggestion (match before.views b before.identity with
      | .ok held => held.find? (·.testNameId = testNameId)
      | .error _ => none)
  | _, _ => after = before

/-- What the calls of a run and their answers say of the ledger before and after. -/
inductive Run (overlong : ι → Prop) : Ledger ι → List (Call ι × Answer) → Ledger ι → Prop
  | nil (ledger : Ledger ι) : Run overlong ledger [] ledger
  | cons {ledger next last : Ledger ι} {call : Call ι} {answer : Answer}
      {rest : List (Call ι × Answer)} (step : Step overlong ledger next call answer)
      (run : Run overlong next rest last) : Run overlong ledger ((call, answer) :: rest) last

end Ledger

namespace Session

variable {ι : Type} {builds : ι → Build}

/-- The ledger that a session is to its readers. -/
def ledger (builds : ι → Build) (session : Session) : Ledger ι where
  identity := session.identity
  views b reader := (builds b).view session.disk reader

/-- Builds none of which has its artifacts directory inside that of another, named without `..`. -/
structure Separate (builds : ι → Build) (disk : Disk) : Prop where
  down : ∀ b, .up ∉ (builds b).artifactsDirectory.steps
  apart : ∀ b c, b ≠ c → ¬ (builds b).place disk <+: (builds c).place disk

theorem Separate.congr {a b : Disk} (h : Separate builds a) (hc : b.cwd = a.cwd) :
    Separate builds b := by
  refine ⟨h.down, fun x y hne => ?_⟩
  have hplace : ∀ z, (builds z).place b = (builds z).place a := by
    intro z
    unfold Build.place Disk.place Disk.start
    rw [hc]
  rw [hplace, hplace]
  exact h.apart x y hne

/-- A call keeps the working directory, so builds stay separate. -/
theorem separate_perform {session : Session} (hs : Separate builds session.disk) (call : Call ι) :
    Separate builds (session.perform builds call).2.disk := by
  obtain ⟨made, written, hc, -⟩ := session.perform_changed builds call
  exact hs.congr hc.cwd

section Refines

variable [DecidableEq ι]

/-- After changes below the artifacts directory of one build, the ledger is different for that build
at most. -/
theorem ledger_changed {session : Session} (hs : Separate builds session.disk)
    {made written : Place → Prop} {left : Disk} (hc : session.disk.Changed made written left) {b : ι}
    (hbelow : ∀ p, made p ∨ written p → (builds b).place left <+: p) (reporter : Reporter) :
    ledger builds ⟨left, session.identity, reporter⟩ =
      (ledger builds session).put b ((builds b).view left) := by
  unfold ledger Ledger.put
  congr
  funext c
  -- The build itself is as it is now; the others are apart from it.
  by_cases hb : c = b
  · subst hb
    rw [Function.update_self]
  · rw [Function.update_of_ne hb]
    have hl := hs.congr hc.cwd
    exact Build.view_changed (hs.down c) hc hbelow ⟨hl.apart b c (Ne.symm hb), hl.apart c b hb⟩

theorem put_view_self (session : Session) (b : ι) :
    (ledger builds session).put b ((builds b).view session.disk) = ledger builds session := by
  unfold ledger Ledger.put
  congr
  exact Function.update_eq_self b _

/-- Resolving the path of a build, by itself or in a call that fails, changes no view. -/
theorem located_resolve {session : Session} (hs : Separate builds session.disk) (b : ι)
    (reporter : Reporter) :
    Ledger.Located (fun b => (builds b).Overlong) (ledger builds session)
      (ledger builds ⟨((builds b).resolve session.disk).disk, session.identity, reporter⟩) b := by
  have hc := (builds b).resolve_changed session.disk
  have hledger := ledger_changed hs hc
    (fun p hp => Build.leads_below (hs.down b) (hp.imp_right False.elim)) reporter
  rcases (builds b).resolve_cases session.disk with ⟨_, _, he⟩ | ⟨-, he⟩ | ⟨made, above, _, he, ho⟩ <;>
    rw [he] at hledger ⊢
  · exact .inl (hledger.trans (put_view_self session b))
  · exact .inl (hledger.trans (put_view_self session b))
  · obtain ⟨hbefore, hafter⟩ := ho.view
    rw [hafter] at hledger
    by_cases hlong : (builds b).Overlong
    · exact .inr ⟨hlong, hbefore, by simpa only [if_pos hlong] using hledger⟩
    · refine .inl (hledger.trans ?_)
      simp only [if_neg hlong]
      rw [← hbefore, put_view_self]

/-- Suggestions that were added stand in front of those that the view held before, and there is
nothing else to see of the build. -/
theorem appended_view {build : Build} {identity : ServerIdentity} {new : List Suggestion}
    {disk : Disk} {outcome : Outcome Added} {reading : Sheet.Reading}
    (h : build.Appended identity new disk outcome reading) :
    build.view disk identity = .ok reading.suggestions ∧
      build.view outcome.disk = fun reader =>
        .ok (if reader = identity then new ++ reading.suggestions else []) := by
  have hdir := Build.isDirectory_resolve h.located
  refine ⟨Build.view_of_held (Build.held_of_read h.located h.read), funext fun reader => ?_⟩
  have hreplace := Disk.replace_ok (SuggestionStore.save_ok h.saved).2.2
  rw [h.disk_eq, Build.view_of_directory (Disk.isDirectory_grow hreplace.1.cwd
    hreplace.1.tree.grows hdir), SuggestionStore.read_saved h.saved]
  by_cases he : identity = reader
  · rw [if_pos he, if_pos he.symm]
    rfl
  · rw [if_neg he, if_neg (Ne.symm he)]
    rfl

/-- One call is one step of the ledger. -/
theorem perform_step {session : Session} (hs : Separate builds session.disk) (call : Call ι) :
    Ledger.Step (fun b => (builds b).Overlong) (ledger builds session)
      (ledger builds (session.perform builds call).2) call (session.perform builds call).1 := by
  cases call with
  | setIdentity identity => rfl
  | append b new =>
    rcases (builds b).append_cases session.identity new session.reporter session.disk with
      ⟨-, he⟩ | ⟨-, failure, ha, hd⟩ | ⟨-, reading, h⟩
    · rw [perform, he]
      rfl
    · rw [perform]
      dsimp only
      rw [ha, hd]
      exact located_resolve hs b _
    · have hc := (builds b).append_changed session.identity new session.reporter session.disk
      have hledger := ledger_changed hs hc (fun p hp => Build.leads_below (hs.down b) hp)
        ((builds b).append session.identity new session.reporter session.disk).2
      obtain ⟨hbefore, hafter⟩ := appended_view h
      rw [hafter] at hledger
      rw [perform]
      dsimp only
      rw [h.answer]
      exact ⟨reading.suggestions, hbefore, rfl, List.length_append, hledger⟩
  | findSuggestion b testNameId =>
    exact ⟨rfl, congrArg Answer.suggestion ((builds b).findSuggestion_eq session.identity testNameId _)⟩
  | read path => rfl
  | resolve b => exact located_resolve hs b _
  | find b => rfl

/-- A run of calls, from any files and with any suggestions files among them, is a run of the ledger:
adding is the only call that changes it, and it adds in front of what was there. -/
theorem run_refines {session : Session} (hs : Separate builds session.disk) (calls : List (Call ι)) :
    Ledger.Run (fun b => (builds b).Overlong) (ledger builds session) (session.run builds calls).1
      (ledger builds (session.run builds calls).2) := by
  induction calls generalizing session with
  | nil => exact .nil _
  | cons call rest ih => exact .cons (perform_step hs call) (ih (separate_perform hs call))

end Refines

/-- Two builds side by side, one of them with a file that was never a suggestions file. -/
theorem run_refines_side_by_side :
    let builds : Bool → Build := fun b => ⟨1, ⟨if b then "x" else "./y/"⟩⟩
    let disk : Disk := ⟨.directory [("x", .directory [(hostDirectoryName, .directory [])]),
      ("y", .directory [(hostDirectoryName, .directory [(pluginDirectoryName,
        .directory [(suggestionsFileName, .file [255, 10, 9])])])])], []⟩
    let calls : List (Call Bool) := [.append true [⟨"1", "2", "3"⟩], .append true [⟨"4", "5", ""⟩],
      .setIdentity ⟨"other"⟩, .append false [⟨"6", "7", ""⟩]]
    let session : Session := ⟨disk, ⟨"s"⟩, .inMemory⟩
    Separate builds disk ∧
      Ledger.Run (fun b => (builds b).Overlong) (ledger builds session) (session.run builds calls).1
        (ledger builds (session.run builds calls).2) ∧
      (ledger builds (session.run builds calls).2).views true ⟨"s"⟩ =
        .ok [⟨"4", "5", ""⟩, ⟨"1", "2", "3"⟩] := by
  intro builds disk calls session
  have hs : Separate builds disk := ⟨by decide +kernel, by decide +kernel⟩
  exact ⟨hs, run_refines hs calls, by decide +kernel⟩

/-! ## Paths that are too long -/

/-- A build whose artifacts directory is named with a number of slashes. -/
def slashedBuild (count : Nat) : Build := ⟨7, .slashed "a" count⟩

/-- The artifacts directory `a` with the directory of the host and nothing in it. -/
def freshDisk : Disk where
  root := .directory [("a", .directory [(hostDirectoryName, .directory [])])]
  cwd := []

theorem isName_a : IsName "a" := ⟨by decide, by decide⟩

/-- There can be so many slashes that the path of our directory can be followed, and that of the
suggestions file can not. -/
theorem opened_slashed {disk : Disk} {count : Nat} (hl : 4045 ≤ count) (hu : count ≤ 4057)
    (hc : disk.cwd = [])
    (host : disk.root.follow [] [.into "a", .into hostDirectoryName] = .ok ["a", hostDirectoryName])
    (directory : disk.root.node? ["a", hostDirectoryName] = some .directory)
    (free : disk.root.node? ["a", hostDirectoryName, pluginDirectoryName] = none) :
    (slashedBuild count).Overlong ∧
      ∃ made, (slashedBuild count).Opened disk made ["a", hostDirectoryName] := by
  have hstart : disk.start (slashedBuild count).artifactsDirectory = [] := by
    unfold Disk.start slashedBuild
    rw [Path.isAbsolute_slashed isName_a]
    exact hc
  have hsize : (slashedBuild count).artifactsDirectory.text.utf8ByteSize = 1 + count :=
    Path.utf8ByteSize_slashed "a" count
  have hhost := Path.utf8ByteSize_child (slashedBuild count).artifactsDirectory hostDirectoryName
  have hplugin := Path.utf8ByteSize_child (slashedBuild count).hostDirectory pluginDirectoryName
  have hfile := Path.utf8ByteSize_child (slashedBuild count).pluginDirectory suggestionsFileName
  have h1 : hostDirectoryName.utf8ByteSize = 9 := by decide
  have h2 : pluginDirectoryName.utf8ByteSize = 26 := by decide
  have h3 : suggestionsFileName.utf8ByteSize = 15 := by decide
  rw [← Build.hostDirectory] at hhost
  rw [← Build.pluginDirectory] at hplugin
  rw [← Build.suggestionsFile] at hfile
  refine ⟨?_, _, ?_, directory, free, ?_, rfl⟩
  · unfold Build.Overlong pathLimit
    omega
  · unfold Disk.Leads Build.hostDirectory
    rw [Disk.start_child _ Build.isName_hostDirectoryName, hstart,
      Path.steps_child Build.isName_hostDirectoryName, slashedBuild, Path.steps_slashed isName_a]
    exact host
  · have hnul : '\x00' ∉ (slashedBuild count).pluginDirectory.text.toList := by
      unfold Build.pluginDirectory Build.hostDirectory slashedBuild
      rw [Path.mem_toList_child (by decide), Path.mem_toList_child (by decide), Path.toList_slashed]
      simp [hostDirectoryName, pluginDirectoryName]
    unfold Path.fault? pathLimit
    rw [if_neg hnul, if_neg (by omega)]

theorem opened_slashedBuild {count : Nat} (hl : 4045 ≤ count) (hu : count ≤ 4057) :
    (slashedBuild count).Overlong ∧
      ∃ made, (slashedBuild count).Opened freshDisk made ["a", hostDirectoryName] :=
  opened_slashed hl hu rfl rfl rfl rfl

theorem perform_overlong (builds : ι → Build) (session : Session) (b : ι) {made : Disk}
    {above : Place} (ho : (builds b).Opened session.disk made above) (hl : (builds b).Overlong)
    {new : List Suggestion} (hn : new ≠ []) :
    (session.perform builds (.append b new)).1 = .added (.error (.io .invalidFilename)) ∧
      (ledger builds session).views b = (fun _ => .ok []) ∧
      (ledger builds (session.perform builds (.append b new)).2).views b =
        fun _ => .error (.io .invalidFilename) := by
  obtain ⟨hbefore, hafter⟩ := ho.view
  obtain ⟨ha, hd⟩ := Build.append_overlong ho hl hn session.identity session.reporter
  refine ⟨congrArg Answer.added ha, hbefore, ?_⟩
  dsimp only [perform, ledger]
  rw [hd, hafter, if_pos hl]

/-- Without the exception for paths that are too long, a session is no such ledger: a build that has no
suggestions can not be read any more after a call that failed. -/
theorem failed_append_overlong :
    Separate (fun _ : Unit => slashedBuild 4049) freshDisk ∧
      (perform (fun _ : Unit => slashedBuild 4049) ⟨freshDisk, ⟨"s"⟩, .inMemory⟩
        (.append () [⟨"t", "u", "r"⟩])).1 = .added (.error (.io .invalidFilename)) ∧
      (ledger (fun _ : Unit => slashedBuild 4049) ⟨freshDisk, ⟨"s"⟩, .inMemory⟩).views () =
        (fun _ => .ok []) ∧
      (ledger (fun _ : Unit => slashedBuild 4049)
        (perform (fun _ : Unit => slashedBuild 4049) ⟨freshDisk, ⟨"s"⟩, .inMemory⟩
          (.append () [⟨"t", "u", "r"⟩])).2).views () = fun _ => .error (.io .invalidFilename) := by
  have hlow : 4045 ≤ 4049 := by omega
  have hhigh : 4049 ≤ 4057 := by omega
  obtain ⟨hl, made, ho⟩ := opened_slashedBuild hlow hhigh
  refine ⟨⟨fun _ => ?_, fun b c hne => absurd rfl hne⟩,
    perform_overlong (fun _ : Unit => slashedBuild 4049) ⟨freshDisk, ⟨"s"⟩, .inMemory⟩ () ho hl
      (List.cons_ne_nil _ _)⟩
  rw [slashedBuild, Path.steps_slashed isName_a]
  simp

end Session

end Investigations
