/-
What the body of a foreign file can do: nothing. Disks that differ in the content of files are alike
to a reader who finds the same suggestions in them, and every call gives the same answer on both and
leaves them alike. So no run of calls tells apart two files with the same foreign first line, and the
first suggestions that are added make the two disks one (`run_foreign`).
-/
import Investigations.Proofs.Build.Session
import Investigations.Proofs.Files.Shape
import Investigations.Proofs.Suggestion.Grammar

namespace Investigations

open Files

/-- Two disks are alike to a reader. They agree at every place, but for files at places of `blurred`,
and these read alike. -/
structure Alike (reader : ServerIdentity) (blurred : Place → Prop) (a b : Disk) : Prop where
  cwd : a.cwd = b.cwd
  node : ∀ p, a.root.node? p = b.root.node? p ∨ (blurred p ∧ ∃ content content',
    a.root.node? p = some (.file content) ∧ b.root.node? p = some (.file content') ∧
      (Sheet.decode reader content).suggestions = (Sheet.decode reader content').suggestions)

namespace Alike

variable {reader : ServerIdentity} {blurred blurred' : Place → Prop} {a b : Disk}

theorem mono (h : Alike reader blurred a b) (hb : ∀ p, blurred p → blurred' p) :
    Alike reader blurred' a b :=
  ⟨h.cwd, fun p => (h.node p).imp_right fun hp => ⟨hb p hp.1, hp.2⟩⟩

theorem shape (h : Alike reader blurred a b) : a.root.SameShape b.root := by
  intro p
  rcases h.node p with he | ⟨-, content, content', ha, hb, -⟩
  · exact .inl he
  · exact .inr ⟨content, content', ha, hb⟩

/-! ## Operations on files -/

theorem isDirectory_eq (h : Alike reader blurred a b) (path : Path) :
    a.isDirectory path = b.isDirectory path :=
  Disk.isDirectory_congr h.cwd h.shape path

/-- Putting the same at the same place of both disks leaves them alike, and that place is not blurred
any more. -/
theorem set (h : Alike reader blurred a b) {above : Place} {name : String} {new : Tree}
    (ha : a.root.node? above = some .directory)
    (hfree : a.root.node? (above ++ [name]) ≠ some .directory) (hnew : new.IsLeaf) :
    Alike reader (fun p => blurred p ∧ p ≠ above ++ [name])
      { a with root := a.root.set (above ++ [name]) new }
      { b with root := b.root.set (above ++ [name]) new } := by
  refine ⟨h.cwd, fun p => ?_⟩
  have hb := (h.shape.directory_iff above).1 ha
  have hfree' : b.root.node? (above ++ [name]) ≠ some .directory := fun hd =>
    hfree ((h.shape.directory_iff _).2 hd)
  dsimp only
  rw [Tree.node?_set ha hfree hnew, Tree.node?_set hb hfree' hnew]
  by_cases hp : p = above ++ [name]
  · rw [if_pos hp, if_pos hp]
    exact .inl rfl
  · rw [if_neg hp, if_neg hp]
    exact (h.node p).imp_right fun ⟨hblur, hfiles⟩ => ⟨⟨hblur, hp⟩, hfiles⟩

theorem replace (h : Alike reader blurred a b) (path : Path) (content : List UInt8) :
    (a.replace path content).1 = (b.replace path content).1 ∧
      Alike reader (fun p => blurred p ∧
        ((a.replace path content).1 = .ok () → ¬ (a.replace path content).2.Leads path p))
        (a.replace path content).2 (b.replace path content).2 := by
  rw [Disk.replace_eq, Disk.replace_eq, ← Disk.destination_congr h.cwd h.shape]
  rcases hd : a.destination path with fault | target
  · exact ⟨rfl, h.mono fun p hp => ⟨hp, nofun⟩⟩
  · obtain ⟨above, name, rfl, hdest⟩ := Disk.destined_of_destination hd
    refine ⟨rfl, (h.set hdest.directory hdest.free (.inl (by simp [Files.Tree.node]))).mono ?_⟩
    rintro p ⟨hp, hne⟩
    exact ⟨hp, fun _ hl => hne (Except.ok.inj (hl.symm.trans (hdest.leads content)))⟩

/-! ## Suggestions files -/

theorem read (h : Alike reader blurred a b) (path : Path) :
    (SuggestionStore.read a reader path).map Sheet.Reading.suggestions =
      (SuggestionStore.read b reader path).map Sheet.Reading.suggestions := by
  rcases Disk.look_cases h.cwd h.shape path with he | ⟨p, content, content', ha, hb, hla, hlb⟩
  · rw [SuggestionStore.read_congr he]
  · rw [SuggestionStore.read_of_look hla, SuggestionStore.read_of_look hlb]
    refine congrArg Except.ok ?_
    rcases h.node p with he | ⟨-, c, c', hc, hc', hsame⟩
    · rw [ha, hb] at he
      cases he
      rfl
    · rw [ha] at hc
      rw [hb] at hc'
      cases hc
      cases hc'
      exact hsame

theorem save (h : Alike reader blurred a b) (path : Path) (suggestions : List Suggestion) :
    let left := SuggestionStore.save a reader path suggestions
    let right := SuggestionStore.save b reader path suggestions
    left.answer = right.answer ∧
      Alike reader (fun p => blurred p ∧ (left.answer = .ok () → ¬ left.disk.Leads path p))
        left.disk right.disk := by
  intro left right
  obtain ⟨hanswer, hleft⟩ := h.replace path (Sheet.encode reader suggestions)
  obtain ⟨hsame, ⟨hrefused, hd, hd'⟩ | ⟨hok, hd, hd'⟩⟩ := SuggestionStore.save_congr hanswer
  · refine ⟨hsame, ?_⟩
    rw [hd, hd']
    exact h.mono fun p hp => ⟨hp, fun ha => absurd ha hrefused⟩
  · refine ⟨hsame, ?_⟩
    rw [hd, hd']
    exact hleft.mono fun p hp => ⟨hp.1, fun ha => hp.2 (hok ha)⟩

/-! ## Builds -/

variable (build : Build)

theorem find_eq (h : Alike reader blurred a b) : (build.find a).1 = (build.find b).1 := by
  rw [Build.find_eq, Build.find_eq, h.isDirectory_eq]

theorem view_eq (h : Alike reader blurred a b) : build.view a reader = build.view b reader := by
  unfold Build.view
  rw [h.find_eq]
  rcases (build.find b).1 with _ | path
  · rfl
  · exact h.read path

theorem resolve (h : Alike reader blurred a b) :
    (build.resolve a).answer = (build.resolve b).answer ∧
      Alike reader blurred (build.resolve a).disk (build.resolve b).disk := by
  have hsameHost := h.isDirectory_eq build.hostDirectory
  have hsamePlugin := h.isDirectory_eq build.pluginDirectory
  by_cases hh : a.isDirectory build.hostDirectory = true
  · have hh' := hsameHost ▸ hh
    by_cases hp : a.isDirectory build.pluginDirectory = true
    · rw [Build.resolve_of_directory hp, Build.resolve_of_directory (hsamePlugin ▸ hp)]
      exact ⟨rfl, h⟩
    · have hp' := hsamePlugin ▸ hp
      rcases hf : build.pluginDirectory.fault? with _ | fault
      · obtain ⟨-, -, above, hl, hd⟩ := Disk.look_eq_directory.1 (Disk.isDirectory_iff.1 hh)
        have hl' : b.Leads build.hostDirectory above := by
          rw [Disk.Leads, ← Disk.start_congr h.cwd, ← h.shape.follow_eq]
          exact hl
        have hd' := (h.shape.directory_iff above).1 hd
        rw [Build.resolve_of_missing hp hf hl hd, Build.resolve_of_missing hp' hf hl' hd']
        by_cases hn : a.root.node? (above ++ [pluginDirectoryName]) = none
        · rw [if_pos hn, if_pos ((h.shape.none_iff _).1 hn)]
          exact ⟨rfl, (h.set hd (by rw [hn]; simp) (.inr rfl)).mono fun p hp => hp.1⟩
        · rw [if_neg hn, if_neg (mt (h.shape.none_iff _).2 hn)]
          exact ⟨rfl, h⟩
      · rw [Build.resolve_of_fault hh hp hf, Build.resolve_of_fault hh' hp' hf]
        exact ⟨rfl, h⟩
  · rw [Build.resolve_of_no_host hh, Build.resolve_of_no_host (hsameHost ▸ hh)]
    exact ⟨rfl, h⟩

theorem held_eq (h : Alike reader blurred a b) : build.held reader a = build.held reader b := by
  obtain ⟨hanswer, hmade⟩ := h.resolve build
  unfold Build.held
  rw [hanswer]
  rcases (build.resolve b).answer with failure | path
  · rfl
  · exact hmade.read path

/-- Suggestions are added alike, and then the suggestions file is not blurred any more. -/
theorem append (h : Alike reader blurred a b) (new : List Suggestion) (reporter : Reporter) :
    let left := build.append reader new reporter a
    let right := build.append reader new reporter b
    left.1.answer = right.1.answer ∧ left.2 = right.2 ∧
      Alike reader (fun p => blurred p ∧ ∀ added total,
        left.1.answer = .ok (.appended added total) → ¬ left.1.disk.Leads build.suggestionsFile p)
        left.1.disk right.1.disk := by
  intro left right
  by_cases hn : new = []
  · subst hn
    exact ⟨rfl, rfl, h.mono fun p hp => ⟨hp, nofun⟩⟩
  · have hmade := (h.resolve build).2
    have hleft : (left.1.answer, left.1.disk, left.2) = _ := build.append_eq reader hn reporter a
    have hright : (right.1.answer, right.1.disk, right.2) = _ := build.append_eq reader hn reporter b
    rw [← h.held_eq build] at hright
    rcases hold : build.held reader a with failure | old <;> rw [hold] at hleft hright
    · simp only [Prod.mk.injEq] at hleft hright
      obtain ⟨⟨ha, hd, hr⟩, ha', hd', hr'⟩ := hleft, hright
      rw [ha, ha', hr, hr', hd, hd']
      exact ⟨rfl, rfl, hmade.mono fun p hp => ⟨hp, nofun⟩⟩
    · obtain ⟨hsaved, hdisk⟩ := hmade.save build.suggestionsFile (new ++ old)
      simp only [Prod.mk.injEq] at hleft hright
      obtain ⟨⟨ha, hd, hr⟩, ha', hd', hr'⟩ := hleft, hright
      rw [ha, ha', hr, hr', hd, hd', ← hsaved]
      refine ⟨rfl, rfl, hdisk.mono fun p hp => ⟨hp.1, fun added total h => hp.2 ?_⟩⟩
      rcases hs : (SuggestionStore.save (build.resolve a).disk reader build.suggestionsFile
        (new ++ old)).answer with failure | done
      · rw [hs] at h
        cases h
      · rfl

end Alike

/-! ## Sessions -/

namespace Session

variable {ι : Type} (builds : ι → Build)

/-- Two sessions that nothing tells apart but files at places of `blurred`, which read alike. -/
structure Alike (blurred : Place → Prop) (left right : Session) : Prop where
  identity : left.identity = right.identity
  reporter : left.reporter = right.reporter
  disk : Investigations.Alike left.identity blurred left.disk right.disk

/-- One call has the same answer in both sessions and leaves them alike. If it added suggestions to a
build, the file of that build is the same in both. -/
theorem Alike.perform {blurred : Place → Prop} {left right : Session} (h : Alike blurred left right)
    (call : Call ι) (hid : ∀ identity, call ≠ .setIdentity identity) :
    (left.perform builds call).1 = (right.perform builds call).1 ∧
      Alike (fun p => blurred p ∧ ∀ b new, call = .append b new →
          (left.perform builds call).1.Appended →
            ¬ (left.perform builds call).2.disk.Leads (builds b).suggestionsFile p)
        (left.perform builds call).2 (right.perform builds call).2 := by
  obtain ⟨a, reader, reporter⟩ := left
  obtain ⟨b, reader', reporter'⟩ := right
  obtain ⟨hi, hr, hd⟩ := h
  dsimp only at hi hr hd
  subst hi hr
  cases call with
  | setIdentity identity => exact absurd rfl (hid identity)
  | append c new =>
    obtain ⟨hanswer, hreporter, hdisk⟩ := hd.append (builds c) new reporter
    refine ⟨congrArg Answer.added hanswer, rfl, hreporter, hdisk.mono ?_⟩
    rintro p ⟨hp, hn⟩
    refine ⟨hp, ?_⟩
    rintro b' new' hcall ⟨added, total, ha⟩
    cases hcall
    exact hn added total (Answer.added.inj ha)
  | findSuggestion c testNameId =>
    refine ⟨congrArg Answer.suggestion ?_, rfl, rfl, hd.mono fun p hp => ⟨hp, nofun⟩⟩
    rw [Build.findSuggestion_eq, Build.findSuggestion_eq, hd.view_eq]
  | read path =>
    exact ⟨congrArg Answer.reading (hd.read path), rfl, rfl, hd.mono fun p hp => ⟨hp, nofun⟩⟩
  | resolve c =>
    obtain ⟨hanswer, hmade⟩ := hd.resolve (builds c)
    exact ⟨congrArg Answer.located hanswer, rfl, rfl, hmade.mono fun p hp => ⟨hp, nofun⟩⟩
  | find c =>
    exact ⟨congrArg Answer.existing (hd.find_eq (builds c)), rfl, rfl,
      hd.mono fun p hp => ⟨hp, nofun⟩⟩

/-! ## Runs -/

/-- A run has the same answers in sessions that are alike, and leaves them alike. -/
theorem Alike.run {blurred : Place → Prop} {left right : Session} (h : Alike blurred left right)
    {calls : List (Call ι)} (hid : ∀ identity, .setIdentity identity ∉ calls) :
    (left.run builds calls).1 = (right.run builds calls).1 ∧
      Alike blurred (left.run builds calls).2 (right.run builds calls).2 := by
  induction calls generalizing left right with
  | nil => exact ⟨rfl, h⟩
  | cons call rest ih =>
    simp only [List.mem_cons, not_or] at hid
    obtain ⟨hanswer, hnext⟩ := h.perform builds call fun identity he => (hid identity).1 he.symm
    have hnext : Alike blurred (left.perform builds call).2 (right.perform builds call).2 :=
      ⟨hnext.identity, hnext.reporter, hnext.disk.mono fun p hp => hp.1⟩
    obtain ⟨htrace, hlast⟩ := ih hnext fun identity => (hid identity).2
    refine ⟨?_, hlast⟩
    dsimp only [Session.run]
    rw [hanswer, htrace]

/-- Once suggestions were added to the build whose file is blurred, nothing is. -/
theorem Alike.run_appended {p : Place} {left right : Session} (h : Alike (· = p) left right) {b : ι}
    (hl : left.disk.Leads (builds b).suggestionsFile p) {calls : List (Call ι)}
    (hid : ∀ identity, .setIdentity identity ∉ calls) {new : List Suggestion} {answer : Answer}
    (hm : (.append b new, answer) ∈ (left.run builds calls).1) (ha : answer.Appended) :
    Alike (fun _ => False) (left.run builds calls).2 (right.run builds calls).2 := by
  induction calls generalizing left right with
  | nil => cases hm
  | cons call rest ih =>
    simp only [List.mem_cons, not_or] at hid
    obtain ⟨-, hnext⟩ := h.perform builds call fun identity he => (hid identity).1 he.symm
    obtain ⟨made, written, hc, -⟩ := left.perform_changed builds call
    have hleads := hl.grow hc
    rcases List.mem_cons.1 hm with he | hm
    · cases he
      -- The file that was written is the one that was blurred.
      refine (Alike.run builds ⟨hnext.identity, hnext.reporter, hnext.disk.mono ?_⟩
        fun identity => (hid identity).2).2
      rintro q ⟨rfl, hn⟩
      exact hn b new rfl ha hleads
    · exact ih ⟨hnext.identity, hnext.reporter, hnext.disk.mono fun q hq => hq.1⟩ hleads
        (fun identity => (hid identity).2) hm

/-- As long as no suggestions are added, files stay as they are. -/
theorem run_look {session : Session} {path : Path} {content : List UInt8}
    (h : session.disk.look path = .ok (.file content)) {calls : List (Call ι)}
    (hn : ∀ call answer, (call, answer) ∈ (session.run builds calls).1 → ¬ answer.Appended) :
    (session.run builds calls).2.disk.look path = .ok (.file content) := by
  induction calls generalizing session with
  | nil => exact h
  | cons call rest ih =>
    obtain ⟨made, written, hc, hw⟩ := session.perform_changed builds call
    exact ih (hc.look_file h fun p _ => hw (hn call _ (List.mem_cons_self ..)) p)
      fun call' answer hm => hn call' answer (List.mem_cons_of_mem _ hm)

/-! ## Foreign files -/

/-- Nothing is found of a build: no suggestions in its file, and none for any test. -/
structure Bare (builds : ι → Build) (session : Session) (b : ι) : Prop where
  read : (session.perform builds (.read (builds b).suggestionsFile)).1 = .reading (.ok [])
  find : ∀ testNameId, (session.perform builds (.findSuggestion b testNameId)).1 = .suggestion none

theorem bare_of_look {session : Session} {b : ι} {content : List UInt8}
    (h : session.disk.look (builds b).suggestionsFile = .ok (.file content))
    (hh : ¬ Sheet.Headed session.identity content) : Bare builds session b := by
  have hread : (SuggestionStore.read session.disk session.identity (builds b).suggestionsFile).map
      Sheet.Reading.suggestions = .ok [] := by
    rw [SuggestionStore.read_of_look h]
    exact congrArg Except.ok (Sheet.decode_not_headed hh).1
  refine ⟨congrArg Answer.reading hread, fun testNameId => congrArg Answer.suggestion ?_⟩
  rw [Build.findSuggestion_eq, Build.view_of_directory (Build.isDirectory_plugin h), hread]
  rfl

/-- Two disks that are the same but for the body of the file at a path. The first line of the file is
`header` in both. -/
structure SameButBody (path : Path) (header : List UInt8) (a b : Disk) : Prop where
  cwd : a.cwd = b.cwd
  elsewhere : ∀ p, ¬ a.Leads path p → a.root.node? p = b.root.node? p
  left : ∃ content, a.read path = .ok content ∧ (Lines.split 10 content).1 = header
  right : ∃ content, b.read path = .ok content ∧ (Lines.split 10 content).1 = header

/-- The path leads to the file at the same place of both disks. -/
theorem SameButBody.leads {path : Path} {header : List UInt8} {a b : Disk}
    (h : SameButBody path header a b) {p : Place} {content content' : List UInt8}
    (hp : a.Leads path p) (ha : a.root.node? p = some (.file content))
    (hb : b.look path = .ok (.file content')) : b.root.node? p = some (.file content') := by
  obtain ⟨-, -, -, q, hq, hnode⟩ := Disk.look_eq_file.1 hb
  have hother : ∀ q, q ≠ p → a.root.node? q = b.root.node? q := fun q hne =>
    h.elsewhere q fun hl => hne (Except.ok.inj (hl.symm.trans hp))
  suffices hsame : p = q by rw [hsame, hnode]
  -- Whichever of the two trees has more, what leads somewhere in the other does so in it.
  by_cases hn : b.root.node? p = none
  · have hgrows : b.root.Grows a.root := by
      refine ⟨fun r hr => ?_, fun r hr => ?_⟩
      · rw [hother r (by rintro rfl; rw [hn] at hr; cases hr), hr]
      · rwa [hother r (by rintro rfl; exact hr hn)]
    have hl : a.Leads path q := by
      unfold Disk.Leads
      rw [Disk.start_congr h.cwd]
      exact Tree.follow_grow hgrows hq
    exact Except.ok.inj (hp.symm.trans hl)
  · have hgrows : a.root.Grows b.root := by
      refine ⟨fun r hr => ?_, fun r hr => ?_⟩
      · rw [← hother r (by rintro rfl; rw [ha] at hr; cases hr), hr]
      · by_cases hrp : r = p
        · rwa [hrp]
        · rwa [← hother r hrp]
    have hl : b.Leads path p := by
      unfold Disk.Leads
      rw [← Disk.start_congr h.cwd]
      exact Tree.follow_grow hgrows hp
    exact Except.ok.inj (hl.symm.trans hq)

/-- To a reader who is not named in the first line, the disks are alike. -/
theorem SameButBody.alike {path : Path} {header : List UInt8} {a b : Disk}
    (h : SameButBody path header a b) {reader : ServerIdentity}
    (hh : ¬ Sheet.IsHeader reader header) :
    ∃ p, a.Leads path p ∧ Investigations.Alike reader (· = p) a b := by
  obtain ⟨content, ha, rfl⟩ := h.left
  obtain ⟨content', hb, hheader⟩ := h.right
  obtain ⟨-, -, -, p, hp, hnode⟩ := Disk.look_eq_file.1 (Disk.look_of_read ha)
  have hnode' := h.leads hp hnode (Disk.look_of_read hb)
  refine ⟨p, hp, h.cwd, fun q => ?_⟩
  by_cases hq : q = p
  · subst hq
    refine .inr ⟨rfl, content, content', hnode, hnode', ?_⟩
    have hforeign : ¬ Sheet.Headed reader content' := by
      rwa [Sheet.Headed, hheader]
    rw [(Sheet.decode_not_headed hh).1, (Sheet.decode_not_headed hforeign).1]
  · exact .inl (h.elsewhere q fun hl => hq (Except.ok.inj (hl.symm.trans hp)))

/-- The body of a foreign file never matters. Runs that start from disks with different bodies have the
same answers and the same counts. Until suggestions are added, nothing is found of the build; from then
on, the disks do not differ in a byte. -/
theorem run_foreign {builds : ι → Build} {a b : Disk} {build : ι} {reader : ServerIdentity} {header : List UInt8}
    (hh : ¬ Sheet.IsHeader reader header)
    (hs : SameButBody (builds build).suggestionsFile header a b) (reporter : Reporter)
    {calls : List (Call ι)} (hid : ∀ identity, .setIdentity identity ∉ calls) :
    let left := run builds ⟨a, reader, reporter⟩ calls
    let right := run builds ⟨b, reader, reporter⟩ calls
    left.1 = right.1 ∧ left.2.reporter = right.2.reporter ∧
      ((∀ call answer, (call, answer) ∈ left.1 → ¬ answer.Appended) →
        Bare builds left.2 build ∧ Bare builds right.2 build) ∧
      ((∃ new answer, (.append build new, answer) ∈ left.1 ∧ answer.Appended) →
        ∀ p, left.2.disk.root.node? p = right.2.disk.root.node? p) := by
  intro left right
  obtain ⟨p, hp, hdisk⟩ := hs.alike hh
  have halike : Alike (· = p) ⟨a, reader, reporter⟩ ⟨b, reader, reporter⟩ := ⟨rfl, rfl, hdisk⟩
  obtain ⟨htrace, hlast⟩ := halike.run builds hid
  refine ⟨htrace, hlast.reporter, fun hn => ?_, ?_⟩
  · obtain ⟨content, hread, hheader⟩ := hs.left
    have hbare : Bare builds left.2 build := by
      have hlook : (⟨a, reader, reporter⟩ : Session).disk.look (builds build).suggestionsFile =
          .ok (.file content) := Disk.look_of_read hread
      refine bare_of_look builds (run_look builds hlook hn) ?_
      rw [run_identity builds hid, Sheet.Headed, hheader]
      exact hh
    refine ⟨hbare, ?_, fun testNameId => ?_⟩
    · have hread := hlast.perform builds (.read (builds build).suggestionsFile) (by simp)
      exact hread.1.symm.trans hbare.read
    · have hfind := hlast.perform builds (.findSuggestion build testNameId) (by simp)
      exact hfind.1.symm.trans (hbare.find testNameId)
  · rintro ⟨new, answer, hm, ha⟩ q
    have hsame := halike.run_appended builds hp hid hm ha
    rcases hsame.disk.node q with he | ⟨hfalse, -⟩
    · exact he
    · exact hfalse.elim

/-- The file of another server, with a body that is no text or with none at all. -/
theorem run_foreign_other_server :
    let builds : Unit → Build := fun _ => ⟨7, ⟨"a"⟩⟩
    let above : Place := ["a", hostDirectoryName, pluginDirectoryName]
    let header := Utf8.encode "serverUUID\tother"
    let a := Build.diskWith "serverUUID\tother"
    let b : Disk := ⟨a.root.set (above ++ [suggestionsFileName]) (.file (header ++ [10, 255, 9])), []⟩
    let new : List Suggestion := [⟨"1", "2", "3"⟩]
    let calls : List (Call Unit) := [.findSuggestion () "1", .append () new]
    let left := run builds ⟨a, ⟨"s"⟩, .inMemory⟩ calls
    let right := run builds ⟨b, ⟨"s"⟩, .inMemory⟩ calls
    SameButBody (builds ()).suggestionsFile header a b ∧ left.1 = right.1 ∧
      (.append () new, .added (.ok (.appended 1 1))) ∈ left.1 ∧
      ∀ p, left.2.disk.root.node? p = right.2.disk.root.node? p := by
  intro builds above header a b new calls left right
  have hh : ¬ Sheet.IsHeader ⟨"s"⟩ header := by
    rw [Sheet.isHeader_iff]
    decide +kernel
  have hs : SameButBody (builds ()).suggestionsFile header a b := by
    refine ⟨rfl, fun p hp => ?_, ⟨header, by decide +kernel, by decide +kernel⟩,
      ⟨header ++ [10, 255, 9], by decide +kernel, by decide +kernel⟩⟩
    have hl : a.root.follow (a.start (builds ()).suggestionsFile) (builds ()).suggestionsFile.steps =
        .ok (above ++ [suggestionsFileName]) := by decide +kernel
    have hd : a.root.node? above = some .directory := by decide +kernel
    have hfree : a.root.node? (above ++ [suggestionsFileName]) ≠ some .directory := by decide +kernel
    have hne : p ≠ above ++ [suggestionsFileName] := by
      rintro rfl
      exact hp hl
    exact ((Tree.node?_set hd hfree (.inl (by simp [Files.Tree.node])) p).trans (if_neg hne)).symm
  have hid : ∀ identity, .setIdentity identity ∉ calls := by
    intro identity hm
    rcases List.mem_cons.1 hm with h | h
    · cases h
    · cases List.mem_singleton.1 h
  have hanswer : ((builds ()).append ⟨"s"⟩ new .inMemory a).1.answer = .ok (.appended 1 1) := by
    decide +kernel
  have hm : (Call.append () new,
      Answer.added ((builds ()).append ⟨"s"⟩ new .inMemory a).1.answer) ∈ left.1 := .tail _ (.head _)
  rw [hanswer] at hm
  obtain ⟨htrace, -, -, hsame⟩ := run_foreign hh hs .inMemory hid
  exact ⟨hs, htrace, hm, hsame ⟨new, _, hm, 1, 1, rfl⟩⟩

end Session

end Investigations
