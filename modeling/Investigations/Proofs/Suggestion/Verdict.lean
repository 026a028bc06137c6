/-
What saving suggestions is refused for. All suggestions are checked before the identity, the identity
before the file is touched, and the first defect in the order of the list and of the fields is the one
that is named (`save_verdict`). What has passed the checks fails for the place of the file only; and what
was written has one line feed for each line that was meant, so no field has brought in another.
-/
import Investigations.Proofs.Suggestion.Canonical

namespace Investigations

open Files

namespace Suggestion

/-! ## What a suggestion is refused for -/

/-- The defects, in the order of the fields in a line. -/
def Defect.all : List Defect := [.testNameId, .investigatorId, .reason]

/-- The field that a defect is found in. -/
def Defect.field (suggestion : Suggestion) : Defect → String
  | .testNameId => suggestion.testNameId
  | .investigatorId => suggestion.investigatorId
  | .reason => suggestion.reason

/-- The characters that must not stand in the field. -/
def Defect.barred : Defect → List Char
  | .testNameId | .investigatorId => ['\t', '\n', '\r']
  | .reason => ['\n', '\r']

/-- A suggestion has a defect if a character stands in the field that must not. -/
def Has (suggestion : Suggestion) (defect : Defect) : Prop :=
  ∃ c ∈ defect.barred, c ∈ (defect.field suggestion).toList

-- Over the barred characters. Left to inference, it could become a search over all characters.
instance (suggestion : Suggestion) (defect : Defect) : Decidable (suggestion.Has defect) :=
  List.decidableBEx (fun c => c ∈ (defect.field suggestion).toList) defect.barred

/-- A suggestion without a defect. -/
def Clean (suggestion : Suggestion) : Prop := ∀ defect, ¬ suggestion.Has defect

/-- The first defect in a list of suggestions: the suggestion is the first that has any, and the defect
is the first that it has. -/
structure FirstDefect (suggestions : List Suggestion) (suggestion : Suggestion) (defect : Defect) :
    Prop where
  earliest : ∃ before after, suggestions = before ++ suggestion :: after ∧
    ∀ other ∈ before, other.Clean
  has : suggestion.Has defect
  first : ∃ before after, Defect.all = before ++ defect :: after ∧
    ∀ other ∈ before, ¬ suggestion.Has other

theorem Defect.mem_all (defect : Defect) : defect ∈ all := by
  cases defect <;> decide

section

variable {suggestion : Suggestion}

theorem has_id_iff {defect : Defect} (h : defect.barred = ['\t', '\n', '\r']) :
    suggestion.Has defect ↔ (defect.field suggestion).toList.any breaksId = true := by
  rw [← Bool.not_eq_false, any_breaksId, Has, h]
  simp only [List.mem_cons, List.not_mem_nil, or_false, exists_eq_or_imp, exists_eq_left]
  tauto

theorem has_reason_iff :
    suggestion.Has .reason ↔ suggestion.reason.toList.any isLineBreak = true := by
  rw [← Bool.not_eq_false, any_isLineBreak]
  simp only [Has, Defect.barred, Defect.field, List.mem_cons, List.not_mem_nil, or_false,
    exists_eq_or_imp, exists_eq_left]
  tauto

/-- A suggestion is checked for its defects one after the other. -/
theorem defect?_eq (suggestion : Suggestion) :
    suggestion.defect? = Defect.all.find? fun defect => suggestion.Has defect := by
  have htest : suggestion.Has .testNameId ↔ _ := has_id_iff rfl
  have hinvestigator : suggestion.Has .investigatorId ↔ _ := has_id_iff rfl
  simp only [Defect.all, List.find?, htest, hinvestigator, has_reason_iff, Defect.field, defect?]
  split
  · simp [*]
  · split
    · simp [*]
    · split <;> simp [*]

theorem clean_iff : suggestion.Clean ↔ suggestion.defect? = none := by
  rw [defect?_eq, List.find?_eq_none]
  constructor
  · intro h defect _
    simpa using h defect
  · intro h defect
    simpa using h defect defect.mem_all

theorem defect?_eq_some_iff {defect : Defect} :
    suggestion.defect? = some defect ↔ suggestion.Has defect ∧
      ∃ before after, Defect.all = before ++ defect :: after ∧
        ∀ other ∈ before, ¬ suggestion.Has other := by
  rw [defect?_eq, List.find?_eq_some_iff_append]
  simp

end

end Suggestion

/-! ## What a file holds -/

/-- A file that was written has a line feed for its first line and for each suggestion. -/
theorem Sheet.count_encode {identity : ServerIdentity} {suggestions : List Suggestion}
    (hi : identity.hasLineBreak = false) (hs : ∀ s ∈ suggestions, s.defect? = none) :
    (encode identity suggestions).count 10 = 1 + suggestions.length := by
  have hlf : Utf8.byte '\n' = 10 := by decide
  -- There is one more piece than there are line feeds, and the last piece is empty.
  have hlength := congrArg List.length (pieces_text hi hs)
  simp only [Lines.pieces, List.length_cons, Lines.length_split, List.length_append, List.length_map,
    List.length_nil] at hlength
  rw [encode, Utf8.encode_eq_bytes, ← hlf, Utf8.count_bytes (by decide)]
  omega

namespace SuggestionStore

/-! ## The checks -/

/-- The first defect in the list is what the suggestions are refused for. -/
theorem checkAll_eq_error_iff {suggestions : List Suggestion} {failure : Error} :
    checkAll suggestions = .error failure ↔
      ∃ s defect, Suggestion.FirstDefect suggestions s defect ∧
        failure = .invalidSuggestion s.testNameId defect.message := by
  constructor
  · intro h
    induction suggestions with
    | nil => cases h
    | cons s rest ih =>
      rw [checkAll] at h
      split at h
      · rename_i defect hd
        cases h
        obtain ⟨hhas, hfirst⟩ := Suggestion.defect?_eq_some_iff.1 hd
        exact ⟨s, defect, ⟨⟨[], rest, rfl, List.forall_mem_nil _⟩, hhas, hfirst⟩, rfl⟩
      · rename_i hclean
        obtain ⟨t, defect, ⟨⟨before, after, rfl, hbefore⟩, hhas, hfirst⟩, rfl⟩ := ih h
        have hall := List.forall_mem_cons.2 ⟨Suggestion.clean_iff.2 hclean, hbefore⟩
        exact ⟨t, defect, ⟨⟨s :: before, after, rfl, hall⟩, hhas, hfirst⟩, rfl⟩
  · rintro ⟨s, defect, ⟨⟨before, after, rfl, hbefore⟩, hhas, hfirst⟩, rfl⟩
    induction before with
    | nil => rw [List.nil_append, checkAll, Suggestion.defect?_eq_some_iff.2 ⟨hhas, hfirst⟩]
    | cons t before ih =>
      obtain ⟨ht, hbefore⟩ := List.forall_mem_cons.1 hbefore
      rw [List.cons_append, checkAll, Suggestion.clean_iff.1 ht]
      exact ih hbefore

/-- The wording for an identity that can not stand in one line. -/
def brokenIdentity (identity : ServerIdentity) : String :=
  "server identity " ++ Text.quoted identity.value ++ " contains a line break"

theorem checkIdentity_eq_error_iff {identity : ServerIdentity} {failure : Error} :
    checkIdentity identity = .error failure ↔
      ('\n' ∈ identity.value.toList ∨ '\r' ∈ identity.value.toList) ∧
        failure = .config (some (brokenIdentity identity)) := by
  have hbreak : identity.hasLineBreak = true ↔
      '\n' ∈ identity.value.toList ∨ '\r' ∈ identity.value.toList := by
    rw [← Bool.not_eq_false, ServerIdentity.hasLineBreak, any_isLineBreak]
    tauto
  rw [← hbreak, checkIdentity]
  split
  · rename_i h
    rw [Except.error.injEq, eq_comm, and_iff_right h]
    rfl
  · rename_i h
    exact iff_of_false nofun fun hf => h hf.1

/-- Nothing is refused: no suggestion has a defect, and the identity can stand in one line. -/
structure Accepted (identity : ServerIdentity) (suggestions : List Suggestion) : Prop where
  suggestions : ∀ s ∈ suggestions, s.Clean
  noFeed : '\n' ∉ identity.value.toList
  noReturn : '\r' ∉ identity.value.toList

theorem Accepted.defect? {identity : ServerIdentity} {suggestions : List Suggestion}
    (h : Accepted identity suggestions) : ∀ s ∈ suggestions, s.defect? = none :=
  fun s hs => Suggestion.clean_iff.1 (h.suggestions s hs)

theorem Accepted.hasLineBreak {identity : ServerIdentity} {suggestions : List Suggestion}
    (h : Accepted identity suggestions) : identity.hasLineBreak = false :=
  any_isLineBreak.2 ⟨h.noFeed, h.noReturn⟩

/-! ## The verdict -/

section

variable {disk : Disk} {identity : ServerIdentity} {path : Path} {suggestions : List Suggestion}

/-- Suggestions have a first defect, or the identity breaks a line, or nothing is refused. -/
theorem checked_cases (identity : ServerIdentity) (suggestions : List Suggestion) :
    (∃ s defect, Suggestion.FirstDefect suggestions s defect) ∨
    ((∀ s ∈ suggestions, s.Clean) ∧
      ('\n' ∈ identity.value.toList ∨ '\r' ∈ identity.value.toList)) ∨
    Accepted identity suggestions := by
  rcases ha : checkAll suggestions with failure | ⟨⟩
  · obtain ⟨s, defect, h, -⟩ := checkAll_eq_error_iff.1 ha
    exact .inl ⟨s, defect, h⟩
  · have hclean : ∀ s ∈ suggestions, s.Clean := fun s hs =>
      Suggestion.clean_iff.2 (checkAll_eq_ok_iff.1 ha s hs)
    rcases hi : checkIdentity identity with failure | ⟨⟩
    · exact .inr (.inl ⟨hclean, (checkIdentity_eq_error_iff.1 hi).1⟩)
    · obtain ⟨hfeed, hreturn⟩ := any_isLineBreak.1 (checkIdentity_eq_ok_iff.1 hi)
      exact .inr (.inr ⟨hclean, hfeed, hreturn⟩)

theorem save_of_firstDefect {s : Suggestion} {defect : Suggestion.Defect}
    (h : Suggestion.FirstDefect suggestions s defect) :
    (save disk identity path suggestions).answer =
      .error (.invalidSuggestion s.testNameId defect.message) := by
  rw [save, checkAll_eq_error_iff.2 ⟨s, defect, h, rfl⟩]

theorem save_of_broken (hs : ∀ s ∈ suggestions, s.Clean)
    (hi : '\n' ∈ identity.value.toList ∨ '\r' ∈ identity.value.toList) :
    (save disk identity path suggestions).answer =
      .error (.config (some (brokenIdentity identity))) := by
  have hall := checkAll_eq_ok_iff.2 fun s hm => Suggestion.clean_iff.1 (hs s hm)
  rw [save, hall, checkIdentity_eq_error_iff.2 ⟨hi, rfl⟩]

/-- What is accepted fails for the place of the file only. -/
theorem save_of_accepted (h : Accepted identity suggestions) :
    (save disk identity path suggestions).answer =
      match disk.destination path with
      | .error fault => .error (.io fault)
      | .ok _ => .ok () := by
  rw [save_of_checked h.defect? h.hasLineBreak, Disk.replace_eq]
  rcases disk.destination path with fault | target <;> rfl

/-- All that saving can fail for: the first defect, then a line break in the identity, then the place of
the file. -/
theorem save_eq_error_iff {failure : Error} :
    (save disk identity path suggestions).answer = .error failure ↔
      (∃ s defect, Suggestion.FirstDefect suggestions s defect ∧
        failure = .invalidSuggestion s.testNameId defect.message) ∨
      ((∀ s ∈ suggestions, s.Clean) ∧
        ('\n' ∈ identity.value.toList ∨ '\r' ∈ identity.value.toList) ∧
        failure = .config (some (brokenIdentity identity))) ∨
      (Accepted identity suggestions ∧
        ∃ fault, disk.destination path = .error fault ∧ failure = .io fault) := by
  constructor
  · intro h
    rcases checked_cases identity suggestions with ⟨s, defect, hd⟩ | ⟨hs, hi⟩ | ha
    · rw [save_of_firstDefect hd] at h
      cases h
      exact .inl ⟨s, defect, hd, rfl⟩
    · rw [save_of_broken hs hi] at h
      cases h
      exact .inr (.inl ⟨hs, hi, rfl⟩)
    · rw [save_of_accepted ha] at h
      split at h
      · rename_i fault hdest
        cases h
        exact .inr (.inr ⟨ha, fault, hdest, rfl⟩)
      · cases h
  · rintro (⟨s, defect, hd, rfl⟩ | ⟨hs, hi, rfl⟩ | ⟨ha, fault, hdest, rfl⟩)
    · exact save_of_firstDefect hd
    · exact save_of_broken hs hi
    · rw [save_of_accepted ha, hdest]

theorem save_invalid_iff {testNameId reason : String} :
    (save disk identity path suggestions).answer = .error (.invalidSuggestion testNameId reason) ↔
      ∃ s defect, Suggestion.FirstDefect suggestions s defect ∧
        testNameId = s.testNameId ∧ reason = defect.message := by
  simp [save_eq_error_iff]

theorem save_config_iff {text : Option String} :
    (save disk identity path suggestions).answer = .error (.config text) ↔
      (∀ s ∈ suggestions, s.Clean) ∧
        ('\n' ∈ identity.value.toList ∨ '\r' ∈ identity.value.toList) ∧
        text = some (brokenIdentity identity) := by
  simp [save_eq_error_iff]

theorem save_io_iff {fault : Fault} :
    (save disk identity path suggestions).answer = .error (.io fault) ↔
      Accepted identity suggestions ∧ disk.destination path = .error fault := by
  simp [save_eq_error_iff]

theorem exists_firstDefect_iff :
    (∃ s defect, Suggestion.FirstDefect suggestions s defect) ↔
      ∃ s ∈ suggestions, ∃ defect, s.Has defect := by
  constructor
  · rintro ⟨s, defect, ⟨before, after, rfl, -⟩, hhas, -⟩
    exact ⟨s, by simp, defect, hhas⟩
  · rintro ⟨s, hm, defect, hhas⟩
    -- The identity does not matter here, and the empty one has no line break.
    rcases checked_cases ⟨""⟩ suggestions with h | ⟨hs, -⟩ | ha
    · exact h
    · exact absurd hhas (hs s hm defect)
    · exact absurd hhas (ha.suggestions s hm defect)

end

/-- The verdict on suggestions that are to be saved. They are refused exactly if one has a defect: a tab
in an id, or a line break anywhere. Then the test of the first one that has any is named, with the
first field that is to blame. Without defects, an identity with a line break is refused. All else fails
for the place of the file only, the same for all suggestions and identities. A file that was written has
a line feed for its first line and for each suggestion, and no carriage return. -/
theorem save_verdict (disk : Disk) (identity : ServerIdentity) (path : Path)
    (suggestions : List Suggestion) :
    let saved := save disk identity path suggestions
    ((∃ testNameId reason, saved.answer = .error (.invalidSuggestion testNameId reason)) ↔
      ∃ s ∈ suggestions, ∃ defect, s.Has defect) ∧
    (∀ testNameId reason, saved.answer = .error (.invalidSuggestion testNameId reason) ↔
      ∃ s defect, Suggestion.FirstDefect suggestions s defect ∧
        testNameId = s.testNameId ∧ reason = defect.message) ∧
    (∀ text, saved.answer = .error (.config text) ↔ (∀ s ∈ suggestions, s.Clean) ∧
      ('\n' ∈ identity.value.toList ∨ '\r' ∈ identity.value.toList) ∧
        text = some (brokenIdentity identity)) ∧
    (∀ fault, saved.answer = .error (.io fault) ↔
      Accepted identity suggestions ∧ disk.destination path = .error fault) ∧
    (Accepted identity suggestions → ∀ other others, Accepted other others →
      (save disk other path others).answer = saved.answer) ∧
    (saved.answer = .ok () → ∃ content, saved.disk.read path = .ok content ∧
      content.count 10 = 1 + suggestions.length ∧ content.count 13 = 0) := by
  intro saved
  refine ⟨?refused, fun _ _ => save_invalid_iff, fun _ => save_config_iff, fun _ => save_io_iff,
    fun ha other others ho => ?same, fun h => ?written⟩
  case refused =>
    rw [← exists_firstDefect_iff]
    constructor
    · rintro ⟨_, _, h⟩
      obtain ⟨s, defect, hd, -⟩ := save_invalid_iff.1 h
      exact ⟨s, defect, hd⟩
    · rintro ⟨s, defect, hd⟩
      exact ⟨_, _, save_of_firstDefect hd⟩
  case same =>
    unfold saved
    rw [save_of_accepted ho, save_of_accepted ha]
  case written =>
    obtain ⟨hs, hi, -⟩ := save_ok h
    exact ⟨_, read_bytes_saved h, Sheet.count_encode hi hs,
      List.count_eq_zero.2 (Sheet.canonical_encode hi hs).noReturn⟩

/-- Two suggestions with defects, of which the first one has two, an identity with a line break, and no
directory for the file. Where there is one, a tab in a reason is saved, and the lines are those that are
counted. -/
theorem save_verdict_worst :
    let disk : Disk := ⟨.directory [], []⟩
    let ready : Disk := ⟨.directory [("d", .directory [])], []⟩
    let suggestions : List Suggestion :=
      [⟨"1", "u", "\t"⟩, ⟨"2", "u\r", "a\nb"⟩, ⟨"3\t", "u", "r"⟩]
    (save disk ⟨"s\n"⟩ ⟨"d/f"⟩ suggestions).answer =
        .error (.invalidSuggestion "2" "investigator id contains a tab or line break") ∧
      (save disk ⟨"s\n"⟩ ⟨"d/f"⟩ [⟨"1", "u", "\t"⟩]).answer =
        .error (.config (some "server identity \"s\\n\" contains a line break")) ∧
      (save disk ⟨"s"⟩ ⟨"d/f"⟩ [⟨"1", "u", "\t"⟩]).answer = .error (.io .notFound) ∧
      (save disk ⟨""⟩ ⟨"d/f"⟩ []).answer = .error (.io .notFound) ∧
      let saved := save ready ⟨"s"⟩ ⟨"d/f"⟩ [⟨"1", "u", "\t"⟩, ⟨"2", "", "r"⟩]
      saved.answer = .ok () ∧ ∃ content, saved.disk.read ⟨"d/f"⟩ = .ok content ∧
        content.count 10 = 3 ∧ content.count 13 = 0 := by
  intro disk ready suggestions
  have hfirst : Suggestion.FirstDefect suggestions ⟨"2", "u\r", "a\nb"⟩ .investigatorId := by
    refine ⟨⟨[_], _, rfl, ?_⟩, by decide +kernel, [_], _, rfl, by decide +kernel⟩
    rw [List.forall_mem_singleton]
    exact Suggestion.clean_iff.2 (by decide +kernel)
  have hclean : ∀ s ∈ [(⟨"1", "u", "\t"⟩ : Suggestion)], s.Clean :=
    List.forall_mem_singleton.2 (Suggestion.clean_iff.2 (by decide +kernel))
  have haccepted : Accepted ⟨"s"⟩ [⟨"1", "u", "\t"⟩] := ⟨hclean, by decide, by decide⟩
  have hempty : Accepted ⟨""⟩ [] := ⟨nofun, by decide, by decide⟩
  obtain ⟨-, hinvalid, -⟩ := save_verdict disk ⟨"s\n"⟩ ⟨"d/f"⟩ suggestions
  obtain ⟨-, -, hconfig, -⟩ := save_verdict disk ⟨"s\n"⟩ ⟨"d/f"⟩ [⟨"1", "u", "\t"⟩]
  obtain ⟨-, -, -, hio, hsame, -⟩ := save_verdict disk ⟨"s"⟩ ⟨"d/f"⟩ [⟨"1", "u", "\t"⟩]
  have hfailed := (hio .notFound).2 ⟨haccepted, by decide +kernel⟩
  have hsaved : (save ready ⟨"s"⟩ ⟨"d/f"⟩ [⟨"1", "u", "\t"⟩, ⟨"2", "", "r"⟩]).answer = .ok () := by
    decide +kernel
  obtain ⟨-, -, -, -, -, hlines⟩ :=
    save_verdict ready ⟨"s"⟩ ⟨"d/f"⟩ [⟨"1", "u", "\t"⟩, ⟨"2", "", "r"⟩]
  exact ⟨(hinvalid _ _).2 ⟨_, _, hfirst, rfl, rfl⟩,
    (hconfig _).2 ⟨hclean, .inl (by decide), by decide +kernel⟩, hfailed,
    (hsame haccepted _ _ hempty).trans hfailed, hsaved, hlines hsaved⟩

end SuggestionStore

end Investigations
