/-
The grammar of suggestions files, stated apart from the reader. A line reads as characters if it is
their UTF-8 text, with or without a carriage return behind; by that a line after the first one is
blank, stands for one suggestion, or is malformed, and never two of these (`standsFor_iff`). Reading
any bytes gives what the lines stand for and accounts for every line (`read_accounts`), and where the
bytes are a text, cutting them into lines is cutting the text (`read_text`).
-/
import Investigations.Proofs.Suggestion.Store

namespace Investigations

open Files

namespace Sheet

/-! ## Lines -/

/-- The line is the text of these characters, once a carriage return at its end is gone. -/
def Reads (line : List UInt8) (chars : List Char) : Prop :=
  ∃ text : String, Utf8.encode text = line ∧ Lines.dropOne '\r' text.toList = chars

theorem reads_iff {line : List UInt8} {chars : List Char} :
    Reads line chars ↔ lineText? line = some chars := by
  simp only [Reads, lineText?, Option.map_eq_some_iff, Utf8.decode?_eq_some_iff]

theorem reads_nil {chars : List Char} (h : Reads [] chars) : chars = [] := by
  rw [reads_iff] at h
  exact (Option.some.inj h).symm

theorem reads_cr {chars : List Char} (h : Reads [13] chars) : chars = [] := by
  have hcr : lineText? [13] = some [] := lineText?_bytes ['\r']
  rw [reads_iff, hcr] at h
  exact (Option.some.inj h).symm

/-- The line names the identity as a first line does. -/
def IsHeader (identity : ServerIdentity) (line : List UInt8) : Prop :=
  Reads line (headerKey.toList ++ '\t' :: identity.value.toList)

/-- The first line of the content names the identity. -/
def Headed (identity : ServerIdentity) (content : List UInt8) : Prop :=
  IsHeader identity (Lines.split 10 content).1

theorem storedIdentity?_eq_some_iff {line : List Char} {stored : String} :
    storedIdentity? line = some stored ↔ line = headerKey.toList ++ '\t' :: stored.toList := by
  constructor
  · intro h
    unfold storedIdentity? at h
    obtain ⟨⟨key, value⟩, hc, hs⟩ := Option.bind_eq_some_iff.1 h
    obtain ⟨-, rfl⟩ := Lines.cut?_eq_some_iff.1 hc
    dsimp only at hs
    split at hs
    · rename_i hkey
      cases hs
      simp [hkey]
    · cases hs
  · rintro rfl
    exact storedIdentity?_header ⟨stored⟩

theorem isHeader_iff {identity : ServerIdentity} {line : List UInt8} :
    IsHeader identity line ↔ (lineText? line).bind storedIdentity? = some identity.value := by
  simp only [IsHeader, reads_iff, Option.bind_eq_some_iff, storedIdentity?_eq_some_iff,
    exists_eq_right]

theorem not_headed_nil (identity : ServerIdentity) : ¬ Headed identity [] := by
  intro h
  simpa using congrArg List.length (reads_nil h)

/-! ## What a line stands for -/

/-- The line is the fields of a suggestion with tabs between them, and there is no tab in an id. -/
structure Spells (line : List UInt8) (suggestion : Suggestion) : Prop where
  reads : Reads line suggestion.fields
  testNameId : '\t' ∉ suggestion.testNameId.toList
  investigatorId : '\t' ∉ suggestion.investigatorId.toList

/-- What a line after the first one stands for. -/
inductive StandsFor : List UInt8 → Row → Prop
  | empty : StandsFor [] .blank
  | carriageReturn : StandsFor [13] .blank
  | suggestion {line : List UInt8} {suggestion : Suggestion} (spells : Spells line suggestion) :
      StandsFor line (.suggestion suggestion)
  | malformed {line : List UInt8} (nonempty : line ≠ []) (visible : line ≠ [13])
      (none : ∀ suggestion, ¬ Spells line suggestion) : StandsFor line .malformed

theorem spells_iff {line : List UInt8} {suggestion : Suggestion} :
    Spells line suggestion ↔ (lineText? line).bind Suggestion.ofLine? = some suggestion := by
  simp only [Option.bind_eq_some_iff, Suggestion.ofLine?_eq_some_iff]
  constructor
  · intro h
    exact ⟨_, reads_iff.1 h.reads, h.testNameId, h.investigatorId, rfl⟩
  · rintro ⟨chars, hc, ht, hi, rfl⟩
    exact ⟨reads_iff.2 hc, ht, hi⟩

/-- A line that spells a suggestion is not blank. -/
theorem Spells.not_blank {line : List UInt8} {suggestion : Suggestion} (h : Spells line suggestion) :
    ¬ (line = [] ∨ line = [13]) := by
  rintro (rfl | rfl)
  · exact suggestion.fields_ne_nil (reads_nil h.reads)
  · exact suggestion.fields_ne_nil (reads_cr h.reads)

/-- Every line stands for one thing and no other, and it is what the reader takes it for. -/
theorem standsFor_iff {line : List UInt8} {row : Row} :
    StandsFor line row ↔ rowOfBytes line = row := by
  unfold rowOfBytes
  constructor
  · intro h
    cases h with
    | empty => rfl
    | carriageReturn => rfl
    | suggestion spells => rw [if_neg spells.not_blank, spells_iff.1 spells]
    | malformed nonempty visible none =>
      rw [if_neg (not_or.2 ⟨nonempty, visible⟩)]
      split
      · rename_i s hs
        exact absurd (spells_iff.2 hs) (none s)
      · rfl
  · rintro rfl
    split
    · rename_i hblank
      rcases hblank with rfl | rfl
      · exact .empty
      · exact .carriageReturn
    · rename_i hblank
      obtain ⟨hne, hcr⟩ := not_or.1 hblank
      split
      · rename_i s hs
        exact .suggestion (spells_iff.2 hs)
      · rename_i hs
        refine .malformed hne hcr fun s h => ?_
        rw [spells_iff.1 h] at hs
        cases hs

/-! ## Numbers of lines -/

/-- The numbers of the malformed rows, where the first row has the number `first`. -/
def malformedFrom (first : Nat) (rows : List Row) : List Nat :=
  (rows.zipIdx first).filterMap fun (row, number) => if row = .malformed then some number else none

theorem collect_eq (rows : List Row) :
    collect rows = .accepted (rows.filterMap Row.suggestion?) (malformedFrom 2 rows) := rfl

theorem malformedFrom_cons (first : Nat) (row : Row) (rows : List Row) :
    malformedFrom first (row :: rows) =
      if row = .malformed then first :: malformedFrom (first + 1) rows
      else malformedFrom (first + 1) rows := by
  unfold malformedFrom
  rw [List.zipIdx_cons, List.filterMap_cons]
  by_cases h : row = .malformed <;> simp [h]

theorem mem_malformedFrom {first number : Nat} {rows : List Row} :
    number ∈ malformedFrom first rows ↔
      first ≤ number ∧ rows[number - first]? = some .malformed := by
  simp [malformedFrom, List.mem_filterMap, List.mem_zipIdx_iff_le_and_getElem?_sub]

theorem malformedFrom_increasing (first : Nat) (rows : List Row) :
    (malformedFrom first rows).Pairwise (· < ·) := by
  induction rows generalizing first with
  | nil => exact .nil
  | cons row rows ih =>
    rw [malformedFrom_cons]
    split
    · refine List.pairwise_cons.2 ⟨fun number hm => ?_, ih (first + 1)⟩
      have := (mem_malformedFrom.1 hm).1
      omega
    · exact ih (first + 1)

/-- Each row is a suggestion, malformed or blank. -/
theorem length_rows (first : Nat) (rows : List Row) :
    (rows.filterMap Row.suggestion?).length + (malformedFrom first rows).length +
      rows.count .blank = rows.length := by
  induction rows generalizing first with
  | nil => rfl
  | cons row rows ih =>
    have ih := ih (first + 1)
    rw [malformedFrom_cons, List.length_cons]
    cases row with
    | blank =>
      rw [List.filterMap_cons_none rfl, if_neg (by simp), List.count_cons_self]
      omega
    | suggestion s =>
      have hs : (Row.suggestion s).suggestion? = some s := rfl
      rw [List.filterMap_cons_some hs, if_neg (by simp), List.count_cons_of_ne (by simp),
        List.length_cons]
      omega
    | malformed =>
      rw [List.filterMap_cons_none rfl, if_pos rfl, List.count_cons_of_ne (by simp),
        List.length_cons]
      omega

/-! ## Files -/

/-- The lines after the first one, and what comes of each: the suggestions are found in order, the
malformed lines are skipped under their numbers, and no line is left out. Lines are counted from 1. -/
structure Accounted (content : List UInt8) (rows : List Row) (reading : Reading) : Prop where
  stands : List.Forall₂ StandsFor (Sheet.rows content) rows
  found : reading.suggestions = rows.filterMap Row.suggestion?
  increasing : reading.skipped.Pairwise (· < ·)
  skipped_iff : ∀ number, number ∈ reading.skipped ↔ 2 ≤ number ∧
    ∃ line, (Lines.pieces 10 content)[number - 1]? = some line ∧ StandsFor line .malformed
  total : reading.suggestions.length + reading.skipped.length + rows.count .blank =
    (Lines.pieces 10 content).length - 1

theorem decode_headed {identity : ServerIdentity} {content : List UInt8}
    (h : Headed identity content) :
    decode identity content = collect ((rows content).map rowOfBytes) := by
  have hne : content ≠ [] := by
    rintro rfl
    exact not_headed_nil identity h
  rw [Headed, isHeader_iff] at h
  rw [decode, if_neg hne]
  dsimp only
  rw [judge, h]
  exact if_pos rfl

/-- Without the identity in the first line, nothing of a file counts. -/
theorem decode_not_headed {identity : ServerIdentity} {content : List UInt8}
    (h : ¬ Headed identity content) :
    (decode identity content).suggestions = [] ∧ (decode identity content).skipped = [] := by
  rw [Headed, isHeader_iff] at h
  unfold decode
  split
  · exact ⟨rfl, rfl⟩
  · dsimp only [judge]
    split
    · exact ⟨rfl, rfl⟩
    · rename_i stored hs
      rw [if_neg fun he => h (by rw [hs, he])]
      exact ⟨rfl, rfl⟩

theorem accounted_collect (content : List UInt8) :
    Accounted content ((rows content).map rowOfBytes)
      (collect ((rows content).map rowOfBytes)) := by
  rw [collect_eq]
  refine ⟨?_, rfl, malformedFrom_increasing .., fun number => ?_, ?_⟩
  · exact List.forall₂_map_right_iff.2 (List.forall₂_same.2 fun line _ => standsFor_iff.2 rfl)
  · dsimp only [Reading.skipped]
    rw [mem_malformedFrom, List.getElem?_map, Option.map_eq_some_iff]
    refine and_congr_right fun hn => exists_congr fun line => and_congr ?_ standsFor_iff.symm
    -- The first line is none of the rows.
    obtain ⟨index, rfl⟩ := Nat.exists_eq_add_of_le' hn
    rfl
  · dsimp only [Reading.suggestions, Reading.skipped]
    rw [length_rows, List.length_map]
    rfl

/-! ## Texts -/

/-- Cutting the bytes of a text into lines is cutting the text. -/
theorem pieces_encode (text : String) : Lines.pieces 10 (Utf8.encode text) =
    (Lines.pieces '\n' text.toList).map fun line => Utf8.encode (String.ofList line) := by
  have hlf : Utf8.byte '\n' = 10 := by decide
  have hsplit : Lines.split (Utf8.byte '\n') (Utf8.bytes text.toList) = _ :=
    Utf8.split_bytes (by decide) text.toList
  have hbytes : (fun line => Utf8.encode (String.ofList line)) = Utf8.bytes :=
    funext Utf8.encode_ofList
  rw [hlf] at hsplit
  rw [hbytes, Utf8.encode_eq_bytes, Lines.pieces, hsplit]
  rfl

theorem ofLine?_eq_none_iff {line : List Char} :
    Suggestion.ofLine? line = none ↔ line.count '\t' < 2 := by
  unfold Suggestion.ofLine?
  rcases hc : Lines.cut? '\t' line with _ | ⟨test, rest⟩
  · have := List.count_eq_zero.2 (Lines.cut?_eq_none_iff.1 hc)
    simp [this]
  · obtain ⟨ht, rfl⟩ := Lines.cut?_eq_some_iff.1 hc
    rw [List.count_append, List.count_cons_self, List.count_eq_zero.2 ht]
    rcases hc' : Lines.cut? '\t' rest with _ | ⟨investigator, reason⟩
    · have := List.count_eq_zero.2 (Lines.cut?_eq_none_iff.1 hc')
      simp [hc', this]
    · obtain ⟨hi, rfl⟩ := Lines.cut?_eq_some_iff.1 hc'
      rw [List.count_append, List.count_cons_self]
      simp [hc']

/-- What is skipped in a text is a line with fewer than two tabs. -/
theorem tabs_of_skipped {identity : ServerIdentity} {text : String} {number : Nat}
    (h : number ∈ (decodeText identity text).skipped) :
    2 ≤ number ∧ ∃ line, (Lines.pieces '\n' text.toList)[number - 1]? = some line ∧
      (Lines.dropOne '\r' line).count '\t' < 2 := by
  unfold decodeText at h
  split at h
  · cases h
  · dsimp only [judge] at h
    split at h
    · cases h
    · split at h
      · rw [collect_eq, Reading.skipped, mem_malformedFrom, List.getElem?_map] at h
        obtain ⟨hn, hrow⟩ := h
        obtain ⟨line, hline, hmalformed⟩ := Option.map_eq_some_iff.1 hrow
        obtain ⟨index, rfl⟩ := Nat.exists_eq_add_of_le' hn
        refine ⟨hn, line, hline, ofLine?_eq_none_iff.1 ?_⟩
        unfold rowOfText at hmalformed
        split at hmalformed
        · cases hmalformed
        · split at hmalformed
          · cases hmalformed
          · assumption
      · cases h

end Sheet

/-- The event is about a malformed line. -/
def Event.isMalformedLine : Event → Bool
  | .malformedLine .. => true
  | _ => false

/-- Each line that was skipped is reported once, under its number, and no other is. -/
theorem Sheet.Reading.reported (reading : Sheet.Reading) (path : Path) (identity : ServerIdentity) :
    (reading.events path identity).filter Event.isMalformedLine =
      reading.skipped.map (.malformedLine path) := by
  cases reading with
  | empty => rfl
  | headless => rfl
  | foreign stored => rfl
  | accepted suggestions skipped =>
    have hall : ∀ event ∈ skipped.map (Event.malformedLine path), event.isMalformedLine = true := by
      intro event hm
      obtain ⟨number, -, rfl⟩ := List.mem_map.1 hm
      rfl
    rw [Reading.events, List.filter_append, List.filter_eq_self.2 hall]
    exact List.append_nil _

namespace SuggestionStore

theorem read_of_read {disk : Disk} {path : Path} {content : List UInt8}
    (h : disk.read path = .ok content) (identity : ServerIdentity) :
    read disk identity path = .ok (Sheet.decode identity content) :=
  read_of_look (Disk.look_of_read h) identity

/-- Reading takes any bytes apart by the grammar. Unless the first line names the identity, there is
nothing; otherwise every further line counts for what it stands for, and each that stands for
nothing is reported once, under its number. -/
theorem read_accounts {disk : Disk} {path : Path} {content : List UInt8}
    (h : disk.read path = .ok content) (identity : ServerIdentity) :
    ∃ reading, read disk identity path = .ok reading ∧
      (reading.events path identity).filter Event.isMalformedLine =
        reading.skipped.map (.malformedLine path) ∧
      (content = [] ∨ ¬ Sheet.Headed identity content →
        reading.suggestions = [] ∧ reading.skipped = []) ∧
      (Sheet.Headed identity content → ∃ rows, Sheet.Accounted content rows reading) := by
  refine ⟨_, read_of_read h identity, Sheet.Reading.reported .., fun hn => ?_, fun hh => ?_⟩
  · refine Sheet.decode_not_headed ?_
    rcases hn with rfl | hn
    · exact Sheet.not_headed_nil identity
    · exact hn
  · rw [Sheet.decode_headed hh]
    exact ⟨_, Sheet.accounted_collect content⟩

/-- A file with every kind of line. -/
theorem read_accounts_mixed :
    let content := Utf8.encode "serverUUID\ts\r\n1\t2\t\t3\r\n\r\n1\t2\n" ++ [9, 9, 255, 10]
    let disk : Disk := ⟨.directory [("f", .file content)], []⟩
    ∃ reading, read disk ⟨"s"⟩ ⟨"f"⟩ = .ok reading ∧ reading.suggestions = [⟨"1", "2", "\t3"⟩] ∧
      reading.skipped = [4, 5] ∧ ∃ rows, Sheet.Accounted content rows reading := by
  intro content disk
  have hread : disk.read ⟨"f"⟩ = .ok content := by decide +kernel
  have hhead : Sheet.Headed ⟨"s"⟩ content :=
    ⟨"serverUUID\ts\r", by decide +kernel, by decide +kernel⟩
  obtain ⟨reading, hr, -, -, hall⟩ := read_accounts hread ⟨"s"⟩
  have hdecode : reading = Sheet.decode ⟨"s"⟩ content :=
    Except.ok.inj (hr.symm.trans (read_of_read hread ⟨"s"⟩))
  refine ⟨reading, hr, ?_, ?_, hall hhead⟩
  · rw [hdecode]
    decide +kernel
  · rw [hdecode]
    decide +kernel

/-- The bytes of a text are read as the text: the same suggestions are found and the same lines
skipped. Each line is text again, so that none is skipped for its bytes, but only for having fewer
than two tabs. -/
theorem read_text {disk : Disk} {path : Path} {text : String}
    (h : disk.read path = .ok (Utf8.encode text)) (identity : ServerIdentity) :
    read disk identity path = .ok (Sheet.decodeText identity text) ∧
      Lines.pieces 10 (Utf8.encode text) =
        (Lines.pieces '\n' text.toList).map (fun line => Utf8.encode (String.ofList line)) ∧
      ∀ number ∈ (Sheet.decodeText identity text).skipped, 2 ≤ number ∧
        ∃ line, (Lines.pieces '\n' text.toList)[number - 1]? = some line ∧
          (Lines.dropOne '\r' line).count '\t' < 2 := by
  refine ⟨?_, Sheet.pieces_encode text, fun number hm => Sheet.tabs_of_skipped hm⟩
  rw [read_of_read h, Sheet.decode_encode]

/-- Characters of two, three and four bytes, a carriage return in a field, and a line without tabs. -/
theorem read_text_wide :
    let text := "serverUUID\té\nτ\r\t€\t😀\r\n\u2028"
    let disk : Disk := ⟨.directory [("f", .file (Utf8.encode text))], []⟩
    read disk ⟨"é"⟩ ⟨"f"⟩ = .ok (.accepted [⟨"τ\r", "€", "😀"⟩] [3]) := by
  intro text disk
  have hread : disk.read ⟨"f"⟩ = .ok (Utf8.encode text) := by decide +kernel
  have hdecode : Sheet.decodeText ⟨"é"⟩ text = .accepted [⟨"τ\r", "€", "😀"⟩] [3] := by
    decide +kernel
  rw [← hdecode]
  exact (read_text hread ⟨"é"⟩).1

end SuggestionStore

end Investigations
