/-
The codec of suggestions files. Reading bytes that are a text is reading the text (`decode_encode`),
and a file that was written reads back as it was under its own identity and as foreign under any
other (`decodeText_text`). Of any file whatsoever, reading gives suggestions that can be written
again, unless a carriage return stands in the middle of a line (`storable_iff`).
-/
import Investigations.Proofs.Text.Bytes
import Investigations.Suggestion.Store

namespace Investigations

theorem any_isLineBreak {text : List Char} :
    text.any isLineBreak = false ↔ '\n' ∉ text ∧ '\r' ∉ text := by
  simp only [List.any_eq_false, isLineBreak, Bool.or_eq_true, decide_eq_true_eq, not_or]
  constructor
  · intro h
    exact ⟨fun hc => (h _ hc).1 rfl, fun hc => (h _ hc).2 rfl⟩
  · rintro ⟨hn, hr⟩ c hc
    exact ⟨by rintro rfl; exact hn hc, by rintro rfl; exact hr hc⟩

namespace Suggestion

/-! ## One suggestion, one line -/

/-- The line of a suggestion without the character that ends it. -/
def fields (suggestion : Suggestion) : List Char :=
  suggestion.testNameId.toList ++
    '\t' :: (suggestion.investigatorId.toList ++ '\t' :: suggestion.reason.toList)

theorem line_eq (suggestion : Suggestion) : suggestion.line = suggestion.fields ++ ['\n'] := by
  simp [line, fields]

theorem fields_ne_nil (suggestion : Suggestion) : suggestion.fields ≠ [] := by
  simp [fields]

/-- The lines that stand for a suggestion: its fields with tabs between them, and no tab in an id. -/
theorem ofLine?_eq_some_iff {line : List Char} {suggestion : Suggestion} :
    ofLine? line = some suggestion ↔
      '\t' ∉ suggestion.testNameId.toList ∧ '\t' ∉ suggestion.investigatorId.toList ∧
        line = suggestion.fields := by
  unfold ofLine? fields
  constructor
  · intro h
    obtain ⟨⟨test, rest⟩, hc, h⟩ := Option.bind_eq_some_iff.1 h
    obtain ⟨⟨investigator, reason⟩, hc', h⟩ := Option.bind_eq_some_iff.1 h
    cases h
    obtain ⟨ht, rfl⟩ := Lines.cut?_eq_some_iff.1 hc
    obtain ⟨hi, rfl⟩ := Lines.cut?_eq_some_iff.1 hc'
    exact ⟨by simpa using ht, by simpa using hi, by simp⟩
  · rintro ⟨ht, hi, rfl⟩
    rw [Lines.cut?_eq_some_iff.2 ⟨ht, rfl⟩]
    dsimp only [Option.bind_eq_bind, Option.bind_some]
    rw [Lines.cut?_eq_some_iff.2 ⟨hi, rfl⟩]
    simp

theorem any_breaksId {text : List Char} :
    text.any breaksId = false ↔ '\t' ∉ text ∧ '\n' ∉ text ∧ '\r' ∉ text := by
  rw [← any_isLineBreak]
  simp only [List.any_eq_false, breaksId, Bool.or_eq_true, decide_eq_true_eq, not_or, forall_and]
  refine and_congr_left fun _ => ⟨fun h hc => h _ hc rfl, ?_⟩
  rintro h c hc rfl
  exact h hc

/-- What can be stored: no tab in an id, and no line break anywhere. -/
theorem defect?_eq_none_iff {suggestion : Suggestion} :
    suggestion.defect? = none ↔
      '\t' ∉ suggestion.testNameId.toList ∧ '\t' ∉ suggestion.investigatorId.toList ∧
        '\n' ∉ suggestion.fields ∧ '\r' ∉ suggestion.fields := by
  have hall : suggestion.defect? = none ↔ suggestion.testNameId.toList.any breaksId = false ∧
      suggestion.investigatorId.toList.any breaksId = false ∧
      suggestion.reason.toList.any isLineBreak = false := by
    unfold defect?
    rcases suggestion.testNameId.toList.any breaksId <;>
      rcases suggestion.investigatorId.toList.any breaksId <;>
        rcases suggestion.reason.toList.any isLineBreak <;> simp
  rw [hall, any_breaksId, any_breaksId, any_isLineBreak]
  simp only [fields, List.mem_append, List.mem_cons, not_or]
  have h1 : '\n' ≠ '\t' := by decide
  have h2 : '\r' ≠ '\t' := by decide
  tauto

end Suggestion

namespace Sheet

/-! ## Reading what was written -/

/-- Lines that are each ended part again, and there is nothing after the last end. -/
theorem pieces_lines {rows : List (List Char)} (h : ∀ row ∈ rows, '\n' ∉ row) :
    Lines.pieces '\n' (rows.flatMap (· ++ ['\n'])) = rows ++ [[]] := by
  induction rows with
  | nil => rfl
  | cons row rows ih =>
    simp only [List.mem_cons, forall_eq_or_imp] at h
    rw [List.flatMap_cons, List.append_assoc, List.singleton_append, Lines.pieces_append_cons, ih h.2,
      Lines.pieces, Lines.split_of_notMem h.1]
    rfl

theorem storedIdentity?_header (identity : ServerIdentity) :
    storedIdentity? (headerKey.toList ++ '\t' :: identity.value.toList) = some identity.value := by
  have hkey : '\t' ∉ headerKey.toList := by decide
  unfold storedIdentity?
  rw [Lines.cut?_eq_some_iff.2 ⟨hkey, rfl⟩]
  simp

theorem rowOfText_fields {suggestion : Suggestion} (h : suggestion.defect? = none) :
    rowOfText suggestion.fields = .suggestion suggestion := by
  obtain ⟨ht, hi, -, hr⟩ := Suggestion.defect?_eq_none_iff.1 h
  have hne : suggestion.fields ≠ ['\r'] := by
    intro hf
    rw [hf] at hr
    exact hr (List.mem_cons_self ..)
  rw [rowOfText, if_neg (not_or.2 ⟨suggestion.fields_ne_nil, hne⟩), Lines.dropOne_of_notMem hr,
    Suggestion.ofLine?_eq_some_iff.2 ⟨ht, hi, rfl⟩]

/-- Rows of suggestions and a blank one at the end. -/
theorem collect_suggestions (suggestions : List Suggestion) :
    collect (suggestions.map .suggestion ++ [.blank]) = .accepted suggestions [] := by
  unfold collect
  congr
  · rw [List.filterMap_append, List.filterMap_map]
    have : (Row.suggestion? ∘ Row.suggestion) = some := rfl
    rw [this, List.filterMap_some]
    simp [Row.suggestion?]
  · rw [List.filterMap_eq_nil_iff]
    rintro ⟨row, number⟩ hm
    have hrow := List.fst_mem_of_mem_zipIdx hm
    simp only [List.mem_append, List.mem_map, List.mem_singleton] at hrow
    rcases hrow with ⟨suggestion, -, rfl⟩ | rfl <;> simp

/-- The first line of a file, without the character that ends it. -/
def header (identity : ServerIdentity) : List Char :=
  headerKey.toList ++ '\t' :: identity.value.toList

theorem notMem_header {identity : ServerIdentity} {c : Char} (ht : c ≠ '\t')
    (hk : c ∉ headerKey.toList) (hv : c ∉ identity.value.toList) : c ∉ header identity := by
  intro hm
  simp only [header, List.mem_append, List.mem_cons] at hm
  tauto

theorem toList_text (identity : ServerIdentity) (suggestions : List Suggestion) :
    (text identity suggestions).toList =
      (header identity :: suggestions.map Suggestion.fields).flatMap (· ++ ['\n']) := by
  have hlines : Suggestion.line = fun s => s.fields ++ ['\n'] := funext Suggestion.line_eq
  simp [text, headerLine, header, List.flatMap_map, hlines]

/-- The lines of a file that was written, and the empty piece after the end of the last one. -/
theorem pieces_text {identity : ServerIdentity} {suggestions : List Suggestion}
    (hi : identity.hasLineBreak = false) (hs : ∀ s ∈ suggestions, s.defect? = none) :
    Lines.pieces '\n' (text identity suggestions).toList =
      (header identity :: suggestions.map Suggestion.fields) ++ [[]] := by
  rw [toList_text, pieces_lines]
  intro row hrow
  rcases List.mem_cons.1 hrow with rfl | hrow
  · exact notMem_header (by decide) (by decide) (any_isLineBreak.1 hi).1
  · obtain ⟨s, hm, rfl⟩ := List.mem_map.1 hrow
    exact (Suggestion.defect?_eq_none_iff.1 (hs s hm)).2.2.1

/-- The text of a suggestions file reads back as it was written under the identity that wrote it,
and as foreign under any other. -/
theorem decodeText_text {identity : ServerIdentity} {suggestions : List Suggestion}
    (hi : identity.hasLineBreak = false) (hs : ∀ s ∈ suggestions, s.defect? = none)
    (reader : ServerIdentity) :
    decodeText reader (text identity suggestions) =
      if identity = reader then .accepted suggestions [] else .foreign identity.value := by
  have hpieces := pieces_text hi hs
  unfold Lines.pieces at hpieces
  rw [List.cons_append, List.cons.injEq] at hpieces
  have hne : (text identity suggestions).toList ≠ [] := by
    simp [text, headerLine]
  have hr : '\r' ∉ header identity :=
    notMem_header (by decide) (by decide) (any_isLineBreak.1 hi).2
  unfold decodeText
  rw [if_neg hne]
  dsimp only
  rw [hpieces.1, hpieces.2, Lines.dropOne_of_notMem hr, judge, Option.bind_some, header,
    storedIdentity?_header]
  dsimp only
  have hrows : (suggestions.map Suggestion.fields ++ [[]]).map rowOfText =
      suggestions.map .suggestion ++ [.blank] := by
    rw [List.map_append, List.map_map]
    congr 1
    exact List.map_congr_left fun s hm => rowOfText_fields (hs s hm)
  rw [hrows, collect_suggestions]
  by_cases he : identity = reader
  · subst he; simp
  · have hv : identity.value ≠ reader.value := fun hv => he (by
      cases identity; cases reader; exact congrArg _ hv)
    rw [if_neg hv, if_neg he]

/-! ## Bytes and text -/

theorem lineText?_bytes (line : List Char) :
    lineText? (Utf8.bytes line) = some (Lines.dropOne '\r' line) := by
  rw [lineText?, ← Utf8.encode_ofList, Utf8.decode?_encode]
  simp

theorem rowOfBytes_bytes (line : List Char) : rowOfBytes (Utf8.bytes line) = rowOfText line := by
  have hcr : Utf8.bytes line = [13] ↔ line = ['\r'] := by
    constructor
    · intro h
      have h' : Utf8.encode (String.ofList line) = Utf8.encode (String.ofList ['\r']) := by
        rw [Utf8.encode_ofList, Utf8.encode_ofList, h]
        rfl
      simpa using congrArg String.toList (Utf8.encode_injective h')
    · rintro rfl; rfl
  unfold rowOfBytes rowOfText
  simp only [Utf8.bytes_eq_nil, hcr, lineText?_bytes, Option.bind_some]

/-- Reading the bytes of a text line by line is reading the text. -/
theorem decode_encode (identity : ServerIdentity) (text : String) :
    decode identity (Utf8.encode text) = decodeText identity text := by
  unfold decode decodeText
  rw [Utf8.encode_eq_bytes]
  by_cases ht : text.toList = []
  · rw [if_pos ht, if_pos (Utf8.bytes_eq_nil.2 ht)]
  · rw [if_neg ht, if_neg (Utf8.bytes_eq_nil.not.2 ht)]
    have hsplit : Lines.split (Utf8.byte '\n') (Utf8.bytes text.toList) = _ :=
      Utf8.split_bytes (by decide) text.toList
    have hlf : Utf8.byte '\n' = 10 := by decide
    rw [hlf] at hsplit
    dsimp only
    rw [hsplit]
    dsimp only
    rw [lineText?_bytes, List.map_map]
    congr 1
    exact List.map_congr_left fun line _ => rowOfBytes_bytes line

/-! ## What any file gives -/

/-- The lines after the first one, in bytes and without their ends. -/
def rows (content : List UInt8) : List (List UInt8) := (Lines.split 10 content).2

/-- A suggestion that counts comes from a line of the file. -/
theorem mem_suggestions_decode {identity : ServerIdentity} {content : List UInt8}
    {suggestion : Suggestion} (h : suggestion ∈ (decode identity content).suggestions) :
    ∃ line ∈ rows content, rowOfBytes line = .suggestion suggestion := by
  unfold decode at h
  split at h
  · cases h
  · dsimp only [judge] at h
    split at h
    · cases h
    · split at h
      · obtain ⟨row, hm, hrow⟩ := List.mem_filterMap.1 h
        obtain ⟨line, hline, rfl⟩ := List.mem_map.1 hm
        refine ⟨line, hline, ?_⟩
        rcases hr : rowOfBytes line with _ | s | _ <;> rw [hr] at hrow <;> cases hrow
        rfl
      · cases h

/-- A line that stands for a suggestion: valid text of its fields, and at most one carriage return
after them. -/
theorem rowOfBytes_eq_suggestion {line : List UInt8} {suggestion : Suggestion}
    (h : rowOfBytes line = .suggestion suggestion) :
    '\t' ∉ suggestion.testNameId.toList ∧ '\t' ∉ suggestion.investigatorId.toList ∧
      Lines.dropOne 13 line = Utf8.bytes suggestion.fields := by
  unfold rowOfBytes at h
  split at h
  · cases h
  · split at h
    · rename_i s hs
      cases h
      obtain ⟨chars, hc, ho⟩ := Option.bind_eq_some_iff.1 hs
      obtain ⟨ht, hi, hf⟩ := Suggestion.ofLine?_eq_some_iff.1 ho
      obtain ⟨text, htext, rfl⟩ := Option.map_eq_some_iff.1 hc
      refine ⟨ht, hi, ?_⟩
      have hcr : Utf8.byte '\r' = 13 := by decide
      rw [← Utf8.decode?_eq_some_iff.1 htext, Utf8.encode_eq_bytes, ← hcr,
        Utf8.dropOne_bytes (by decide), hf]
    · cases h

/-- A suggestion from a line can be stored again, unless a carriage return stands in the line
before its end. -/
theorem storable_iff {content line : List UInt8} {suggestion : Suggestion} (hl : line ∈ rows content)
    (h : rowOfBytes line = .suggestion suggestion) :
    suggestion.defect? = none ↔ 13 ∉ Lines.dropOne 13 line := by
  obtain ⟨ht, hi, hline⟩ := rowOfBytes_eq_suggestion h
  have hcr : Utf8.byte '\r' = 13 := by decide
  have hlf : Utf8.byte '\n' = 10 := by decide
  have hsub : ∀ b ∈ Lines.dropOne 13 line, b ∈ line := by
    intro b hb
    unfold Lines.dropOne at hb
    split at hb
    · exact List.mem_of_mem_dropLast hb
    · exact hb
  -- The bytes were cut at line feeds, so none is left in a line.
  have hn : '\n' ∉ suggestion.fields := by
    rw [← Utf8.byte_mem_bytes (by decide), ← hline, hlf]
    exact fun hm => Lines.notMem_of_mem_pieces (List.mem_cons_of_mem _ hl) (hsub _ hm)
  have hr : '\r' ∉ suggestion.fields ↔ 13 ∉ Lines.dropOne 13 line := by
    rw [hline, ← hcr, Utf8.byte_mem_bytes (by decide)]
  rw [Suggestion.defect?_eq_none_iff, ← hr]
  tauto

/-- No line of a suggestion that counts holds a carriage return before its end. -/
def Unbroken (identity : ServerIdentity) (content : List UInt8) : Prop :=
  ∀ line ∈ rows content, ∀ s ∈ (decode identity content).suggestions,
    rowOfBytes line = .suggestion s → 13 ∉ Lines.dropOne 13 line

/-- All that was read can be written again, exactly if no line is broken. -/
theorem unbroken_iff {identity : ServerIdentity} {content : List UInt8} :
    Unbroken identity content ↔ ∀ s ∈ (decode identity content).suggestions, s.defect? = none := by
  constructor
  · intro h s hs
    obtain ⟨line, hl, hrow⟩ := mem_suggestions_decode hs
    exact (storable_iff hl hrow).2 (h line hl s hs hrow)
  · intro h line hl s hs hrow
    exact (storable_iff hl hrow).1 (h s hs)

end Sheet

end Investigations
