/-
Suggestions files whose lines end in two ways. A carriage return before a line feed is part of the line
that the line feed ends, and of no account there: a line reads the same with it as without
(`rowOfBytes_return`), and the bytes before it are a text exactly if they are one together with it
(`decode?_return`). So a file may have any of its line feeds come after a carriage return
(`read_withReturns`).
-/
import Investigations.Proofs.Suggestion.Canonical

namespace Investigations

open Files

/-- A carriage return at the end of bytes is a character of its own: the bytes are a text if those
before it are one. -/
theorem Utf8.decode?_return (line : List UInt8) :
    decode? (line ++ [13]) = (decode? line).map (· ++ "\r") := by
  have hcr : bytes ['\r'] = [13] := by decide
  rcases hline : decode? line with _ | text
  · -- The last character of a text that ends in this byte is the carriage return.
    refine Option.eq_none_iff_forall_ne_some.2 fun text htext => ?_
    have hbytes := decode?_eq_some_iff.1 htext
    rw [encode_eq_bytes] at hbytes
    have hlast : (bytes text.toList).getLast? = some (byte '\r') := by
      rw [hbytes, List.getLast?_concat]
      rfl
    obtain ⟨init, hinit⟩ := List.getLast?_eq_some_iff.1 ((getLast?_bytes (by decide) _).1 hlast)
    rw [hinit, bytes_append, hcr] at hbytes
    have hdecode : decode? line = some (String.ofList init) :=
      decode?_eq_some_iff.2 ((encode_ofList init).trans (List.append_cancel_right hbytes))
    rw [hdecode] at hline
    cases hline
  · have hbytes := decode?_eq_some_iff.1 hline
    refine decode?_eq_some_iff.2 ?_
    rw [encode_eq_bytes, String.toList_append, bytes_append, ← encode_eq_bytes, hbytes]
    congr 1

namespace Sheet

/-! ## Lines -/

/-- A carriage return at the end of a line does not change the text of the line. -/
theorem lineText?_return {line : List UInt8} (h : 13 ∉ line) :
    lineText? (line ++ [13]) = lineText? line := by
  have hcr : Utf8.byte '\r' = 13 := by decide
  unfold lineText?
  rw [Utf8.decode?_return]
  rcases hline : Utf8.decode? line with _ | text
  · rfl
  · have hn : '\r' ∉ text.toList := by
      rw [← Utf8.byte_mem_bytes (by decide), ← Utf8.encode_eq_bytes, hcr,
        Utf8.decode?_eq_some_iff.1 hline]
      exact h
    have hdrop : Lines.dropOne '\r' (text ++ "\r").toList = text.toList := by
      simp [Lines.dropOne]
    rw [Option.map_some, Option.map_some, Option.map_some, hdrop, Lines.dropOne_of_notMem hn]

/-- Nor does it change what the line stands for. -/
theorem rowOfBytes_return {line : List UInt8} (h : 13 ∉ line) :
    rowOfBytes (line ++ [13]) = rowOfBytes line := by
  by_cases hnil : line = []
  · subst hnil
    rfl
  · have hblank : ¬ (line = [] ∨ line = [13]) := by
      rintro (hl | rfl)
      · exact hnil hl
      · exact h (List.mem_singleton_self _)
    have hblank' : ¬ (line ++ [13] = [] ∨ line ++ [13] = [13]) := by simpa using hnil
    rw [rowOfBytes, rowOfBytes, if_neg hblank', if_neg hblank, lineText?_return h]

/-- The same line, or the same with a carriage return behind it. -/
def LineReturned (line converted : List UInt8) : Prop := converted = line ∨ converted = line ++ [13]

theorem LineReturned.lineText?_eq {line converted : List UInt8} (h : LineReturned line converted)
    (hn : 13 ∉ line) : lineText? converted = lineText? line := by
  rcases h with rfl | rfl
  · rfl
  · exact lineText?_return hn

theorem LineReturned.map_rowOfBytes {lines converted : List (List UInt8)}
    (h : List.Forall₂ LineReturned lines converted) (hn : ∀ line ∈ lines, 13 ∉ line) :
    converted.map rowOfBytes = lines.map rowOfBytes := by
  induction h with
  | nil => rfl
  | cons hline _ ih =>
    rw [List.forall_mem_cons] at hn
    rw [List.map_cons, List.map_cons, ih hn.2]
    rcases hline with rfl | rfl
    · rfl
    · rw [rowOfBytes_return hn.1]

/-! ## Files -/

/-- The content with a carriage return put before some of its line feeds. These are chosen by their
numbers, where the first one has the number `number`. -/
def withReturns (chosen : Nat → Bool) : (number : Nat) → List UInt8 → List UInt8
  | _, [] => []
  | number, byte :: rest =>
    if byte = 10 then
      (if chosen number then [13, 10] else [10]) ++ withReturns chosen (number + 1) rest
    else byte :: withReturns chosen number rest

variable (chosen : Nat → Bool)

theorem withReturns_eq_nil {number : Nat} {content : List UInt8} :
    withReturns chosen number content = [] ↔ content = [] := by
  cases content with
  | nil => simp [withReturns]
  | cons byte rest =>
    unfold withReturns
    split
    · split <;> simp
    · simp

/-- Line by line, nothing but carriage returns is new. -/
theorem pieces_withReturns (number : Nat) (content : List UInt8) :
    List.Forall₂ LineReturned (Lines.pieces 10 content)
      (Lines.pieces 10 (withReturns chosen number content)) := by
  induction content generalizing number with
  | nil => exact .cons (.inl rfl) .nil
  | cons byte rest ih =>
    unfold withReturns
    by_cases hb : byte = 10
    · subst hb
      have hrest := ih (number + 1)
      unfold Lines.pieces at hrest ⊢
      rw [if_pos rfl, Lines.split_cons_self]
      -- The line that ends here is empty, or the carriage return is all that it holds.
      split
      · have hsplit : ∀ more : List UInt8,
            Lines.split 10 ([13, 10] ++ more) = ([13], Lines.pieces 10 more) := by
          intro more
          rw [List.cons_append, Lines.split, List.singleton_append, Lines.split_cons_self]
          rfl
        rw [hsplit]
        exact .cons (.inr rfl) hrest
      · rw [List.singleton_append, Lines.split_cons_self]
        exact .cons (.inl rfl) hrest
    · obtain ⟨hfirst, hlater⟩ := List.forall₂_cons.1 (ih number)
      unfold Lines.pieces
      rw [if_neg hb, Lines.split, Lines.split, if_neg hb, if_neg hb]
      refine .cons ?_ hlater
      rcases hfirst with he | he <;> rw [he]
      · exact .inl rfl
      · exact .inr rfl

/-- A file without carriage returns reads the same after some are put before its line feeds. -/
theorem decode_withReturns {content : List UInt8} (hn : 13 ∉ content) (identity : ServerIdentity) :
    decode identity (withReturns chosen 0 content) = decode identity content := by
  have hlines : ∀ line ∈ Lines.pieces 10 content, 13 ∉ line := by
    intro line hl hm
    have hmem : 13 ∈ content ++ [10] := by
      rw [← Lines.flatMap_pieces]
      exact List.mem_flatMap.2 ⟨line, hl, List.mem_append_left _ hm⟩
    exact hn (by simpa using hmem)
  obtain ⟨hfirst, hlater⟩ := List.forall₂_cons.1 (pieces_withReturns chosen 0 content)
  have hheader := hfirst.lineText?_eq (hlines _ (List.mem_cons_self ..))
  have hrows := LineReturned.map_rowOfBytes hlater fun line hl => hlines line (List.mem_cons_of_mem _ hl)
  simp only [decode, withReturns_eq_nil, hheader, hrows]

end Sheet

namespace SuggestionStore

/-- It is of no account how lines end. Whatever bytes a file holds, as long as no carriage return is
among them, it reads the same after one is put before any of its line feeds: the same suggestions are
found, and the same lines skipped and reported. So a file that was saved reads as it was saved,
whichever of its lines are then ended that way. -/
theorem read_withReturns (identity : ServerIdentity) (chosen : Nat → Bool) :
    (∀ (content : List UInt8) (disk left : Disk) (path other : Path), 13 ∉ content →
      disk.read path = .ok content → left.read other = .ok (Sheet.withReturns chosen 0 content) →
      ∃ reading, read disk identity path = .ok reading ∧ read left identity other = .ok reading ∧
        (reading.events path identity).filter Event.isMalformedLine =
          reading.skipped.map (.malformedLine path) ∧
        (reading.events other identity).filter Event.isMalformedLine =
          reading.skipped.map (.malformedLine other)) ∧
    ∀ (disk left : Disk) (path other : Path) (suggestions : List Suggestion) (content : List UInt8),
      let saved := save disk identity path suggestions
      saved.answer = .ok () → saved.disk.read path = .ok content →
      left.read other = .ok (Sheet.withReturns chosen 0 content) →
      read left identity other = .ok (.accepted suggestions []) := by
  constructor
  · intro content disk left path other hn hread hleft
    refine ⟨_, read_of_read hread identity, ?_, Sheet.Reading.reported .., Sheet.Reading.reported ..⟩
    rw [read_of_read hleft, Sheet.decode_withReturns chosen hn]
  · intro disk left path other suggestions content saved hsaved hread hleft
    obtain ⟨hs, hi, -⟩ := save_ok hsaved
    have hcontent := Except.ok.inj (hread.symm.trans (read_bytes_saved hsaved))
    have hn : 13 ∉ content := hcontent ▸ (Sheet.canonical_encode hi hs).noReturn
    have hsame := read_saved hsaved identity
    rw [if_pos rfl] at hsame
    rw [read_of_read hleft, Sheet.decode_withReturns chosen hn, ← hsame, read_of_read hread]

/-- Every second line feed of a file comes after a carriage return: those of the first line, of a line
that is no text, and of the last line, but not that of a blank one. -/
theorem read_withReturns_mixed :
    let content := Utf8.encode "serverUUID\ts\n1\t2\t3\n" ++ [9, 9, 226, 10, 10] ++
      Utf8.encode "4\t5\t\n"
    let converted := Utf8.encode "serverUUID\ts\r\n1\t2\t3\n" ++ [9, 9, 226, 13, 10, 10] ++
      Utf8.encode "4\t5\t\r\n"
    let disk : Disk := ⟨.directory [("f", .file content), ("g", .file converted)], []⟩
    13 ∉ content ∧ read disk ⟨"s"⟩ ⟨"g"⟩ = .ok (.accepted [⟨"1", "2", "3"⟩, ⟨"4", "5", ""⟩] [3]) := by
  intro content converted disk
  have hn : 13 ∉ content := by decide +kernel
  have hread : disk.read ⟨"f"⟩ = .ok content := by decide +kernel
  have hleft : disk.read ⟨"g"⟩ = .ok (Sheet.withReturns (· % 2 = 0) 0 content) := by decide +kernel
  obtain ⟨reading, hr, hg, -⟩ :=
    (read_withReturns ⟨"s"⟩ (· % 2 = 0)).1 content disk disk ⟨"f"⟩ ⟨"g"⟩ hn hread hleft
  have hdecode : reading = .accepted [⟨"1", "2", "3"⟩, ⟨"4", "5", ""⟩] [3] := by
    rw [read_of_read hread] at hr
    rw [← Except.ok.inj hr]
    decide +kernel
  exact ⟨hn, hdecode ▸ hg⟩

end SuggestionStore

end Investigations
