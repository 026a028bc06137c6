/-
Suggestions files put together. Lines behind a line of a file that counts are read as they are behind
its first line alone, under numbers that go on from those before (`decode_append`). So damage in a file
stays local: whatever is put in between two lines, the lines around it count for what they counted for
before (`read_spliced`).
-/
import Investigations.Proofs.Suggestion.Grammar

namespace Investigations

open Files

namespace Sheet

/-! ## Numbers of lines -/

theorem malformedFrom_append (first : Nat) (rows more : List Row) :
    malformedFrom first (rows ++ more) =
      malformedFrom first rows ++ malformedFrom (first + rows.length) more := by
  unfold malformedFrom
  rw [List.zipIdx_append, List.filterMap_append]

theorem malformedFrom_add (first count : Nat) (rows : List Row) :
    malformedFrom (first + count) rows = (malformedFrom first rows).map (· + count) := by
  induction rows generalizing first with
  | nil => rfl
  | cons row rows ih =>
    have hnext := ih (first + 1)
    rw [Nat.add_right_comm] at hnext
    rw [malformedFrom_cons, malformedFrom_cons, hnext]
    split
    · rw [List.map_cons]
    · rfl

/-! ## Readings one after the other -/

/-- What is read from lines that are followed by others: the suggestions of both, and the lines that are
skipped in either, where the numbers of the later ones go up by `count`. -/
def Reading.followedBy (front : Reading) (count : Nat) (rest : Reading) : Reading :=
  .accepted (front.suggestions ++ rest.suggestions) (front.skipped ++ rest.skipped.map (· + count))

theorem collect_append (rows more : List Row) :
    collect (rows ++ more) = (collect rows).followedBy rows.length (collect more) := by
  rw [collect_eq, collect_eq, collect_eq, Reading.followedBy, List.filterMap_append,
    malformedFrom_append, malformedFrom_add]
  rfl

/-- A blank row at the end is of no account. -/
theorem collect_blank (rows : List Row) : collect (rows ++ [.blank]) = collect rows := by
  have hblank : collect [.blank] = .accepted [] [] := rfl
  rw [collect_append, hblank, collect_eq]
  simp [Reading.followedBy, Reading.suggestions, Reading.skipped]

/-! ## Content put together -/

/-- The first line of some content, with the line feed that ends it. -/
def firstLine (content : List UInt8) : List UInt8 := (Lines.split 10 content).1 ++ [10]

/-- Behind a line feed come more lines, and those before it stay as they are. -/
theorem split_append_cons (text rest : List UInt8) :
    Lines.split 10 (text ++ 10 :: rest) =
      ((Lines.split 10 text).1, rows text ++ Lines.pieces 10 rest) := by
  obtain ⟨hfirst, hrest⟩ := List.cons.inj (Lines.pieces_append_cons 10 text rest)
  exact Prod.ext hfirst hrest

theorem split_firstLine (text rest : List UInt8) :
    Lines.split 10 (firstLine text ++ rest) = ((Lines.split 10 text).1, Lines.pieces 10 rest) := by
  have hn : 10 ∉ (Lines.split 10 text).1 := Lines.notMem_of_mem_pieces (List.mem_cons_self ..)
  rw [firstLine, List.append_assoc, List.singleton_append, split_append_cons, rows,
    Lines.split_of_notMem hn]
  rfl

theorem headed_append_cons {identity : ServerIdentity} (text rest : List UInt8) :
    Headed identity (text ++ 10 :: rest) ↔ Headed identity text := by
  rw [Headed, Headed, split_append_cons]

theorem decode_firstLine {identity : ServerIdentity} {text : List UInt8} (h : Headed identity text)
    (rest : List UInt8) :
    decode identity (firstLine text ++ rest) = collect ((Lines.pieces 10 rest).map rowOfBytes) := by
  have hfirst : Headed identity (firstLine text ++ rest) := by
    rw [Headed, split_firstLine]
    exact h
  rw [decode_headed hfirst, rows, split_firstLine]

/-- Lines behind those of a file that counts are read as they are behind its first line alone. -/
theorem decode_append {identity : ServerIdentity} {text : List UInt8} (h : Headed identity text)
    (rest : List UInt8) :
    decode identity (text ++ 10 :: rest) =
      (decode identity text).followedBy (text.count 10) (decode identity (firstLine text ++ rest)) := by
  have hlength : ((rows text).map rowOfBytes).length = text.count 10 := by
    rw [List.length_map, rows, Lines.length_split]
  rw [decode_headed ((headed_append_cons text rest).2 h), decode_headed h, decode_firstLine h, rows,
    split_append_cons, List.map_append, collect_append, hlength]

/-- A line feed at the end is of no account, unless there is nothing before it. -/
theorem decode_concat {content : List UInt8} (h : content ≠ []) (identity : ServerIdentity) :
    decode identity (content ++ [10]) = decode identity content := by
  have hblank : (Lines.pieces 10 ([] : List UInt8)).map rowOfBytes = [.blank] := rfl
  rw [decode, decode, if_neg (by simp), if_neg h]
  dsimp only
  rw [split_append_cons, List.map_append, hblank]
  unfold judge
  rw [collect_blank, rows]

/-- So are lines that are followed by others. -/
theorem decode_firstLine_append {identity : ServerIdentity} {text inserted : List UInt8}
    (h : Headed identity text) (hi : inserted = [] ∨ inserted.getLast? = some 10)
    (rest : List UInt8) :
    decode identity (firstLine text ++ (inserted ++ rest)) =
      (decode identity (firstLine text ++ inserted)).followedBy (inserted.count 10)
        (decode identity (firstLine text ++ rest)) := by
  rcases hi with rfl | hi
  · -- Nothing is put in: behind the first line stands a blank one, which adds nothing.
    have hblank : (Lines.pieces 10 ([] : List UInt8)).map rowOfBytes = [.blank] := rfl
    have hnone : collect [.blank] = .accepted [] [] := rfl
    rw [decode_firstLine h [], hblank, hnone, List.nil_append, decode_firstLine h, collect_eq]
    simp [Reading.followedBy, Reading.suggestions, Reading.skipped]
  · -- What is put in ends a line, so the rest comes behind a file that counts.
    obtain ⟨inner, rfl⟩ := List.getLast?_eq_some_iff.1 hi
    have hheaded : Headed identity (firstLine text ++ inner) := by
      rw [Headed, split_firstLine]
      exact h
    have hfirst : firstLine (firstLine text ++ inner) = firstLine text := by
      rw [firstLine, split_firstLine]
      rfl
    have hne : firstLine text ++ inner ≠ [] := by simp [firstLine]
    have hcount : (firstLine text ++ inner).count 10 = (inner ++ [10]).count 10 := by
      have hn : 10 ∉ (Lines.split 10 text).1 := Lines.notMem_of_mem_pieces (List.mem_cons_self ..)
      simp [firstLine, List.count_eq_zero.2 hn, Nat.add_comm]
    have happend := decode_append hheaded rest
    rw [hfirst, hcount] at happend
    have hjoin : firstLine text ++ (inner ++ [10] ++ rest) = firstLine text ++ inner ++ 10 :: rest := by
      simp
    rw [hjoin, ← List.append_assoc, decode_concat hne, happend]

/-- Lines of which none spells a suggestion add none. -/
theorem suggestions_of_no_spells {identity : ServerIdentity} {text inserted : List UInt8}
    (h : Headed identity text)
    (hn : ∀ line ∈ Lines.pieces 10 inserted, ∀ suggestion, ¬ Spells line suggestion) :
    (decode identity (firstLine text ++ inserted)).suggestions = [] := by
  rw [decode_firstLine h]
  refine List.filterMap_eq_nil_iff.2 fun row hrow => ?_
  obtain ⟨line, hl, rfl⟩ := List.mem_map.1 hrow
  cases hr : rowOfBytes line with
  | suggestion suggestion =>
    cases standsFor_iff.2 hr with
    | suggestion spells => exact absurd spells (hn line hl suggestion)
  | blank => rfl
  | malformed => rfl

end Sheet

namespace SuggestionStore

/-- Damage in a file stays local. If lines are put in behind any line of a file that counts, reading
gives the suggestions of the lines before, then those of the new lines, and then those of the lines
after. The lines before that are skipped keep their numbers, and the numbers of those after go up by the
number of the new lines. So lines that spell no suggestion change nothing but numbers, and neither does
a line feed at the end of a file. -/
theorem read_spliced (identity : ServerIdentity) :
    (∀ front inserted rest : List UInt8, Sheet.Headed identity (front ++ rest) →
      front.getLast? = some 10 → (inserted = [] ∨ inserted.getLast? = some 10) →
      ∀ (disk : Disk) (path : Path), disk.read path = .ok (front ++ inserted ++ rest) →
      let first := Sheet.firstLine front
      let before := Sheet.decode identity front
      let new := Sheet.decode identity (first ++ inserted)
      let after := Sheet.decode identity (first ++ rest)
      let whole := Sheet.decode identity (front ++ rest)
      let later := after.skipped.map (· + (front.count 10 - 1))
      whole.suggestions = before.suggestions ++ after.suggestions ∧
      whole.skipped = before.skipped ++ later ∧
      ∃ reading, read disk identity path = .ok reading ∧
        (reading.events path identity).filter Event.isMalformedLine =
          reading.skipped.map (.malformedLine path) ∧
        reading.suggestions = before.suggestions ++ new.suggestions ++ after.suggestions ∧
        reading.skipped = before.skipped ++ new.skipped.map (· + (front.count 10 - 1)) ++
          later.map (· + inserted.count 10) ∧
        ((∀ line ∈ Lines.pieces 10 inserted, ∀ suggestion, ¬ Sheet.Spells line suggestion) →
          reading.suggestions = whole.suggestions)) ∧
    ∀ (content : List UInt8) (disk left : Disk) (path other : Path),
      disk.read path = .ok content → left.read other = .ok (content ++ [10]) →
      (read left identity other).map Sheet.Reading.suggestions =
        (read disk identity path).map Sheet.Reading.suggestions := by
  constructor
  · intro front inserted rest hh hf hi disk path hread first before new after whole later
    -- The line feed that ends the front ends a line of the file before it, which counts as well.
    obtain ⟨text, rfl⟩ := List.getLast?_eq_some_iff.1 hf
    rw [List.append_assoc, List.singleton_append, Sheet.headed_append_cons] at hh
    have hne : text ≠ [] := by
      rintro rfl
      exact Sheet.not_headed_nil identity hh
    have hfirst : first = Sheet.firstLine text := by
      unfold first Sheet.firstLine
      rw [Sheet.split_append_cons]
    have hlines : (text ++ [10]).count 10 - 1 = text.count 10 := by simp
    have hwhole : whole = before.followedBy (text.count 10) after := by
      unfold whole before after
      rw [hfirst, Sheet.decode_concat hne, List.append_assoc, List.singleton_append,
        Sheet.decode_append hh]
    have hspliced : Sheet.decode identity (text ++ [10] ++ inserted ++ rest) =
        before.followedBy (text.count 10) (new.followedBy (inserted.count 10) after) := by
      unfold before new after
      rw [hfirst, Sheet.decode_concat hne, List.append_assoc, List.append_assoc,
        List.singleton_append, Sheet.decode_append hh, Sheet.decode_firstLine_append hh hi]
    have hlater : later = after.skipped.map (· + text.count 10) := by
      unfold later
      rw [hlines]
    rw [hwhole, hlater, hlines]
    refine ⟨rfl, rfl, _, read_of_read hread identity, Sheet.Reading.reported .., ?_, ?_, fun hn => ?_⟩
    · rw [hspliced, List.append_assoc]
      rfl
    · rw [hspliced]
      simp [Sheet.Reading.followedBy, Sheet.Reading.skipped, Nat.add_comm (inserted.count 10)]
    · have hnone : new.suggestions = [] := by
        unfold new
        rw [hfirst]
        exact Sheet.suggestions_of_no_spells hh hn
      have hnew : (new.followedBy (inserted.count 10) after).suggestions = after.suggestions := by
        rw [Sheet.Reading.followedBy, Sheet.Reading.suggestions, hnone, List.nil_append]
      rw [hspliced, Sheet.Reading.followedBy, Sheet.Reading.suggestions, hnew]
      rfl
  · intro content disk left path other hread hended
    rw [read_of_read hread, read_of_read hended]
    by_cases hne : content = []
    · subst hne
      rfl
    · rw [Sheet.decode_concat hne]

/-- Bytes that are no text, a blank line and a line of two fields are put in between two lines that are
skipped. -/
theorem read_spliced_garbage :
    let front := Utf8.encode "serverUUID\ts\n1\t2\t3\nx\n"
    let inserted := [9, 9, 255, 10] ++ Utf8.encode "\r\n7\t8\n"
    let rest := Utf8.encode "y\n4\t5\t6"
    let disk : Disk := ⟨.directory [("f", .file (front ++ inserted ++ rest))], []⟩
    ∃ reading, read disk ⟨"s"⟩ ⟨"f"⟩ = .ok reading ∧
      reading.suggestions = [⟨"1", "2", "3"⟩, ⟨"4", "5", "6"⟩] ∧ reading.skipped = [3, 4, 6, 7] := by
  intro front inserted rest disk
  have hh : Sheet.Headed ⟨"s"⟩ (front ++ rest) := ⟨"serverUUID\ts", by decide +kernel, by decide +kernel⟩
  have hread : disk.read ⟨"f"⟩ = .ok (front ++ inserted ++ rest) := by decide +kernel
  obtain ⟨-, -, reading, hr, -, hs, hk, -⟩ := (read_spliced ⟨"s"⟩).1 front inserted rest hh
    (by decide +kernel) (.inr (by decide +kernel)) disk ⟨"f"⟩ hread
  refine ⟨reading, hr, ?_, ?_⟩
  · rw [hs]
    decide +kernel
  · rw [hk]
    decide +kernel

end SuggestionStore

end Investigations
