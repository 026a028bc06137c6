/-
Canonical suggestions files: the ones that writing gives, told apart by their bytes alone
(`canonical_iff`). Writing back what was read reproduces a file byte for byte exactly if it is
canonical. Any other file is brought into that form at once, and nothing changes after that
(`save_reading`).
-/
import Investigations.Proofs.Files.Shape
import Investigations.Proofs.Suggestion.Grammar

namespace Investigations

open Files

namespace Sheet

/-! ## The form of a file -/

/-- A file in the form in which the identity writes one: a text of lines that are each ended by a
line feed and hold no carriage return, first the line of the identity, and then lines with two tabs
at least. -/
structure Canonical (identity : ServerIdentity) (content : List UInt8) : Prop where
  text : ∃ text, Utf8.encode text = content
  noReturn : 13 ∉ content
  ended : content.getLast? = some 10
  headed : (Lines.split 10 content).1 = Utf8.encode (headerKey ++ "\t" ++ identity.value)
  tabs : ∀ line ∈ (rows content).dropLast, 2 ≤ line.count 9

theorem encode_header (identity : ServerIdentity) :
    Utf8.encode (headerKey ++ "\t" ++ identity.value) = Utf8.bytes (header identity) := by
  have htab : "\t".toList = ['\t'] := rfl
  rw [Utf8.encode_eq_bytes, String.toList_append, String.toList_append, htab, header,
    List.append_assoc]
  rfl

theorem count_fields (suggestion : Suggestion) : 2 ≤ suggestion.fields.count '\t' := by
  simp only [Suggestion.fields, List.count_append, List.count_cons_self]
  omega

/-- What is written is canonical. -/
theorem canonical_encode {identity : ServerIdentity} {suggestions : List Suggestion}
    (hi : identity.hasLineBreak = false) (hs : ∀ s ∈ suggestions, s.defect? = none) :
    Canonical identity (encode identity suggestions) := by
  have hcr : Utf8.byte '\r' = 13 := by decide
  have hlf : Utf8.bytes ['\n'] = [10] := by decide
  have htab : Utf8.byte '\t' = 9 := by decide
  -- The lines of the bytes are the lines of the text, and these are those of the suggestions.
  have hpieces := pieces_encode (text identity suggestions)
  simp only [pieces_text hi hs, Utf8.encode_ofList, List.cons_append, List.map_cons] at hpieces
  obtain ⟨hfirst, hrest⟩ := List.cons.inj hpieces
  refine ⟨⟨_, rfl⟩, ?_, ?_, hfirst.trans (encode_header identity).symm, ?_⟩
  · rw [encode, Utf8.encode_eq_bytes, ← hcr, Utf8.byte_mem_bytes (by decide), toList_text]
    intro hm
    obtain ⟨line, hl, hc⟩ := List.mem_flatMap.1 hm
    have hc : '\r' ∈ line := by simpa using hc
    rcases List.mem_cons.1 hl with rfl | hl
    · exact notMem_header (by decide) (by decide) (any_isLineBreak.1 hi).2 hc
    · obtain ⟨s, hm, rfl⟩ := List.mem_map.1 hl
      exact (Suggestion.defect?_eq_none_iff.1 (hs s hm)).2.2.2 hc
  · obtain ⟨init, hinit⟩ : ∃ init, (text identity suggestions).toList = init ++ ['\n'] := by
      rw [toList_text]
      rcases List.eq_nil_or_concat (header identity :: suggestions.map Suggestion.fields) with
        hnil | ⟨lines, last, hl⟩
      · cases hnil
      · exact ⟨lines.flatMap (· ++ ['\n']) ++ last, by rw [hl]; simp⟩
    rw [encode, Utf8.encode_eq_bytes, hinit, Utf8.bytes_append, hlf, List.getLast?_concat]
  · intro line hl
    have hrows : rows (encode identity suggestions) =
        (suggestions.map Suggestion.fields).map Utf8.bytes ++ [[]] := by
      rw [rows, encode, hrest, List.map_append]
      rfl
    rw [hrows, List.dropLast_concat] at hl
    obtain ⟨chars, hc, rfl⟩ := List.mem_map.1 hl
    obtain ⟨s, -, rfl⟩ := List.mem_map.1 hc
    rw [← htab, Utf8.count_bytes (by decide)]
    exact count_fields s

/-- A line with two tabs and no line break is that of a suggestion that can be stored. -/
theorem exists_fields {line : List Char} (htabs : 2 ≤ line.count '\t') (hn : '\n' ∉ line)
    (hr : '\r' ∉ line) : ∃ s : Suggestion, s.defect? = none ∧ s.fields = line := by
  rcases hl : Suggestion.ofLine? line with _ | s
  · have := ofLine?_eq_none_iff.1 hl
    omega
  · obtain ⟨ht, hi, rfl⟩ := Suggestion.ofLine?_eq_some_iff.1 hl
    exact ⟨s, Suggestion.defect?_eq_none_iff.2 ⟨ht, hi, hn, hr⟩, rfl⟩

theorem exists_suggestions {lines : List (List Char)}
    (h : ∀ line ∈ lines, ∃ s : Suggestion, s.defect? = none ∧ s.fields = line) :
    ∃ suggestions : List Suggestion, (∀ s ∈ suggestions, s.defect? = none) ∧
      suggestions.map Suggestion.fields = lines := by
  induction lines with
  | nil => exact ⟨[], by simp, rfl⟩
  | cons line lines ih =>
    rw [List.forall_mem_cons] at h
    obtain ⟨⟨s, hs, rfl⟩, hrest⟩ := h
    obtain ⟨suggestions, hall, rfl⟩ := ih hrest
    exact ⟨s :: suggestions, List.forall_mem_cons.2 ⟨hs, hall⟩, rfl⟩

/-- Every canonical file is one that was written. -/
theorem Canonical.exists_encode {identity : ServerIdentity} {content : List UInt8}
    (h : Canonical identity content) : identity.hasLineBreak = false ∧
      ∃ suggestions, (∀ s ∈ suggestions, s.defect? = none) ∧ encode identity suggestions = content := by
  have hcr : Utf8.byte '\r' = 13 := by decide
  have hlf : Utf8.byte '\n' = 10 := by decide
  have htab : Utf8.byte '\t' = 9 := by decide
  obtain ⟨⟨text, rfl⟩, hreturn, hended, hheaded, htabs⟩ := h
  -- The text ends in a line feed, so it is the pieces before that with a line feed behind each.
  obtain ⟨init, hinit⟩ : ∃ init, text.toList = init ++ ['\n'] := by
    rw [Utf8.encode_eq_bytes, ← hlf, Utf8.getLast?_bytes (by decide)] at hended
    exact List.getLast?_eq_some_iff.1 hended
  have htext : text.toList = (Lines.pieces '\n' init).flatMap (· ++ ['\n']) := by
    rw [hinit, Lines.flatMap_pieces]
  have hpieces := pieces_encode text
  have hlast : Lines.pieces '\n' [] = [[]] := rfl
  rw [hinit, Lines.pieces_append_cons, hlast] at hpieces
  rcases hinit' : Lines.pieces '\n' init with _ | ⟨first, lines⟩
  · cases hinit'
  · simp only [hinit', Utf8.encode_ofList, List.cons_append, List.map_cons] at hpieces
    obtain ⟨hfirst, hrest⟩ := List.cons.inj hpieces
    rw [hfirst, encode_header] at hheaded
    cases Utf8.bytes_injective hheaded
    rw [hinit'] at htext
    have hbreak : ∀ line ∈ header identity :: lines, '\n' ∉ line ∧ '\r' ∉ line := by
      refine fun line hl => ⟨Lines.notMem_of_mem_pieces (hinit' ▸ hl), fun hc => hreturn ?_⟩
      rw [← hcr, Utf8.encode_eq_bytes, Utf8.byte_mem_bytes (by decide), htext]
      exact List.mem_flatMap.2 ⟨line, hl, List.mem_append_left _ hc⟩
    have hrows : (rows (Utf8.encode text)).dropLast = lines.map Utf8.bytes := by
      rw [rows, hrest, List.map_append, List.map_singleton, List.dropLast_concat]
    rw [hrows] at htabs
    obtain ⟨suggestions, hs, rfl⟩ := exists_suggestions fun line hl => by
      have hcount := htabs _ (List.mem_map_of_mem hl)
      rw [← htab, Utf8.count_bytes (by decide)] at hcount
      have hl := hbreak line (List.mem_cons_of_mem _ hl)
      exact exists_fields hcount hl.1 hl.2
    refine ⟨any_isLineBreak.2 ?_, suggestions, hs, ?_⟩
    · have hhead := hbreak _ (List.mem_cons_self ..)
      simp only [header, List.mem_append, List.mem_cons, not_or] at hhead
      exact ⟨hhead.1.2.2, hhead.2.2.2⟩
    · rw [encode, Utf8.encode_eq_bytes, toList_text, ← htext, ← Utf8.encode_eq_bytes]

/-- Canonical files are those that come out as they are when what was read from them is written
again. -/
theorem canonical_iff {identity : ServerIdentity} {content : List UInt8} :
    Canonical identity content ↔ identity.hasLineBreak = false ∧
      (∀ s ∈ (decode identity content).suggestions, s.defect? = none) ∧
        encode identity (decode identity content).suggestions = content := by
  constructor
  · intro h
    obtain ⟨hi, suggestions, hs, rfl⟩ := h.exists_encode
    rw [encode, decode_encode, decodeText_text hi hs, if_pos rfl]
    exact ⟨hi, hs, rfl⟩
  · rintro ⟨hi, hs, he⟩
    rw [← he]
    exact canonical_encode hi hs

end Sheet

namespace SuggestionStore

/-! ## Writing back what was read -/

/-- Saving that succeeds leaves the bytes of what was saved. -/
theorem read_bytes_saved {disk : Disk} {identity : ServerIdentity} {path : Path}
    {suggestions : List Suggestion} (h : (save disk identity path suggestions).answer = .ok ()) :
    (save disk identity path suggestions).disk.read path =
      .ok (Sheet.encode identity suggestions) := by
  rw [Disk.read_eq, (Disk.replace_ok (save_ok h).2.2).2]

/-- Saving the same once more over a file that was there succeeds, and changes nothing. -/
theorem save_again {disk : Disk} {identity : ServerIdentity} {path : Path} {content : List UInt8}
    {suggestions : List Suggestion} (hc : disk.look path = .ok (.file content))
    (h : (save disk identity path suggestions).answer = .ok ()) :
    let saved := save disk identity path suggestions
    let again := save saved.disk identity path suggestions
    again.answer = .ok () ∧ ∀ p, again.disk.root.node? p = saved.disk.root.node? p := by
  intro saved again
  obtain ⟨hs, hi, hr⟩ := save_ok h
  have hagain : again = _ := save_of_checked hs hi saved.disk path
  have hok := Disk.replace_again hc hr (Sheet.encode identity suggestions)
  rcases hw : saved.disk.replace path (Sheet.encode identity suggestions) with ⟨fault | ⟨⟩, left⟩
  · rw [hw] at hok
    cases hok
  · rw [hw] at hagain
    rw [hagain]
    exact ⟨rfl, Disk.replace_same (Disk.replace_ok hr).2 hw⟩

/-- To write back what was read from a canonical file is to replace it by its own bytes. -/
theorem save_canonical {identity : ServerIdentity} {content : List UInt8}
    (h : Sheet.Canonical identity content) (disk : Disk) (path : Path) :
    let saved := save disk identity path (Sheet.decode identity content).suggestions
    saved.answer = (disk.replace path content).1.mapError .io ∧
      saved.disk = (disk.replace path content).2 := by
  obtain ⟨hi, hs, hsame⟩ := Sheet.canonical_iff.1 h
  dsimp only
  rw [save_of_checked hs hi, hsame]
  rcases disk.replace path content with ⟨fault | ⟨⟩, left⟩ <;> exact ⟨rfl, rfl⟩

/-- What was read from a file is written back byte for byte exactly if the file is canonical and there
is room for a draft of it: the path of the draft can be followed, and a name is left for it. Without
room, what was read from a canonical file fails to be written back for just this, and nothing changes.
Whatever the file was, once its suggestions are written back they are read as they were before, and
writing them back a second time changes no byte. -/
theorem save_reading {disk : Disk} {path : Path} {content : List UInt8} {identity : ServerIdentity}
    {reading : Sheet.Reading} (hc : disk.read path = .ok content)
    (hr : read disk identity path = .ok reading) :
    let saved := save disk identity path reading.suggestions
    (saved.answer = .ok () ∧ saved.disk.read path = .ok content ↔
      Sheet.Canonical identity content ∧ ∃ draft, disk.makeDraft path content = .ok draft) ∧
    ((∃ draft, disk.makeDraft path content = .ok draft) ∨
      disk.makeDraft path content = .error .alreadyExists ∨
      ∃ fault, (disk.draftPath path).fault? = some fault ∧
        disk.makeDraft path content = .error fault) ∧
    (Sheet.Canonical identity content → ∀ fault, disk.makeDraft path content = .error fault →
      saved.answer = .error (.io fault) ∧ saved.disk = disk) ∧
    (saved.answer = .ok () →
      (read saved.disk identity path).map Sheet.Reading.suggestions = .ok reading.suggestions ∧
      let again := save saved.disk identity path reading.suggestions
      again.answer = .ok () ∧ ∀ p, again.disk.root.node? p = saved.disk.root.node? p) := by
  intro saved
  have hlook := Disk.look_of_read hc
  cases (read_of_read hc identity).symm.trans hr
  refine ⟨⟨?_, ?_⟩, Disk.makeDraft_of_look hlook content, ?_, fun h => ⟨?_, save_again hlook h⟩⟩
  · rintro ⟨hsaved, hbytes⟩
    obtain ⟨hs, hi, hreplace⟩ := save_ok hsaved
    have hsame := Except.ok.inj ((read_bytes_saved hsaved).symm.trans hbytes)
    refine ⟨Sheet.canonical_iff.2 ⟨hi, hs, hsame⟩, (Disk.replace_of_look hlook content).1 ?_⟩
    rw [hsame] at hreplace
    rw [hreplace]
  · rintro ⟨hcanonical, hdraft⟩
    have hreplace := (Disk.replace_of_look hlook content).2 hdraft
    have hsaved : saved.answer = .ok () := by
      rw [(save_canonical hcanonical disk path).1, hreplace]
      rfl
    refine ⟨hsaved, (read_bytes_saved hsaved).trans ?_⟩
    rw [(Sheet.canonical_iff.1 hcanonical).2.2]
  · intro hcanonical fault hdraft
    obtain ⟨hanswer, hleft⟩ := save_canonical hcanonical disk path
    rw [Disk.replace_of_undrafted hdraft] at hanswer hleft
    exact ⟨hanswer, hleft⟩
  · rw [read_saved h, if_pos rfl]
    rfl

/-- A file with carriage returns, a blank line, a malformed one and no line feed at its end is brought
into the canonical form. -/
theorem save_reading_ragged :
    let content := Utf8.encode "serverUUID\ts\r\n\n1\t2\t3\t\r\nx\n4\t\t"
    let disk : Disk := ⟨.directory [("f", .file content)], []⟩
    let saved := save disk ⟨"s"⟩ ⟨"f"⟩ [⟨"1", "2", "3\t"⟩, ⟨"4", "", ""⟩]
    saved.answer = .ok () ∧ ¬ Sheet.Canonical ⟨"s"⟩ content ∧
      (read saved.disk ⟨"s"⟩ ⟨"f"⟩).map Sheet.Reading.suggestions =
        .ok [⟨"1", "2", "3\t"⟩, ⟨"4", "", ""⟩] := by
  intro content disk saved
  have hc : disk.read ⟨"f"⟩ = .ok content := by decide +kernel
  have hr : read disk ⟨"s"⟩ ⟨"f"⟩ = .ok (.accepted [⟨"1", "2", "3\t"⟩, ⟨"4", "", ""⟩] [4]) := by
    decide +kernel
  have hsaved : saved.answer = .ok () := by decide +kernel
  obtain ⟨hiff, -, -, hafter⟩ := save_reading hc hr
  have hdraft : ∃ draft, disk.makeDraft ⟨"f"⟩ content = .ok draft :=
    (Disk.replace_of_look (Disk.look_of_read hc) content).1 (by decide +kernel)
  refine ⟨hsaved, fun h => ?_, (hafter hsaved).1⟩
  have hbytes := (hiff.2 ⟨h, hdraft⟩).2
  exact absurd hbytes (by decide +kernel)

/-! ## Paths that are too long -/

/-- The path of the file `f` in a directory that is named with a number of slashes on the way. -/
def longPath (count : Nat) : Path := ((Path.slashed "a" count).child "b").child "f"

/-- The file `f` with this content, in the directory `b` of the directory `a`. -/
def deepDisk (content : List UInt8) : Disk where
  root := .directory [("a", .directory [("b", .directory [("f", .file content)])])]
  cwd := []

section Long

variable (ha : IsName "a") (hb : IsName "b") (hf : IsName "f")

include ha hb hf

theorem look_longPath {count : Nat} (hu : count ≤ 4085) (content : List UInt8) :
    (deepDisk content).look (longPath count) = .ok (.file content) := by
  have hsize := Path.utf8ByteSize_slashed "a" count
  have hdir := (Path.utf8ByteSize_child (Path.slashed "a" count) "b").2
  have hfile := (Path.utf8ByteSize_child ((Path.slashed "a" count).child "b") "f").2
  have h1 : "a".utf8ByteSize = 1 := by decide
  have h2 : "b".utf8ByteSize = 1 := by decide
  have h3 : "f".utf8ByteSize = 1 := by decide
  have hnul : '\x00' ∉ (longPath count).text.toList := by
    unfold longPath
    rw [Path.mem_toList_child (by decide), Path.mem_toList_child (by decide), Path.toList_slashed]
    simp
  refine Disk.look_eq_file.2 ⟨?_, Path.text_child_ne_empty hf, Path.meansDirectory_child hf,
    ["a", "b", "f"], ?_, rfl⟩
  · unfold Path.fault? pathLimit
    rw [if_neg hnul, if_neg (by unfold longPath; omega)]
  · rw [longPath, Disk.start_child _ hf, Disk.start_child _ hb, Path.steps_child hf,
      Path.steps_child hb, Path.steps_slashed ha, Disk.start, Path.isAbsolute_slashed ha]
    rfl

/-- The draft would be in the same directory, and its path longer than can be followed. -/
theorem replace_longPath {count : Nat} (hl : 4085 ≤ count) (content new : List UInt8) :
    (deepDisk content).replace (longPath count) new = (.error .invalidFilename, deepDisk content) := by
  let dir := (Path.slashed "a" count).child "b"
  have habsolute : dir.isAbsolute = false := by
    rw [Path.isAbsolute_child hb, Path.isAbsolute_slashed ha]
  have hparent : (longPath count).parent = dir := by
    obtain ⟨above, hc, -⟩ := Path.components_child (Path.slashed "a" count) hb
    exact Path.parent_child hf (by rw [hc, List.getLast?_concat]) (by decide) habsolute
  have hdraft : (deepDisk content).draftPath (longPath count) =
      ((⟨"/"⟩ : Path).child dir.text).child (Disk.draftName 0) := by
    rw [Disk.draftPath, Disk.draftDirectory, hparent, if_neg (Path.text_child_ne_empty hb),
      Disk.absolute, if_neg (by rw [habsolute]; decide)]
    rfl
  have hnul : '\x00' ∉ ((deepDisk content).draftPath (longPath count)).text.toList := by
    have hdir : '\x00' ∉ dir.text.toList := by
      rw [Path.mem_toList_child (by decide), Path.toList_slashed]
      simp
    rw [hdraft, Path.mem_toList_child (by decide), Path.mem_toList_child (by decide), not_or, not_or]
    exact ⟨⟨by decide, hdir⟩, by decide⟩
  have hsize : pathLimit < ((deepDisk content).draftPath (longPath count)).text.utf8ByteSize := by
    have hroot := (Path.utf8ByteSize_child ⟨"/"⟩ dir.text).1
    have hchild := (Path.utf8ByteSize_child ((⟨"/"⟩ : Path).child dir.text) (Disk.draftName 0)).1
    have hdir : _ ≤ dir.text.utf8ByteSize := (Path.utf8ByteSize_child (Path.slashed "a" count) "b").1
    have hslashed := Path.utf8ByteSize_slashed "a" count
    have h1 : "a".utf8ByteSize = 1 := by decide
    have h2 : "b".utf8ByteSize = 1 := by decide
    have h3 : (Disk.draftName 0).utf8ByteSize = 10 := by decide
    rw [hdraft]
    unfold pathLimit
    omega
  unfold Disk.replace Disk.makeDraft Path.fault?
  rw [if_neg hnul, if_pos hsize]

end Long

/-- What was read from a canonical file is not written back if there is no room for a draft: the file
is fit to be written, but can not be replaced. -/
theorem save_reading_overlong :
    let content := Utf8.encode "serverUUID\ts\n"
    (deepDisk content).read (longPath 4085) = .ok content ∧
      (read (deepDisk content) ⟨"s"⟩ (longPath 4085)).map Sheet.Reading.suggestions = .ok [] ∧
      Sheet.Canonical ⟨"s"⟩ content ∧
      (save (deepDisk content) ⟨"s"⟩ (longPath 4085) []).answer = .error (.io .invalidFilename) := by
  intro content
  have ha : IsName "a" := ⟨by decide, by decide⟩
  have hb : IsName "b" := ⟨by decide, by decide⟩
  have hf : IsName "f" := ⟨by decide, by decide⟩
  have hlook := look_longPath ha hb hf (Nat.le_refl 4085) content
  have hreplace := replace_longPath ha hb hf (Nat.le_refl 4085) content (Sheet.encode ⟨"s"⟩ [])
  have hempty : ∀ s ∈ ([] : List Suggestion), s.defect? = none := by simp
  refine ⟨?_, ?_, Sheet.canonical_iff.2 (by decide +kernel), ?_⟩
  · rw [Disk.read_eq, hlook]
  · rw [read_of_look hlook]
    exact congrArg Except.ok (by decide +kernel)
  · rw [save_of_checked hempty (by decide +kernel), hreplace]

end SuggestionStore

end Investigations
