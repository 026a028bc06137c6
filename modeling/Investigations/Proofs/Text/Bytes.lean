/-
Cutting a list at a separator, and what it means for the UTF-8 bytes of a text: an ASCII byte
stands in the bytes of its own character only (`byte_mem_bytes`), so cutting the bytes at it is
cutting the text at the character, and no character is ever cut in two (`split_bytes`).
-/
import Investigations.Text.Lines
import Investigations.Text.Utf8
import Mathlib.Tactic

namespace Investigations

/-! ## Cutting lists -/

namespace Lines

variable {α : Type} [DecidableEq α]

@[simp] theorem split_nil (sep : α) : split sep [] = ([], []) := rfl

theorem split_cons_self (sep : α) (rest : List α) :
    split sep (sep :: rest) = ([], pieces sep rest) := by
  simp [split, pieces]

/-- A part without the separator goes to the first piece as a whole. -/
theorem split_append_of_notMem {sep : α} :
    ∀ {a : List α}, sep ∉ a → ∀ b, split sep (a ++ b) = (a ++ (split sep b).1, (split sep b).2)
  | [], _, b => rfl
  | x :: a, h, b => by
    simp only [List.mem_cons, not_or] at h
    rw [List.cons_append, split, if_neg (Ne.symm h.1), split_append_of_notMem h.2]
    rfl

theorem split_of_notMem {sep : α} {a : List α} (h : sep ∉ a) : split sep a = (a, []) := by
  simpa using split_append_of_notMem h []

theorem pieces_append_cons (sep : α) :
    ∀ a b : List α, pieces sep (a ++ sep :: b) = pieces sep a ++ pieces sep b
  | [], b => by simp [pieces, split]
  | x :: a, b => by
    have ih := pieces_append_cons sep a b
    unfold pieces at ih ⊢
    rw [List.cons_append, split, split]
    split
    · simp [ih]
    · simp only [List.cons_append, List.cons.injEq] at ih ⊢
      exact ⟨⟨trivial, ih.1⟩, ih.2⟩

theorem notMem_of_mem_pieces {sep : α} : ∀ {text piece : List α}, piece ∈ pieces sep text → sep ∉ piece
  | [], piece, h => by
    simp only [pieces, split, List.mem_singleton] at h
    simp [h]
  | a :: rest, piece, h => by
    have ih : ∀ {p}, p ∈ pieces sep rest → sep ∉ p := notMem_of_mem_pieces
    unfold pieces at h ih
    rw [split] at h
    split at h
    · rcases List.mem_cons.1 h with rfl | h
      · simp
      · exact ih h
    · rename_i hne
      rcases List.mem_cons.1 h with rfl | h
      · simp only [List.mem_cons, not_or]
        exact ⟨Ne.symm hne, ih (List.mem_cons_self ..)⟩
      · exact ih (List.mem_cons_of_mem _ h)

/-- The pieces, each with a separator behind it, are the text with one more separator at its end. -/
theorem flatMap_pieces (sep : α) (text : List α) :
    (pieces sep text).flatMap (· ++ [sep]) = text ++ [sep] := by
  induction text with
  | nil => rfl
  | cons a rest ih =>
    unfold pieces at ih ⊢
    rw [split]
    by_cases h : a = sep
    · subst h
      rw [if_pos rfl, List.flatMap_cons, ih]
      rfl
    · rw [if_neg h, List.flatMap_cons]
      rw [List.flatMap_cons] at ih
      simp only [List.cons_append, ih]

/-- The pieces with separators between them are the text. -/
theorem intercalate_pieces (sep : α) (text : List α) :
    List.intercalate [sep] (pieces sep text) = text := by
  induction text with
  | nil => rfl
  | cons a rest ih =>
    unfold pieces at ih ⊢
    rw [split]
    generalize split sep rest = lines at ih ⊢
    subst ih
    by_cases h : a = sep
    · subst h
      simp [List.intercalate]
    · rw [if_neg h]
      rcases lines with ⟨first, _ | ⟨next, more⟩⟩ <;> simp [List.intercalate]

theorem dropOne_of_notMem {last : α} {text : List α} (h : last ∉ text) :
    dropOne last text = text := by
  rw [dropOne, if_neg fun hl => h (List.mem_of_getLast? hl)]

end Lines

/-! ## Bytes of a text -/

namespace Utf8

/-- The bytes of a list of characters. -/
def bytes (chars : List Char) : List UInt8 := chars.flatMap String.utf8EncodeChar

/-- The one byte of an ASCII character. -/
def byte (c : Char) : UInt8 := UInt8.ofNat c.toNat

theorem encode_ofList (chars : List Char) : encode (String.ofList chars) = bytes chars := by
  unfold encode bytes
  rw [String.toByteArray_ofList]
  simp [List.utf8Encode]

theorem encode_eq_bytes (text : String) : encode text = bytes text.toList := by
  rw [← encode_ofList, String.ofList_toList]

@[simp] theorem bytes_nil : bytes [] = [] := rfl

theorem bytes_cons (c : Char) (rest : List Char) :
    bytes (c :: rest) = String.utf8EncodeChar c ++ bytes rest := rfl

theorem bytes_append (a b : List Char) : bytes (a ++ b) = bytes a ++ bytes b := List.flatMap_append

/-- A character is one ASCII byte, or all its bytes are beyond ASCII. -/
theorem utf8EncodeChar_cases (c : Char) :
    (c.toNat < 128 ∧ String.utf8EncodeChar c = [byte c]) ∨
      (128 ≤ c.toNat ∧ ∀ b ∈ String.utf8EncodeChar c, 128 ≤ b.toNat) := by
  unfold String.utf8EncodeChar byte Char.toNat
  have hc : c.val.toNat < 0x110000 := by
    have := c.valid
    rcases this with h | ⟨-, h⟩ <;> omega
  generalize c.val.toNat = v at *
  dsimp only
  -- Beyond ASCII the first byte starts at 192 and the others at 128.
  split
  · exact .inl ⟨by omega, rfl⟩
  · refine .inr ⟨by omega, ?_⟩
    split
    · intro b hb
      simp only [List.mem_cons, List.not_mem_nil, or_false] at hb
      rcases hb with rfl | rfl <;> rw [UInt8.toNat_ofNat'] <;> omega
    · split
      · intro b hb
        simp only [List.mem_cons, List.not_mem_nil, or_false] at hb
        rcases hb with rfl | rfl | rfl <;> rw [UInt8.toNat_ofNat'] <;> omega
      · intro b hb
        simp only [List.mem_cons, List.not_mem_nil, or_false] at hb
        rcases hb with rfl | rfl | rfl | rfl <;> rw [UInt8.toNat_ofNat'] <;> omega

theorem toNat_byte {c : Char} (h : c.toNat < 128) : (byte c).toNat = c.toNat := by
  unfold byte
  rw [UInt8.toNat_ofNat']
  omega

/-- An ASCII byte stands in the bytes of its own character only. -/
theorem byte_mem_utf8EncodeChar {a c : Char} (ha : a.toNat < 128) :
    byte a ∈ String.utf8EncodeChar c ↔ c = a := by
  have ha' := toNat_byte ha
  constructor
  · intro h
    rcases utf8EncodeChar_cases c with ⟨hc, he⟩ | ⟨_, he⟩
    · rw [he, List.mem_singleton] at h
      have := congrArg UInt8.toNat h
      rw [ha', toNat_byte hc] at this
      exact Char.toNat_inj.1 this.symm
    · have := he _ h
      omega
  · rintro rfl
    rcases utf8EncodeChar_cases c with ⟨_, he⟩ | ⟨hc, _⟩
    · rw [he, List.mem_singleton]
    · omega

theorem byte_mem_bytes {a : Char} (ha : a.toNat < 128) (chars : List Char) :
    byte a ∈ bytes chars ↔ a ∈ chars := by
  simp only [bytes, List.mem_flatMap, byte_mem_utf8EncodeChar ha]
  constructor
  · rintro ⟨c, hc, rfl⟩; exact hc
  · intro h; exact ⟨a, h, rfl⟩

theorem utf8EncodeChar_ascii {a : Char} (ha : a.toNat < 128) : String.utf8EncodeChar a = [byte a] := by
  rcases utf8EncodeChar_cases a with ⟨_, he⟩ | ⟨h, _⟩
  · exact he
  · omega

/-- Cutting the bytes of a text at an ASCII byte is cutting the text at the character: it never
cuts inside a character. -/
theorem split_bytes {sep : Char} (hs : sep.toNat < 128) : ∀ chars : List Char,
    Lines.split (byte sep) (bytes chars) =
      (bytes (Lines.split sep chars).1, (Lines.split sep chars).2.map bytes)
  | [] => rfl
  | c :: rest => by
    have ih := split_bytes hs rest
    by_cases h : c = sep
    · subst h
      rw [bytes_cons, utf8EncodeChar_ascii hs, List.singleton_append, Lines.split_cons_self,
        Lines.split_cons_self]
      simp [Lines.pieces, ih]
    · -- None of the bytes of another character is the separator, so they stay together.
      have hn : byte sep ∉ String.utf8EncodeChar c := fun hm => h ((byte_mem_utf8EncodeChar hs).1 hm)
      rw [bytes_cons, Lines.split_append_of_notMem hn, ih, Lines.split, if_neg h]
      rfl

theorem bytes_injective {a b : List Char} (h : bytes a = bytes b) : a = b := by
  rw [← encode_ofList, ← encode_ofList] at h
  simpa using congrArg String.toList (encode_injective h)

/-- An ASCII byte stands in the bytes of a text as often as its character stands in the text. -/
theorem count_bytes {a : Char} (ha : a.toNat < 128) (chars : List Char) :
    (bytes chars).count (byte a) = chars.count a := by
  induction chars with
  | nil => rfl
  | cons c rest ih =>
    rw [bytes_cons, List.count_append, ih]
    by_cases h : c = a
    · subst h
      rw [utf8EncodeChar_ascii ha, List.count_singleton_self, List.count_cons_self, Nat.add_comm]
    · have hn : byte a ∉ String.utf8EncodeChar c := fun hm => h ((byte_mem_utf8EncodeChar ha).1 hm)
      rw [List.count_eq_zero.2 hn, Nat.zero_add, List.count_cons_of_ne h]

theorem bytes_eq_nil {chars : List Char} : bytes chars = [] ↔ chars = [] := by
  cases chars with
  | nil => simp
  | cons c rest => simp [bytes_cons, String.utf8EncodeChar_ne_nil]

/-- The last byte of a text is an ASCII byte if the last character is that of the byte. -/
theorem getLast?_bytes {a : Char} (ha : a.toNat < 128) (chars : List Char) :
    (bytes chars).getLast? = some (byte a) ↔ chars.getLast? = some a := by
  rcases List.eq_nil_or_concat chars with rfl | ⟨init, c, rfl⟩
  · simp
  · have hc : bytes [c] = String.utf8EncodeChar c := by simp [bytes]
    have hne : bytes [c] ≠ [] := bytes_eq_nil.not.2 (List.cons_ne_nil c [])
    rw [List.concat_eq_append, bytes_append, List.getLast?_append_of_ne_nil _ hne,
      List.getLast?_concat, Option.some.injEq, hc]
    constructor
    · intro h
      exact (byte_mem_utf8EncodeChar ha).1 (List.mem_of_getLast? h)
    · rintro rfl
      rw [utf8EncodeChar_ascii ha]
      rfl

/-- An ASCII byte at the end of a text is the character at its end. -/
theorem dropOne_bytes {last : Char} (hl : last.toNat < 128) (chars : List Char) :
    Lines.dropOne (byte last) (bytes chars) = bytes (Lines.dropOne last chars) := by
  unfold Lines.dropOne
  simp only [getLast?_bytes hl]
  split
  · rename_i h
    obtain ⟨init, rfl⟩ := List.getLast?_eq_some_iff.1 h
    have hlast : bytes [last] = [byte last] := by simp [bytes, utf8EncodeChar_ascii hl]
    rw [bytes_append, hlast, List.dropLast_concat, List.dropLast_concat]
  · rfl

end Utf8

end Investigations
