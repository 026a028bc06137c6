/-
Reading the tokens that a printer writes: a string reads back as its text, whatever characters are
in it (`scanString?_escaped`), and a number goes up to the first character that can not stand in one
(`scanOne?_number`).
-/
import Investigations.Json.Print
import Mathlib.Data.List.TakeWhile
import Mathlib.Tactic

namespace Investigations.Json.Token

/-! ## From one token to the next -/

/-- Nothing here could go on with a number that stands before it. -/
def Stops (text : List Char) : Prop := ∀ c ∈ text.head?, isNumberChar c = false

theorem stops_nil : Stops [] := by
  intro c hc
  cases hc

theorem stops_cons {c : Char} {rest : List Char} : Stops (c :: rest) ↔ isNumberChar c = false := by
  simp [Stops]

theorem isNumberChar_of_isSpace {c : Char} (h : isSpace c = true) : isNumberChar c = false := by
  simp only [isSpace, Bool.or_eq_true, decide_eq_true_eq] at h
  rcases h with ((rfl | rfl) | rfl) | rfl <;> decide

theorem Stops.append_spaces {spaces rest : List Char} (hr : Stops rest)
    (hs : ∀ c ∈ spaces, isSpace c = true) : Stops (spaces ++ rest) := by
  cases spaces with
  | nil => exact hr
  | cons c spaces => exact stops_cons.2 (isNumberChar_of_isSpace (hs c (List.mem_cons_self ..)))

theorem scanFrom_spaces {spaces : List Char} (h : ∀ c ∈ spaces, isSpace c = true)
    (rest : List Char) : scanFrom 0 (spaces ++ rest) = scanFrom 0 rest := by
  induction spaces with
  | nil => rfl
  | cons c spaces ih =>
    rw [List.cons_append, scanFrom, if_pos (h c (List.mem_cons_self ..)),
      ih fun c hc => h c (List.mem_cons_of_mem _ hc)]

theorem scanFrom_taken (taken rest : List Char) :
    scanFrom taken.length (taken ++ rest) = scanFrom 0 rest := by
  induction taken with
  | nil => rfl
  | cons c taken ih => exact ih

/-- A token and what comes after it. -/
theorem scanFrom_token {c : Char} {taken rest : List Char} {token : Token} (hc : isSpace c = false)
    (h : scanOne? c (taken ++ rest) = some (token, taken.length)) :
    scanFrom 0 (c :: (taken ++ rest)) = (scanFrom 0 rest).map (token :: ·) := by
  rw [scanFrom, hc, if_neg (by decide), h]
  dsimp only [Option.bind_eq_bind, Option.bind_some]
  rw [scanFrom_taken]
  rcases scanFrom 0 rest with _ | tokens <;> rfl

/-! ## Numbers -/

theorem afterDigits?_eq_some {text rest : List Char} (h : afterDigits? text = some rest) :
    ∃ digit digits, text = digit :: digits ++ rest ∧ ∀ c ∈ digit :: digits, c.isDigit = true := by
  cases text with
  | nil => cases h
  | cons c text =>
    rw [afterDigits?] at h
    split at h
    · rename_i hc
      cases h
      refine ⟨c, text.takeWhile Char.isDigit, by simp, fun d hd => ?_⟩
      rcases List.mem_cons.1 hd with rfl | hd
      · exact hc
      · exact List.mem_takeWhile_imp hd
    · cases h

theorem afterInteger?_eq_some {text rest : List Char} (h : afterInteger? text = some rest) :
    ∃ digit digits, text = digit :: digits ++ rest ∧ ∀ c ∈ digit :: digits, c.isDigit = true := by
  unfold afterInteger? at h
  split at h
  · cases h
    exact ⟨'0', [], rfl, by simp⟩
  · exact afterDigits?_eq_some h

theorem isNumberChar_of_isDigit {c : Char} (h : c.isDigit = true) : isNumberChar c = true := by
  simp [isNumberChar, h]

theorem afterFraction?_eq_some {text rest : List Char} (h : afterFraction? text = some rest) :
    ∃ fraction, text = fraction ++ rest ∧ ∀ c ∈ fraction, isNumberChar c = true := by
  unfold afterFraction? at h
  split at h
  · obtain ⟨digit, digits, rfl, hd⟩ := afterDigits?_eq_some h
    refine ⟨'.' :: digit :: digits, rfl, fun c hc => ?_⟩
    rcases List.mem_cons.1 hc with rfl | hc
    · decide
    · exact isNumberChar_of_isDigit (hd c hc)
  · cases h
    exact ⟨[], rfl, by simp⟩

theorem afterExponent?_eq_some {text rest : List Char} (h : afterExponent? text = some rest) :
    ∃ exponent, text = exponent ++ rest ∧ ∀ c ∈ exponent, isNumberChar c = true := by
  unfold afterExponent? at h
  split at h
  · rename_i e sign after
    split at h
    · rename_i he
      have hmark : isNumberChar e = true := by rcases he with rfl | rfl <;> decide
      obtain ⟨digit, digits, hs, hd⟩ := afterDigits?_eq_some h
      have hdigits : ∀ c ∈ digit :: digits, isNumberChar c = true :=
        fun c hc => isNumberChar_of_isDigit (hd c hc)
      split at hs
      · rename_i hsign
        have hsign : isNumberChar sign = true := by rcases hsign with rfl | rfl <;> decide
        refine ⟨e :: sign :: digit :: digits, by rw [hs]; rfl, ?_⟩
        simp only [List.forall_mem_cons] at hdigits ⊢
        exact ⟨hmark, hsign, hdigits⟩
      · refine ⟨e :: digit :: digits, by rw [hs]; rfl, ?_⟩
        simp only [List.forall_mem_cons] at hdigits ⊢
        exact ⟨hmark, hdigits⟩
    · cases h
      exact ⟨[], rfl, by simp⟩
  · cases h
    exact ⟨[], rfl, by simp⟩

/-- A number starts with a digit or a minus sign, and has no other characters than those that can
stand in one. -/
theorem chars_of_isNumber {spelled : List Char} (h : isNumber spelled = true) :
    ∃ first more, spelled = first :: more ∧ (first.isDigit = true ∨ first = '-') ∧
      ∀ c ∈ more, isNumberChar c = true := by
  unfold isNumber at h
  rw [decide_eq_true_eq] at h
  obtain ⟨afterwards, hf, he⟩ := Option.bind_eq_some_iff.1 h
  obtain ⟨places, hi, hf⟩ := Option.bind_eq_some_iff.1 hf
  obtain ⟨digit, digits, hu, hd⟩ := afterInteger?_eq_some hi
  obtain ⟨fraction, rfl, hfraction⟩ := afterFraction?_eq_some hf
  obtain ⟨exponent, rfl, hexponent⟩ := afterExponent?_eq_some he
  have hdigits : ∀ c ∈ digit :: digits, isNumberChar c = true :=
    fun c hc => isNumberChar_of_isDigit (hd c hc)
  have hall : ∀ c ∈ digit :: digits ++ (fraction ++ (exponent ++ [])), isNumberChar c = true := by
    simp only [List.forall_mem_append]
    exact ⟨hdigits, hfraction, hexponent, by simp⟩
  split at hu
  · rename_i hminus
    cases spelled with
    | nil => cases hminus
    | cons first more =>
      rw [List.head?_cons, Option.some.injEq] at hminus
      rw [List.tail_cons] at hu
      exact ⟨first, more, rfl, .inr hminus, by rw [hu]; exact hall⟩
  · rw [hu]
    exact ⟨digit, _, rfl, .inl (hd digit (List.mem_cons_self ..)),
      fun c hc => hall c (List.mem_cons_of_mem _ hc)⟩

theorem scanOne?_number {first : Char} {more rest : List Char} (h : isNumber (first :: more) = true)
    (hr : Stops rest) :
    isSpace first = false ∧
      scanOne? first (more ++ rest) = some (.number (first :: more), more.length) := by
  obtain ⟨first', more', he, hfirst, hmore⟩ := chars_of_isNumber h
  cases he
  have htake : (more ++ rest).takeWhile isNumberChar = more := by
    rw [List.takeWhile_append_of_pos hmore]
    cases rest with
    | nil => simp
    | cons c rest => simp [stops_cons.1 hr]
  have hother : ∀ c : Char, c.isDigit = false → c ≠ '-' → first ≠ c := by
    rintro c hd hm rfl
    rcases hfirst with hf | hf
    · rw [hd] at hf
      cases hf
    · exact hm hf
  constructor
  · simp [isSpace, hother ' ' (by decide) (by decide), hother '\t' (by decide) (by decide),
      hother '\n' (by decide) (by decide), hother '\r' (by decide) (by decide)]
  · unfold scanOne?
    split
    -- No other token starts with a digit or a minus sign.
    case h_11 => simp only [htake, if_pos h]
    all_goals
      rcases hfirst with hf | hf
      · exact absurd hf (by decide)
      · exact absurd hf (by decide)

theorem head?_toDigits {n : Nat} (h : 0 < n) : (Nat.toDigits 10 n).head? ≠ some '0' := by
  induction n using Nat.strong_induction_on with
  | _ n ih =>
    by_cases hn : n < 10
    · rw [Nat.toDigits_of_lt_base hn]
      interval_cases n <;> decide
    · rw [Nat.toDigits_of_base_le (by omega) (by omega),
        List.head?_append_of_ne_nil _ Nat.toDigits_ne_nil]
      exact ih (n / 10) (by omega) (by omega)

/-- The digits of a number spell a number. -/
theorem isNumber_toDigits (n : Nat) : isNumber (Nat.toDigits 10 n) = true := by
  by_cases hn : n = 0
  · subst hn
    decide
  · have hzero := head?_toDigits (Nat.pos_of_ne_zero hn)
    have hdigits : ∀ c ∈ Nat.toDigits 10 n, c.isDigit = true :=
      fun c hc => Nat.isDigit_of_mem_toDigits (by omega) (by omega) hc
    rcases hd : Nat.toDigits 10 n with _ | ⟨first, more⟩
    · exact absurd hd Nat.toDigits_ne_nil
    · rw [hd] at hzero hdigits
      rw [List.forall_mem_cons] at hdigits
      have hminus : first ≠ '-' := by
        rintro rfl
        exact absurd hdigits.1 (by decide)
      have hfirst : first ≠ '0' := fun h => hzero (by rw [h]; rfl)
      have hrest : more.dropWhile Char.isDigit = [] := List.dropWhile_eq_nil_iff.2 hdigits.2
      simp [isNumber, hminus, afterInteger?, hfirst, afterDigits?, hdigits.1, hrest, afterFraction?,
        afterExponent?]

/-! ## Strings -/

/-- What a character is read as after it was written: a number of 16 bits if it is written as one. -/
def unit (c : Char) : TextUnit :=
  if (escapeChar c).length = 6 then .code c.toNat else .char c

theorem hexDigit?_digitChar {n : Nat} (h : n < 16) : Text.hexDigit? (Nat.digitChar n) = some n := by
  interval_cases n <;> decide

theorem scanString?_short {letter c : Char} (h : shortEscape? letter = some c) (rest : List Char) :
    scanString? ('\\' :: letter :: rest) =
      (scanString? rest).map fun (units, length) => (.char c :: units, length + 2) := by
  rw [scanString?, h]
  · rcases scanString? rest with _ | ⟨units, length⟩ <;> rfl
  · rintro a b c d tail rfl -
    cases h

theorem scanString?_escapeChar (c : Char) (rest : List Char) :
    scanString? (escapeChar c ++ rest) = (scanString? rest).map fun (units, length) =>
      (unit c :: units, length + (escapeChar c).length) := by
  unfold unit escapeChar
  split
  case h_8 =>
    rename_i hquote hslash _ _ _ _ _
    split
    · -- A control character without a letter of its own is written by its number.
      rename_i hcontrol
      have hhigh := hexDigit?_digitChar (n := c.toNat / 16) (by omega)
      have hlow := hexDigit?_digitChar (n := c.toNat % 16) (by omega)
      have hzero : Text.hexDigit? '0' = some 0 := by decide
      have hnumber : c.toNat / 16 * 16 + c.toNat % 16 = c.toNat := by omega
      have hhex : Text.hexNumber? ['0', '0', Nat.digitChar (c.toNat / 16), Nat.digitChar (c.toNat % 16)] =
          some c.toNat := by
        simp [Text.hexNumber?, hhigh, hlow, hzero, hnumber]
      simp only [List.cons_append, List.nil_append, scanString?, hhex]
      rcases scanString? rest with _ | ⟨units, length⟩ <;> rfl
    · rename_i hcontrol
      rw [List.singleton_append, scanString?.eq_def]
      split
      · simp_all
      · simp_all
      · simp_all
      · simp_all
      · rename_i first tail _ _ _ heq
        cases heq
        rw [if_neg hcontrol]
        rcases scanString? rest with _ | ⟨units, length⟩ <;> rfl
  all_goals exact scanString?_short rfl rest

/-- An escaped text reads up to the quote after it. -/
theorem scanString?_escaped (text rest : List Char) :
    scanString? (text.flatMap escapeChar ++ '"' :: rest) =
      some (text.map unit, (text.flatMap escapeChar).length + 1) := by
  induction text with
  | nil => rfl
  | cons c text ih =>
    rw [List.flatMap_cons, List.append_assoc, scanString?_escapeChar, ih]
    simp only [Option.map_some, List.map_cons, List.length_append, Option.some.injEq, Prod.mk.injEq,
      true_and]
    omega

theorem joinUnits_code {n : Nat} (h : n < 0xD800) (rest : List TextUnit) :
    joinUnits (.code n :: rest) = (joinUnits rest).map (Char.ofNat n :: ·) := by
  have hhigh : ¬ (0xD800 ≤ n ∧ n < 0xDC00) := by omega
  have hlow : ¬ (0xDC00 ≤ n ∧ n < 0xE000) := by omega
  have hhalf : ¬ (0xD800 ≤ n ∧ n < 0xE000) := by omega
  rcases rest with _ | ⟨c | low, rest⟩
  · simp [joinUnits, hhalf]
  · simp [joinUnits, hhalf]
  · rw [joinUnits, if_neg hhigh, if_neg hlow]

theorem joinUnits_unit (text : List Char) : joinUnits (text.map unit) = some text := by
  induction text with
  | nil => rfl
  | cons c text ih =>
    rw [List.map_cons, unit]
    split
    · rename_i hlength
      have hcontrol : c.toNat < 0x20 := by
        unfold escapeChar at hlength
        split at hlength
        case h_8 =>
          split at hlength
          · assumption
          · cases hlength
        all_goals cases hlength
      rw [joinUnits_code (by omega), ih, Char.ofNat_toNat]
      rfl
    · rw [joinUnits, ih]
      rfl

/-- A string that was written is one token, and its content is the text. -/
theorem scanOne?_quote (content : Option String) :
    ∃ more, quote content = '"' :: more ∧
      ∀ rest, scanOne? '"' (more ++ rest) = some (.string content, more.length) := by
  cases content with
  | none => exact ⟨_, rfl, fun rest => rfl⟩
  | some text =>
    refine ⟨text.toList.flatMap escapeChar ++ ['"'], rfl, fun rest => ?_⟩
    rw [List.append_assoc, List.singleton_append]
    unfold scanOne?
    dsimp only
    rw [scanString?_escaped]
    simp [joinUnits_unit]

end Investigations.Json.Token
