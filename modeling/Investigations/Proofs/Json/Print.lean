/-
Printing and reading JSON: what is printed of a value reads back as the value, whatever white space
the printer puts between the tokens (`parse?_print`). A reader stops at each token with all that it
has read so far, so the proof follows it through the printed text (`resume?_print`).
-/
import Investigations.Proofs.Json.Token

namespace Investigations.Json

/-- A layout that puts nothing but white space between tokens. -/
structure Layout.Spaced (layout : Layout) : Prop where
  lineBreak : ∀ depth, ∀ c ∈ layout.lineBreak depth, Token.isSpace c = true
  afterColon : ∀ c ∈ layout.afterColon, Token.isSpace c = true

theorem Layout.spaced_compact : Layout.compact.Spaced := by
  constructor
  · intro depth c hc
    cases hc
  · intro c hc
    cases hc

theorem Layout.spaced_pretty : Layout.pretty.Spaced := by
  constructor
  · intro depth c hc
    rcases List.mem_cons.1 hc with rfl | hc
    · decide
    · rw [List.eq_of_mem_replicate hc]
      decide
  · intro c hc
    rw [List.mem_singleton.1 hc]
    decide

namespace Value

/-- All numbers in a value are spelled as numbers. -/
inductive Spelled : Value → Prop
  | null : Spelled .null
  | bool (value : Bool) : Spelled (.bool value)
  | number {spelled : List Char} (h : Token.isNumber spelled = true) : Spelled (.number spelled)
  | string (content : Option String) : Spelled (.string content)
  | array {items : List Value} (h : ∀ item ∈ items, Spelled item) : Spelled (.array items)
  | object {fields : List (Option String × Value)} (h : ∀ field ∈ fields, Spelled field.2) :
    Spelled (.object fields)

theorem spelled_ofText (text : String) : (ofText text).Spelled := .string _

theorem spelled_ofNat (n : Nat) : (ofNat n).Spelled := .number (Token.isNumber_toDigits n)

theorem spelled_ofWord (n : UInt64) : (ofWord n).Spelled := spelled_ofNat n.toNat

theorem spelled_ofFields {fields : List (String × Value)} (h : ∀ field ∈ fields, field.2.Spelled) :
    (ofFields fields).Spelled := by
  refine .object fun field hf => ?_
  obtain ⟨entry, he, rfl⟩ := List.mem_map.1 hf
  exact h entry he

/-! ## Parts of what was made -/

@[simp] theorem text?_ofText (text : String) : (ofText text).text? = some text := rfl

@[simp] theorem word?_ofWord (n : UInt64) : (ofWord n).word? = some n := by
  have hdigits : (Nat.toDigits 10 n.toNat).all Char.isDigit = true :=
    List.all_eq_true.2 fun c hc => Nat.isDigit_of_mem_toDigits (by omega) (by omega) hc
  have hlimit : n.toNat ≤ maxWord := by
    have := n.toNat_lt
    unfold maxWord UInt64.size
    omega
  unfold ofWord word?
  dsimp only
  rw [if_pos hdigits, Nat.ofDigitChars_ten_toDigits, if_pos hlimit, UInt64.ofNat_toNat]

/-! ## Reading on -/

/-- Reads a text on from how far a reader has come. -/
def resume? (progress : Progress) (text : List Char) : Option Progress :=
  (Token.scan text).bind fun tokens => tokens.foldlM advance? progress

theorem parse?_eq (text : String) :
    parse? text =
      match resume? (.value, []) text.toList with
      | some (.following v, []) => some v
      | _ => none := by
  unfold parse? resume? ofTokens?
  rcases Token.scan text.toList with _ | tokens <;> rfl

theorem resume?_spaces {spaces : List Char} (h : ∀ c ∈ spaces, Token.isSpace c = true)
    (progress : Progress) (rest : List Char) :
    resume? progress (spaces ++ rest) = resume? progress rest := by
  rw [resume?, Token.scan, Token.scanFrom_spaces h]
  rfl

theorem resume?_token {c : Char} {taken rest : List Char} {token : Token}
    (hc : Token.isSpace c = false)
    (h : Token.scanOne? c (taken ++ rest) = some (token, taken.length)) (progress : Progress) :
    resume? progress (c :: (taken ++ rest)) = (advance? progress token).bind (resume? · rest) := by
  unfold resume? Token.scan
  rw [Token.scanFrom_token hc h]
  -- If the rest has no tokens, it is of no account how far the reader gets.
  rcases Token.scanFrom 0 rest with _ | tokens
  · rcases advance? progress token with _ | next <;> rfl
  · rcases hn : advance? progress token with _ | next <;> simp [hn]

/-- A reader that goes past a token of one character. -/
theorem resume?_mark {c : Char} {token : Token} (hc : Token.isSpace c = false)
    (h : ∀ rest, Token.scanOne? c rest = some (token, 0)) {progress next : Progress}
    (hn : advance? progress token = some next) (rest : List Char) :
    resume? progress (c :: rest) = resume? next rest := by
  have hscan : Token.scanOne? c ([] ++ rest) = some (token, ([] : List Char).length) := h rest
  have htoken := resume?_token hc hscan progress
  rw [hn] at htoken
  exact htoken

/-- A value may begin here, in the brackets `around`. -/
def Begins (progress : Progress) (around : List Opened) : Prop :=
  ∀ token, token ≠ .closeArray → advance? progress token = begin? around token

theorem begins_value (around : List Opened) : Begins (.value, around) around := fun _ _ => rfl

theorem begins_firstItem (around : List Opened) :
    Begins (.firstItem, around) (.array [] :: around) := by
  intro token ht
  cases token with
  | closeArray => exact absurd rfl ht
  | _ => rfl

/-- A value of one token. -/
theorem resume?_leaf {c : Char} {taken rest : List Char} {token : Token} {v : Value}
    (hc : Token.isSpace c = false)
    (h : Token.scanOne? c (taken ++ rest) = some (token, taken.length)) {progress : Progress}
    {around : List Opened} (hp : Begins progress around) (ht : token ≠ .closeArray)
    (hv : begin? around token = some (.following v, around)) :
    resume? progress (c :: taken ++ rest) = resume? (.following v, around) rest := by
  rw [List.cons_append, resume?_token hc h, hp token ht, hv, Option.bind_some]

/-! ## Reading what was printed -/

section Print

variable {layout : Layout}

/-- What follows a value within brackets: more of them, or the end. -/
theorem stops_printItems (depth : Nat) (items : List Value) {spaces : List Char}
    (hs : ∀ c ∈ spaces, Token.isSpace c = true) (rest : List Char) :
    Token.Stops (printItems layout depth items ++ (spaces ++ ']' :: rest)) := by
  have hend : Token.Stops (']' :: rest) := Token.stops_cons.2 (by decide)
  cases items with
  | nil => exact hend.append_spaces hs
  | cons item items => exact Token.stops_cons.2 (by decide)

theorem stops_printFields (depth : Nat) (fields : List (Option String × Value))
    {spaces : List Char} (hs : ∀ c ∈ spaces, Token.isSpace c = true) (rest : List Char) :
    Token.Stops (printFields layout depth fields ++ (spaces ++ '}' :: rest)) := by
  have hend : Token.Stops ('}' :: rest) := Token.stops_cons.2 (by decide)
  cases fields with
  | nil => exact hend.append_spaces hs
  | cons field fields => exact Token.stops_cons.2 (by decide)

/-- A value reads back at any depth, wherever a value may begin. -/
def ReadsBack (layout : Layout) (v : Value) : Prop :=
  ∀ (depth : Nat) (progress : Progress) (around : List Opened) (rest : List Char),
    Begins progress around → Token.Stops rest →
      resume? progress (v.print layout depth ++ rest) = resume? (.following v, around) rest

theorem resume?_printField (hl : layout.Spaced) {key : Option String} {v : Value}
    (hv : ReadsBack layout v) (depth : Nat) {progress : Progress}
    {done : List (Option String × Value)} {around : List Opened}
    (hp : advance? progress (.string key) = some (.colon done key, around)) {rest : List Char}
    (hr : Token.Stops rest) :
    resume? progress (printField layout depth (key, v) ++ rest) =
      resume? (.following v, .object done key :: around) rest := by
  obtain ⟨more, hq, hscan⟩ := Token.scanOne?_quote key
  rw [printField, hq]
  simp only [List.append_assoc, List.cons_append]
  rw [resume?_token (by decide) (hscan _), hp, Option.bind_some,
    resume?_mark (by decide) (fun _ => rfl) rfl, resume?_spaces hl.afterColon]
  exact hv depth _ _ _ (begins_value _) hr

mutual

theorem readsBack (hl : layout.Spaced) : ∀ {v : Value}, v.Spelled → ReadsBack layout v
  | .null, _, _, _, _, _, hp, _ => resume?_leaf (by decide) rfl hp (by decide) rfl
  | .bool true, _, _, _, _, _, hp, _ => resume?_leaf (by decide) rfl hp (by decide) rfl
  | .bool false, _, _, _, _, _, hp, _ => resume?_leaf (by decide) rfl hp (by decide) rfl
  | .number spelled, h, _, _, _, _, hp, hr => by
    cases h with
    | number h =>
      obtain ⟨first, more, rfl, -⟩ := Token.chars_of_isNumber h
      obtain ⟨hspace, hscan⟩ := Token.scanOne?_number h hr
      exact resume?_leaf hspace hscan hp (by simp) rfl
  | .string content, _, _, _, _, _, hp, _ => by
    obtain ⟨more, hq, hscan⟩ := Token.scanOne?_quote content
    rw [print, hq]
    exact resume?_leaf (by decide) (hscan _) hp (by simp) rfl
  | .array [], _, _, _, around, rest, hp, _ => by
    have hopen := hp .openArray (by decide)
    exact (resume?_mark (by decide) (fun _ => rfl) hopen _).trans
      (resume?_mark (by decide) (fun _ => rfl) rfl rest)
  | .array (item :: items), h, depth, _, around, rest, hp, _ => by
    cases h with
    | array h =>
      rw [List.forall_mem_cons] at h
      have hopen := hp .openArray (by decide)
      rw [print]
      simp only [List.append_assoc, List.cons_append, List.nil_append]
      rw [resume?_mark (by decide) (fun _ => rfl) hopen, resume?_spaces (hl.lineBreak _),
        readsBack hl h.1 _ _ _ _ (begins_firstItem around) (stops_printItems _ _ (hl.lineBreak _) _),
        resume?_printItems hl h.2 _ _ _ _ (hl.lineBreak _)]
      rfl
  | .object [], _, _, _, around, rest, hp, _ => by
    have hopen := hp .openObject (by decide)
    exact (resume?_mark (by decide) (fun _ => rfl) hopen _).trans
      (resume?_mark (by decide) (fun _ => rfl) rfl rest)
  | .object ((key, v) :: fields), h, depth, _, around, rest, hp, _ => by
    cases h with
    | object h =>
      rw [List.forall_mem_cons] at h
      have hopen := hp .openObject (by decide)
      rw [print]
      simp only [List.append_assoc, List.cons_append, List.nil_append]
      rw [resume?_mark (by decide) (fun _ => rfl) hopen, resume?_spaces (hl.lineBreak _),
        resume?_printField hl (readsBack hl h.1) _ rfl (stops_printFields _ _ (hl.lineBreak _) _),
        resume?_printFields hl h.2 _ _ _ _ _ (hl.lineBreak _)]
      rfl

theorem resume?_printItems (hl : layout.Spaced) : ∀ {items : List Value},
    (∀ item ∈ items, item.Spelled) → ∀ (depth : Nat) (v : Value) (done : List Value)
      (around : List Opened) {spaces : List Char}, (∀ c ∈ spaces, Token.isSpace c = true) →
      ∀ rest, resume? (.following v, .array done :: around)
          (printItems layout depth items ++ (spaces ++ ']' :: rest)) =
        resume? (.following (.array ((v :: done).reverse ++ items)), around) rest
  | [], _, depth, v, done, around, spaces, hs, rest => by
    rw [printItems, List.nil_append, resume?_spaces hs, List.append_nil]
    exact resume?_mark (by decide) (fun _ => rfl) rfl rest
  | item :: items, h, depth, v, done, around, spaces, hs, rest => by
    rw [List.forall_mem_cons] at h
    rw [printItems]
    simp only [List.append_assoc, List.cons_append]
    rw [resume?_mark (by decide) (fun _ => rfl) rfl, resume?_spaces (hl.lineBreak _),
      readsBack hl h.1 _ _ _ _ (begins_value _) (stops_printItems _ _ hs _),
      resume?_printItems hl h.2 _ _ _ _ hs]
    simp

theorem resume?_printFields (hl : layout.Spaced) : ∀ {fields : List (Option String × Value)},
    (∀ field ∈ fields, field.2.Spelled) → ∀ (depth : Nat) (key : Option String) (v : Value)
      (done : List (Option String × Value)) (around : List Opened) {spaces : List Char},
      (∀ c ∈ spaces, Token.isSpace c = true) →
      ∀ rest, resume? (.following v, .object done key :: around)
          (printFields layout depth fields ++ (spaces ++ '}' :: rest)) =
        resume? (.following (.object (((key, v) :: done).reverse ++ fields)), around) rest
  | [], _, depth, key, v, done, around, spaces, hs, rest => by
    rw [printFields, List.nil_append, resume?_spaces hs, List.append_nil]
    exact resume?_mark (by decide) (fun _ => rfl) rfl rest
  | (next, w) :: fields, h, depth, key, v, done, around, spaces, hs, rest => by
    rw [List.forall_mem_cons] at h
    rw [printFields]
    simp only [List.append_assoc, List.cons_append]
    rw [resume?_mark (by decide) (fun _ => rfl) rfl, resume?_spaces (hl.lineBreak _),
      resume?_printField hl (readsBack hl h.1) _ rfl (stops_printFields _ _ hs _),
      resume?_printFields hl h.2 _ _ _ _ _ hs]
    simp

end

/-- What was printed of a value reads back as the value, white space after it or not. -/
theorem parse?_print_spaces (hl : layout.Spaced) {v : Value} (h : v.Spelled) {spaces : List Char}
    (hs : ∀ c ∈ spaces, Token.isSpace c = true) :
    parse? (String.ofList (v.print layout 0 ++ spaces)) = some v := by
  have hstops : Token.Stops spaces := by simpa using Token.stops_nil.append_spaces hs
  have hread := readsBack hl h 0 (.value, []) [] spaces (begins_value []) hstops
  have hend := resume?_spaces hs (.following v, []) []
  rw [List.append_nil] at hend
  rw [parse?_eq, String.toList_ofList, hread, hend]
  rfl

theorem parse?_print (hl : layout.Spaced) {v : Value} (h : v.Spelled) :
    parse? (String.ofList (v.print layout 0)) = some v := by
  simpa using parse?_print_spaces hl h (List.forall_mem_nil _)

end Print

end Value

end Investigations.Json
