/-
Cutting a list at a separator: at every occurrence (`split`), or at the first one only (`cut?`).
Both work on bytes and on characters alike.
-/
namespace Investigations.Lines

variable {α : Type} [DecidableEq α]

/-- The piece before the first separator, and the pieces after each separator. There is always a
first piece, and there is one more piece for each separator. -/
def split (sep : α) : List α → List α × List (List α)
  | [] => ([], [])
  | a :: rest =>
    let pieces := split sep rest
    if a = sep then ([], pieces.1 :: pieces.2) else (a :: pieces.1, pieces.2)

/-- All pieces between separators, in order. -/
def pieces (sep : α) (text : List α) : List (List α) :=
  (split sep text).1 :: (split sep text).2

/-- What stands before and after the first separator, if there is one. -/
def cut? (sep : α) : List α → Option (List α × List α)
  | [] => none
  | a :: rest =>
    if a = sep then some ([], rest) else (cut? sep rest).map fun (before, after) => (a :: before, after)

/-- The text without `last` at its end, if that is how it ends. One occurrence goes, not all. -/
def dropOne (last : α) (text : List α) : List α :=
  if text.getLast? = some last then text.dropLast else text

theorem length_split (sep : α) (text : List α) : (split sep text).2.length = text.count sep := by
  induction text with
  | nil => rfl
  | cons a rest ih =>
    by_cases h : a = sep
    · simp [split, h, ih]
    · simp [split, h, ih]

theorem cut?_eq_some_iff {sep : α} {text before after : List α} :
    cut? sep text = some (before, after) ↔ sep ∉ before ∧ text = before ++ sep :: after := by
  induction text generalizing before with
  | nil => simp [cut?]
  | cons a rest ih =>
    by_cases h : a = sep
    · subst h
      cases before with
      | nil => simp [cut?]
      | cons b before => simp [cut?]; rintro hb _ rfl; exact absurd rfl hb
    · cases before with
      | nil => simp [cut?, h]
      | cons b before =>
        simp only [cut?, h, if_false, Option.map_eq_some_iff, Prod.exists, Prod.mk.injEq,
          List.cons.injEq, List.mem_cons, not_or, List.cons_append]
        constructor
        · rintro ⟨x, y, hxy, ⟨rfl, rfl⟩, rfl⟩
          obtain ⟨hn, rfl⟩ := ih.1 hxy
          exact ⟨⟨Ne.symm h, hn⟩, rfl, rfl⟩
        · rintro ⟨⟨_, hn⟩, rfl, rfl⟩
          exact ⟨before, after, ih.2 ⟨hn, rfl⟩, ⟨rfl, rfl⟩, rfl⟩

theorem cut?_eq_none_iff {sep : α} {text : List α} : cut? sep text = none ↔ sep ∉ text := by
  induction text with
  | nil => simp [cut?]
  | cons a rest ih =>
    by_cases h : a = sep
    · simp [cut?, h]
    · simp [cut?, h, ih, Ne.symm h]

end Investigations.Lines
