/-
The counters of plugin usage. A counter has 64 bits and stays at its greatest value once it gets
there.
-/
import Investigations.Json.Value

namespace Investigations

/-- What is counted. -/
inductive Counter where
  | shownButtons
  | clickedButtons
  | assignedInvestigations
  | wrongInvestigations
  | buildsWithSuggestions
  | savedSuggestions
deriving DecidableEq, Repr

namespace Counter

/-- All counters, in the order in which they are shown and saved. -/
def all : List Counter :=
  [.shownButtons, .clickedButtons, .assignedInvestigations, .wrongInvestigations,
    .buildsWithSuggestions, .savedSuggestions]

/-- The name of a counter in texts. -/
def name : Counter → String
  | .shownButtons => "shownButtonsCount"
  | .clickedButtons => "clickedButtonsCount"
  | .assignedInvestigations => "assignedInvestigationsCount"
  | .wrongInvestigations => "wrongInvestigationsCount"
  | .buildsWithSuggestions => "buildWithSuggestionsCount"
  | .savedSuggestions => "savedSuggestionsCount"

/-- The counter with a name. -/
def ofName? (name : String) : Option Counter :=
  all.find? fun counter => counter.name = name

theorem mem_all (counter : Counter) : counter ∈ all := by
  cases counter <;> decide

theorem name_injective {a b : Counter} (h : a.name = b.name) : a = b := by
  cases a <;> cases b <;> first | rfl | exact absurd h (by decide)

@[simp] theorem ofName?_name (counter : Counter) : ofName? counter.name = some counter := by
  cases counter <;> decide

end Counter

/-- The greatest value of a counter. -/
def counterLimit : Nat := UInt64.size - 1

/-- A counter's value after counting `amount` more, which takes it to its greatest value at most. -/
def addSaturating (value : UInt64) (amount : Nat) : UInt64 :=
  UInt64.ofNat (min counterLimit (value.toNat + amount))

@[simp] theorem toNat_addSaturating (value : UInt64) (amount : Nat) :
    (addSaturating value amount).toNat = min counterLimit (value.toNat + amount) := by
  unfold addSaturating
  rw [UInt64.toNat_ofNat']
  have : counterLimit = 18446744073709551615 := by decide
  omega

end Investigations
