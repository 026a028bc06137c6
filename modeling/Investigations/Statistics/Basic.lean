/-
Statistics of plugin usage: a version, and the values of the counters that have one. A counter
without a value stands at zero, yet statistics tell a zero that was written from one that was not.
-/
import Investigations.Json.Print
import Investigations.Statistics.Counter

namespace Investigations

open Json

/-- The values of counters. -/
structure CounterValues where
  shownButtons : Option UInt64 := none
  clickedButtons : Option UInt64 := none
  assignedInvestigations : Option UInt64 := none
  wrongInvestigations : Option UInt64 := none
  buildsWithSuggestions : Option UInt64 := none
  savedSuggestions : Option UInt64 := none
deriving DecidableEq, Repr, Inhabited

namespace CounterValues

/-- The value of a counter, if it has one. -/
def get? (values : CounterValues) : Counter → Option UInt64
  | .shownButtons => values.shownButtons
  | .clickedButtons => values.clickedButtons
  | .assignedInvestigations => values.assignedInvestigations
  | .wrongInvestigations => values.wrongInvestigations
  | .buildsWithSuggestions => values.buildsWithSuggestions
  | .savedSuggestions => values.savedSuggestions

/-- The values with this one for a counter. -/
def set (values : CounterValues) (counter : Counter) (value : UInt64) : CounterValues :=
  match counter with
  | .shownButtons => { values with shownButtons := some value }
  | .clickedButtons => { values with clickedButtons := some value }
  | .assignedInvestigations => { values with assignedInvestigations := some value }
  | .wrongInvestigations => { values with wrongInvestigations := some value }
  | .buildsWithSuggestions => { values with buildsWithSuggestions := some value }
  | .savedSuggestions => { values with savedSuggestions := some value }

/-- The counters that have a value, in order. -/
def toList (values : CounterValues) : List (Counter × UInt64) :=
  Counter.all.filterMap fun counter => (values.get? counter).map (counter, ·)

theorem get?_set (values : CounterValues) (counter other : Counter) (value : UInt64) :
    (values.set counter value).get? other =
      if other = counter then some value else values.get? other := by
  cases counter <;> cases other <;> rfl

theorem ext_get? {a b : CounterValues} (h : ∀ counter, a.get? counter = b.get? counter) : a = b := by
  cases a
  cases b
  have h1 := h .shownButtons
  have h2 := h .clickedButtons
  have h3 := h .assignedInvestigations
  have h4 := h .wrongInvestigations
  have h5 := h .buildsWithSuggestions
  have h6 := h .savedSuggestions
  simp only [get?] at h1 h2 h3 h4 h5 h6
  subst h1 h2 h3 h4 h5 h6
  rfl

end CounterValues

/-- The version that a statistics file has to have. -/
def statisticsVersion : String := "1.6"

/-- Statistics of plugin usage. Fresh statistics have the current version and no values. -/
structure Statistics where
  version : String := statisticsVersion
  values : CounterValues := {}
deriving DecidableEq, Repr, Inhabited

namespace Statistics

/-- Statistics before anything is counted. -/
def fresh : Statistics := {}

/-- The value of a counter, which is zero if nothing was counted. -/
def get (statistics : Statistics) (counter : Counter) : UInt64 :=
  (statistics.values.get? counter).getD 0

/-- The statistics after counting `amount` more. The counter has a value from then on, even if the
amount is zero. -/
def increase (statistics : Statistics) (counter : Counter) (amount : Nat) : Statistics :=
  { statistics with
    values := statistics.values.set counter (addSaturating (statistics.get counter) amount) }

/-- The statistics in one line. -/
def summary (statistics : Statistics) : String :=
  ", ".intercalate
    (("version: " ++ statistics.version) ::
      Counter.all.map fun counter =>
        counter.name ++ ": " ++ toString (statistics.get counter).toNat)

/-- A short report on the use of the plugin. -/
def report (statistics : Statistics) : String :=
  let count (counter : Counter) : String := toString (statistics.get counter).toNat
  "Short statistics of plugin usage:\n" ++
    count .assignedInvestigations ++ " investigations assigned;\n" ++
    count .wrongInvestigations ++ " of them were wrong;\n" ++
    count .shownButtons ++ " shown suggestions;\n" ++
    count .clickedButtons ++ " of assignments from them;\n" ++
    count .savedSuggestions ++ " suggestions saved in " ++
    count .buildsWithSuggestions ++ " builds.\n"

/-! ## JSON -/

/-- The statistics as JSON. -/
def toJson (statistics : Statistics) : Value :=
  .ofFields [("version", .ofText statistics.version),
    ("values", .ofFields (statistics.values.toList.map fun (counter, value) =>
      (counter.name, .ofWord value)))]

/-- The values that the fields of an object give. Each field has to be a counter; of two fields
for one counter the later one counts. -/
def valuesOfFields? (fields : List (Option String × Value)) : Option CounterValues :=
  fields.foldlM (fun values (key, value) => do
    let counter ← Counter.ofName? (← key)
    let word ← value.word?
    return values.set counter word) {}

/-- The values that a JSON value stands for. -/
def valuesOfJson? : Value → Option CounterValues
  | .object fields => valuesOfFields? fields
  | _ => none

/-- The statistics that a JSON value stands for, of any version: an object, in which other fields
do not count, or an array with the version and the values. The values need not be given. -/
def ofJson? : Value → Option Statistics
  | .object fields => do
    guard (fields.all fun entry => entry.1.isSome)
    let version ← (← (← Value.field? "version" fields)).text?
    match ← Value.field? "values" fields with
    | none => return ⟨version, {}⟩
    | some values => return ⟨version, ← valuesOfJson? values⟩
  | .array [version] => return ⟨← version.text?, {}⟩
  | .array [version, values] => return ⟨← version.text?, ← valuesOfJson? values⟩
  | _ => none

end Statistics

end Investigations
