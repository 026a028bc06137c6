/-
Counting while the plugin runs: a reporter starts from the statistics on disk, counts in memory,
and saves when it is told to, if it may.
-/
import Investigations.Statistics.Store

namespace Investigations

open Files

/-- Something to be counted. -/
inductive Usage where
  | shownButton
  | clickedButton
  | assignedInvestigations (count : Nat)
  | wrongInvestigations (count : Nat)
  | buildWithSuggestions
  | savedSuggestions (count : Nat)
deriving DecidableEq, Repr

namespace Usage

/-- The counter that the usage goes to. -/
def counter : Usage → Counter
  | .shownButton => .shownButtons
  | .clickedButton => .clickedButtons
  | .assignedInvestigations _ => .assignedInvestigations
  | .wrongInvestigations _ => .wrongInvestigations
  | .buildWithSuggestions => .buildsWithSuggestions
  | .savedSuggestions _ => .savedSuggestions

/-- How much is counted. -/
def amount : Usage → Nat
  | .shownButton | .clickedButton | .buildWithSuggestions => 1
  | .assignedInvestigations count | .wrongInvestigations count | .savedSuggestions count => count

end Usage

/-- Statistics that are being counted, and the store they go to if saving is enabled. -/
structure Reporter where
  store : StatisticsStore
  statistics : Statistics
  enabled : Bool
deriving DecidableEq, Repr, Inhabited

namespace Reporter

/-- A reporter that never saves. -/
def inMemory : Reporter where
  store := .ofDataDirectory ⟨""⟩
  statistics := .fresh
  enabled := false

/-- A reporter that goes on from the statistics in a store, with what reading them logs. If they
can not be read there is no reporter. -/
def new (store : StatisticsStore) (enabled : Bool) (disk : Disk) :
    Except Error Reporter × List Event :=
  let loaded := store.read disk
  (loaded.answer.map fun statistics => ⟨loaded.store, statistics, enabled⟩, loaded.events)

/-- Counts a usage. -/
def report (reporter : Reporter) (usage : Usage) : Reporter :=
  { reporter with statistics := reporter.statistics.increase usage.counter usage.amount }

/-- Writes the statistics to the store, if saving is enabled. -/
def save (reporter : Reporter) (disk : Disk) : Outcome Unit × Reporter :=
  if reporter.enabled then
    let written := reporter.store.write disk reporter.statistics
    (written.1, { reporter with store := written.2 })
  else (⟨.ok (), disk, []⟩, reporter)

end Reporter

end Investigations
