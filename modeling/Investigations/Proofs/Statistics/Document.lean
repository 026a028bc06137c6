/-
Statistics as a JSON text. The text of any statistics reads back as the very statistics, with a value
for exactly the counters that had one, zeros included (`parse?_pretty`). Counting takes statistics to
greater ones (`within_increase`), so a count that is on disk is never undone by a later one.
-/
import Investigations.Proofs.Json.Print
import Investigations.Statistics.Basic

namespace Investigations

open Json

/-! ## Values of counters -/

namespace CounterValues

/-- The values after some are set, one after the other. -/
def setAll (start : CounterValues) (entries : List (Counter × UInt64)) : CounterValues :=
  entries.foldl (fun values entry => values.set entry.1 entry.2) start

theorem get?_setAll (values start : CounterValues) (counters : List Counter) (counter : Counter) :
    (start.setAll (counters.filterMap fun c => (values.get? c).map (c, ·))).get? counter =
      (if counter ∈ counters then values.get? counter else none).or (start.get? counter) := by
  induction counters generalizing start with
  | nil => rfl
  | cons c counters ih =>
    rcases hc : values.get? c with _ | value
    · rw [List.filterMap_cons, hc, Option.map_none, ih]
      by_cases he : counter = c
      · subst he
        simp [hc]
      · simp [he]
    · rw [List.filterMap_cons, hc, Option.map_some, setAll, List.foldl_cons, ← setAll, ih, get?_set]
      by_cases he : counter = c
      · subst he
        by_cases hm : counter ∈ counters <;> simp [hc, hm]
      · simp [he]

/-- Setting all values that there are gives the values. -/
theorem setAll_toList (values : CounterValues) : setAll {} values.toList = values := by
  refine ext_get? fun counter => ?_
  have hnone : ({} : CounterValues).get? counter = none := by cases counter <;> rfl
  rw [toList, get?_setAll, if_pos counter.mem_all, hnone, Option.or_none]

end CounterValues

namespace Statistics

/-! ## The text of statistics -/

theorem valuesOfFields?_entries (entries : List (Counter × UInt64)) :
    valuesOfFields? (entries.map fun entry => (some entry.1.name, .ofWord entry.2)) =
      some (CounterValues.setAll {} entries) := by
  unfold valuesOfFields? CounterValues.setAll
  generalize ({} : CounterValues) = start
  induction entries generalizing start with
  | nil => rfl
  | cons entry entries ih =>
    rw [List.map_cons, List.foldlM_cons, List.foldl_cons, ← ih]
    simp

theorem valuesOfJson?_entries (values : CounterValues) :
    valuesOfJson? (.ofFields (values.toList.map fun entry => (entry.1.name, .ofWord entry.2))) =
      some values := by
  have hfields := valuesOfFields?_entries values.toList
  rw [CounterValues.setAll_toList] at hfields
  unfold Value.ofFields valuesOfJson?
  rw [List.map_map]
  exact hfields

theorem ofJson?_toJson (statistics : Statistics) : ofJson? statistics.toJson = some statistics := by
  have hvalues := valuesOfJson?_entries statistics.values
  unfold toJson
  generalize Value.ofFields (statistics.values.toList.map fun entry =>
    (entry.1.name, Value.ofWord entry.2)) = values at hvalues ⊢
  have hfields : ∀ version : Value,
      let fields := [(some "version", version), (some "values", values)]
      fields.all (fun entry => entry.1.isSome) = true ∧
        Value.field? "version" fields = some (some version) ∧
        Value.field? "values" fields = some (some values) := by
    intro version
    simp [Value.field?]
  obtain ⟨hnames, hfirst, hsecond⟩ := hfields (.ofText statistics.version)
  unfold Value.ofFields ofJson?
  simp only [List.map_cons, List.map_nil, hnames, hfirst, hsecond, Value.text?_ofText, hvalues,
    guard_true, Option.pure_def, Option.bind_eq_bind, Option.bind_some]

theorem spelled_toJson (statistics : Statistics) : statistics.toJson.Spelled := by
  refine Value.spelled_ofFields fun field hf => ?_
  simp only [List.mem_cons, List.not_mem_nil, or_false] at hf
  rcases hf with rfl | rfl
  · exact Value.spelled_ofText _
  · refine Value.spelled_ofFields fun entry he => ?_
    obtain ⟨value, -, rfl⟩ := List.mem_map.1 he
    exact Value.spelled_ofWord _

/-- The text of statistics reads back as the statistics. -/
theorem parse?_pretty (statistics : Statistics) :
    (Value.parse? statistics.toJson.pretty).bind ofJson? = some statistics := by
  rw [Value.pretty, Value.parse?_print Layout.spaced_pretty statistics.spelled_toJson,
    Option.bind_some, ofJson?_toJson]

/-! ## Counting goes up -/

/-- All that some statistics have is in others, where the values may be greater. -/
structure Within (a b : Statistics) : Prop where
  version : a.version = b.version
  value : ∀ counter x, a.values.get? counter = some x →
    ∃ y, b.values.get? counter = some y ∧ x ≤ y

theorem Within.refl (a : Statistics) : Within a a := ⟨rfl, fun _ x hx => ⟨x, hx, UInt64.le_refl x⟩⟩

theorem Within.trans {a b c : Statistics} (h : Within a b) (h' : Within b c) : Within a c := by
  refine ⟨h.version.trans h'.version, fun counter x hx => ?_⟩
  obtain ⟨y, hy, hxy⟩ := h.value counter x hx
  obtain ⟨z, hz, hyz⟩ := h'.value counter y hy
  exact ⟨z, hz, UInt64.le_trans hxy hyz⟩

theorem Within.antisymm {a b : Statistics} (h : Within a b) (h' : Within b a) : a = b := by
  have hvalues : a.values = b.values := by
    refine CounterValues.ext_get? fun counter => ?_
    rcases ha : a.values.get? counter with _ | x
    · rcases hb : b.values.get? counter with _ | y
      · rfl
      · obtain ⟨x, hx, -⟩ := h'.value counter y hb
        rw [ha] at hx
        cases hx
    · obtain ⟨y, hb, hxy⟩ := h.value counter x ha
      obtain ⟨x', hx', hyx⟩ := h'.value counter y hb
      rw [ha] at hx'
      cases hx'
      rw [hb, UInt64.le_antisymm hxy hyx]
  cases a
  cases b
  exact congrArg₂ Statistics.mk h.version hvalues

theorem le_addSaturating (value : UInt64) (amount : Nat) : value ≤ addSaturating value amount := by
  rw [UInt64.le_iff_toNat_le, toNat_addSaturating]
  have := value.toNat_lt
  unfold counterLimit UInt64.size
  omega

theorem get_increase (statistics : Statistics) (counter other : Counter) (amount : Nat) :
    (statistics.increase counter amount).get other =
      if other = counter then addSaturating (statistics.get counter) amount
      else statistics.get other := by
  rw [get, increase]
  dsimp only
  rw [CounterValues.get?_set]
  split <;> rfl

theorem within_increase (statistics : Statistics) (counter : Counter) (amount : Nat) :
    Within statistics (statistics.increase counter amount) := by
  refine ⟨rfl, fun other x hx => ?_⟩
  rw [increase]
  dsimp only
  rw [CounterValues.get?_set]
  by_cases he : other = counter
  · subst he
    refine ⟨_, if_pos rfl, ?_⟩
    rw [get, hx, Option.getD_some]
    exact le_addSaturating x amount
  · exact ⟨x, by rw [if_neg he, hx], UInt64.le_refl x⟩

end Statistics

end Investigations
