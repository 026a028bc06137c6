/-
Counting a series of usages. A counter comes to what it was and the amounts that went to it, or to its
greatest value if that is less (`toNat_get_reportAll`), so the order of the usages does not count
(`reportAll_perm`). In whatever turns threads report what they have to report, the counts come to the
same in the end, and so does all that is made of them (`reportAll_exact`).
-/
import Investigations.Proofs.Statistics.Document
import Investigations.Statistics.Reporter

namespace Investigations

/-- A counter that got to its greatest value on the way has it in the end, too. -/
theorem addSaturating_addSaturating (value : UInt64) (amount more : Nat) :
    addSaturating (addSaturating value amount) more = addSaturating value (amount + more) := by
  apply UInt64.toNat_inj.1
  rw [toNat_addSaturating, toNat_addSaturating, toNat_addSaturating]
  omega

theorem Statistics.increase_comm (statistics : Statistics) (first second : Counter)
    (amount more : Nat) :
    (statistics.increase first amount).increase second more =
      (statistics.increase second more).increase first amount := by
  have hvalues : ((statistics.increase first amount).increase second more).values =
      ((statistics.increase second more).increase first amount).values := by
    apply CounterValues.ext_get?
    intro counter
    show ((statistics.increase first amount).values.set second
        (addSaturating ((statistics.increase first amount).get second) more)).get? counter =
      ((statistics.increase second more).values.set first
        (addSaturating ((statistics.increase second more).get first) amount)).get? counter
    rw [CounterValues.get?_set, CounterValues.get?_set, get_increase, get_increase, increase,
      increase]
    dsimp only
    rw [CounterValues.get?_set, CounterValues.get?_set]
    by_cases hsame : first = second
    · subst hsame
      rw [if_pos rfl, if_pos rfl, addSaturating_addSaturating, addSaturating_addSaturating,
        Nat.add_comm]
      split <;> rfl
    · rw [if_neg (Ne.symm hsame), if_neg hsame]
      by_cases hf : counter = first
      · subst hf
        rw [if_neg hsame, if_pos rfl, if_pos rfl]
      · rw [if_neg hf, if_neg hf]
  exact congrArg (Statistics.mk statistics.version) hvalues

theorem Statistics.get?_increase (statistics : Statistics) (counter other : Counter) (amount : Nat) :
    (statistics.increase counter amount).values.get? other =
      if other = counter then some (addSaturating (statistics.get counter) amount)
      else statistics.values.get? other := CounterValues.get?_set ..

theorem Statistics.Within.get_le {a b : Statistics} (h : Within a b) (counter : Counter) :
    a.get counter ≤ b.get counter := by
  unfold get
  rcases ha : a.values.get? counter with _ | x
  · exact UInt64.zero_le
  · obtain ⟨y, hb, hxy⟩ := h.value counter x ha
    rw [hb]
    exact hxy

/-- What a series of usages adds to a counter. -/
def Usage.total (counter : Counter) (usages : List Usage) : Nat :=
  ((usages.filter (·.counter = counter)).map Usage.amount).sum

theorem Usage.total_cons (counter : Counter) (usage : Usage) (usages : List Usage) :
    total counter (usage :: usages) =
      (if usage.counter = counter then usage.amount else 0) + total counter usages := by
  unfold total
  by_cases h : usage.counter = counter
  · rw [List.filter_cons_of_pos (by simpa using h), List.map_cons, List.sum_cons, if_pos h]
  · rw [List.filter_cons_of_neg (by simpa using h), if_neg h, Nat.zero_add]

theorem Usage.total_append (counter : Counter) (usages usages' : List Usage) :
    total counter (usages ++ usages') = total counter usages + total counter usages' := by
  unfold total
  rw [List.filter_append, List.map_append, List.sum_append]

namespace Reporter

/-- Counts usages one after the other. -/
def reportAll (reporter : Reporter) (usages : List Usage) : Reporter := usages.foldl report reporter

theorem reportAll_append (reporter : Reporter) (usages usages' : List Usage) :
    reporter.reportAll (usages ++ usages') = (reporter.reportAll usages).reportAll usages' :=
  List.foldl_append ..

theorem store_reportAll (reporter : Reporter) (usages : List Usage) :
    (reporter.reportAll usages).store = reporter.store := by
  induction usages generalizing reporter with
  | nil => rfl
  | cons usage rest ih => exact ih (reporter.report usage)

theorem report_comm (reporter : Reporter) (first second : Usage) :
    (reporter.report first).report second = (reporter.report second).report first := by
  unfold report
  dsimp only
  rw [Statistics.increase_comm]

theorem reportAll_perm (reporter : Reporter) {usages usages' : List Usage}
    (h : usages.Perm usages') : reporter.reportAll usages = reporter.reportAll usages' :=
  h.foldl_eq' (fun first _ second _ reporter => reporter.report_comm first second) reporter

theorem reportAll_comm (reporter : Reporter) (usages usages' : List Usage) :
    (reporter.reportAll usages).reportAll usages' =
      (reporter.reportAll usages').reportAll usages := by
  rw [← reportAll_append, ← reportAll_append]
  exact reporter.reportAll_perm List.perm_append_comm

theorem toNat_get_reportAll (reporter : Reporter) (usages : List Usage) (counter : Counter) :
    ((reporter.reportAll usages).statistics.get counter).toNat =
      min counterLimit
        ((reporter.statistics.get counter).toNat + Usage.total counter usages) := by
  induction usages generalizing reporter with
  | nil =>
    have := (reporter.statistics.get counter).toNat_lt
    show (reporter.statistics.get counter).toNat = min counterLimit (_ + 0)
    unfold counterLimit UInt64.size
    omega
  | cons usage rest ih =>
    show (((reporter.report usage).reportAll rest).statistics.get counter).toNat = _
    rw [ih, Usage.total_cons, report]
    dsimp only
    rw [Statistics.get_increase]
    by_cases h : counter = usage.counter
    · subst h
      rw [if_pos rfl, if_pos rfl, toNat_addSaturating]
      omega
    · rw [if_neg h, if_neg (Ne.symm h), Nat.zero_add]

/-- A counter has a value once something went to it, be it zero. -/
theorem isSome_get?_reportAll (reporter : Reporter) (usages : List Usage) (counter : Counter) :
    ((reporter.reportAll usages).statistics.values.get? counter).isSome ↔
      (reporter.statistics.values.get? counter).isSome ∨
        ∃ usage ∈ usages, usage.counter = counter := by
  induction usages generalizing reporter with
  | nil => simp [reportAll]
  | cons usage rest ih =>
    show (((reporter.report usage).reportAll rest).statistics.values.get? counter).isSome ↔ _
    rw [ih, report, List.exists_mem_cons_iff]
    dsimp only
    rw [Statistics.get?_increase]
    by_cases h : usage.counter = counter
    · simp [h]
    · simp [h, Ne.symm h]

/-- A counter that nothing goes to stays as it is, with a value or without. -/
theorem get?_reportAll_of_ne (reporter : Reporter) {usages : List Usage} {counter : Counter}
    (h : ∀ usage ∈ usages, usage.counter ≠ counter) :
    (reporter.reportAll usages).statistics.values.get? counter =
      reporter.statistics.values.get? counter := by
  induction usages generalizing reporter with
  | nil => rfl
  | cons usage rest ih =>
    rw [List.forall_mem_cons] at h
    show ((reporter.report usage).reportAll rest).statistics.values.get? counter = _
    rw [ih _ h.2, report]
    dsimp only
    rw [Statistics.get?_increase, if_neg (Ne.symm h.1)]

theorem within_reportAll (reporter : Reporter) (usages : List Usage) :
    reporter.statistics.Within (reporter.reportAll usages).statistics := by
  induction usages generalizing reporter with
  | nil => exact .refl _
  | cons usage rest ih =>
    exact (Statistics.within_increase reporter.statistics usage.counter usage.amount).trans
      (ih (reporter.report usage))

/-! ## Threads -/

/-- The series that threads with usages to report can come to. At each turn one of them, whichever it is,
reports its next usage, until none has any left. -/
inductive Turns : List (List Usage) → List Usage → Prop
  | done {threads : List (List Usage)} (h : ∀ thread ∈ threads, thread = []) : Turns threads []
  | turn (before : List (List Usage)) {after : List (List Usage)} {thread series : List Usage}
      (usage : Usage) (h : Turns (before ++ thread :: after) series) :
      Turns (before ++ (usage :: thread) :: after) (usage :: series)

/-- Whichever thread has its turn, in the end all of them have reported what they had. -/
theorem Turns.perm {threads : List (List Usage)} {series : List Usage} (h : Turns threads series) :
    series.Perm threads.flatten := by
  induction h with
  | done h => rw [List.flatten_eq_nil_iff.2 h]
  | @turn before after thread series usage h ih =>
    rw [List.flatten_append, List.flatten_cons] at ih ⊢
    exact (ih.cons usage).trans List.perm_middle.symm

/-- Counts are exact. Whatever a reporter starts from and whatever is reported to it, each counter comes to
what it was and the sum of the amounts that went to it, or to its greatest value if that is less; it has
a value exactly if it had one or something went to it, and it never goes down on the way. The order does
not count: a series in any other order, such as another one that the threads could have come to, gives
the same counts, the same bytes when they are saved, and the same report. -/
theorem reportAll_exact (reporter : Reporter) (usages : List Usage) :
    let reported := reporter.reportAll usages
    (∀ counter, (reported.statistics.get counter).toNat =
      min counterLimit
        ((reporter.statistics.get counter).toNat + Usage.total counter usages)) ∧
    (∀ counter, (reported.statistics.values.get? counter).isSome ↔
      (reporter.statistics.values.get? counter).isSome ∨
        ∃ usage ∈ usages, usage.counter = counter) ∧
    (∀ earlier later, earlier <+: later → later <+: usages → ∀ counter,
      (reporter.reportAll earlier).statistics.get counter ≤
        (reporter.reportAll later).statistics.get counter) ∧
    ∀ series,
      (usages.Perm series ∨ ∃ threads, Turns threads usages ∧ Turns threads series) →
        let other := reporter.reportAll series
        other.statistics = reported.statistics ∧
        (∀ disk, other.save disk = reported.save disk) ∧
        StatisticsStore.encode other.statistics = StatisticsStore.encode reported.statistics ∧
        other.statistics.report = reported.statistics.report := by
  refine ⟨reporter.toNat_get_reportAll usages, reporter.isSome_get?_reportAll usages, ?_, ?_⟩
  · rintro earlier later ⟨more, rfl⟩ - counter
    rw [reportAll_append]
    exact ((reporter.reportAll earlier).within_reportAll more).get_le counter
  · intro series h
    have hperm : usages.Perm series := by
      rcases h with h | ⟨threads, h, h'⟩
      · exact h
      · exact h.perm.trans h'.perm.symm
    rw [reporter.reportAll_perm hperm]
    exact ⟨rfl, fun _ => rfl, rfl, rfl⟩

/-- Two threads, one of which takes a counter to its greatest value, while the other reports on it, too, and
reports a zero. -/
theorem reportAll_exact_full :
    let reporter := inMemory.report (.savedSuggestions 7)
    let threads : List (List Usage) :=
      [[.savedSuggestions counterLimit, .clickedButton], [.wrongInvestigations 0, .savedSuggestions 1]]
    let usages : List Usage := [.savedSuggestions counterLimit, .clickedButton,
      .wrongInvestigations 0, .savedSuggestions 1]
    let series : List Usage := [.wrongInvestigations 0, .savedSuggestions counterLimit,
      .savedSuggestions 1, .clickedButton]
    Turns threads usages ∧ Turns threads series ∧
      ((reporter.reportAll usages).statistics.get .savedSuggestions).toNat = counterLimit ∧
      ((reporter.reportAll usages).statistics.values.get? .wrongInvestigations).isSome ∧
      (reporter.reportAll series).statistics = (reporter.reportAll usages).statistics := by
  intro reporter threads usages series
  have hdone : Turns [[], []] [] := .done (by simp)
  have husages : Turns threads usages :=
    .turn [] _ (.turn [] _ (.turn [[]] _ (.turn [[]] _ hdone)))
  have hseries : Turns threads series :=
    .turn [_] _ (.turn [] _ (.turn [_] _ (.turn [] _ hdone)))
  obtain ⟨hget, hvalue, -, hsame⟩ := reportAll_exact reporter usages
  refine ⟨husages, hseries, ?_, ?_, (hsame series (.inr ⟨threads, husages, hseries⟩)).1⟩
  · rw [hget]
    decide +kernel
  · exact (hvalue .wrongInvestigations).2 (.inr ⟨.wrongInvestigations 0, by simp [usages], rfl⟩)

end Reporter

end Investigations
