/-
The report on statistics, read back. A reader finds the numbers in a text, each with the words after it
(`figures_flatMap`). In a report each counter has words of its own, so its value is found by them
(`reported?_report`).
-/
import Investigations.Statistics.Basic
import Mathlib.Data.List.TakeWhile
import Mathlib.Tactic

namespace Investigations

/-! ## Numbers in a text -/

namespace Text

/-- The numbers in a text, each with the words that follow up to the next one. The number that is being
read has these digits so far. -/
def figures : List Char → List Char → List (Nat × String)
  | digits, [] => if digits = [] then [] else [(Nat.ofDigitChars 10 digits 0, "")]
  | digits, c :: rest =>
    if c.isDigit then figures (digits ++ [c]) rest
    else if digits = [] then figures [] rest
    else
      (Nat.ofDigitChars 10 digits 0, String.ofList ((c :: rest).takeWhile (! ·.isDigit))) ::
        figures [] rest

/-- A number and the words after it. -/
def figureText (figure : Nat × String) : List Char :=
  Nat.toDigits 10 figure.1 ++ figure.2.toList

theorem figures_words {words : List Char} (h : words.all (! ·.isDigit) = true) (rest : List Char) :
    figures [] (words ++ rest) = figures [] rest := by
  induction words with
  | nil => rfl
  | cons c words ih =>
    rw [List.all_cons, Bool.and_eq_true, Bool.not_eq_true'] at h
    rw [List.cons_append, figures, h.1, if_neg (by decide), if_pos rfl, ih h.2]

theorem figures_digits {more : List Char} (h : ∀ c ∈ more, c.isDigit = true)
    (digits rest : List Char) : figures digits (more ++ rest) = figures (digits ++ more) rest := by
  induction more generalizing digits with
  | nil => rw [List.nil_append, List.append_nil]
  | cons c more ih =>
    obtain ⟨hc, hmore⟩ := List.forall_mem_cons.1 h
    rw [List.cons_append, figures, if_pos hc, ih hmore, List.append_assoc, List.singleton_append]

/-- A number goes up to the words after it, and these go up to the next number. -/
theorem figures_figureText {figure : Nat × String} (hne : figure.2.toList ≠ [])
    (hw : figure.2.toList.all (! ·.isDigit) = true) {rest : List Char}
    (hr : ∀ c ∈ rest.head?, c.isDigit = true) :
    figures [] (figureText figure ++ rest) = figure :: figures [] rest := by
  have htake : (figure.2.toList ++ rest).takeWhile (! ·.isDigit) = figure.2.toList := by
    rw [List.takeWhile_append_of_pos (List.all_eq_true.1 hw)]
    cases rest with
    | nil => simp
    | cons c rest => simp [hr c rfl]
  have hdigits : ∀ c ∈ Nat.toDigits 10 figure.1, c.isDigit = true :=
    fun c hc => Nat.isDigit_of_mem_toDigits (by omega) (by omega) hc
  rw [figureText, List.append_assoc, figures_digits hdigits, List.nil_append]
  rcases hwords : figure.2.toList with _ | ⟨c, words⟩
  · exact absurd hwords hne
  · rw [hwords] at hw htake
    rw [List.all_cons, Bool.and_eq_true, Bool.not_eq_true'] at hw
    rw [List.cons_append] at htake ⊢
    rw [figures, hw.1, if_neg (by decide), if_neg Nat.toDigits_ne_nil, htake,
      Nat.ofDigitChars_ten_toDigits, ← hwords, String.ofList_toList, figures_words hw.2]

/-- Numbers with words after each are found in the text that they make up. -/
theorem figures_flatMap {list : List (Nat × String)}
    (h : ∀ figure ∈ list, figure.2.toList ≠ [] ∧ figure.2.toList.all (! ·.isDigit) = true) :
    figures [] (list.flatMap figureText) = list := by
  induction list with
  | nil => rfl
  | cons figure list ih =>
    obtain ⟨⟨hne, hw⟩, hlist⟩ := List.forall_mem_cons.1 h
    rw [List.flatMap_cons, figures_figureText hne hw, ih hlist]
    -- What comes next begins with the digits of a number.
    intro c hc
    cases list with
    | nil => cases hc
    | cons next list =>
      rw [List.flatMap_cons, figureText, List.append_assoc,
        List.head?_append_of_ne_nil _ Nat.toDigits_ne_nil] at hc
      exact Nat.isDigit_of_mem_toDigits (by omega) (by omega) (List.mem_of_head? hc)

end Text

/-! ## Reports -/

open Text

/-- The words after the value of a counter in a report. -/
def Counter.words : Counter → String
  | .assignedInvestigations => " investigations assigned;\n"
  | .wrongInvestigations => " of them were wrong;\n"
  | .shownButtons => " shown suggestions;\n"
  | .clickedButtons => " of assignments from them;\n"
  | .savedSuggestions => " suggestions saved in "
  | .buildsWithSuggestions => " builds.\n"

/-- The counters in the order of a report. -/
def Counter.reported : List Counter :=
  [.assignedInvestigations, .wrongInvestigations, .shownButtons, .clickedButtons, .savedSuggestions,
    .buildsWithSuggestions]

namespace Statistics

/-- The value that a report tells of a counter: the number in front of the counter's words. -/
def reported? (text : String) (counter : Counter) : Option Nat :=
  ((figures [] text.toList).find? fun figure => figure.2 = counter.words).map (·.1)

/-- A report has a heading, and the value of each counter in front of its words. -/
theorem toList_report (statistics : Statistics) :
    statistics.report.toList = "Short statistics of plugin usage:\n".toList ++
      (Counter.reported.map fun counter =>
        ((statistics.get counter).toNat, counter.words)).flatMap figureText := by
  have hcount : ∀ n : Nat, (toString n).toList = Nat.toDigits 10 n := by
    intro n
    rw [Nat.toString_eq_repr, Nat.toList_repr]
  unfold report
  simp only [String.toList_append, hcount, List.append_assoc, Counter.reported, List.map_cons,
    List.map_nil, List.flatMap_cons, List.flatMap_nil, figureText, Counter.words, List.append_nil]

theorem reported?_report (statistics : Statistics) (counter : Counter) :
    reported? statistics.report counter = some (statistics.get counter).toNat := by
  have hheading : "Short statistics of plugin usage:\n".toList.all (! ·.isDigit) = true := by
    decide +kernel
  have hwords : ∀ counter ∈ Counter.reported, counter.words.toList ≠ [] ∧
      counter.words.toList.all (! ·.isDigit) = true := by decide +kernel
  have hfind : Counter.reported.find? (fun other => other.words = counter.words) = some counter := by
    cases counter <;> decide +kernel
  rw [reported?, toList_report, figures_words hheading, figures_flatMap, List.find?_map]
  · simp only [Function.comp_def, hfind, Option.map_some]
  · intro figure hf
    obtain ⟨other, hm, rfl⟩ := List.mem_map.1 hf
    exact hwords other hm

end Statistics

end Investigations
