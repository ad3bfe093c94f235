import Mathlib.Data.List.TakeWhile
import Linewatch.Unicode.Category
import Linewatch.Unicode.Word
import Linewatch.Proofs.Unicode.Table

namespace Linewatch.Unicode

variable {c : Char}

def isMark (c : Char) : Bool := (categoryTable? "mark").any (·.contains c)

def holdsRun (range run : Nat × Nat) : Bool := range.1 ≤ run.1 && run.2 ≤ range.2 + 1

def within (runs : List (Nat × Nat)) : List (Nat × Nat) → Bool
  | [] => runs.isEmpty
  | range :: ranges => within (runs.dropWhile (holdsRun range)) ranges

theorem exists_range_of_within {runs ranges : List (Nat × Nat)} {n : Nat}
    (h : within runs ranges = true) (hn : RunTable.Reaches runs n) :
    ∃ r ∈ ranges, r.1 ≤ n ∧ n ≤ r.2 := by
  induction ranges generalizing runs with
  | nil =>
    obtain ⟨run, hrun, -⟩ := hn
    rw [List.isEmpty_iff.mp h] at hrun
    cases hrun
  | cons range ranges ih =>
    rw [← List.takeWhile_append_dropWhile (p := holdsRun range) (l := runs),
      RunTable.reaches_append] at hn
    obtain ⟨run, hrun, hlow, hhigh⟩ | hn := hn
    · have hholds := List.mem_takeWhile_imp hrun
      simp only [holdsRun, Bool.and_eq_true, decide_eq_true_eq] at hholds
      exact ⟨range, List.mem_cons_self, by omega, by omega⟩
    · obtain ⟨r, hr, hn⟩ := ih h hn
      exact ⟨r, List.mem_cons_of_mem _ hr, hn⟩

def markRuns (text : List Char) : List (Nat × Nat) :=
  RunTable.kept [5, 6, 7].contains (RunTable.ofPairs 0 (readNumerals 0 text))

set_option maxRecDepth 2000 in
theorem exists_text_categoryRuns : ∃ text, categoryRuns = .ofText (String.ofList text) ∧
    (((markRuns text).all fun run => 128 ≤ run.1) &&
      within (markRuns text) (CharTable.rangesOfGaps 0 wordGaps)) = true := by
  refine ⟨?text, ?runs, ?within⟩
  case runs =>
    delta categoryRuns
    apply congrArg
    with_reducible rfl
  case within => decide +kernel

theorem isWord_of_isMark (h : isMark c = true) : isWord c = true := by
  obtain ⟨text, hruns, hall⟩ := exists_text_categoryRuns
  obtain ⟨hbeyond, hwithin⟩ := Bool.and_eq_true_iff.mp hall
  have hmark : (categoryRuns.table [5, 6, 7].contains).contains c = true := h
  have hreaches := RunTable.reaches_kept_of_contains hmark
  rw [hruns, RunTable.ofText, numerals_ofList] at hreaches
  obtain ⟨run, hrun, hlow, -⟩ := id hreaches
  have hfirst := List.all_eq_true.mp hbeyond run hrun
  obtain ⟨r, hr, hn⟩ := exists_range_of_within hwithin hreaches
  have hc : ¬ c.toNat < 128 := by
    simp only [decide_eq_true_eq] at hfirst
    omega
  rw [isWord, if_neg hc]
  exact CharTable.contains_of_range (CharTable.ascending_ofGaps wordGaps) hr hn

end Linewatch.Unicode
