import Mathlib.Data.List.DropRight
import Linewatch.Text.Blank

namespace Linewatch.Text

theorem trim_eq (l : List Char) : trim l = (l.dropWhile isBlank).rdropWhile isBlank := rfl

theorem trim_eq_nil_iff {l : List Char} : trim l = [] ↔ ∀ c ∈ l, isBlank c = true := by
  constructor
  · intro h c hc
    by_contra hb
    have hd : l.dropWhile isBlank ≠ [] := by
      rw [Ne, List.dropWhile_eq_nil_iff]
      exact fun hall => hb (hall c hc)
    have hall := List.rdropWhile_eq_nil_iff.mp h _ (List.head_mem hd)
    rw [List.head_dropWhile_not isBlank hd] at hall
    cases hall
  · intro h
    rw [trim_eq, List.dropWhile_eq_nil_iff.mpr h, List.rdropWhile_nil]

theorem isBlank_of_trimLeft_eq_cons {l rest : List Char} {c : Char} (h : trimLeft l = c :: rest) :
    isBlank c = false := by
  have hhead := List.head?_dropWhile_not isBlank l
  rwa [← trimLeft, h] at hhead

theorem exists_trimLeft_eq_append (l : List Char) :
    ∃ after, trimLeft l = trim l ++ after ∧ ∀ c ∈ after, isBlank c = true := by
  refine ⟨(l.dropWhile isBlank).rtakeWhile isBlank, ?_, fun c hc => List.mem_rtakeWhile_imp hc⟩
  rw [trim_eq, List.rdropWhile_append_rtakeWhile, trimLeft]

theorem trim_trimLeft (l : List Char) : trim (trimLeft l) = trim l := by
  rw [trim, trim, trimLeft, trimLeft, List.dropWhile_idempotent]

theorem mem_of_mem_trim {c : Char} {l : List Char} (h : c ∈ trim l) : c ∈ l :=
  List.dropWhile_subset isBlank ((List.rdropWhile_prefix isBlank _).subset h)

def IsTrimmed (l : List Char) : Prop :=
  (∀ c ∈ l.head?, isBlank c = false) ∧ ∀ c ∈ l.getLast?, isBlank c = false

theorem isTrimmed_trim (l : List Char) : IsTrimmed (trim l) := by
  by_cases hn : trim l = []
  · simp [IsTrimmed, hn]
  · rw [IsTrimmed, List.head?_eq_some_head hn, List.getLast?_eq_some_getLast hn]
    have hp : trim l <+: l.dropWhile isBlank := List.rdropWhile_prefix isBlank _
    constructor
    · rintro c ⟨⟩
      rw [hp.head hn]
      exact List.head_dropWhile_not isBlank _
    · rintro c ⟨⟩
      exact Bool.eq_false_iff.mpr (List.rdropWhile_last_not isBlank _ hn)

theorem IsTrimmed.trim_eq {l : List Char} (h : IsTrimmed l) : trim l = l := by
  have hl : l.dropWhile isBlank = l := by
    cases l with
    | nil => rfl
    | cons c l => rw [List.dropWhile_cons_of_neg (by simp [h.1 c rfl])]
  rw [Text.trim_eq, hl, List.rdropWhile_eq_self_iff]
  intro hne hb
  rw [h.2 _ (List.getLast?_eq_some_getLast hne)] at hb
  cases hb

end Linewatch.Text
