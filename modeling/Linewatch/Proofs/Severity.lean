import Linewatch.Severity

namespace Linewatch.Severity

theorem rank_injective {a b : Severity} (h : a.rank = b.rank) : a = b := by
  cases a <;> cases b <;> first | rfl | cases h

instance : Std.IsLinearOrder Severity :=
  .of_le ⟨fun _ _ h h' => rank_injective (Nat.le_antisymm h h')⟩
    ⟨fun h h' => Nat.le_trans h h'⟩ ⟨fun a b => Nat.le_total a.rank b.rank⟩

theorem max_eq (a b : Severity) : max a b = if a ≤ b then b else a := rfl

instance : Std.LawfulOrderMax Severity where
  max_le_iff a b c := by
    rw [max_eq]
    by_cases h : a ≤ b
    · rw [if_pos h]
      exact ⟨fun hb => ⟨Std.le_trans h hb, hb⟩, And.right⟩
    · rw [if_neg h]
      have hba : b ≤ a := (Std.le_total (a := a) (b := b)).resolve_left h
      exact ⟨fun ha => ⟨ha, Std.le_trans hba ha⟩, And.left⟩
  max_eq_or a b := by
    rw [max_eq]
    by_cases h : a ≤ b
    · exact .inr (if_pos h)
    · exact .inl (if_neg h)

theorem not_lt {a b : Severity} : ¬ a < b ↔ b ≤ a := Nat.not_lt

theorem le_critical (a : Severity) : a ≤ critical := by
  cases a <;> decide

theorem max?_append (l m : List Severity) : (l ++ m).max? = max l.max? m.max? := by
  induction l with
  | nil =>
    rw [List.nil_append]
    cases m.max? <;> rfl
  | cons a l ih =>
    rw [List.cons_append, List.max?_cons, List.max?_cons, ih]
    cases hl : l.max? with
    | none => cases m.max? <;> rfl
    | some b =>
      cases hm : m.max? with
      | none => rfl
      | some c =>
        have habc : max (max a b) c = max a (max b c) := Std.Associative.assoc a b c
        exact congrArg some habc.symm

end Linewatch.Severity
