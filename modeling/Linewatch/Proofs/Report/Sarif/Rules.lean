import Mathlib.Tactic.SplitIfs
import Linewatch.Proofs.Reference
import Linewatch.Proofs.Report.Uniform
import Linewatch.Report.Sarif

namespace Linewatch.Report.Sarif

variable {f g : Finding} {l firsts : List Finding}

theorem sameRule_iff : sameRule f g = true ↔ f.key = g.key := by
  simp [sameRule, Finding.key]

def IsFirst (l : List Finding) (f : Finding) : Prop :=
  l.find? (fun g => g.key = f.key) = some f

theorem IsFirst.mem (h : IsFirst l f) : f ∈ l := List.mem_of_find?_eq_some h

theorem IsFirst.eq_of_key_eq (hf : IsFirst l f) (hg : IsFirst l g) (h : f.key = g.key) : f = g := by
  rw [IsFirst, h] at hf
  exact Option.some.inj (hf.symm.trans hg)

theorem exists_first (hf : f ∈ l) : ∃ g, IsFirst l g ∧ g.key = f.key := by
  cases h : l.find? fun g => g.key = f.key with
  | none =>
    have hne := List.find?_eq_none.mp h f hf
    exact absurd (decide_eq_true rfl) hne
  | some g =>
    have hg := List.find?_some h
    rw [decide_eq_true_eq] at hg
    refine ⟨g, ?_, hg⟩
    rw [IsFirst, hg]
    exact h

def addFirst (firsts : List Finding) (f : Finding) : List Finding :=
  if firsts.any (sameRule f) then firsts else f :: firsts

theorem any_sameRule (f : Finding) (firsts : List Finding) :
    firsts.any (sameRule f) = true ↔ ∃ g ∈ firsts, f.key = g.key := by
  simp only [List.any_eq_true, sameRule_iff]

theorem mem_foldl_addFirst (l firsts : List Finding) :
    f ∈ l.foldl addFirst firsts ↔ f ∈ firsts ∨ (∀ g ∈ firsts, f.key ≠ g.key) ∧ IsFirst l f := by
  induction l generalizing firsts with
  | nil => simp [IsFirst]
  | cons a l ih =>
    rw [List.foldl_cons, ih, addFirst]
    by_cases haf : a.key = f.key
    · have hfirst : IsFirst (a :: l) f ↔ f = a := by simp [IsFirst, haf, eq_comm]
      have hany := any_sameRule a firsts
      rw [haf] at hany
      rw [hfirst]
      split_ifs with h
      · have hold : ¬ ∀ g ∈ firsts, f.key ≠ g.key := by simpa using hany.mp h
        simp only [hold, false_and]
      · have hnew : ∀ g ∈ firsts, f.key ≠ g.key := by simpa using mt hany.mpr h
        have hold : ¬ ∀ g ∈ a :: firsts, f.key ≠ g.key :=
          fun hall => hall a List.mem_cons_self haf.symm
        rw [or_iff_left fun hf => hold hf.1, and_iff_right hnew, List.mem_cons, or_comm]
    · have hfirst : IsFirst (a :: l) f ↔ IsFirst l f := by simp [IsFirst, haf]
      have hne : f ≠ a := by
        rintro rfl
        exact haf rfl
      rw [hfirst]
      split_ifs
      · rfl
      · simp [hne, Ne.symm haf]

theorem nodup_foldl_addFirst (l : List Finding) (h : (firsts.map Finding.key).Nodup) :
    ((l.foldl addFirst firsts).map Finding.key).Nodup := by
  induction l generalizing firsts with
  | nil => exact h
  | cons a l ih =>
    rw [List.foldl_cons]
    apply ih
    rw [addFirst]
    split_ifs with hany
    · exact h
    · refine List.nodup_cons.mpr ⟨?_, h⟩
      intro hm
      obtain ⟨g, hg, hkey⟩ := List.mem_map.mp hm
      exact hany ((any_sameRule a firsts).mpr ⟨g, hg, hkey.symm⟩)

theorem firstOfEach_eq (l : List Finding) : firstOfEach l = (l.foldl addFirst []).reverse := rfl

theorem mem_firstOfEach_iff : f ∈ firstOfEach l ↔ IsFirst l f := by
  rw [firstOfEach_eq, List.mem_reverse, mem_foldl_addFirst]
  simp

theorem nodup_firstOfEach (l : List Finding) : ((firstOfEach l).map Finding.key).Nodup := by
  have hnil : (([] : List Finding).map Finding.key).Nodup := List.nodup_nil
  have h := nodup_foldl_addFirst l hnil
  rw [firstOfEach_eq]
  exact ((List.reverse_perm _).map Finding.key).nodup_iff.mpr h

/-- The order of rules: vulnerabilities before secrets, and each by the code points of the name. -/
def Precedes (f g : Finding) : Prop :=
  f.catalog = .vulnerability ∧ g.catalog = .sensitive ∨ f.catalog = g.catalog ∧ f.rule < g.rule

theorem ruleMayPrecede_iff : ruleMayPrecede f g = true ↔
    f.catalog = .vulnerability ∧ g.catalog = .sensitive ∨
      f.catalog = g.catalog ∧ f.rule ≤ g.rule := by
  rw [ruleMayPrecede, ← String.not_lt]
  cases f.catalog <;> cases g.catalog <;> simp

theorem ruleMayPrecede_trans (a b c : Finding) (hab : ruleMayPrecede a b = true)
    (hbc : ruleMayPrecede b c = true) : ruleMayPrecede a c = true := by
  rw [ruleMayPrecede_iff] at *
  rcases hab with ⟨ha, hb⟩ | ⟨hab, hle⟩ <;> rcases hbc with ⟨hb', hc⟩ | ⟨hbc, hle'⟩
  · exact .inl ⟨ha, hc⟩
  · exact .inl ⟨ha, hbc ▸ hb⟩
  · exact .inl ⟨hab.trans hb', hc⟩
  · exact .inr ⟨hab.trans hbc, String.le_trans hle hle'⟩

theorem ruleMayPrecede_total (f g : Finding) :
    (ruleMayPrecede f g || ruleMayPrecede g f) = true := by
  have hle := String.le_total f.rule g.rule
  rw [Bool.or_eq_true, ruleMayPrecede_iff, ruleMayPrecede_iff]
  cases f.catalog <;> cases g.catalog <;> simp [hle]

theorem precedes_of_key_ne (h : ruleMayPrecede f g = true) (hne : f.key ≠ g.key) :
    Precedes f g := by
  obtain h | ⟨hc, hle⟩ := ruleMayPrecede_iff.mp h
  · exact .inl h
  · refine .inr ⟨hc, String.not_le.mp fun hge => hne ?_⟩
    rw [Finding.key, Finding.key, hc, String.le_antisymm hle hge]

def described (r : Report) : List Finding := (firstOfEach r.findings).mergeSort ruleMayPrecede

theorem described_perm (r : Report) : (described r).Perm (firstOfEach r.findings) :=
  List.mergeSort_perm _ _

theorem mem_described_iff {r : Report} : f ∈ described r ↔ IsFirst r.findings f := by
  rw [(described_perm r).mem_iff, mem_firstOfEach_iff]

theorem nodup_described (r : Report) : ((described r).map Finding.key).Nodup :=
  ((described_perm r).map Finding.key).nodup_iff.mpr (nodup_firstOfEach r.findings)

theorem pairwise_described (r : Report) : (described r).Pairwise Precedes := by
  have hsorted := List.pairwise_mergeSort ruleMayPrecede_trans ruleMayPrecede_total
    (firstOfEach r.findings)
  have hdistinct := List.pairwise_map.mp (nodup_described r)
  exact hsorted.imp₂ (fun f g => precedes_of_key_ne) hdistinct

theorem ruleId_eq (f : Finding) : ruleId f = f.catalog.name ++ "/" ++ f.rule := rfl

theorem ruleId_inj : ruleId f = ruleId g ↔ f.key = g.key := by
  constructor
  · intro h
    have hkey := congrArg Reference.ofKey h
    rw [ruleId_eq, ruleId_eq, Reference.ofKey_name, Reference.ofKey_name] at hkey
    simpa [Finding.key] using hkey
  · intro h
    obtain ⟨hc, hr⟩ := Prod.mk.inj h
    rw [ruleId_eq, ruleId_eq, hc, hr]

end Linewatch.Report.Sarif
