import Linewatch.Proofs.Reference
import Linewatch.Proofs.Severity

namespace Linewatch.Policy

variable {p : Policy} {f : Finding} {l : List Finding} {g : Severity}

def Ignores (p : Policy) (c : Catalog) (name : String) : Prop :=
  ∃ key ∈ p.ignoreRules, Reference.Denotes key c name

theorem isIgnored_iff : p.isIgnored f = true ↔ p.Ignores f.catalog f.rule := by
  simp only [isIgnored, List.any_eq_true, keySelects_iff, Ignores]

theorem overrideFor_of_sensitive (h : f.catalog = .sensitive) : p.overrideFor f = none := if_pos h

theorem reratedBy_of_sensitive (h : f.catalog = .sensitive) : p.reratedBy f = f := by
  rw [reratedBy, overrideFor_of_sensitive h, Option.getD_none]

theorem mem_apply_iff :
    f ∈ p.apply l ↔ ∃ a ∈ l, ¬ p.Ignores a.catalog a.rule ∧ p.reratedBy a = f := by
  simp only [apply, List.mem_map, List.mem_filter, Bool.not_eq_true', ← Bool.not_eq_true,
    isIgnored_iff, and_assoc]

theorem mem_apply_iff_of_sensitive (h : f.catalog = .sensitive) :
    f ∈ p.apply l ↔ f ∈ l ∧ ¬ p.Ignores .sensitive f.rule := by
  rw [mem_apply_iff]
  constructor
  · rintro ⟨a, ha, hn, rfl⟩
    have hc : a.catalog = .sensitive := h
    rw [reratedBy_of_sensitive hc]
    exact ⟨ha, hc ▸ hn⟩
  · rintro ⟨hm, hn⟩
    exact ⟨f, hm, h ▸ hn, reratedBy_of_sensitive h⟩

theorem apply_eq_self (hi : p.ignoreRules = []) (ho : p.overrides = []) (l : List Finding) :
    p.apply l = l := by
  have hkept : ∀ f ∈ l, (!p.isIgnored f) = true := by
    intro f _
    rw [isIgnored, hi, List.any_nil, Bool.not_false]
  have hsame : ∀ f, p.reratedBy f = f := by
    intro f
    simp [reratedBy, overrideFor, ho]
  rw [apply, List.filter_eq_self.mpr hkept]
  exact (List.map_congr_left fun f _ => hsame f).trans (List.map_id l)

theorem apply_append (p : Policy) (l m : List Finding) :
    p.apply (l ++ m) = p.apply l ++ p.apply m := by
  simp only [apply, List.filter_append, List.map_append]

theorem apply_flatMap {α : Type} (p : Policy) (l : List α) (found : α → List Finding) :
    p.apply (l.flatMap found) = l.flatMap fun a => p.apply (found a) := by
  induction l with
  | nil => rfl
  | cons a l ih => rw [List.flatMap_cons, List.flatMap_cons, apply_append, ih]

theorem highestSeverity_eq_none_iff : (p.evaluate l).highestSeverity = none ↔ p.apply l = [] := by
  simp only [evaluate, List.max?_eq_none_iff, List.map_eq_nil_iff]

theorem highestSeverity_eq_some_iff : (p.evaluate l).highestSeverity = some g ↔
    (∃ f ∈ p.apply l, f.severity = g) ∧ ∀ f ∈ p.apply l, f.severity ≤ g := by
  simp only [evaluate, List.max?_eq_some_iff, List.mem_map]
  simp only [forall_exists_index, and_imp, forall_apply_eq_imp_iff₂]

theorem pass_iff : (p.evaluate l).pass = true ↔ ∀ f ∈ p.apply l, ¬ p.failOn ≤ f.severity := by
  have hp : (p.evaluate l).pass = (p.evaluate l).highestSeverity.all (· < p.failOn) := rfl
  rw [hp]
  cases hg : (p.evaluate l).highestSeverity with
  | none => simp [highestSeverity_eq_none_iff.mp hg]
  | some g =>
    obtain ⟨⟨f, hf, rfl⟩, hall⟩ := highestSeverity_eq_some_iff.mp hg
    rw [Option.all_some, decide_eq_true_eq]
    constructor
    · intro hlt a ha hle
      exact Severity.not_lt.mpr (Std.le_trans hle (hall a ha)) hlt
    · exact fun h => Decidable.not_not.mp fun hn => h f hf (Severity.not_lt.mp hn)

theorem highestSeverity_append (p : Policy) (l m : List Finding) :
    (p.evaluate (l ++ m)).highestSeverity =
      max (p.evaluate l).highestSeverity (p.evaluate m).highestSeverity := by
  simp only [evaluate, apply_append, List.map_append, Severity.max?_append]

theorem pass_append (p : Policy) (l m : List Finding) :
    (p.evaluate (l ++ m)).pass = ((p.evaluate l).pass && (p.evaluate m).pass) := by
  rw [Bool.eq_iff_iff, Bool.and_eq_true, pass_iff, pass_iff, pass_iff, apply_append,
    List.forall_mem_append]

theorem apply_perm (p : Policy) {l m : List Finding} (h : l.Perm m) :
    (p.apply l).Perm (p.apply m) :=
  (h.filter _).map _

theorem evaluate_perm (p : Policy) {l m : List Finding} (h : l.Perm m) :
    p.evaluate l = p.evaluate m := by
  have hs : ((p.apply l).map (·.severity)).max? = ((p.apply m).map (·.severity)).max? := by
    apply Option.ext
    intro g
    simp only [List.max?_eq_some_iff, ((p.apply_perm h).map _).mem_iff]
  simp only [evaluate, hs, h.length_eq, (p.apply_perm h).length_eq]

theorem keySelects_name (f : Finding) (c : Catalog) (name : String) :
    keySelects f (c.name ++ "/" ++ name) = true ↔ f.catalog = c ∧ f.rule = name := by
  rw [keySelects_qualified c.slash_notMem_name, c.ofSpelling?_name, Option.some.injEq,
    eq_comm (a := c)]

theorem mem_ignoreRules_ignore {key other : String} :
    other ∈ (p.ignore key).ignoreRules ↔ other ∈ p.ignoreRules ∨ other = key := by
  rw [ignore]
  split
  next h =>
    constructor
    · exact .inl
    · rintro (ho | rfl)
      · exact ho
      · exact h
  next => simp

theorem ignore_withFailOn (p : Policy) (key : String) (g : Severity) :
    { p with failOn := g }.ignore key = { p.ignore key with failOn := g } := by
  by_cases h : key ∈ p.ignoreRules
  · simp only [ignore, if_pos h]
  · simp only [ignore, if_neg h]

theorem failOn_ignore (p : Policy) (key : String) : (p.ignore key).failOn = p.failOn := by
  rw [ignore]
  split <;> rfl

theorem overrides_ignore (p : Policy) (key : String) : (p.ignore key).overrides = p.overrides := by
  rw [ignore]
  split <;> rfl

theorem isIgnored_ignore (p : Policy) (key : String) (f : Finding) :
    (p.ignore key).isIgnored f = true ↔ p.isIgnored f = true ∨ keySelects f key = true := by
  simp only [isIgnored, List.any_eq_true, mem_ignoreRules_ignore, or_and_right, exists_or,
    exists_eq_left]

/-- What is ignored beside other things could as well have been left out before. -/
theorem apply_ignore (p : Policy) (key : String) (l : List Finding) :
    (p.ignore key).apply l = p.apply (l.filter fun f => !keySelects f key) := by
  have ho : (p.ignore key).reratedBy = p.reratedBy := by
    funext f
    simp only [reratedBy, overrideFor, overrides_ignore]
  have hi : ∀ f, (!(p.ignore key).isIgnored f) = (!p.isIgnored f && !keySelects f key) := by
    intro f
    rw [← Bool.not_or, Bool.not_inj_iff, Bool.eq_iff_iff, Bool.or_eq_true, isIgnored_ignore]
  simp only [apply, hi, ho, List.filter_filter]

theorem apply_filter {keep : Finding → Bool} (h : ∀ f, keep (p.reratedBy f) = keep f)
    (l : List Finding) : p.apply (l.filter keep) = (p.apply l).filter keep := by
  simp only [apply, List.filter_filter, List.filter_map, Function.comp_def, h, Bool.and_comm]

/-- To ignore one more key is to drop what it selects from what was left before. -/
theorem filter_apply_ignore {selected : Finding → Prop} [DecidablePred selected] {key : String}
    (h : ∀ f, keySelects f key = true ↔ selected f) (p : Policy) (l : List Finding) :
    (p.ignore key).apply l = (p.apply l).filter fun f => ¬ selected f := by
  rw [apply_ignore, apply_filter fun f => rfl]
  refine List.filter_congr fun f _ => ?_
  rw [decide_not, Bool.not_inj_iff, Bool.eq_iff_iff, h, decide_eq_true_eq]

section

variable {α ε : Type} {check : α → Except ε Unit} {l : List α}

theorem forM_eq_ok_iff : l.forM check = .ok () ↔ ∀ a ∈ l, check a = .ok () := by
  induction l with
  | nil => simp [pure, Except.pure]
  | cons a l ih =>
    have hcons : (a :: l).forM check = (check a).bind fun _ => l.forM check := rfl
    rw [hcons, List.forall_mem_cons, ← ih]
    cases check a <;> simp [Except.bind]

theorem forM_concat (h : l.forM check = .ok ()) (a : α) : (l ++ [a]).forM check = check a := by
  have happend : (l ++ [a]).forM check = (l.forM check).bind fun _ => [a].forM check :=
    List.forM_append
  rw [happend, h]
  exact bind_pure_unit

end

theorem validate_eq_ok_iff : p.validate = .ok () ↔
    (∀ key ∈ p.ignoreRules, checkIgnored key = .ok ()) ∧
      ∀ o ∈ p.overrides, checkOverride o.1 = .ok () := by
  have ho : (p.overrides.map (·.1)).forM checkOverride = .ok () ↔
      ∀ o ∈ p.overrides, checkOverride o.1 = .ok () := by
    rw [forM_eq_ok_iff, List.forall_mem_map]
  rw [validate, ← forM_eq_ok_iff, ← ho]
  cases p.ignoreRules.forM checkIgnored <;> simp

/-- A policy that is accepted is accepted with one more ignored key exactly if the key is. -/
theorem validate_ignore_eq (h : p.validate = .ok ()) (key : String) :
    (p.ignore key).validate = checkIgnored key := by
  obtain ⟨hi, ho⟩ := validate_eq_ok_iff.mp h
  by_cases hk : key ∈ p.ignoreRules
  · rw [ignore, if_pos hk, h, hi key hk]
  · have hkeys := forM_concat (forM_eq_ok_iff.mpr hi) key
    have hover : (p.overrides.map (·.1)).forM checkOverride = .ok () :=
      forM_eq_ok_iff.mpr (List.forall_mem_map.mpr ho)
    rw [ignore, if_neg hk, validate, hkeys, hover]
    cases checkIgnored key <;> rfl

theorem validate_override_eq (h : p.validate = .ok ()) (key : String) (s : Severity) :
    (p.override key s).validate = checkOverride key := by
  obtain ⟨hi, ho⟩ := validate_eq_ok_iff.mp h
  have hothers : ((p.unoverride key).overrides.map (·.1)).forM checkOverride = .ok () :=
    forM_eq_ok_iff.mpr (List.forall_mem_map.mpr fun o hm => ho o (List.mem_filter.mp hm).1)
  rw [override, validate, forM_eq_ok_iff.mpr hi, List.map_append]
  exact forM_concat hothers key

theorem validate_ignore {c : Catalog} (h : p.validate = .ok ()) (name : String) :
    (p.ignore (c.name ++ "/" ++ name)).validate = .ok () := by
  rw [validate_ignore_eq h, checkIgnored, Reference.ofKey_name]
  rfl

end Linewatch.Policy
