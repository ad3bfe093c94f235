import Linewatch.Proofs.Policy.Order
import Linewatch.Proofs.Report.Sarif.Log

namespace Linewatch

theorem Reference.qualifies_name (c : Catalog) (name : String) :
    Qualifies (c.name ++ "/" ++ name) c name :=
  qualifies_iff_ofKey.mpr (ofKey_name c name)

instance {key name : String} {c : Catalog} : Decidable (Reference.Qualifies key c name) :=
  inferInstanceAs (Decidable ('/' ∈ key.toList ∧ Reference.Denotes key c name))

namespace Policy

variable {p : Policy} {f : Finding} {c : Catalog} {key name : String} {s s' : Severity}

theorem keySelects_of_qualifies (h : Reference.Qualifies key c name) :
    keySelects f key = true ↔ f.catalog = c ∧ f.rule = name := by
  rw [keySelects, Reference.qualifies_iff_ofKey.mp h]
  simp only [Reference.selects, Option.all_some, Bool.and_eq_true, beq_iff_eq]
  rw [and_comm, eq_comm (a := c), eq_comm (a := name)]

theorem checkOverride_of_qualifies (h : Reference.Qualifies key c name) :
    checkOverride key = if c = .sensitive then .error (.secretOverride key) else .ok () := by
  rw [checkOverride, Reference.qualifies_iff_ofKey.mp h]
  simp only [Option.some.injEq]

theorem mem_overrides_override {o : String × Severity} :
    o ∈ (p.override key s).overrides ↔ o ∈ p.overrides ∧ o.1 ≠ key ∨ o = (key, s) := by
  simp [override, unoverride]

theorem reratedBy_override_of_not (h : ¬ keySelects f key = true) :
    (p.override key s).reratedBy f = p.reratedBy f := by
  have hothers : ∀ o ∈ p.overrides, (keySelects f o.1 && o.1 != key) = keySelects f o.1 := by
    intro o _
    rw [Bool.and_eq_left_iff_imp, bne_iff_ne]
    rintro ho rfl
    exact h ho
  have hkey : [(key, s)].filter (fun o => keySelects f o.1) = [] := List.filter_cons_of_neg h
  have hselecting : ((p.override key s).overrides.filter fun o => keySelects f o.1) =
      p.overrides.filter fun o => keySelects f o.1 := by
    rw [override, unoverride, List.filter_append, List.filter_filter, List.filter_congr hothers,
      hkey, List.append_nil]
  simp only [reratedBy, overrideFor, hselecting]

theorem Rates.eq_of_override (h : (p.override key s).Rates f s') (hf : f.catalog = .vulnerability)
    (hk : Reference.Qualifies key f.catalog f.rule)
    (hp : ∀ o ∈ p.overrides, Reference.Qualifies o.1 f.catalog f.rule → o.1 = key) : s' = s := by
  have hkey : (key, s) ∈ (p.override key s).overrides := mem_overrides_override.mpr (.inr rfl)
  cases h with
  | secret hs => exact nomatch hf.symm.trans hs
  | qualified _ ho hk' =>
    obtain ⟨ho, hne⟩ | ho := mem_overrides_override.mp ho
    · exact absurd (hp _ ho hk') hne
    · exact congrArg Prod.snd ho
  | bare _ hno => exact absurd hk (hno _ hkey)
  | own _ hno => exact absurd hk.2 (hno _ hkey)

/-- To override the one key that names a rule and its catalog is to give its findings that severity
and to leave the others as they were. -/
theorem apply_override (hk : Reference.Qualifies key .vulnerability name)
    (hp : ∀ o ∈ p.overrides, Reference.Qualifies o.1 .vulnerability name → o.1 = key)
    (l : List Finding) :
    (p.override key s).apply l = (p.apply l).map fun f =>
      if f.catalog = .vulnerability ∧ f.rule = name then { f with severity := s } else f := by
  rw [apply, apply, List.map_map]
  refine List.map_congr_left fun f _ => ?_
  by_cases hf : f.catalog = .vulnerability ∧ f.rule = name
  · obtain ⟨hc, rfl⟩ := hf
    have hs : ((p.override key s).reratedBy f).severity = s :=
      ((p.override key s).rates_reratedBy f).eq_of_override hc (hc ▸ hk) (hc ▸ hp)
    calc (p.override key s).reratedBy f
        = { f with severity := ((p.override key s).reratedBy f).severity } := rfl
      _ = { f with severity := s } := by rw [hs]
      _ = _ := (if_pos ⟨hc, rfl⟩).symm
  · have hno : ¬ keySelects f key = true := mt (keySelects_of_qualifies hk).mp hf
    rw [reratedBy_override_of_not hno]
    exact (if_neg hf).symm

end Policy

namespace Report.Sarif

variable {f g : Finding}

theorem ruleId_eq_iff : ruleId g = ruleId f ↔ g.catalog = f.catalog ∧ g.rule = f.rule := by
  rw [ruleId_inj, Finding.key, Finding.key, Prod.mk.injEq]

theorem qualifies_ruleId (f : Finding) : Reference.Qualifies (ruleId f) f.catalog f.rule :=
  Reference.qualifies_name f.catalog f.rule

/-- An identifier may stand among the ignored rules, where it drops the findings that have it, and
unless it is a secret's among the overrides, where it gives them their severity. There it needs to be
the only key with a catalog for its rule. -/
theorem ruleId_as_reference (f : Finding) :
    (∀ source, (result source f).at? ["ruleId"] = some (.text (ruleId f))) ∧
    (∀ g, ruleId g = ruleId f ↔ g.catalog = f.catalog ∧ g.rule = f.rule) ∧
    ∀ p : Policy,
      (p.ignoreRules = [] → p.overrides = [] → ∀ l, p.apply l = l) ∧
      (p.validate = .ok () → (p.ignore (ruleId f)).validate = .ok ()) ∧
      (∀ l, (p.ignore (ruleId f)).apply l = (p.apply l).filter fun g => ¬ ruleId g = ruleId f) ∧
      ∀ s, (p.validate = .ok () → (p.override (ruleId f) s).validate =
          if f.catalog = .sensitive then .error (.secretOverride (ruleId f)) else .ok ()) ∧
        (f.catalog = .vulnerability →
          (∀ o ∈ p.overrides, Reference.Qualifies o.1 f.catalog f.rule → o.1 = ruleId f) →
          ∀ l, (p.override (ruleId f) s).apply l =
            (p.apply l).map fun g => if ruleId g = ruleId f then { g with severity := s } else g) := by
  have hid := qualifies_ruleId f
  refine ⟨fun source => at?_ruleId_result source f, fun g => ruleId_eq_iff, fun p => ?_⟩
  refine ⟨Policy.apply_eq_self, ?_, ?_, ?_⟩
  · exact fun h => Policy.validate_ignore h f.rule
  · refine Policy.filter_apply_ignore (fun g => ?_) p
    rw [Policy.keySelects_of_qualifies hid, ruleId_eq_iff]
  · intro s
    constructor
    · intro h
      rw [Policy.validate_override_eq h, Policy.checkOverride_of_qualifies hid]
    · intro hf hp l
      simp only [ruleId_eq_iff, hf]
      rw [hf] at hid hp
      exact Policy.apply_override hid hp l

theorem ruleId_beside_bare_name :
    ruleId ⟨.vulnerability, "eval", .critical, "", 1, "", ""⟩ = "vulnerability/eval" ∧
    ({ overrides := [("eval", .info)] } : Policy).validate = .ok () ∧
    (({ overrides := [("eval", .info)] } : Policy).override "vulnerability/eval" .low).validate =
      .ok () ∧
    (({ overrides := [("eval", .info)] } : Policy).override "vulnerability/eval" .low).apply
      [⟨.vulnerability, "eval", .critical, "", 1, "", ""⟩,
        ⟨.sensitive, "eval", .critical, "", 2, "", ""⟩,
        ⟨.vulnerability, "vulnerability/eval", .critical, "", 3, "", ""⟩] =
      [⟨.vulnerability, "eval", .low, "", 1, "", ""⟩,
        ⟨.sensitive, "eval", .critical, "", 2, "", ""⟩,
        ⟨.vulnerability, "vulnerability/eval", .critical, "", 3, "", ""⟩] := by
  have h := (ruleId_as_reference ⟨.vulnerability, "eval", .critical, "", 1, "", ""⟩).2.2
    { overrides := [("eval", .info)] }
  obtain ⟨hvalid, happly⟩ := h.2.2.2 .low
  exact ⟨rfl, rfl, hvalid rfl, (happly rfl (by decide) _).trans (by decide)⟩

end Report.Sarif

end Linewatch
