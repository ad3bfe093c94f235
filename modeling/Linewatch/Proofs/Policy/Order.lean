import Linewatch.Proofs.Policy
import Mathlib.Data.List.Forall2
import Mathlib.Data.List.Nodup

namespace Linewatch

namespace Reference

/-- Whether a key names the rules of a name in one catalog only. -/
def Qualifies (key : String) (c : Catalog) (name : String) : Prop :=
  '/' ∈ key.toList ∧ Denotes key c name

variable {key name : String} {c : Catalog}

instance : Decidable (Denotes key c name) :=
  decidable_of_iff (Policy.keySelects ⟨c, name, .info, "", 0, "", ""⟩ key = true)
    Policy.keySelects_iff

theorem Denotes.eq_of_notMem (h : Denotes key c name) (hk : '/' ∉ key.toList) : key = name := by
  cases h with
  | bare => rfl
  | qualified => simp at hk

theorem qualifies_iff_ofKey : Qualifies key c name ↔ ofKey key = .ok ⟨some c, name⟩ := by
  constructor
  · rintro ⟨hk, h⟩
    cases h with
    | bare hn => exact absurd hk hn
    | qualified hs hc => rw [ofKey_qualified hs, hc]
  · intro h
    by_cases hk : '/' ∈ key.toList
    · obtain ⟨spelling, rest, hs, rfl⟩ := exists_eq_qualified hk
      rw [ofKey_qualified hs] at h
      cases hc : Catalog.ofSpelling? spelling with
      | none => simp [hc] at h
      | some c' =>
        simp only [hc, Except.ok.injEq, mk.injEq, Option.some.injEq] at h
        obtain ⟨rfl, rfl⟩ := h
        exact ⟨hk, .qualified hs hc rest⟩
    · rw [ofKey_bare hk] at h
      simp at h

end Reference

namespace Policy

variable {p q : Policy} {f : Finding} {l : List Finding} {key : String} {s s' : Severity}

theorem isQualified_iff_of_denotes {c : Catalog} {name : String}
    (h : Reference.Denotes key c name) : isQualified key = true ↔ '/' ∈ key.toList := by
  cases h with
  | bare hn => simp [isQualified, Reference.ofKey_bare hn, hn]
  | qualified hs hc => simp [isQualified, Reference.ofKey_qualified hs, hc]

instance {c : Catalog} {name : String} : Decidable (p.Ignores c name) :=
  inferInstanceAs (Decidable (∃ key ∈ p.ignoreRules, Reference.Denotes key c name))

/-- Whether overrides whose keys name one catalog, in whatever spelling, agree wherever they name the
same rule. -/
def Unambiguous (p : Policy) : Prop :=
  ∀ o ∈ p.overrides, ∀ o' ∈ p.overrides, ∀ c name,
    Reference.Qualifies o.1 c name → Reference.Qualifies o'.1 c name → o.2 = o'.2

/-- The severity that a finding has under a policy. A secret keeps its own. For other findings a key
that names the catalog comes before the bare name of the rule. -/
inductive Rates (p : Policy) (f : Finding) : Severity → Prop
  | secret (h : f.catalog = .sensitive) : Rates p f f.severity
  | qualified {key : String} {s : Severity} (h : f.catalog = .vulnerability)
      (ho : (key, s) ∈ p.overrides) (hk : Reference.Qualifies key f.catalog f.rule) : Rates p f s
  | bare {s : Severity} (h : f.catalog = .vulnerability)
      (hno : ∀ o ∈ p.overrides, ¬ Reference.Qualifies o.1 f.catalog f.rule)
      (ho : (f.rule, s) ∈ p.overrides) (hk : '/' ∉ f.rule.toList) : Rates p f s
  | own (h : f.catalog = .vulnerability)
      (hno : ∀ o ∈ p.overrides, ¬ Reference.Denotes o.1 f.catalog f.rule) : Rates p f f.severity

theorem unambiguous_iff_ofKey : p.Unambiguous ↔ ∀ o ∈ p.overrides, ∀ o' ∈ p.overrides,
    isQualified o.1 = true → Reference.ofKey o.1 = Reference.ofKey o'.1 → o.2 = o'.2 := by
  constructor
  · intro h o ho o' ho' hq he
    rw [isQualified] at hq
    cases hk : Reference.ofKey o.1 with
    | error fault => simp [hk] at hq
    | ok r =>
      obtain ⟨catalog, name⟩ := r
      simp only [hk, Option.isSome_iff_exists] at hq
      obtain ⟨c, rfl⟩ := hq
      exact h o ho o' ho' c name (Reference.qualifies_iff_ofKey.mpr hk)
        (Reference.qualifies_iff_ofKey.mpr (he ▸ hk))
  · intro h o ho o' ho' c name hk hk'
    rw [Reference.qualifies_iff_ofKey] at hk hk'
    exact h o ho o' ho' (by simp [isQualified, hk]) (hk.trans hk'.symm)

instance : Decidable p.Unambiguous := decidable_of_iff' _ unambiguous_iff_ofKey

/-- Whether two policies are the same: their ignored keys are a set, and their overrides a map. -/
structure Same (p q : Policy) : Prop where
  failOn : p.failOn = q.failOn
  ignoreRules : p.ignoreRules.Perm q.ignoreRules
  overrides : p.overrides.Perm q.overrides

theorem Same.symm (h : p.Same q) : q.Same p :=
  ⟨h.failOn.symm, h.ignoreRules.symm, h.overrides.symm⟩

theorem Same.trans {r : Policy} (h : p.Same q) (h' : q.Same r) : p.Same r :=
  ⟨h.failOn.trans h'.failOn, h.ignoreRules.trans h'.ignoreRules, h.overrides.trans h'.overrides⟩

theorem Same.validate (h : q.Same p) (hv : p.validate = .ok ()) : q.validate = .ok () := by
  obtain ⟨hi, ho⟩ := validate_eq_ok_iff.mp hv
  exact validate_eq_ok_iff.mpr ⟨fun key hk => hi key (h.ignoreRules.mem_iff.mp hk),
    fun o hm => ho o (h.overrides.mem_iff.mp hm)⟩

structure Distinct (p : Policy) : Prop where
  ignoreRules : p.ignoreRules.Nodup
  overrides : (p.overrides.map (·.1)).Nodup

theorem Unambiguous.ignore (h : p.Unambiguous) (key : String) : (p.ignore key).Unambiguous := by
  rwa [Unambiguous, overrides_ignore]

theorem Rates.of_subset (hpq : ∀ o, o ∈ p.overrides ↔ o ∈ q.overrides) (h : p.Rates f s) :
    q.Rates f s := by
  cases h with
  | secret h => exact .secret h
  | qualified h ho hk => exact .qualified h ((hpq _).mp ho) hk
  | bare h hno ho hk => exact .bare h (fun o hq => hno o ((hpq o).mpr hq)) ((hpq _).mp ho) hk
  | own h hno => exact .own h fun o hq => hno o ((hpq o).mpr hq)

/-- Each key stands once in the overrides, so that two bare names cannot contradict each other. -/
theorem Rates.unique (hd : (p.overrides.map (·.1)).Nodup) (hu : p.Unambiguous)
    (h : p.Rates f s) (h' : p.Rates f s') : s = s' := by
  cases h with
  | secret h =>
    cases h' with
    | secret => rfl
    | qualified hv | bare hv | own hv => exact nomatch h.symm.trans hv
  | qualified h ho hk =>
    cases h' with
    | secret hs => exact nomatch h.symm.trans hs
    | qualified _ ho' hk' => exact hu _ ho _ ho' _ _ hk hk'
    | bare _ hno => exact absurd hk (hno _ ho)
    | own _ hno => exact absurd hk.2 (hno _ ho)
  | bare h hno ho hk =>
    cases h' with
    | secret hs => exact nomatch h.symm.trans hs
    | qualified _ ho' hk' => exact absurd hk' (hno _ ho')
    | bare _ _ ho' => exact congrArg Prod.snd (List.inj_on_of_nodup_map hd ho ho' rfl)
    | own _ hno' => exact absurd (.bare hk _) (hno' _ ho)
  | own h hno =>
    cases h' with
    | secret => rfl
    | qualified _ ho' hk' => exact absurd hk'.2 (hno _ ho')
    | bare _ _ ho' hk' => exact absurd (.bare hk' _) (hno _ ho')
    | own => rfl

theorem mem_selecting_iff {o : String × Severity} :
    (o ∈ p.overrides.filter fun o => keySelects f o.1) ↔
      o ∈ p.overrides ∧ Reference.Denotes o.1 f.catalog f.rule := by
  rw [List.mem_filter, keySelects_iff]

theorem rates_reratedBy (p : Policy) (f : Finding) : p.Rates f (p.reratedBy f).severity := by
  by_cases h : f.catalog = .sensitive
  · rw [reratedBy_of_sensitive h]
    exact .secret h
  · have hv : f.catalog = .vulnerability := by
      cases hc : f.catalog with
      | vulnerability => rfl
      | sensitive => exact absurd hc h
    simp only [reratedBy, overrideFor, if_neg h]
    generalize hsel : (p.overrides.filter fun o => keySelects f o.1) = selecting
    cases hq : selecting.find? fun o => isQualified o.1 with
    | some o =>
      obtain ⟨ho, hden⟩ := mem_selecting_iff.mp (hsel ▸ List.mem_of_find?_eq_some hq)
      have hk : isQualified o.1 = true := by simpa using List.find?_some hq
      rw [Option.some_or, Option.map_some, Option.getD_some]
      exact .qualified hv ho ⟨(isQualified_iff_of_denotes hden).mp hk, hden⟩
    | none =>
      -- No key names the catalog, so that one that selects the finding is its rule's bare name.
      have hno : ∀ o ∈ p.overrides, ¬ Reference.Qualifies o.1 f.catalog f.rule := by
        rintro o ho ⟨hk, hden⟩
        have hm : o ∈ selecting := hsel ▸ mem_selecting_iff.mpr ⟨ho, hden⟩
        exact List.find?_eq_none.mp hq o hm ((isQualified_iff_of_denotes hden).mpr hk)
      cases hb : selecting.find? fun o => !isQualified o.1 with
      | some o =>
        obtain ⟨ho, hden⟩ := mem_selecting_iff.mp (hsel ▸ List.mem_of_find?_eq_some hb)
        have hk : '/' ∉ o.1.toList := fun hk => hno o ho ⟨hk, hden⟩
        have hn : o.1 = f.rule := hden.eq_of_notMem hk
        rw [Option.none_or, Option.map_some, Option.getD_some]
        exact .bare hv hno (hn ▸ ho) (hn ▸ hk)
      | none =>
        rw [Option.none_or, Option.map_none, Option.getD_none]
        refine .own hv fun o ho hden => hno o ho ⟨?_, hden⟩
        have hm : o ∈ selecting := hsel ▸ mem_selecting_iff.mpr ⟨ho, hden⟩
        have hk : isQualified o.1 = true := by simpa using List.find?_eq_none.mp hb o hm
        exact (isQualified_iff_of_denotes hden).mp hk

theorem ignores_congr (h : ∀ key, key ∈ p.ignoreRules ↔ key ∈ q.ignoreRules) {c : Catalog}
    {name : String} : p.Ignores c name ↔ q.Ignores c name := by
  simp only [Ignores, h]

theorem apply_eq_map (p : Policy) (l : List Finding) :
    p.apply l = (l.filter fun f => ¬ p.Ignores f.catalog f.rule).map p.reratedBy := by
  refine congrArg (List.map _) (List.filter_congr fun f _ => ?_)
  rw [Bool.eq_iff_iff, Bool.not_eq_true', ← Bool.not_eq_true, isIgnored_iff, decide_eq_true_eq]

theorem reratedBy_of_perm (hd : (p.overrides.map (·.1)).Nodup) (hu : p.Unambiguous)
    (ho : q.overrides.Perm p.overrides) (f : Finding) : q.reratedBy f = p.reratedBy f := by
  have hq : p.Rates f (q.reratedBy f).severity :=
    (q.rates_reratedBy f).of_subset fun _ => ho.mem_iff
  have hs : (q.reratedBy f).severity = (p.reratedBy f).severity :=
    hq.unique hd hu (p.rates_reratedBy f)
  calc q.reratedBy f = { f with severity := (q.reratedBy f).severity } := rfl
    _ = { f with severity := (p.reratedBy f).severity } := by rw [hs]
    _ = p.reratedBy f := rfl

theorem apply_of_perm (hd : (p.overrides.map (·.1)).Nodup) (hu : p.Unambiguous)
    (hi : q.ignoreRules.Perm p.ignoreRules) (ho : q.overrides.Perm p.overrides)
    (l : List Finding) : q.apply l = p.apply l := by
  have hignores : (l.filter fun f => ¬ q.Ignores f.catalog f.rule) =
      l.filter fun f => ¬ p.Ignores f.catalog f.rule := by
    simp only [ignores_congr fun _ => hi.mem_iff]
  rw [apply_eq_map, apply_eq_map, hignores]
  exact List.map_congr_left fun f _ => reratedBy_of_perm hd hu ho f

theorem Same.apply (h : q.Same p) (hd : p.Distinct) (hu : p.Unambiguous) : q.apply = p.apply :=
  funext fun l => apply_of_perm hd.overrides hu h.ignoreRules h.overrides l

/-- In whatever order a policy lists its ignored rules and its overrides, it drops the findings that
it ignores and gives each of the others the one severity that it has under the policy. -/
theorem apply_in_any_order (hd : (p.overrides.map (·.1)).Nodup) (hu : p.Unambiguous)
    (hi : q.ignoreRules.Perm p.ignoreRules) (ho : q.overrides.Perm p.overrides)
    (l : List Finding) :
    (∀ f, ∃! s, p.Rates f s) ∧ q.apply l = p.apply l ∧
    List.Forall₂ (fun f g => ∃ s, p.Rates f s ∧ g = { f with severity := s })
      (l.filter fun f => ¬ p.Ignores f.catalog f.rule) (q.apply l) := by
  refine ⟨fun f => ⟨_, p.rates_reratedBy f, fun s h => h.unique hd hu (p.rates_reratedBy f)⟩,
    apply_of_perm hd hu hi ho l, ?_⟩
  rw [apply_of_perm hd hu hi ho l, apply_eq_map, List.forall₂_map_right_iff, List.forall₂_same]
  exact fun f _ => ⟨_, p.rates_reratedBy f, rfl⟩

/-- Two spellings of one catalog, a bare name beside them, and keys that refer to nothing. -/
theorem apply_with_aliases :
    ({ ignoreRules := ["nope/eval", "Secret/token"],
       overrides := [("eval", .info), ("nope/eval", .high), ("VULN/eval", .low), ("token", .medium),
         ("vulnerability/eval", .low)] } : Policy).apply
      [⟨.vulnerability, "eval", .critical, "", 1, "", ""⟩, ⟨.sensitive, "eval", .critical, "", 2, "", ""⟩,
        ⟨.sensitive, "token", .critical, "", 3, "", ""⟩, ⟨.vulnerability, "token", .high, "", 4, "", ""⟩] =
      [⟨.vulnerability, "eval", .low, "", 1, "", ""⟩, ⟨.sensitive, "eval", .critical, "", 2, "", ""⟩,
        ⟨.vulnerability, "token", .medium, "", 4, "", ""⟩] := by
  have hperm : [("eval", Severity.info), ("nope/eval", .high), ("VULN/eval", .low),
      ("token", .medium), ("vulnerability/eval", .low)].Perm
      [("vulnerability/eval", .low), ("token", .medium), ("VULN/eval", .low), ("nope/eval", .high),
        ("eval", .info)] := List.reverse_perm [_, _, _, _, _]
  have h := apply_in_any_order (q := ⟨.high, ["nope/eval", "Secret/token"], _⟩)
    (p := ⟨.high, ["Secret/token", "nope/eval"], _⟩) (by decide) (by decide) (.swap _ _ _) hperm
  exact (h _).2.1.trans (by decide)

end Policy

end Linewatch
