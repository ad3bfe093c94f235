import Linewatch.Proofs.Policy.Order
import Linewatch.Proofs.Settings.Names

namespace Linewatch

namespace Policy

variable {p : Policy} {dialect : Dialect} {d : Datum}

theorem Distinct.ignore (h : p.Distinct) (key : String) : (p.ignore key).Distinct := by
  rw [Policy.ignore]
  split
  next => exact h
  next hk => exact ⟨List.concat_eq_append ▸ h.ignoreRules.concat hk, h.overrides⟩

theorem Distinct.override (h : p.Distinct) (key : String) (s : Severity) :
    (p.override key s).Distinct := by
  refine ⟨h.ignoreRules, ?_⟩
  have hothers : ((p.unoverride key).overrides.map (·.1)).Nodup :=
    h.overrides.sublist (List.filter_sublist.map _)
  have hkey : key ∉ (p.unoverride key).overrides.map (·.1) := by
    simp [unoverride]
  rw [Policy.override, List.map_append]
  exact List.concat_eq_append ▸ hothers.concat hkey

theorem distinct_default : ({} : Policy).Distinct := ⟨List.nodup_nil, List.nodup_nil⟩

theorem nodup_ignoredOf (keys : List String) : (ignoredOf keys).Nodup := by
  have h : ∀ p : Policy, p.Distinct → (keys.foldl Policy.ignore p).Distinct := by
    induction keys with
    | nil => exact fun _ hp => hp
    | cons key keys ih => exact fun p hp => ih _ (hp.ignore key)
  exact (h _ distinct_default).ignoreRules

theorem nodup_overridesOf (members : List (String × Severity)) :
    ((overridesOf members).map (·.1)).Nodup := by
  have h : ∀ p : Policy, p.Distinct →
      (members.foldl (fun (p : Policy) o => p.override o.1 o.2) p).Distinct := by
    induction members with
    | nil => exact fun _ hp => hp
    | cons o members ih => exact fun p hp => ih _ (hp.override o.1 o.2)
  exact (h _ distinct_default).overrides

theorem distinct_of_ofDatum? (h : ofDatum? dialect d = some p) : p.Distinct := by
  simp only [ofDatum?, Option.bind_eq_bind, Option.bind_eq_some_iff, Option.pure_def,
    Option.some.injEq] at h
  obtain ⟨r, -, failOn, -, keys, -, overrides, -, rfl⟩ := h
  exact ⟨nodup_ignoredOf keys, nodup_overridesOf overrides⟩

end Policy

namespace Settings

variable {s t : Settings} {content : Option (List UInt8)}

/-- Whether two settings are the same, their policies being made of sets and maps. -/
structure Same (s t : Settings) : Prop where
  policy : s.policy.Same t.policy
  limits : s.limits = t.limits
  rules : s.rules = t.rules

theorem same_refl (s : Settings) : s.Same s := ⟨⟨rfl, .refl _, .refl _⟩, rfl, rfl⟩

theorem Same.symm (h : s.Same t) : t.Same s := ⟨h.policy.symm, h.limits.symm, h.rules.symm⟩

theorem Same.trans {u : Settings} (h : s.Same t) (h' : t.Same u) : s.Same u :=
  ⟨h.policy.trans h'.policy, h.limits.trans h'.limits, h.rules.trans h'.rules⟩

theorem Same.scanner (h : s.Same t) : s.scanner = t.scanner := by
  rw [Settings.scanner, Settings.scanner, registry, registry, h.limits, h.rules]

theorem distinct_of_ofDatum? {dialect : Dialect} {d : Datum} (h : ofDatum? dialect d = some s) :
    s.policy.Distinct := by
  simp only [ofDatum?, Option.bind_eq_bind, Option.bind_eq_some_iff, Option.pure_def,
    Option.some.injEq] at h
  obtain ⟨r, -, policy, hp, limits, -, rules, -, rfl⟩ := h
  rw [Record.default?] at hp
  cases hg : r.get? "policy" with
  | none =>
    rw [hg] at hp
    exact Option.some.inj hp ▸ Policy.distinct_default
  | some d =>
    rw [hg] at hp
    exact Policy.distinct_of_ofDatum? hp

/-- Settings from a file name no key twice. -/
theorem distinct_of_load (h : load content = .ok s) : s.policy.Distinct := by
  cases content with
  | none =>
    obtain rfl := Except.ok.inj h
    exact Policy.distinct_default
  | some bytes =>
    rw [load] at h
    cases hd : Utf8.decode? bytes with
    | none => simp [hd] at h
    | some text =>
      rw [hd] at h
      obtain ⟨d, -, hs⟩ := Option.bind_eq_some_iff.mp (ofToml_eq_ok_iff.mp h).1
      exact distinct_of_ofDatum? hs

end Settings

end Linewatch
