import Linewatch.Proofs.Report.Coherence

namespace Linewatch

def Finding.key (f : Finding) : Catalog × String := (f.catalog, f.rule)

def Finding.Uniform (l : List Finding) : Prop :=
  ∀ f ∈ l, ∀ g ∈ l, f.key = g.key → f.severity = g.severity ∧ f.description = g.description

theorem Finding.uniform_map_ofHit (r : Registry) (hits : List Hit) :
    Uniform (hits.map (ofHit r)) := by
  intro f hf g hg hkey
  obtain ⟨a, -, rfl⟩ := List.mem_map.mp hf
  obtain ⟨b, -, rfl⟩ := List.mem_map.mp hg
  obtain ⟨hc, hr⟩ := Prod.mk.inj hkey
  have hcatalog : a.catalog = b.catalog := hc
  have hrule : a.rule = b.rule := hr
  simp only [ofHit, hcatalog, hrule, and_self]

namespace Policy

variable {p : Policy} {f g : Finding} {l : List Finding}

theorem keySelects_of_key_eq (h : f.key = g.key) : keySelects f = keySelects g := by
  obtain ⟨hc, hr⟩ := Prod.mk.inj h
  funext key
  simp only [keySelects, Reference.selects, hc, hr]

theorem overrideFor_of_key_eq (h : f.key = g.key) : p.overrideFor f = p.overrideFor g := by
  have hc : f.catalog = g.catalog := (Prod.mk.inj h).1
  simp only [overrideFor, hc, keySelects_of_key_eq h]

theorem uniform_apply (h : Finding.Uniform l) : Finding.Uniform (p.apply l) := by
  intro f hf g hg hkey
  obtain ⟨a, ha, -, rfl⟩ := mem_apply_iff.mp hf
  obtain ⟨b, hb, -, rfl⟩ := mem_apply_iff.mp hg
  have hab : a.key = b.key := hkey
  obtain ⟨hs, hd⟩ := h a ha b hb hab
  refine ⟨?_, hd⟩
  simp only [reratedBy, overrideFor_of_key_eq hab, hs]

end Policy

theorem Settings.uniform_of_scanAll {s : Settings} {clocks : Clocks} {documents : List Document}
    {r : Report} (h : s.scanAll clocks documents = .ok r) : Finding.Uniform r.findings := by
  obtain ⟨scanner, scanned, -, -, hb, rfl⟩ := scanAll_eq_ok_iff.mp h
  have hfound : scanned.flatMap (·.2) =
      (scanned.flatMap fun d => scanner.registry.hits (Utf8.decodeLossy d.1.content)).map
        (Finding.ofHit scanner.registry) := by
    rw [List.map_flatMap]
    refine List.flatMap_congr fun d hd => ?_
    obtain ⟨i, hi⟩ := List.mem_iff_getElem?.mp hd
    exact scanner.eq_findings_of_scanBytes (clocks i) (hb i d hi)
  rw [Report.findings_ofScanned, hfound]
  exact Policy.uniform_apply (Finding.uniform_map_ofHit scanner.registry _)

end Linewatch
