import Linewatch.Proofs.Report.Removal

namespace Linewatch

namespace Finding

def place (f : Finding) : Nat × Catalog := (f.line, f.catalog)

/-- Whether findings are listed in two orders that differ only among those of one line and catalog. -/
def Rearranged (l m : List Finding) : Prop := l.Perm m ∧ l.map place = m.map place

theorem rearranged_of_perm {l m : List Finding} {k : Nat × Catalog} (h : l.Perm m)
    (hl : ∀ f ∈ l, f.place = k) : Rearranged l m := by
  have hm : ∀ f ∈ m, f.place = k := fun f hf => hl f (h.mem_iff.mpr hf)
  refine ⟨h, ?_⟩
  rw [List.map_eq_replicate_iff.mpr hl, List.map_eq_replicate_iff.mpr hm, h.length_eq]

theorem rearranged_flatMap {α : Type} (l : List α) {found found' : α → List Finding}
    (h : ∀ a ∈ l, Rearranged (found a) (found' a)) :
    Rearranged (l.flatMap found) (l.flatMap found') := by
  refine ⟨.flatMap_left l fun a ha => (h a ha).1, ?_⟩
  rw [List.map_flatMap, List.map_flatMap]
  exact List.flatMap_congr fun a ha => (h a ha).2

theorem perm_of_rearranged {a b : List DocumentReport}
    (h : List.Forall₂ (fun d e => d.source = e.source ∧ Rearranged d.findings e.findings) a b) :
    (a.flatMap DocumentReport.findings).Perm (b.flatMap DocumentReport.findings) := by
  induction h with
  | nil => exact .refl _
  | cons hd _ ih =>
    rw [List.flatMap_cons, List.flatMap_cons]
    exact hd.2.1.append ih

end Finding

theorem Policy.place_of_mem_apply {p : Policy} {l : List Finding} {k : Nat × Catalog}
    (h : ∀ f ∈ l, f.place = k) : ∀ f ∈ p.apply l, f.place = k := by
  intro f hf
  obtain ⟨a, ha, -, rfl⟩ := mem_apply_iff.mp hf
  exact h a ha

namespace Registry

variable {r r' : Registry} {l m : List Signature}

theorem Holds.rulesFor_perm (h : r.Holds l) (h' : r'.Holds m) (hlm : l.Perm m) (c : Catalog) :
    (r.rulesFor c).Perm (r'.rulesFor c) := by
  rw [← List.map_perm_map_iff (Rule.signature_injective c), h c, h' c]
  exact hlm.filter _

/-- A policy leaves the same of what is found by the rules in another order, line by line and catalog
by catalog. -/
theorem rearranged_apply_findings (p : Policy) (h : ∀ c, (r.rulesFor c).Perm (r'.rulesFor c))
    (bytes : List UInt8) :
    Finding.Rearranged (p.apply (r.findings bytes)) (p.apply (r'.findings bytes)) := by
  simp only [findings_eq, Policy.apply_flatMap]
  refine Finding.rearranged_flatMap _ fun line _ => Finding.rearranged_flatMap _ fun c _ => ?_
  refine Finding.rearranged_of_perm (p.apply_perm ((h c).filterMap _)) (k := (line.2, c)) ?_
  apply Policy.place_of_mem_apply
  intro f hf
  obtain ⟨rule, -, hr⟩ := List.mem_filterMap.mp hf
  rw [Rule.finding?, Option.ite_none_right_eq_some] at hr
  rw [← Option.some.inj hr.2]
  rfl

theorem findings_perm (h : ∀ c, (r.rulesFor c).Perm (r'.rulesFor c)) (bytes : List UInt8) :
    (r.findings bytes).Perm (r'.findings bytes) := by
  simp only [findings_eq]
  exact .flatMap_left _ fun line _ => .flatMap_left _ fun c _ => (h c).filterMap _

end Registry

namespace Settings

variable {s : Settings} {rules' : List CustomRule}

theorem exists_registry_of_perm (h : s.rules.Perm rules') (hr : ∃ r, s.registry = .ok r) :
    ∃ r, { s with rules := rules' }.registry = .ok r := by
  rw [exists_registry_iff] at hr ⊢
  obtain ⟨hp, hn⟩ := hr
  refine ⟨fun a ha => hp a (h.mem_iff.mpr ha), fun c => ?_⟩
  obtain ⟨hd, hb⟩ := hn c
  refine ⟨(((h.filter _).map _).nodup_iff).mp hd, ?_⟩
  exact fun b hb' hbc a ha => hb b hb' hbc a (h.mem_iff.mpr ha)

theorem rearranged_of_mayGive {s t : Settings} {scanner scanner' : Scanner}
    (hs : s.scanner = .ok scanner) (ht : t.scanner = .ok scanner')
    (hrules : ∀ c, (scanner.registry.rulesFor c).Perm (scanner'.registry.rulesFor c))
    (hp : t.policy = s.policy) (hd : s.policy.Distinct) (hu : s.policy.Unambiguous)
    {clocks clocks' : Clocks} {documents : List Document} {a b : Report}
    (ha : s.MayGive clocks documents (.ok a)) (hb : t.MayGive clocks' documents (.ok b)) :
    a.statistics = b.statistics ∧ a.verdict = b.verdict ∧
    List.Forall₂ (fun d e => d.source = e.source ∧ Finding.Rearranged d.findings e.findings)
      a.documents b.documents := by
  obtain ⟨-, rfl⟩ := (mayGive_ok_iff hs hd hu).mp ha
  obtain ⟨-, rfl⟩ := (mayGive_ok_iff ht (hp ▸ hd) (hp ▸ hu)).mp hb
  have hfound : ((documents.map scanner.registry.searched).flatMap (·.2)).Perm
      ((documents.map scanner'.registry.searched).flatMap (·.2)) := by
    rw [List.flatMap_map, List.flatMap_map]
    exact .flatMap_left _ fun d _ => Registry.findings_perm hrules d.content
  rw [hp]
  refine ⟨?_, Policy.evaluate_perm _ hfound, ?_⟩
  · rw [Report.statistics_ofScanned, Report.statistics_ofScanned, Report.findings_ofScanned,
      Report.findings_ofScanned]
    exact Statistics.ofFindings_perm (Policy.apply_perm _ hfound)
  · simp only [Report.ofScanned, List.forall₂_map_left_iff, List.forall₂_map_right_iff,
      List.forall₂_same]
    exact fun d _ => ⟨rfl, Registry.rearranged_apply_findings _ hrules d.content⟩

/-- The order in which a project lists its rules has no part in whether they have a registry and in
whether a batch can be scanned in time. As long as no two overrides contradict each other, it has none
in the statistics and in the verdict either, and the findings of a document stay on their lines and in
their catalogs. -/
theorem rules_in_any_order {content : Option (List UInt8)} (hl : load content = .ok s)
    (h : s.rules.Perm rules') (failOn : Option Severity) :
    let run := (s.withFailOn failOn).MayGive
    let run' := ({ s with rules := rules' }.withFailOn failOn).MayGive
    ((∃ r, s.registry = .ok r) ↔ ∃ r, { s with rules := rules' }.registry = .ok r) ∧
    ∀ registry, s.registry = .ok registry → ∀ clocks clocks' documents,
      ((s.withFailOn failOn).InTime clocks documents →
        ({ s with rules := rules' }.withFailOn failOn).InTime clocks' documents →
        (∀ fault, run clocks documents (.error fault) ↔ run' clocks' documents (.error fault)) ∧
        ((∃ a, run clocks documents (.ok a)) ↔ ∃ b, run' clocks' documents (.ok b))) ∧
      (s.policy.Unambiguous → ∀ a b,
        run clocks documents (.ok a) → run' clocks' documents (.ok b) →
          a.statistics = b.statistics ∧ a.verdict = b.verdict ∧
          List.Forall₂
            (fun d e => d.source = e.source ∧ Finding.Rearranged d.findings e.findings)
            a.documents b.documents) := by
  intro run run'
  have hback : (∃ r, { s with rules := rules' }.registry = .ok r) → ∃ r, s.registry = .ok r :=
    exists_registry_of_perm (s := { s with rules := rules' }) h.symm
  refine ⟨⟨exists_registry_of_perm h, hback⟩, ?_⟩
  intro registry hr clocks clocks' documents
  obtain ⟨registry', hr'⟩ := exists_registry_of_perm h ⟨registry, hr⟩
  have hs : (s.withFailOn failOn).scanner = .ok ⟨registry, s.limits⟩ := by
    rw [scanner_withFailOn, scanner_eq_ok_iff]
    exact ⟨hr, rfl⟩
  have hs' : ({ s with rules := rules' }.withFailOn failOn).scanner =
      .ok ⟨registry', s.limits⟩ := by
    rw [scanner_withFailOn, scanner_eq_ok_iff]
    exact ⟨hr', rfl⟩
  have hlimits : ({ s with rules := rules' }.withFailOn failOn).limits =
      (s.withFailOn failOn).limits := by
    rw [limits_withFailOn, limits_withFailOn]
  have hd := distinct_of_load hl
  have hp : ({ s with rules := rules' }.withFailOn failOn).policy =
      (s.withFailOn failOn).policy := by
    rw [policy_withFailOn, policy_withFailOn]
  have hrules : ∀ c, (registry.rulesFor c).Perm (registry'.rulesFor c) := by
    refine (holds_of_registry hr).rulesFor_perm (holds_of_registry hr') ?_
    exact (h.map _).append_left _
  constructor
  · intro ht ht'
    exact ⟨mayGive_error_congr hs hs' hlimits ht ht',
      exists_mayGive_ok_congr hs hs' hlimits ht ht'⟩
  · exact fun hu _ _ =>
      rearranged_of_mayGive hs hs' hrules hp (hd.withFailOn failOn) (hu.withFailOn failOn)

theorem two_rules_swapped :
    let s : Settings := {
      policy := { overrides := [("second", .medium)] }
      rules := [⟨.vulnerability, "first", "x+", .low, none⟩,
        ⟨.vulnerability, "second", "y", .info, none⟩] }
    let text := "[policy.overrides]\nsecond = \"medium\"\n" ++
      "[[rules]]\ncatalog = \"vulnerability\"\nname = \"first\"\npattern = 'x+'\n" ++
      "severity = \"low\"\n" ++
      "[[rules]]\ncatalog = \"vulnerability\"\nname = \"second\"\npattern = 'y'\n" ++
      "severity = \"info\"\n"
    load (some (Utf8.encode text)) = .ok s ∧ s.policy.Unambiguous ∧
    ∃ a b, s.MayGive .frozen [⟨"a.js", Utf8.encode "xx y\n"⟩] (.ok a) ∧
      { s with rules := s.rules.reverse }.MayGive .frozen
        [⟨"a.js", Utf8.encode "xx y\n"⟩] (.ok b) ∧
      a.statistics = b.statistics ∧ a.verdict = b.verdict ∧
      List.Forall₂ (fun d e => d.source = e.source ∧ Finding.Rearranged d.findings e.findings)
        a.documents b.documents := by
  intro s text
  have hl : load (some (Utf8.encode text)) = .ok s := load_encode_of (by decide +kernel)
  have hu : s.policy.Unambiguous := by decide
  obtain ⟨hiff, hall⟩ := rules_in_any_order hl (List.reverse_perm s.rules).symm none
  obtain ⟨registry, hr⟩ := (exists_registry_iff (s := s)).mpr
    ⟨by decide +kernel, fun c => by cases c <;> decide⟩
  obtain ⟨registry', hr'⟩ := hiff.mp ⟨registry, hr⟩
  have ha := scanAll_of_no_limits _ .frozen [⟨"a.js", Utf8.encode "xx y\n"⟩] hr rfl
  have hb := scanAll_of_no_limits _ .frozen [⟨"a.js", Utf8.encode "xx y\n"⟩] hr' rfl
  exact ⟨hl, hu, _, _, .report (same_refl _) ha, .report (same_refl _) hb,
    (hall registry hr _ _ _).2 hu _ _ (.report (same_refl _) ha) (.report (same_refl _) hb)⟩

/-- Contrary keys may rate the findings of two runs otherwise, and a ceiling on time may fail one of
them alone, in whatever order the rules are. -/
theorem runs_unlike_in_any_order :
    (∃ s registry a b, load (some (Utf8.encode ("[policy.overrides]\n\"vuln/eval\" = \"low\"\n" ++
          "\"vulnerability/eval\" = \"critical\"\n" ++
          "[[rules]]\ncatalog = \"sensitive\"\nname = \"first\"\npattern = 'x'\n" ++
          "[[rules]]\ncatalog = \"sensitive\"\nname = \"second\"\npattern = 'y'\n"))) = .ok s ∧
      s.registry = .ok registry ∧
      s.MayGive .frozen [.calling "a.js"] (.ok a) ∧
      { s with rules := s.rules.reverse }.MayGive .frozen [.calling "a.js"] (.ok b) ∧
      ¬ List.Forall₂ (fun d e => d.source = e.source ∧ Finding.Rearranged d.findings e.findings)
        a.documents b.documents) ∧
    ∃ s clocks a fault, load (some (Utf8.encode "[limits]\ntimeout_ms = 1\n")) = .ok s ∧
      s.MayGive .frozen [.calling "a.js"] (.ok a) ∧
      { s with rules := s.rules.reverse }.MayGive clocks [.calling "a.js"] (.error fault) := by
  have hd := List.mem_singleton_self (Document.calling "a.js")
  constructor
  · let s : Settings := {
      policy := .lowFirst
      rules := [⟨.sensitive, "first", "x", .high, none⟩, ⟨.sensitive, "second", "y", .high, none⟩] }
    obtain ⟨registry, hr⟩ := (exists_registry_iff (s := s)).mpr
      ⟨by decide +kernel, fun c => by cases c <;> decide⟩
    obtain ⟨registry', hr'⟩ :=
      exists_registry_of_perm (List.reverse_perm s.rules).symm ⟨registry, hr⟩
    have hr'' : ({ policy := .criticalFirst, rules := s.rules.reverse } : Settings).registry =
        .ok registry' := hr'
    obtain ⟨a, b, ha, hb, f, hf, hf'⟩ := exists_rated_apart hr hr'' rfl rfl (by decide)
      (by decide) rfl rfl hd hd
    have hsame : ({ policy := .criticalFirst, rules := s.rules.reverse } : Settings).Same
        { s with rules := s.rules.reverse } := ⟨Policy.criticalFirst_same, rfl, rfl⟩
    refine ⟨s, registry, a, b, load_encode_of (by decide +kernel), hr, .report (same_refl _) ha,
      .report hsame hb, ?_⟩
    exact fun h => hf' ((Finding.perm_of_rearranged h).mem_iff.mp hf)
  · have hr : ({ limits := { timeout := some 1 } } : Settings).registry = .ok .builtin :=
      registry_of_no_rules rfl
    obtain ⟨⟨a, ha⟩, fault, hf⟩ := gives_both_of_timeout hr rfl hd
    exact ⟨_, _, a, fault, load_encode_of (by decide +kernel), ha, hf⟩

end Settings

end Linewatch
