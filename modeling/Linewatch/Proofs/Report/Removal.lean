import Linewatch.Proofs.Report.Composition
import Linewatch.Proofs.Scan.Rules
import Linewatch.Proofs.Settings.Rules

namespace Linewatch

namespace Report

variable (p : Policy) (key : String) (scanned : List (Document × List Finding))

def without (scanned : List (Document × List Finding)) : List (Document × List Finding) :=
  scanned.map fun d => (d.1, d.2.filter fun f => !Policy.keySelects f key)

theorem documents_ofScanned_ignore :
    (ofScanned (p.ignore key) scanned).documents = (ofScanned p (without key scanned)).documents := by
  simp only [ofScanned, without, List.map_map, Function.comp_def, Policy.apply_ignore]

theorem findings_ofScanned_ignore :
    (ofScanned (p.ignore key) scanned).findings = (ofScanned p (without key scanned)).findings := by
  rw [findings, findings, documents_ofScanned_ignore]

theorem statistics_ofScanned_ignore : (ofScanned (p.ignore key) scanned).statistics =
    (ofScanned p (without key scanned)).statistics := by
  rw [statistics_ofScanned, statistics_ofScanned, findings_ofScanned_ignore]

theorem verdict_ofScanned_ignore : (ofScanned (p.ignore key) scanned).verdict =
    { (ofScanned p (without key scanned)).verdict with
      totalFindings := (scanned.flatMap (·.2)).length } := by
  have hf : (without key scanned).flatMap (·.2) =
      (scanned.flatMap (·.2)).filter fun f => !Policy.keySelects f key := by
    rw [without, List.flatMap_map, List.filter_flatMap]
  rw [verdict_ofScanned, verdict_ofScanned, hf]
  simp only [Policy.evaluate, Policy.apply_ignore, Policy.failOn_ignore]

/-- What is found by fewer rules is what is found by all, without the findings of the others. -/
theorem map_searched_without {registry fewer : Registry} {c : Catalog} {name : String}
    (h : ∀ bytes, fewer.findings bytes = (registry.findings bytes).filter fun f =>
      ¬ (f.catalog = c ∧ f.rule = name)) (documents : List Document) :
    documents.map fewer.searched =
      without (c.name ++ "/" ++ name) (documents.map registry.searched) := by
  have hkey : ∀ f, (!Policy.keySelects f (c.name ++ "/" ++ name)) =
      decide (¬ (f.catalog = c ∧ f.rule = name)) := by
    intro f
    rw [decide_not, Bool.not_inj_iff, Bool.eq_iff_iff, decide_eq_true_eq, Policy.keySelects_name]
  rw [without, List.map_map]
  refine List.map_congr_left fun d _ => Prod.ext rfl ?_
  simp only [Registry.searched, Function.comp, h, hkey]

end Report

namespace Settings

variable {s : Settings} {content : Option (List UInt8)}

def ignoring (s : Settings) (a : CustomRule) : Settings :=
  { s with policy := s.policy.ignore (a.catalog.name ++ "/" ++ a.name) }

theorem withFailOn_ignoring (s : Settings) (a : CustomRule) (failOn : Option Severity) :
    (s.ignoring a).withFailOn failOn = (s.withFailOn failOn).ignoring a := by
  cases failOn with
  | none => rfl
  | some g =>
    have hp := s.policy.ignore_withFailOn (a.catalog.name ++ "/" ++ a.name) g
    exact congrArg (fun p => ({ s with policy := p } : Settings)) hp.symm

theorem same_of_mayGive_without {s t : Settings} {scanner scanner' : Scanner} {c : Catalog}
    {name : String} (hs : s.scanner = .ok scanner) (ht : t.scanner = .ok scanner')
    (hfound : ∀ bytes, scanner'.registry.findings bytes =
      (scanner.registry.findings bytes).filter fun f => ¬ (f.catalog = c ∧ f.rule = name))
    (hpolicy : s.policy = t.policy.ignore (c.name ++ "/" ++ name)) (hd : t.policy.Distinct)
    (hu : t.policy.Unambiguous) {clocks clocks' : Clocks} {documents : List Document}
    {p q : Report} (hp : s.MayGive clocks documents (.ok p))
    (hq : t.MayGive clocks' documents (.ok q)) :
    p.documents = q.documents ∧ p.statistics = q.statistics ∧
    p.verdict = { q.verdict with totalFindings := p.verdict.totalFindings } := by
  obtain ⟨-, rfl⟩ := (mayGive_ok_iff hs (hpolicy ▸ hd.ignore _) (hpolicy ▸ hu.ignore _)).mp hp
  obtain ⟨-, rfl⟩ := (mayGive_ok_iff ht hd hu).mp hq
  rw [hpolicy, Report.map_searched_without hfound documents]
  exact ⟨Report.documents_ofScanned_ignore _ _ _, Report.statistics_ofScanned_ignore _ _ _,
    Report.verdict_ofScanned_ignore _ _ _⟩

section

variable {before after : List CustomRule} {a : CustomRule} {registry : Registry}
  (hs : s.rules = before ++ a :: after) (hr : s.registry = .ok registry)
include hs hr

theorem exists_registry_without : ∃ fewer,
    { s with rules := before ++ after }.registry = .ok fewer ∧ ∀ c, fewer.rulesFor c =
      (registry.rulesFor c).filter fun rule => ¬ (c = a.catalog ∧ rule.name = a.name) := by
  have hsub : ((before ++ after).map CustomRule.signature).Sublist
      (s.rules.map CustomRule.signature) := by
    rw [hs]
    exact ((List.sublist_cons_self a after).append_left before).map _
  have hadd := hr
  rw [registry_eq] at hadd
  obtain ⟨fewer, hf⟩ := Registry.holds_builtin.exists_addSignatures_of_sublist hsub hadd
  rw [← registry_eq { s with rules := before ++ after }] at hf
  have hall := holds_of_registry hr
  have hrest := holds_of_registry hf
  rw [signatures, hs, List.map_append, List.map_cons, ← List.append_assoc] at hall
  rw [signatures, List.map_append, ← List.append_assoc] at hrest
  exact ⟨fewer, hf, hall.rulesFor_without hrest⟩

/-- To ignore a rule of the project's own is the same as to delete it: runs in time fail alike, and as
long as no two overrides contradict each other, reports differ in nothing but the number of findings
before the policy was applied. The rule has no part in the findings of the others. -/
theorem ignoring_is_deleting (hl : load content = .ok s) (failOn : Option Severity) :
    let ignoring := (s.ignoring a).withFailOn failOn
    let deleting := { s with rules := before ++ after }.withFailOn failOn
    ignoring.policy.validate = .ok () ∧ deleting.policy.validate = .ok () ∧
    ignoring.registry = .ok registry ∧
    ∃ fewer, deleting.registry = .ok fewer ∧
      (∀ bytes, fewer.findings bytes = (registry.findings bytes).filter fun f =>
        ¬ (f.catalog = a.catalog ∧ f.rule = a.name)) ∧
      ∀ clocks clocks' documents,
        (ignoring.InTime clocks documents → deleting.InTime clocks' documents →
          (∀ fault, ignoring.MayGive clocks documents (.error fault) ↔
            deleting.MayGive clocks' documents (.error fault)) ∧
          ((∃ p, ignoring.MayGive clocks documents (.ok p)) ↔
            ∃ q, deleting.MayGive clocks' documents (.ok q))) ∧
        (s.policy.Unambiguous → ∀ p q, ignoring.MayGive clocks documents (.ok p) →
          deleting.MayGive clocks' documents (.ok q) →
          p.documents = q.documents ∧ p.statistics = q.statistics ∧
          p.verdict = { q.verdict with totalFindings := p.verdict.totalFindings }) := by
  intro ignoring deleting
  obtain ⟨fewer, hf, hrules⟩ := exists_registry_without hs hr
  have hi : ignoring.scanner = .ok ⟨registry, s.limits⟩ := by
    rw [scanner_withFailOn, scanner_eq_ok_iff]
    exact ⟨hr, rfl⟩
  have hd : deleting.scanner = .ok ⟨fewer, s.limits⟩ := by
    rw [scanner_withFailOn, scanner_eq_ok_iff]
    exact ⟨hf, rfl⟩
  have hfound := Registry.findings_of_filter
    (fun c name => ¬ (c = a.catalog ∧ name = a.name)) hrules
  have hvalid := validate_of_load hl
  have hdistinct := distinct_of_load hl
  refine ⟨?_, ?_, (scanner_eq_ok_iff.mp hi).1, fewer, (scanner_eq_ok_iff.mp hd).1, hfound, ?_⟩
  · simp only [ignoring, policy_withFailOn]
    exact Policy.validate_ignore hvalid a.name
  · simp only [deleting, policy_withFailOn]
    exact hvalid
  · intro clocks clocks' documents
    have hlimits : deleting.limits = ignoring.limits := by
      simp only [ignoring, deleting, limits_withFailOn]
      rfl
    have hpolicy : ignoring.policy =
        deleting.policy.ignore (a.catalog.name ++ "/" ++ a.name) := by
      have hp : deleting.policy = (s.withFailOn failOn).policy := by
        rw [policy_withFailOn, policy_withFailOn]
      rw [hp]
      exact congrArg Settings.policy (withFailOn_ignoring s a failOn)
    refine ⟨fun ht ht' => ⟨mayGive_error_congr hi hd hlimits ht ht',
      exists_mayGive_ok_congr hi hd hlimits ht ht'⟩, fun hu _ _ hp hq => ?_⟩
    exact same_of_mayGive_without hi hd hfound hpolicy (.withFailOn failOn hdistinct)
      (.withFailOn failOn hu) hp hq

end

theorem deletes_rule_with_slash :
    let s : Settings := {
      policy := { overrides := [("VULN/a/b", .info)] }
      rules := [⟨.vulnerability, "a/b", "x+", .low, none⟩, ⟨.sensitive, "a/b", "y", .info, none⟩] }
    let text := "[policy.overrides]\n\"VULN/a/b\" = \"info\"\n" ++
      "[[rules]]\ncatalog = \"vulnerability\"\nname = \"a/b\"\npattern = 'x+'\n" ++
      "severity = \"low\"\n" ++
      "[[rules]]\ncatalog = \"sensitive\"\nname = \"a/b\"\npattern = 'y'\nseverity = \"info\"\n"
    load (some (Utf8.encode text)) = .ok s ∧ s.policy.Unambiguous ∧
    ∃ p q, (s.ignoring ⟨.vulnerability, "a/b", "x+", .low, none⟩).MayGive .frozen
        [⟨"a.js", Utf8.encode "xx y\n"⟩] (.ok p) ∧
      { s with rules := [⟨.sensitive, "a/b", "y", .info, none⟩] }.MayGive .frozen
        [⟨"a.js", Utf8.encode "xx y\n"⟩] (.ok q) ∧
      p.documents = q.documents ∧ p.statistics = q.statistics ∧
      p.verdict = { q.verdict with totalFindings := p.verdict.totalFindings } := by
  intro s text
  have hl : load (some (Utf8.encode text)) = .ok s := load_encode_of (by decide +kernel)
  have hu : s.policy.Unambiguous := by decide
  have hs : s.rules = [] ++ ⟨.vulnerability, "a/b", "x+", .low, none⟩ ::
      [⟨.sensitive, "a/b", "y", .info, none⟩] := rfl
  obtain ⟨registry, hr⟩ := (exists_registry_iff (s := s)).mpr
    ⟨by decide +kernel, fun c => by cases c <;> decide⟩
  obtain ⟨-, -, hi, fewer, hf, -, hall⟩ := ignoring_is_deleting hs hr hl none
  have hp := scanAll_of_no_limits _ .frozen [⟨"a.js", Utf8.encode "xx y\n"⟩] hi rfl
  have hq := scanAll_of_no_limits _ .frozen [⟨"a.js", Utf8.encode "xx y\n"⟩] hf rfl
  exact ⟨hl, hu, _, _, .report (same_refl _) hp, .report (same_refl _) hq,
    (hall _ _ _).2 hu _ _ (.report (same_refl _) hp) (.report (same_refl _) hq)⟩

/-- Contrary keys may rate what is left otherwise when a rule is ignored than when it is deleted,
and a ceiling on time may fail one of the runs alone. -/
theorem ignoring_unlike_deleting :
    (∃ s a registry p q, load (some (Utf8.encode ("[policy.overrides]\n\"vuln/eval\" = \"low\"\n" ++
          "\"vulnerability/eval\" = \"critical\"\n" ++
          "[[rules]]\ncatalog = \"sensitive\"\nname = \"own\"\npattern = 'y'\n"))) = .ok s ∧
      s.rules = [a] ∧ s.registry = .ok registry ∧
      (s.ignoring a).MayGive .frozen [.calling "a.js"] (.ok p) ∧
      { s with rules := [] }.MayGive .frozen [.calling "a.js"] (.ok q) ∧
      p.documents ≠ q.documents) ∧
    ∃ s a clocks q fault, load (some (Utf8.encode ("[limits]\ntimeout_ms = 1\n" ++
          "[[rules]]\ncatalog = \"sensitive\"\nname = \"own\"\npattern = 'y'\n"))) = .ok s ∧
      s.rules = [a] ∧
      (s.ignoring a).MayGive clocks [.calling "a.js"] (.error fault) ∧
      { s with rules := [] }.MayGive .frozen [.calling "a.js"] (.ok q) := by
  have hcompiles : ∀ a ∈ [(⟨.sensitive, "own", "y", .high, none⟩ : CustomRule)],
      (Pattern.ofText? a.regex.toList).isSome := by
    decide +kernel
  have hd := List.mem_singleton_self (Document.calling "a.js")
  constructor
  · let s : Settings := { policy := .lowFirst, rules := [⟨.sensitive, "own", "y", .high, none⟩] }
    obtain ⟨registry, hr⟩ := (exists_registry_iff (s := s)).mpr
      ⟨hcompiles, fun c => by cases c <;> decide⟩
    have hignoring : (s.ignoring ⟨.sensitive, "own", "y", .high, none⟩).registry =
        .ok registry := hr
    have hdeleting : ({ policy := .criticalFirst } : Settings).registry = .ok .builtin :=
      registry_of_no_rules rfl
    obtain ⟨p, q, hp, hq, f, hf, hf'⟩ := exists_rated_apart hignoring hdeleting rfl rfl (by decide)
      (by decide) rfl rfl hd hd
    have hsame : ({ policy := .criticalFirst } : Settings).Same { s with rules := [] } :=
      ⟨Policy.criticalFirst_same, rfl, rfl⟩
    refine ⟨s, _, registry, p, q, load_encode_of (by decide +kernel), rfl, hr,
      .report (same_refl _) hp, .report hsame hq, fun heq => ?_⟩
    rw [Report.findings, ← heq] at hf'
    exact hf' hf
  · let s : Settings := {
      limits := { timeout := some 1 }
      rules := [⟨.sensitive, "own", "y", .high, none⟩] }
    obtain ⟨registry, hr⟩ := (exists_registry_iff (s := s)).mpr
      ⟨hcompiles, fun c => by cases c <;> decide⟩
    have hignoring : (s.ignoring ⟨.sensitive, "own", "y", .high, none⟩).registry =
        .ok registry := hr
    have hdeleting : ({ s with rules := [] } : Settings).registry = .ok .builtin :=
      registry_of_no_rules rfl
    obtain ⟨-, fault, hf⟩ := gives_both_of_timeout hignoring rfl hd
    obtain ⟨⟨q, hq⟩, -⟩ := gives_both_of_timeout hdeleting rfl hd
    exact ⟨s, _, _, q, fault, load_encode_of (by decide +kernel), rfl, hf, hq⟩

end Settings

end Linewatch
