import Linewatch.Proofs.Report.Runs
import Linewatch.Proofs.Settings.Names

namespace Linewatch

namespace Policy

variable {p q : Policy} {l m : List Finding}

/-- Whether a policy asks no more of findings than another, `p`, does. -/
structure Relaxes (q p : Policy) (l : List Finding) : Prop where
  ignores : ∀ f ∈ l, p.Ignores f.catalog f.rule → q.Ignores f.catalog f.rule
  rerates : ∀ f ∈ l, (q.reratedBy f).severity ≤ (p.reratedBy f).severity
  failOn : p.failOn ≤ q.failOn

theorem Relaxes.pass (h : q.Relaxes p l) (hm : m ⊆ l) (hp : (p.evaluate l).pass = true) :
    (q.evaluate m).pass = true := by
  rw [pass_iff] at hp ⊢
  intro g hg hfail
  obtain ⟨f, hf, hcounts, rfl⟩ := mem_apply_iff.mp hg
  have hl : p.reratedBy f ∈ p.apply l :=
    mem_apply_iff.mpr ⟨f, hm hf, mt (h.ignores f (hm hf)) hcounts, rfl⟩
  apply hp _ hl
  calc p.failOn ≤ q.failOn := h.failOn
    _ ≤ (q.reratedBy f).severity := hfail
    _ ≤ (p.reratedBy f).severity := h.rerates f (hm hf)

end Policy

namespace Report

def withThreshold (g : Severity) (r : Report) : Report :=
  { r with verdict := { r.verdict with
      pass := r.verdict.highestSeverity.all (· < g)
      failThreshold := g } }

theorem ofScanned_withFailOn (p : Policy) (g : Severity) (scanned : List (Document × List Finding)) :
    ofScanned { p with failOn := g } scanned = (ofScanned p scanned).withThreshold g := rfl

end Report

namespace Settings

variable {s t : Settings} {clocks clocks' : Clocks} {documents : List Document} {r r' : Report}

/-- Whether two settings differ in the threshold at most. -/
def SameButThreshold (s t : Settings) : Prop := t.Same (s.withFailOn (some t.policy.failOn))

theorem withFailOn_withFailOn (s : Settings) (g : Severity) (failOn : Option Severity) :
    (s.withFailOn failOn).withFailOn (some g) = s.withFailOn (some g) := by
  cases failOn <;> rfl

namespace SameButThreshold

variable (h : s.SameButThreshold t)
include h

theorem scanner : t.scanner = s.scanner := (Same.scanner h).trans (scanner_withFailOn s _)

theorem limits : t.limits = s.limits := (Same.limits h).trans (limits_withFailOn s _)

theorem withFailOn (failOn failOn' : Option Severity) :
    (s.withFailOn failOn).SameButThreshold (t.withFailOn failOn') := by
  have hp := Same.policy h
  rw [policy_withFailOn] at hp
  rw [SameButThreshold, withFailOn_withFailOn]
  refine ⟨?_, ?_, ?_⟩
  · rw [policy_withFailOn, policy_withFailOn]
    exact ⟨rfl, hp.ignoreRules, hp.overrides⟩
  · rw [limits_withFailOn, limits_withFailOn, h.limits]
  · rw [rules_withFailOn, rules_withFailOn, Same.rules h, rules_withFailOn]

theorem mayGive_iff (hf : s.policy.failOn = t.policy.failOn) {x : Except Fault Report} :
    s.MayGive clocks documents x ↔ t.MayGive clocks documents x :=
  (mayGive_congr (hf ▸ h : t.Same (s.withFailOn (some s.policy.failOn)))).symm

theorem mayGive_error_iff_of_inTime (hs : s.InTime clocks documents)
    (ht : t.InTime clocks' documents) (fault : Fault) :
    s.MayGive clocks documents (.error fault) ↔ t.MayGive clocks' documents (.error fault) := by
  cases hscanner : s.scanner with
  | error fault' =>
    rw [mayGive_iff_of_refusal hscanner, mayGive_iff_of_refusal (h.scanner.trans hscanner)]
  | ok scanner =>
    exact mayGive_error_congr hscanner (h.scanner.trans hscanner) h.limits hs ht fault

theorem exists_mayGive_ok_iff_of_inTime (hs : s.InTime clocks documents)
    (ht : t.InTime clocks' documents) :
    (∃ r, s.MayGive clocks documents (.ok r)) ↔ ∃ r', t.MayGive clocks' documents (.ok r') := by
  cases hscanner : s.scanner with
  | error fault =>
    simp only [mayGive_iff_of_refusal hscanner,
      mayGive_iff_of_refusal (h.scanner.trans hscanner), reduceCtorEq]
  | ok scanner =>
    exact exists_mayGive_ok_congr hscanner (h.scanner.trans hscanner) h.limits hs ht

theorem eq_withThreshold {scanner : Scanner} (hs : s.scanner = .ok scanner)
    (hd : s.policy.Distinct) (hu : s.policy.Unambiguous) (hr : s.MayGive clocks documents (.ok r))
    (hr' : t.MayGive clocks' documents (.ok r')) : r' = r.withThreshold t.policy.failOn := by
  rw [mayGive_congr h] at hr'
  obtain ⟨-, rfl⟩ := (mayGive_ok_iff hs hd hu).mp hr
  obtain ⟨-, rfl⟩ := (mayGive_ok_iff ((scanner_withFailOn s _).trans hs) (hd.withFailOn _)
    (hu.withFailOn _)).mp hr'
  rw [policy_withFailOn]
  exact Report.ofScanned_withFailOn _ _ _

end SameButThreshold

/-- Findings that pass still pass when fewer of them are left under a policy that asks for less. Runs
that differ in the threshold, whether it is given or set, fail alike in time. As long as no two overrides
contradict each other, their reports differ in no more than the verdict by it. -/
theorem passes_when_relaxed :
    (∀ (p q : Policy) (l m : List Finding), q.Relaxes p l → m ⊆ l →
      (p.evaluate l).pass = true → (q.evaluate m).pass = true) ∧
    ∀ content (s t : Settings) (given set : Option Severity), load content = .ok s →
      s.SameButThreshold t →
      let a := s.withFailOn given
      let b := t.withFailOn set
      a.policy.validate = .ok () ∧ b.policy.validate = .ok () ∧
      (a.policy.failOn = b.policy.failOn → ∀ clocks documents x,
        a.MayGive clocks documents x ↔ b.MayGive clocks documents x) ∧
      ∀ clocks clocks' documents,
        (a.InTime clocks documents → b.InTime clocks' documents →
          (∀ fault, a.MayGive clocks documents (.error fault) ↔
            b.MayGive clocks' documents (.error fault)) ∧
          ((∃ r, a.MayGive clocks documents (.ok r)) ↔
            ∃ r', b.MayGive clocks' documents (.ok r'))) ∧
        (s.policy.Unambiguous → ∀ r r',
          a.MayGive clocks documents (.ok r) → b.MayGive clocks' documents (.ok r') →
            r' = r.withThreshold b.policy.failOn ∧
            (a.policy.failOn = b.policy.failOn → r' = r)) := by
  constructor
  · exact fun p q l m h hm hp => h.pass hm hp
  · intro content s t given set hl hst a b
    have h : a.SameButThreshold b := hst.withFailOn given set
    have hd : a.policy.Distinct := (distinct_of_load hl).withFailOn given
    have ha : a.policy.validate = .ok () := by
      simp only [a, policy_withFailOn]
      exact validate_of_load hl
    have hb : b.policy.validate = .ok () := (Same.policy h).validate <| by
      rw [policy_withFailOn]
      exact ha
    refine ⟨ha, hb, fun hf _ _ _ => h.mayGive_iff hf, fun clocks clocks' documents => ⟨?_, ?_⟩⟩
    · exact fun hs ht =>
        ⟨h.mayGive_error_iff_of_inTime hs ht, h.exists_mayGive_ok_iff_of_inTime hs ht⟩
    · intro hu r r' hr hr'
      replace hu : a.policy.Unambiguous := hu.withFailOn given
      obtain ⟨scanner, hs⟩ := hr.exists_scanner
      exact ⟨h.eq_withThreshold hs hd hu hr hr',
        fun hf => eq_of_mayGive hs hd hu hr ((h.mayGive_iff hf).mpr hr')⟩

theorem passes_by_higher_threshold :
    (({ failOn := .critical, ignoreRules := ["vulnerability/exec"],
        overrides := [("VULN/eval", .low)] } : Policy).evaluate
      [⟨.vulnerability, "eval", .critical, "", 2, "", ""⟩]).pass = true ∧
    ∃ s t r r',
      load (some (Utf8.encode "[policy.overrides]\nexec = \"low\"\n\"VULN/eval\" = \"high\"\n")) =
        .ok s ∧
      load (some (Utf8.encode ("[policy]\nfail_on = \"critical\"\n" ++
        "[policy.overrides]\n\"VULN/eval\" = \"high\"\nexec = \"low\"\n"))) = .ok t ∧
      s.policy.Unambiguous ∧ s.SameButThreshold t ∧
      s.InTime .frozen [.calling "a.js"] ∧ t.InTime (fun _ i => i) [.calling "a.js"] ∧
      s.MayGive .frozen [.calling "a.js"] (.ok r) ∧
      t.MayGive (fun _ i => i) [.calling "a.js"] (.ok r') ∧ r' = r.withThreshold .critical := by
  obtain ⟨hpass, hruns⟩ := passes_when_relaxed
  constructor
  · have hrelaxes : Policy.Relaxes
        { failOn := .critical, ignoreRules := ["vulnerability/exec"],
          overrides := [("VULN/eval", .low)] }
        { overrides := [("eval", .medium)] }
        [⟨.vulnerability, "exec", .low, "", 1, "", ""⟩,
          ⟨.vulnerability, "eval", .critical, "", 2, "", ""⟩] :=
      ⟨by decide, by decide, by decide⟩
    exact hpass _ _ _ _ hrelaxes (by simp) (by decide)
  · have hl : load (some (Utf8.encode
        "[policy.overrides]\nexec = \"low\"\n\"VULN/eval\" = \"high\"\n")) =
        .ok { policy := { overrides := [("exec", .low), ("VULN/eval", .high)] } } :=
      load_encode_of (by decide +kernel)
    have hu : ({ overrides := [("exec", .low), ("VULN/eval", .high)] } : Policy).Unambiguous := by
      decide
    have hsame : ({ policy := { overrides := [("exec", .low), ("VULN/eval", .high)] } } :
        Settings).SameButThreshold
        { policy := { failOn := .critical, overrides := [("VULN/eval", .high), ("exec", .low)] } } :=
      ⟨⟨rfl, .refl _, .swap _ _ _⟩, rfl, rfl⟩
    have hr := MayGive.report (same_refl _) (scanAll_of_no_limits
      { policy := { overrides := [("exec", .low), ("VULN/eval", .high)] } } .frozen
      [.calling "a.js"] (registry_of_no_rules rfl) rfl)
    have hr' := MayGive.report (same_refl _) (scanAll_of_no_limits
      { policy := { failOn := .critical, overrides := [("VULN/eval", .high), ("exec", .low)] } }
      (fun _ i => i) [.calling "a.js"] (registry_of_no_rules rfl) rfl)
    obtain ⟨-, -, -, hall⟩ := hruns _ _ _ none none hl hsame
    exact ⟨_, _, _, _, hl, load_encode_of (by decide +kernel), hu, hsame,
      inTime_of_no_timeout (scanner_of_no_rules rfl) rfl,
      inTime_of_no_timeout (scanner_of_no_rules rfl) rfl, hr, hr', ((hall _ _ _).2 hu _ _ hr hr').1⟩

/-- Contrary keys may rate findings otherwise under a threshold that is given than under the same one
that is set, and a ceiling on time may fail one of the runs alone. -/
theorem given_unlike_set :
    (∃ s t r r', load (some (Utf8.encode
        "[policy.overrides]\n\"vuln/eval\" = \"low\"\n\"vulnerability/eval\" = \"critical\"\n")) =
          .ok s ∧
      load (some (Utf8.encode ("[policy]\nfail_on = \"critical\"\n[policy.overrides]\n" ++
        "\"vuln/eval\" = \"low\"\n\"vulnerability/eval\" = \"critical\"\n"))) = .ok t ∧
      (s.withFailOn (some .critical)).MayGive .frozen [.calling "a.js"] (.ok r) ∧
      t.MayGive .frozen [.calling "a.js"] (.ok r') ∧ r.documents ≠ r'.documents) ∧
    ∃ s t clocks r fault, load (some (Utf8.encode "[limits]\ntimeout_ms = 1\n")) = .ok s ∧
      load (some (Utf8.encode ("[policy]\nfail_on = \"critical\"\n" ++
        "[limits]\ntimeout_ms = 1\n"))) = .ok t ∧
      (s.withFailOn (some .critical)).MayGive .frozen [.calling "a.js"] (.ok r) ∧
      t.MayGive clocks [.calling "a.js"] (.error fault) := by
  have hr : ∀ p l, ({ policy := p, limits := l } : Settings).registry = .ok .builtin :=
    fun p l => registry_of_no_rules rfl
  have hd := List.mem_singleton_self (Document.calling "a.js")
  constructor
  · let t : Settings := { policy := { Policy.lowFirst with failOn := .critical } }
    obtain ⟨r, r', hlow, hcritical, f, hf, hf'⟩ := exists_rated_apart (hr t.policy {})
      (hr { Policy.criticalFirst with failOn := .critical } {}) rfl rfl (by decide) (by decide)
      rfl rfl hd hd
    have hsame :
        ({ policy := { Policy.criticalFirst with failOn := .critical } } : Settings).Same t :=
      ⟨⟨rfl, .refl _, .swap _ _ _⟩, rfl, rfl⟩
    refine ⟨{ policy := .lowFirst }, t, r, r', load_encode_of (by decide +kernel),
      load_encode_of (by decide +kernel), .report (same_refl t) hlow, .report hsame hcritical, ?_⟩
    intro heq
    rw [Report.findings, ← heq] at hf'
    exact hf' hf
  · obtain ⟨⟨r, hr'⟩, fault, hf⟩ := gives_both_of_timeout
      (hr { failOn := .critical } { timeout := some 1 }) rfl hd
    exact ⟨{ limits := { timeout := some 1 } }, _, _, r, fault, load_encode_of (by decide +kernel),
      load_encode_of (by decide +kernel), hr', hf⟩

end Settings

end Linewatch
