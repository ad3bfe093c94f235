import Linewatch.Proofs.Report.Uniform
import Linewatch.Proofs.Scan.Rules
import Linewatch.Proofs.Settings.Order

namespace Linewatch

theorem Report.ofScanned_congr {p q : Policy} (happly : q.apply = p.apply)
    (hfail : q.failOn = p.failOn) (scanned : List (Document × List Finding)) :
    ofScanned q scanned = ofScanned p scanned := by
  have hevaluate : q.evaluate = p.evaluate := by
    funext l
    simp only [Policy.evaluate, happly, hfail]
  simp only [ofScanned, happly, hevaluate]

section

variable {s : Settings} (failOn : Option Severity)

theorem Policy.Distinct.withFailOn (h : s.policy.Distinct) :
    (s.withFailOn failOn).policy.Distinct := by
  rw [Settings.policy_withFailOn]
  exact ⟨h.ignoreRules, h.overrides⟩

theorem Policy.Unambiguous.withFailOn (h : s.policy.Unambiguous) :
    (s.withFailOn failOn).policy.Unambiguous := by
  rw [Settings.policy_withFailOn]
  exact h

end

def Document.calling (source : String) : Document := ⟨source, Utf8.encode "eval(x)\n"⟩

namespace Policy

def lowFirst : Policy where
  overrides := [("vuln/eval", .low), ("vulnerability/eval", .critical)]

def criticalFirst : Policy where
  overrides := [("vulnerability/eval", .critical), ("vuln/eval", .low)]

theorem criticalFirst_same : criticalFirst.Same lowFirst := ⟨rfl, .refl _, .swap _ _ _⟩

theorem overrideFor_congr {p q : Policy} (h : p.overrides = q.overrides) (f : Finding) :
    p.overrideFor f = q.overrideFor f := by
  rw [overrideFor, overrideFor, h]

end Policy

namespace Settings

/-- What a run may give. Each run lists the keys of the policy in an order of its own. It scans the
documents side by side, and may blame any of those that cannot be scanned. -/
inductive MayGive (s : Settings) (clocks : Clocks) (documents : List Document) :
    Except Fault Report → Prop
  | report {t : Settings} {r : Report} (ht : t.Same s) (h : t.scanAll clocks documents = .ok r) :
      MayGive s clocks documents (.ok r)
  | refusal {fault : Fault} (h : s.scanner = .error fault) : MayGive s clocks documents (.error fault)
  | blame {scanner : Scanner} {p : Document × Clock} {fault : Fault} (hs : s.scanner = .ok scanner)
      (hp : p ∈ clocks.timed documents) (h : scanner.scanBytes p.2 p.1.content = .error fault) :
      MayGive s clocks documents (.error fault)

/-- Whether no document can be scanned too late. -/
def InTime (s : Settings) (clocks : Clocks) (documents : List Document) : Prop :=
  ∀ timeout line, ¬ s.MayGive clocks documents (.error (.overrun (.tooLate timeout line)))

/-- One of the runs keeps the keys as they are listed, and blames the first document that fails. -/
theorem mayGive_scanAll (s : Settings) (clocks : Clocks) (documents : List Document) :
    s.MayGive clocks documents (s.scanAll clocks documents) := by
  cases h : s.scanAll clocks documents with
  | ok r => exact .report s.same_refl h
  | error fault =>
    cases hs : s.scanner with
    | error e =>
      rw [scanAll, hs] at h
      exact Except.error.inj h ▸ .refusal hs
    | ok scanner =>
      obtain ⟨p, hp, hf⟩ := exists_of_scanAll_eq_error hs h
      exact .blame hs hp hf

theorem mayGive_congr {s t : Settings} (h : s.Same t) {clocks : Clocks}
    {documents : List Document} {x : Except Fault Report} :
    s.MayGive clocks documents x ↔ t.MayGive clocks documents x := by
  have hgives : ∀ {s t : Settings}, s.Same t → s.MayGive clocks documents x →
      t.MayGive clocks documents x := by
    rintro s t h (⟨ht, hr⟩ | hr | ⟨hs, hp, hf⟩)
    · exact .report (ht.trans h) hr
    · exact .refusal (h.scanner ▸ hr)
    · exact .blame (h.scanner ▸ hs) hp hf
  exact ⟨hgives h, hgives h.symm⟩

theorem mayGive_iff_of_refusal {s : Settings} {fault : Fault} (hs : s.scanner = .error fault)
    {clocks : Clocks} {documents : List Document} {x : Except Fault Report} :
    s.MayGive clocks documents x ↔ x = .error fault := by
  constructor
  · rintro (⟨ht, hr⟩ | hr | ⟨hs', -, -⟩)
    · rw [scanAll, ht.scanner, hs] at hr
      cases hr
    · exact congrArg Except.error (Except.error.inj (hr.symm.trans hs))
    · cases hs.symm.trans hs'
  · rintro rfl
    exact .refusal hs

theorem MayGive.exists_scanner {s : Settings} {clocks : Clocks} {documents : List Document}
    {r : Report} (h : s.MayGive clocks documents (.ok r)) : ∃ scanner, s.scanner = .ok scanner := by
  cases hs : s.scanner with
  | error fault => exact nomatch (mayGive_iff_of_refusal hs).mp h
  | ok scanner => exact ⟨scanner, rfl⟩

section

variable {s : Settings} {scanner : Scanner} (hs : s.scanner = .ok scanner) {clocks : Clocks}
  {documents : List Document} {fault : Fault} {r : Report}
include hs

theorem mayGive_error_iff : s.MayGive clocks documents (.error fault) ↔
    ∃ p ∈ clocks.timed documents, scanner.scanBytes p.2 p.1.content = .error fault := by
  constructor
  · rintro (_ | h | ⟨hs', hp, h⟩)
    · exact nomatch hs.symm.trans h
    · obtain rfl := Except.ok.inj (hs.symm.trans hs')
      exact ⟨_, hp, h⟩
  · rintro ⟨p, hp, h⟩
    exact .blame hs hp h

theorem mayGive_ok_iff (hd : s.policy.Distinct) (hu : s.policy.Unambiguous) :
    s.MayGive clocks documents (.ok r) ↔
      (∀ p ∈ clocks.timed documents,
        scanner.scanBytes p.2 p.1.content = .ok (scanner.registry.findings p.1.content)) ∧
      r = .ofScanned s.policy (documents.map scanner.registry.searched) := by
  constructor
  · rintro ⟨ht, h⟩
    have hpolicy := ht.policy
    obtain ⟨hall, rfl⟩ := (scanAll_eq_ok_iff_forall (ht.scanner.trans hs)).mp h
    exact ⟨hall, Report.ofScanned_congr (hpolicy.apply hd hu) hpolicy.failOn _⟩
  · intro h
    exact .report s.same_refl ((scanAll_eq_ok_iff_forall hs).mpr h)

/-- The time and the order of the keys decide whether there is a report, and not what is in it. -/
theorem eq_of_mayGive (hd : s.policy.Distinct) (hu : s.policy.Unambiguous) {clocks' : Clocks}
    {r' : Report} (h : s.MayGive clocks documents (.ok r))
    (h' : s.MayGive clocks' documents (.ok r')) : r' = r := by
  rw [((mayGive_ok_iff hs hd hu).mp h).2, ((mayGive_ok_iff hs hd hu).mp h').2]

/-- In the same time, all runs have a report or all fail. -/
theorem exists_mayGive_ok_iff : (∃ r, s.MayGive clocks documents (.ok r)) ↔
    ¬ ∃ fault, s.MayGive clocks documents (.error fault) := by
  simp only [mayGive_error_iff hs]
  constructor
  · rintro ⟨r, ⟨ht, h⟩⟩ ⟨fault, p, hp, hf⟩
    have hok := ((scanAll_eq_ok_iff_forall (ht.scanner.trans hs)).mp h).1 p hp
    exact nomatch hf.symm.trans hok
  · intro h
    have hgives := s.mayGive_scanAll clocks documents
    cases hr : s.scanAll clocks documents with
    | ok r => exact ⟨r, hr ▸ hgives⟩
    | error fault => exact absurd ⟨fault, (mayGive_error_iff hs).mp (hr ▸ hgives)⟩ h

theorem inTime_of_no_timeout (h : s.limits.timeout = none) : s.InTime clocks documents := by
  intro timeout line hlate
  obtain ⟨p, -, hp⟩ := (mayGive_error_iff hs).mp hlate
  obtain ⟨o, ho, he⟩ := Scanner.scanBytes_eq_error_iff.mp hp
  rw [Limits.overrun?_of_no_timeout ((scanner_eq_ok_iff.mp hs).2 ▸ h)] at ho
  obtain ⟨limit, -, -, rfl⟩ := Limits.excess?_eq_some_iff.mp ho
  cases he

/-- Runs in time fail for the ceiling on lines only. -/
theorem mayGive_error_iff_of_inTime (h : s.InTime clocks documents) :
    s.MayGive clocks documents (.error fault) ↔ ∃ d ∈ documents, ∃ o,
      s.limits.excess? (Text.lines (Utf8.decodeLossy d.content)).length = some o ∧
        fault = .overrun o := by
  have hl : scanner.limits = s.limits := (scanner_eq_ok_iff.mp hs).2
  rw [mayGive_error_iff hs]
  constructor
  · rintro ⟨p, hp, hf⟩
    obtain ⟨o, ho, rfl⟩ := Scanner.scanBytes_eq_error_iff.mp hf
    obtain hx | ⟨timeout, line, rfl⟩ := Limits.excess?_or_late_of_overrun? ho
    · obtain ⟨i, hd, -⟩ := Clocks.mem_timed_iff.mp hp
      exact ⟨p.1, List.mem_of_getElem? hd, o, hl ▸ hx, rfl⟩
    · exact absurd (.blame hs hp hf) (h timeout line)
  · rintro ⟨d, hd, o, ho, rfl⟩
    obtain ⟨i, hi⟩ := List.getElem?_of_mem hd
    refine ⟨(d, clocks i), Clocks.mem_timed_iff.mpr ⟨i, hi, rfl⟩, ?_⟩
    exact Scanner.scanBytes_eq_error_iff.mpr ⟨o, Limits.overrun?_of_excess (hl ▸ ho), rfl⟩

end

section

variable {s t : Settings} {scanner scanner' : Scanner} (hs : s.scanner = .ok scanner)
  (ht : t.scanner = .ok scanner') (hl : t.limits = s.limits) {clocks clocks' : Clocks}
  {documents : List Document} (h : s.InTime clocks documents) (h' : t.InTime clocks' documents)
include hs ht hl h h'

theorem mayGive_error_congr (fault : Fault) :
    s.MayGive clocks documents (.error fault) ↔ t.MayGive clocks' documents (.error fault) := by
  rw [mayGive_error_iff_of_inTime hs h, mayGive_error_iff_of_inTime ht h', hl]

theorem exists_mayGive_ok_congr : (∃ r, s.MayGive clocks documents (.ok r)) ↔
    ∃ r, t.MayGive clocks' documents (.ok r) := by
  rw [exists_mayGive_ok_iff hs, exists_mayGive_ok_iff ht]
  exact not_congr (exists_congr (mayGive_error_congr hs ht hl h h'))

end

/-- With a ceiling on time it may depend on the time alone whether there is a report. -/
theorem gives_both_of_timeout {s : Settings} {registry : Registry} (hr : s.registry = .ok registry)
    {timeout : Nat} (hl : s.limits = { timeout := some (timeout + 1) }) {documents : List Document}
    {source : String} (hd : Document.calling source ∈ documents) :
    (∃ r, s.MayGive .frozen documents (.ok r)) ∧
      ∃ fault, s.MayGive (fun _ _ => timeout + 1) documents (.error fault) := by
  have hs : s.scanner = .ok ⟨registry, { timeout := some (timeout + 1) }⟩ :=
    scanner_eq_ok_iff.mpr ⟨hr, hl.symm⟩
  constructor
  · rw [exists_mayGive_ok_iff hs]
    rintro ⟨fault, h⟩
    obtain ⟨p, hp, hf⟩ := (mayGive_error_iff hs).mp h
    obtain ⟨i, -, hc⟩ := Clocks.mem_timed_iff.mp hp
    obtain ⟨o, ho, -⟩ := Scanner.scanBytes_eq_error_iff.mp hf
    rw [Limits.overrun?_of_in_time (by simp [← hc, Clocks.frozen, Clock.frozen])] at ho
    cases ho
  · obtain ⟨i, hi⟩ := List.getElem?_of_mem hd
    have hp : (⟨_, fun _ => timeout + 1⟩ : Document × Clock) ∈
        Clocks.timed (fun _ _ => timeout + 1) documents :=
      Clocks.mem_timed_iff.mpr ⟨i, hi, rfl⟩
    refine ⟨_, .blame hs hp (Scanner.scanBytes_eq_error_iff.mpr ⟨.tooLate (timeout + 1) 1, ?_, rfl⟩)⟩
    have hlines : Text.lines "eval(x)\n".toList = ["eval(x)".toList] := by decide
    dsimp only [Document.calling]
    rw [Utf8.decodeLossy_encode, hlines, List.length_singleton, Limits.overrun?,
      List.range'_one, List.findSome?_singleton]
    simp [Limits.excess?, Limits.lateness?]

theorem exists_rated {t : Settings} {registry : Registry} (hr : t.registry = .ok registry)
    (hl : t.limits = {}) (hi : ¬ t.policy.Ignores .vulnerability "eval") {g : Severity}
    (ho : t.policy.overrideFor ⟨.vulnerability, "eval", .info, "", 0, "", ""⟩ = some g)
    {documents : List Document} {source : String}
    (hd : Document.calling source ∈ documents) :
    ∃ r, t.scanAll .frozen documents = .ok r ∧
      ∃ f ∈ r.findings, f.key = (.vulnerability, "eval") ∧ f.severity = g := by
  have hline : (Text.lines "eval(x)\n".toList)[1 - 1]? = some "eval(x)".toList := by decide
  obtain ⟨rule, hrule, hm⟩ := (holds_of_registry hr).mem_map_ofHit (s := .evaluation)
    (List.mem_append_left _ (by simp [Signature.all])) (Nat.le_refl 1) hline (by decide +kernel)
  have hname : rule.name = "eval" := congrArg Signature.name (Signature.signature_of_rule hrule)
  generalize hf : Finding.ofMatch Signature.evaluation.catalog rule "eval(x)".toList 1 = f at hm
  have hkey : f.key = (.vulnerability, "eval") := hf ▸ Prod.ext rfl hname
  obtain ⟨hcatalog, hrule⟩ := Prod.mk.inj hkey
  have hfound : f ∈ (documents.map registry.searched).flatMap (·.2) := by
    rw [List.flatMap_map]
    refine List.mem_flatMap.mpr ⟨_, hd, ?_⟩
    rw [Registry.searched, Document.calling, Registry.findings, Utf8.decodeLossy_encode]
    exact hm
  refine ⟨_, scanAll_of_no_limits t .frozen documents hr hl, t.policy.reratedBy f, ?_, hkey, ?_⟩
  · rw [Report.findings_ofScanned]
    refine Policy.mem_apply_iff.mpr ⟨f, hfound, ?_, rfl⟩
    rwa [hcatalog, hrule]
  · rw [Policy.reratedBy, Policy.overrideFor_of_key_eq (g := ⟨_, _, .info, "", 0, "", ""⟩) hkey, ho]
    rfl

/-- Runs whose policies put contrary keys for one rule in different orders do not agree on its
findings. -/
theorem exists_rated_apart {t t' : Settings} {registry registry' : Registry}
    (hr : t.registry = .ok registry) (hr' : t'.registry = .ok registry') (hl : t.limits = {})
    (hl' : t'.limits = {}) (hi : ¬ t.policy.Ignores .vulnerability "eval")
    (hi' : ¬ t'.policy.Ignores .vulnerability "eval")
    (ho : t.policy.overrides = Policy.lowFirst.overrides)
    (ho' : t'.policy.overrides = Policy.criticalFirst.overrides)
    {documents documents' : List Document} {source source' : String}
    (hd : Document.calling source ∈ documents)
    (hd' : Document.calling source' ∈ documents') :
    ∃ r r', t.scanAll .frozen documents = .ok r ∧ t'.scanAll .frozen documents' = .ok r' ∧
      ∃ f ∈ r.findings, f ∉ r'.findings := by
  have hlow : t.policy.overrideFor ⟨.vulnerability, "eval", .info, "", 0, "", ""⟩ = some .low := by
    rw [Policy.overrideFor_congr ho]
    decide
  have hcritical : t'.policy.overrideFor ⟨.vulnerability, "eval", .info, "", 0, "", ""⟩ =
      some .critical := by
    rw [Policy.overrideFor_congr ho']
    decide
  obtain ⟨r, h, f, hf, hkey, hs⟩ := exists_rated hr hl hi hlow hd
  obtain ⟨r', h', f', hf', hkey', hs'⟩ := exists_rated hr' hl' hi' hcritical hd'
  refine ⟨r, r', h, h', f, hf, fun hm => ?_⟩
  have hsame := (uniform_of_scanAll h' f hm f' hf' (hkey.trans hkey'.symm)).1
  rw [hs, hs'] at hsame
  cases hsame

end Settings

end Linewatch
