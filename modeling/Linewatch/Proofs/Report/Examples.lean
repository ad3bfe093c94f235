import Linewatch.Proofs.Report.Removal
import Linewatch.Proofs.Settings.Examples

namespace Linewatch

namespace Report

/-- Whether a report is another one with the findings of each document changed, and is otherwise the
report on what they have been changed to. -/
structure ChangedBy (change : List Finding → List Finding) (base r : Report) : Prop where
  documents : r.documents = base.documents.map fun d => { d with findings := change d.findings }
  statistics : r.statistics = .ofFindings r.findings
  total : r.verdict.totalFindings = base.verdict.totalFindings
  effective : r.verdict.effectiveFindings = r.findings.length
  highest : r.verdict.highestSeverity = (r.findings.map (·.severity)).max?
  pass : r.verdict.pass = true ↔ ∀ f ∈ r.findings, ¬ r.verdict.failThreshold ≤ f.severity
  threshold : r.verdict.failThreshold = base.verdict.failThreshold

theorem changedBy_ofScanned {p q : Policy} {change : List Finding → List Finding}
    (happly : ∀ l, q.apply l = change (p.apply l)) (hfail : q.failOn = p.failOn)
    (scanned : List (Document × List Finding)) :
    ChangedBy change (ofScanned p scanned) (ofScanned q scanned) where
  documents := by
    have hdocuments : ∀ p : Policy, (ofScanned p scanned).documents =
        scanned.map fun d => ⟨d.1.source, p.apply d.2⟩ := fun _ => rfl
    rw [hdocuments, hdocuments, List.map_map]
    exact List.map_congr_left fun d _ => congrArg (DocumentReport.mk d.1.source) (happly d.2)
  statistics := statistics_ofScanned q scanned
  total := rfl
  effective := by
    rw [findings_ofScanned]
    rfl
  highest := by
    rw [findings_ofScanned]
    rfl
  pass := (coherent_ofScanned q scanned).pass
  threshold := hfail

end Report

namespace Settings

variable (chosen : Example → Bool)

/-- What the chosen examples leave of findings: none of the ignored rule, and those of the
overridden one with the severity that it has been given. -/
def amend (l : List Finding) : List Finding :=
  (l.filter fun f => !(chosen .ignoredRules && f.rule == "unsafeRegex")).map fun f =>
    if chosen .overrides && f.catalog == .vulnerability && f.rule == "commandInjection" then
      { f with severity := .medium }
    else f

theorem isIgnored_settingsWith (f : Finding) : (settingsWith chosen).policy.isIgnored f =
    (chosen .ignoredRules && f.rule == "unsafeRegex") := by
  have hkey : Policy.keySelects f "unsafeRegex" = (f.rule == "unsafeRegex") := by
    rw [Bool.eq_iff_iff, Policy.keySelects_of_bare (by decide), beq_iff_eq]
  cases h : chosen .ignoredRules <;> simp [settingsWith, Policy.isIgnored, h, hkey]

theorem overrideFor_settingsWith (f : Finding) : (settingsWith chosen).policy.overrideFor f =
    if chosen .overrides && f.catalog == .vulnerability && f.rule == "commandInjection" then
      some .medium
    else none := by
  have hkey : Policy.keySelects f "commandInjection" = (f.rule == "commandInjection") := by
    rw [Bool.eq_iff_iff, Policy.keySelects_of_bare (by decide), beq_iff_eq]
  have hbare : Policy.isQualified "commandInjection" = false := by decide
  cases hc : f.catalog with
  | sensitive => simp [Policy.overrideFor, hc]
  | vulnerability =>
    cases h : chosen .overrides <;> cases hr : f.rule == "commandInjection" <;>
      simp [settingsWith, Policy.overrideFor, hc, h, hkey, hr, hbare]

theorem apply_settingsWith (l : List Finding) :
    (settingsWith chosen).policy.apply l = amend chosen l := by
  have hrated : ∀ f, (settingsWith chosen).policy.reratedBy f =
      if chosen .overrides && f.catalog == .vulnerability && f.rule == "commandInjection" then
        { f with severity := .medium }
      else f := by
    intro f
    rw [Policy.reratedBy, overrideFor_settingsWith]
    split <;> rfl
  simp only [Policy.apply, amend, isIgnored_settingsWith]
  exact List.map_congr_left fun f _ => hrated f

theorem scanner_settingsWith (failOn : Option Severity) :
    ((settingsWith chosen).withFailOn failOn).scanner =
      .ok ⟨.builtin, (settingsWith chosen).limits⟩ := by
  have hr : (settingsWith chosen).registry = .ok .builtin := registry_of_no_rules rfl
  rw [scanner_withFailOn, Settings.scanner, hr]
  rfl

variable {chosen}

theorem overrun?_settingsWith {clock : Clock}
    (htime : chosen .timeout = true → ∀ line, clock line < 5000) {count : Nat} {o : Overrun} :
    (settingsWith chosen).limits.overrun? clock count = some o ↔
      chosen .maxLines = true ∧ 200000 < count ∧ o = .tooManyLines count 200000 := by
  have htimeout : (settingsWith chosen).limits.timeout =
      if chosen .timeout = true then some 5000 else none := rfl
  have hlines : (settingsWith chosen).limits.maxLines =
      if chosen .maxLines = true then some 200000 else none := rfl
  have hintime : ∀ t ∈ (settingsWith chosen).limits.timeout, ∀ line, clock line < t := by
    intro t ht
    rw [htimeout, Option.mem_def, Option.ite_none_right_eq_some, Option.some.injEq] at ht
    obtain ⟨hc, rfl⟩ := ht
    exact htime hc
  rw [Limits.overrun?_of_in_time hintime, Limits.excess?_eq_some_iff, hlines]
  simp only [Option.ite_none_right_eq_some, Option.some.injEq]
  constructor
  · rintro ⟨limit, ⟨hc, rfl⟩, hlt, ho⟩
    exact ⟨hc, hlt, ho⟩
  · rintro ⟨hc, hlt, ho⟩
    exact ⟨_, ⟨hc, rfl⟩, hlt, ho⟩

/-- A batch that is scanned in time fails exactly if there is a ceiling on lines and a document with
more of them. -/
theorem scanAll_settingsWith_eq_error {failOn : Option Severity} {clocks : Clocks}
    {documents : List Document}
    (htime : chosen .timeout = true → ∀ i line, clocks i line < 5000) :
    let scan := ((settingsWith chosen).withFailOn failOn).scanAll clocks documents
    ((∃ fault, scan = .error fault) ↔ chosen .maxLines = true ∧
      ∃ d ∈ documents, 200000 < (Text.lines (Utf8.decodeLossy d.content)).length) ∧
    ∀ fault, scan = .error fault → ∃ d ∈ documents, fault =
      .overrun (.tooManyLines (Text.lines (Utf8.decodeLossy d.content)).length 200000) := by
  intro scan
  have hs := scanner_settingsWith chosen failOn
  have hblame : ∀ fault, scan = .error fault → chosen .maxLines = true ∧ ∃ d ∈ documents,
      200000 < (Text.lines (Utf8.decodeLossy d.content)).length ∧ fault =
        .overrun (.tooManyLines (Text.lines (Utf8.decodeLossy d.content)).length 200000) := by
    intro fault h
    obtain ⟨p, hp, hf⟩ := exists_of_scanAll_eq_error hs h
    obtain ⟨i, hd, hc⟩ := Clocks.mem_timed_iff.mp hp
    obtain ⟨o, ho, rfl⟩ := Scanner.scanBytes_eq_error_iff.mp hf
    obtain ⟨hchosen, hlt, rfl⟩ :=
      (overrun?_settingsWith fun h line => hc ▸ htime h i line).mp ho
    exact ⟨hchosen, p.1, List.mem_of_getElem? hd, hlt, rfl⟩
  refine ⟨⟨?_, ?_⟩, ?_⟩
  · rintro ⟨fault, h⟩
    obtain ⟨hchosen, d, hd, hlt, -⟩ := hblame fault h
    exact ⟨hchosen, d, hd, hlt⟩
  · rintro ⟨hchosen, d, hd, hlt⟩
    cases h : scan with
    | error fault => exact ⟨fault, rfl⟩
    | ok r =>
      obtain ⟨i, hi⟩ := List.getElem?_of_mem hd
      have hok := ((scanAll_eq_ok_iff_forall hs).mp h).1 (d, clocks i)
        (Clocks.mem_timed_iff.mpr ⟨i, hi, rfl⟩)
      have hintime : chosen .timeout = true → ∀ line, clocks i line < 5000 := fun h => htime h i
      have hover := (overrun?_settingsWith hintime).mpr ⟨hchosen, hlt, rfl⟩
      rw [Scanner.scanBytes_eq_ok_iff.mp hok] at hover
      cases hover
  · intro fault h
    obtain ⟨-, d, hd, -, hf⟩ := hblame fault h
    exact ⟨d, hd, hf⟩

theorem scanAll_default (failOn : Option Severity) (clocks : Clocks) (documents : List Document) :
    (({} : Settings).withFailOn failOn).scanAll clocks documents =
      .ok (.ofScanned (({} : Settings).withFailOn failOn).policy
        (documents.map Registry.builtin.searched)) := by
  apply scanAll_of_no_limits
  · exact registry_of_no_rules (rules_withFailOn _ failOn)
  · exact limits_withFailOn _ failOn

theorem changedBy_of_scanAll {failOn : Option Severity} {clocks : Clocks}
    {documents : List Document} {r : Report}
    (h : ((settingsWith chosen).withFailOn failOn).scanAll clocks documents = .ok r) :
    (Report.ofScanned (({} : Settings).withFailOn failOn).policy
      (documents.map Registry.builtin.searched)).ChangedBy (amend chosen) r := by
  have hs := scanner_settingsWith chosen failOn
  obtain ⟨-, hr⟩ := (scanAll_eq_ok_iff_forall hs).mp h
  dsimp only at hr
  rw [hr]
  apply Report.changedBy_ofScanned
  · intro l
    have hdefault : (({} : Settings).withFailOn failOn).policy.apply l = l := by
      rw [policy_withFailOn, Policy.apply_eq_self rfl rfl]
    rw [hdefault, ← apply_settingsWith, policy_withFailOn]
    rfl
  · rw [policy_withFailOn, policy_withFailOn]
    rfl

/-- The examples in the settings that a project starts from can be put in force as they stand, in
any combination, and change the reports of the defaults by just what they say. Only that of a rule
cannot: the text is refused with it. -/
theorem examples_in_force (chosen : Example → Bool) :
    (chosen .rules = true → load (some (Utf8.encode (starterWith chosen))) = .error .toml) ∧
    (chosen .rules = false →
      load (some (Utf8.encode (starterWith chosen))) = .ok (settingsWith chosen) ∧
      ∀ (failOn : Option Severity) (clocks : Clocks) (documents : List Document),
        (chosen .timeout = true → ∀ i line, clocks i line < 5000) →
        let scan := fun s : Settings => (s.withFailOn failOn).scanAll clocks documents
        ((∃ fault, scan (settingsWith chosen) = .error fault) ↔ chosen .maxLines = true ∧
          ∃ d ∈ documents, 200000 < (Text.lines (Utf8.decodeLossy d.content)).length) ∧
        (∀ fault, scan (settingsWith chosen) = .error fault → ∃ d ∈ documents, fault =
          .overrun (.tooManyLines (Text.lines (Utf8.decodeLossy d.content)).length 200000)) ∧
        ∃ base, scan {} = .ok base ∧
          ∀ r, scan (settingsWith chosen) = .ok r → base.ChangedBy (amend chosen) r) := by
  refine ⟨load_of_rule chosen, fun h => ⟨load_of_no_rule chosen h, ?_⟩⟩
  intro failOn clocks documents htime scan
  obtain ⟨hfails, hblame⟩ := scanAll_settingsWith_eq_error htime
  refine ⟨hfails, hblame, _, scanAll_default failOn clocks documents, ?_⟩
  exact fun r hr => changedBy_of_scanAll hr

theorem examples_on_two_lines :
    load (some (Utf8.encode (starterWith fun _ => true))) = .error .toml ∧
    ∃ s base r, load (some (Utf8.encode (starterWith (· != .rules)))) = .ok s ∧
      s = ⟨⟨.high, ["unsafeRegex"], [("commandInjection", .medium)]⟩, ⟨some 200000, some 5000⟩, []⟩ ∧
      (({} : Settings).withFailOn (some .medium)).scanAll (fun _ _ => 4999)
        [⟨"a.js", Utf8.encode "s.match(new RegExp(t))\nexec(s)\n"⟩] = .ok base ∧
      (s.withFailOn (some .medium)).scanAll (fun _ _ => 4999)
        [⟨"a.js", Utf8.encode "s.match(new RegExp(t))\nexec(s)\n"⟩] = .ok r ∧
      base.ChangedBy (amend (· != .rules)) r ∧
      amend (· != .rules) [⟨.vulnerability, "unsafeRegex", .high, "", 1, "", ""⟩,
          ⟨.vulnerability, "commandInjection", .high, "", 2, "", ""⟩,
          ⟨.sensitive, "commandInjection", .critical, "", 2, "", ""⟩] =
        [⟨.vulnerability, "commandInjection", .medium, "", 2, "", ""⟩,
          ⟨.sensitive, "commandInjection", .critical, "", 2, "", ""⟩] := by
  obtain ⟨hload, hscan⟩ := (examples_in_force (· != .rules)).2 rfl
  obtain ⟨hfails, -, base, hbase, hchanged⟩ := hscan (some .medium) (fun _ _ => 4999)
    [⟨"a.js", Utf8.encode "s.match(new RegExp(t))\nexec(s)\n"⟩] fun _ _ _ => by decide
  have hshort : ¬ 200000 < (Text.lines (Utf8.decodeLossy
      (Utf8.encode "s.match(new RegExp(t))\nexec(s)\n"))).length := by
    decide +kernel
  refine ⟨(examples_in_force fun _ => true).1 rfl, settingsWith (· != .rules), base, ?_⟩
  cases hr : ((settingsWith (· != .rules)).withFailOn (some .medium)).scanAll (fun _ _ => 4999)
      [⟨"a.js", Utf8.encode "s.match(new RegExp(t))\nexec(s)\n"⟩] with
  | error fault =>
    obtain ⟨-, d, hd, hlong⟩ := hfails.mp ⟨fault, hr⟩
    obtain rfl := List.mem_singleton.mp hd
    exact absurd hlong hshort
  | ok r => exact ⟨r, hload, rfl, hbase, rfl, hchanged r hr, by decide⟩

/-- A text with an example in force that cannot be read. -/
theorem example_of_rule_refused :
    load (some (Utf8.encode (starterWith (· == .rules)))) = .error .toml ∧
    ¬ ∀ chosen : Example → Bool, ∃ s, load (some (Utf8.encode (starterWith chosen))) = .ok s := by
  have hrefused := load_of_rule (· == .rules) rfl
  refine ⟨hrefused, fun h => ?_⟩
  obtain ⟨s, hs⟩ := h (· == .rules)
  cases hrefused.symm.trans hs

end Settings

end Linewatch
