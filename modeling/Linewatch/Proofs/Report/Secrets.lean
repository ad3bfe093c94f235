import Linewatch.Proofs.Report.Coherence
import Linewatch.Proofs.Scan.Hits
import Linewatch.Proofs.Signature

namespace Linewatch

/-- A rule for secrets matches on a line of a document. Lines are numbered from one. -/
structure Registry.HasSecret (r : Registry) (d : Document) (rule : Rule) (line : List Char)
    (number : Nat) : Prop where
  registered : rule ∈ r.rulesFor .sensitive
  positive : 1 ≤ number
  lineAt : (Text.lines (Utf8.decodeLossy d.content))[number - 1]? = some line
  found : (rule.find? line.toArray).isSome

namespace Finding

def ofSecret (rule : Rule) (line : List Char) (number : Nat) : Finding where
  catalog := .sensitive
  rule := rule.name
  severity := .critical
  message := headline .sensitive rule.name
  line := number
  code := String.ofList (Text.trim line)
  description := rule.description.getD genericDescription

end Finding

namespace Scanner

variable {s : Scanner} {clock : Clock} {d : Document} {found : List Finding} {f : Finding}
  {rule : Rule} {line : List Char} {number : Nat}

theorem critical_of_mem (h : s.scanBytes clock d.content = .ok found) (hf : f ∈ found)
    (hc : f.catalog = .sensitive) : f.severity = .critical := by
  rw [eq_of_scan_eq_ok s clock h, Registry.mem_map_ofHit_iff] at hf
  obtain ⟨c, rule, line, number, -, -, -, -, rfl⟩ := hf
  obtain rfl : c = .sensitive := hc
  rfl

theorem secret_mem (h : s.scanBytes clock d.content = .ok found)
    (hs : s.registry.HasSecret d rule line number) : Finding.ofSecret rule line number ∈ found := by
  rw [eq_of_scan_eq_ok s clock h, Registry.mem_map_ofHit_iff]
  exact ⟨.sensitive, rule, line, number, hs.registered, hs.positive, hs.lineAt, hs.found, rfl⟩

end Scanner

namespace Report.Coherent

variable {p : Policy} {scanned : List (Document × List Finding)} {r : Report} {f : Finding}

theorem not_pass (h : r.Coherent p scanned) (hf : f ∈ r.findings) (hc : f.severity = .critical) :
    r.verdict.pass = false := by
  rw [← Bool.not_eq_true, h.pass]
  intro hall
  have hle : r.verdict.failThreshold ≤ f.severity := hc ▸ Severity.le_critical _
  exact hall f hf hle

theorem getElem?_documents (h : r.Coherent p scanned) {i : Nat} {d : Document × List Finding}
    (hd : scanned[i]? = some d) : r.documents[i]? = some ⟨d.1.source, p.apply d.2⟩ := by
  rw [h.documents, List.getElem?_map, hd, Option.map_some]

end Report.Coherent

namespace Settings

variable {s : Settings} {failOn : Option Severity} {clocks : Clocks} {documents : List Document}
  {r : Report}

theorem ignores_withFailOn {c : Catalog} {name : String} :
    (s.withFailOn failOn).policy.Ignores c name ↔ s.policy.Ignores c name := by
  rw [policy_withFailOn, Policy.Ignores, Policy.Ignores]

/-- Whatever is overridden, and whatever the threshold: a secret that is reported is critical and
makes the run fail, and one that is not reported is ignored. -/
theorem secrets_never_pass (h : (s.withFailOn failOn).scanAll clocks documents = .ok r) :
    ∃ registry, s.registry = .ok registry ∧
      (∀ f ∈ r.findings, f.catalog = .sensitive → f.severity = .critical ∧ r.verdict.pass = false) ∧
      ∀ (i : Nat) d rule line number, documents[i]? = some d →
        registry.HasSecret d rule line number →
        (∃ dr : DocumentReport, r.documents[i]? = some dr ∧
          (Finding.ofSecret rule line number ∈ dr.findings ↔
            ¬ s.policy.Ignores .sensitive rule.name)) ∧
        (¬ s.policy.Ignores .sensitive rule.name → r.verdict.pass = false) := by
  obtain ⟨scanner, scanned, hs, hd, hb, rfl⟩ := scanAll_eq_ok_iff.mp h
  rw [scanner_withFailOn] at hs
  obtain ⟨hr, -⟩ := scanner_eq_ok_iff.mp hs
  have hc := Report.coherent_ofScanned (s.withFailOn failOn).policy scanned
  refine ⟨scanner.registry, hr, ?_, ?_⟩
  · intro f hf hsens
    have hcrit : f.severity = .critical := by
      rw [Report.findings_ofScanned, Policy.mem_apply_iff_of_sensitive hsens] at hf
      obtain ⟨d, hd, hfd⟩ := List.mem_flatMap.mp hf.1
      obtain ⟨i, hi⟩ := List.mem_iff_getElem?.mp hd
      exact Scanner.critical_of_mem (hb i d hi) hfd hsens
    exact ⟨hcrit, hc.not_pass hf hcrit⟩
  · intro i d rule line number hdi hsecret
    rw [← hd, List.getElem?_map, Option.map_eq_some_iff] at hdi
    obtain ⟨d, hi, rfl⟩ := hdi
    have hm := Scanner.secret_mem (hb i d hi) hsecret
    have hdr := hc.getElem?_documents hi
    have hiff : Finding.ofSecret rule line number ∈ (s.withFailOn failOn).policy.apply d.2 ↔
        ¬ s.policy.Ignores .sensitive rule.name := by
      rw [Policy.mem_apply_iff_of_sensitive rfl, ignores_withFailOn]
      exact ⟨And.right, fun hn => ⟨hm, hn⟩⟩
    refine ⟨⟨_, hdr, hiff⟩, ?_⟩
    intro hn
    have hf : Finding.ofSecret rule line number ∈
        (Report.ofScanned (s.withFailOn failOn).policy scanned).findings :=
      List.mem_flatMap.mpr ⟨_, List.mem_of_getElem? hdr, hiff.mpr hn⟩
    exact hc.not_pass hf rfl

theorem web_token_never_passes :
    ∃ r, (({ policy := { overrides := [("jwt", .info)] } } : Settings).withFailOn
        (some .critical)).scanAll .frozen [⟨"notes.txt", Utf8.encode "eyJa.b.c\n"⟩] = .ok r ∧
      r.verdict.pass = false := by
  have h := scanAll_of_no_limits
    (({ policy := { overrides := [("jwt", .info)] } } : Settings).withFailOn (some .critical))
    .frozen [⟨"notes.txt", Utf8.encode "eyJa.b.c\n"⟩] (registry_of_no_rules rfl) rfl
  obtain ⟨registry, hr, -, hall⟩ := secrets_never_pass h
  obtain rfl : Registry.builtin = registry :=
    Except.ok.inj ((registry_of_no_rules rfl).symm.trans hr)
  have hm : (Signature.jwt.rule.toOption.any fun rule =>
      (rule.find? "eyJa.b.c".toList.toArray).isSome) = true := by
    decide +kernel
  cases hrule : Signature.jwt.rule with
  | error fault => simp [hrule, Except.toOption] at hm
  | ok rule =>
    have hreg := Registry.mem_rulesFor_builtin (by simp [Signature.all]) hrule
    have hsecret : Registry.builtin.HasSecret ⟨"notes.txt", Utf8.encode "eyJa.b.c\n"⟩ rule
        "eyJa.b.c".toList 1 := by
      refine ⟨hreg, Nat.le_refl 1, ?_, by simpa [hrule, Except.toOption] using hm⟩
      rw [Utf8.decodeLossy_encode]
      decide
    refine ⟨_, h, (hall 0 _ rule _ 1 rfl hsecret).2 ?_⟩
    rintro ⟨key, hkey, -⟩
    cases hkey

end Settings

end Linewatch
