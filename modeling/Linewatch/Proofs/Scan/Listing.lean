import Linewatch.Proofs.Scan.Bounded
import Linewatch.Proofs.Scan.Hits

namespace Linewatch

namespace Registry

variable {r : Registry} {c : Catalog} {rule : Rule}

theorem summary_mem_summaries (h : rule ∈ r.rulesFor c) : rule.summary c ∈ r.summaries := by
  refine List.mem_flatMap.mpr ⟨c, ?_, List.mem_map_of_mem h⟩
  cases c <;> simp [Catalog.all]

theorem filter_summaries (h : rule ∈ r.rulesFor c) :
    (r.summaries.filter fun m => m.catalog = c ∧ m.name = rule.name) = [rule.summary c] := by
  have hm := summary_mem_summaries h
  have hkey : ∀ m ∈ r.summaries,
      decide (m.catalog = c ∧ m.name = rule.name) = (m == rule.summary c) := by
    intro m hin
    rw [Bool.eq_iff_iff, decide_eq_true_eq, beq_iff_eq]
    constructor
    · rintro ⟨hc, hn⟩
      exact List.inj_on_of_nodup_map r.nodup_summaries hin hm (Prod.ext hc hn)
    · rintro rfl
      exact ⟨rfl, rfl⟩
  have hn : r.summaries.Nodup := .of_map _ r.nodup_summaries
  rw [List.filter_congr hkey, List.filter_beq, List.count_eq_one_of_mem hn hm, List.replicate_one]

end Registry

namespace Scanner

variable (s : Scanner) (clock : Clock) {text : List Char} {found : List Finding}

theorem mem_of_find? (h : s.scan clock text = .ok found) {c : Catalog} {rule : Rule}
    (hr : rule ∈ s.registry.rulesFor c) {line : List Char} {i : Nat}
    (hl : (Text.lines text)[i]? = some line) (hf : (rule.find? line.toArray).isSome) :
    Finding.ofMatch c rule line (i + 1) ∈ found := by
  rw [eq_of_scan_eq_ok s clock h, Registry.mem_map_ofHit_iff]
  exact ⟨c, rule, line, i + 1, hr, Nat.le_add_left 1 i, hl, hf, rfl⟩

/-- Every finding of a scan is announced: the list of rules has one entry for it, which tells its
severity and its description, and it is the pattern of this rule that matches on its line. -/
theorem findings_as_listed (h : s.scan clock text = .ok found) {f : Finding} (hf : f ∈ found) :
    ∃ rule ∈ s.registry.rulesFor f.catalog, ∃ m line,
      m = rule.summary f.catalog ∧
      (s.registry.summaries.filter fun m => m.catalog = f.catalog ∧ m.name = f.rule) = [m] ∧
      f.severity = m.severity ∧
      f.description = m.description.getD Finding.genericDescription ∧
      f.message = (match f.catalog with
        | .vulnerability => "Potential " ++ Text.upper f.rule ++ " vulnerability detected"
        | .sensitive => "Possible " ++ Text.upper f.rule ++ " exposure detected") ∧
      1 ≤ f.line ∧ (Text.lines text)[f.line - 1]? = some line ∧
      (rule.find? line.toArray).isSome := by
  rw [eq_of_scan_eq_ok s clock h, Registry.mem_map_ofHit_iff] at hf
  obtain ⟨c, rule, line, number, hr, hle, hl, hm, rfl⟩ := hf
  refine ⟨rule, hr, _, line, rfl, Registry.filter_summaries hr, rfl, rfl, ?_, hle, hl, hm⟩
  cases c <;> rfl

theorem findings_of_same_name :
    ∃ (s : Scanner) (found : List Finding) (f g : Finding),
      s.scan .frozen "ab".toList = .ok found ∧ (f ∈ found ∧ g ∈ found) ∧
      (f.catalog = .vulnerability ∧ f.rule = "token" ∧ f.severity = .low ∧
        f.description = "The letter a") ∧
      g.catalog = .sensitive ∧ g.rule = "token" ∧ g.severity = .critical ∧
        g.description = Finding.genericDescription := by
  have ha : ((Rule.compile "token" "a" .low (some "The letter a")).toOption.any fun rule =>
      rule.name = "token" ∧ rule.severity = .low ∧ rule.description = some "The letter a" ∧
        (rule.find? "ab".toList.toArray).isSome) = true := by
    decide +kernel
  have hb : ((Rule.compile "token" "b" .info none).toOption.any fun rule =>
      rule.name = "token" ∧ rule.description = none ∧
        (rule.find? "ab".toList.toArray).isSome) = true := by
    decide +kernel
  obtain ⟨a, -, ha⟩ := (Option.any_eq_true _ _).mp ha
  obtain ⟨b, -, hb⟩ := (Option.any_eq_true _ _).mp hb
  obtain ⟨han, has, had, haf⟩ := of_decide_eq_true ha
  obtain ⟨hbn, hbd, hbf⟩ := of_decide_eq_true hb
  let s : Scanner :=
    ⟨⟨⟨[a], [(a.name, 0)], Indexes.nil.push rfl⟩, ⟨[b], [(b.name, 0)], Indexes.nil.push rfl⟩⟩, {}⟩
  have hs := s.scan_of_no_limits .frozen rfl "ab".toList
  have hl : (Text.lines "ab".toList)[0]? = some "ab".toList := by decide
  have hf := s.mem_of_find? .frozen hs (c := .vulnerability) (List.mem_singleton_self a) hl haf
  have hg := s.mem_of_find? .frozen hs (c := .sensitive) (List.mem_singleton_self b) hl hbf
  obtain ⟨x, hx, m, -, rfl, -, hsev, hdesc, -⟩ := s.findings_as_listed .frozen hs hf
  obtain ⟨y, hy, n, -, rfl, -, hsev', hdesc', -⟩ := s.findings_as_listed .frozen hs hg
  obtain rfl : x = a := List.mem_singleton.mp hx
  obtain rfl : y = b := List.mem_singleton.mp hy
  refine ⟨s, _, _, _, hs, ⟨hf, hg⟩, ⟨rfl, han, hsev.trans has, ?_⟩, rfl, hbn, hsev', ?_⟩
  · exact hdesc.trans (congrArg (Option.getD · Finding.genericDescription) had)
  · exact hdesc'.trans (congrArg (Option.getD · Finding.genericDescription) hbd)

end Scanner

end Linewatch
