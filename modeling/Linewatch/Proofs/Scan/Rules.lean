import Linewatch.Proofs.Scan.Bounded
import Linewatch.Proofs.Scan.Hits
import Linewatch.Proofs.Signature

namespace Linewatch

def Rule.finding? (c : Catalog) (rule : Rule) (line : List Char) (number : Nat) : Option Finding :=
  if (rule.find? line.toArray).isSome then some (.ofMatch c rule line number) else none

namespace Registry

variable {r r' : Registry}

theorem findings_eq (r : Registry) (bytes : List UInt8) :
    r.findings bytes = ((Text.lines (Utf8.decodeLossy bytes)).zipIdx 1).flatMap fun p =>
      Catalog.all.flatMap fun c => (r.rulesFor c).filterMap fun rule => rule.finding? c p.1 p.2 := by
  simp only [findings, hits, hitsOnLine, List.map_flatMap, List.map_filterMap]
  refine List.flatMap_congr fun p _ => List.flatMap_congr fun c _ => List.filterMap_congr ?_
  intro rule hr
  rw [Rule.finding?]
  split
  · rw [Option.map_some, Finding.ofHit_eq hr]
  · rfl

theorem Holds.mem_map_ofHit {l : List Signature} {s : Signature} {text line : List Char}
    {number : Nat} (h : r.Holds l) (hs : s ∈ l) (hn : 1 ≤ number)
    (hl : (Text.lines text)[number - 1]? = some line)
    (hf : (s.rule.toOption.any fun rule => (rule.find? line.toArray).isSome) = true) :
    ∃ rule, s.rule = .ok rule ∧
      Finding.ofMatch s.catalog rule line number ∈ (r.hits text).map (Finding.ofHit r) := by
  cases hrule : s.rule with
  | error fault => simp [hrule, Except.toOption] at hf
  | ok rule =>
    simp only [hrule, Except.toOption, Option.any_some] at hf
    exact ⟨rule, rfl, mem_map_ofHit_iff.mpr
      ⟨_, rule, line, number, h.mem_rulesFor hs hrule, hn, hl, hf, rfl⟩⟩

/-- To leave rules out is to lose their findings and no others. -/
theorem findings_of_filter (keep : Catalog → String → Bool)
    (h : ∀ c, r'.rulesFor c = (r.rulesFor c).filter fun rule => keep c rule.name)
    (bytes : List UInt8) :
    r'.findings bytes = (r.findings bytes).filter fun f => keep f.catalog f.rule := by
  simp only [findings_eq, h, List.filter_flatMap, List.filter_filterMap, List.filterMap_filter]
  refine List.flatMap_congr fun p _ => List.flatMap_congr fun c _ => List.filterMap_congr ?_
  intro rule _
  rw [Rule.finding?]
  by_cases hm : (rule.find? p.1.toArray).isSome
  · rw [if_pos hm, Option.filter_some]
    rfl
  · rw [if_neg hm, Option.filter_none, ite_self]

end Registry

end Linewatch
