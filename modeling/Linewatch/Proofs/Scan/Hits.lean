import Linewatch.Scan
import Linewatch.Proofs.Registry
import Linewatch.Proofs.Text.Lines
import Linewatch.Proofs.Text.Trim

namespace Linewatch

theorem Rule.exists_not_blank_of_find? {rule : Rule} {line : List Char}
    (h : (rule.find? line.toArray).isSome) : ∃ c ∈ line, Text.isBlank c = false := by
  by_contra hall
  have hb : line.toArray.all Text.isBlank = true := by
    rw [List.all_toArray, List.all_eq_true]
    exact fun c hc => Bool.of_not_eq_false fun hf => hall ⟨c, hc, hf⟩
  rw [Rule.find?, if_pos hb] at h
  cases h

/-- Whether a scan comes to a hit before another: on an earlier line, or on the same line in an
earlier catalog, or there by a rule that was added earlier. -/
def Hit.Before (r : Registry) (a b : Hit) : Prop :=
  a.line < b.line ∨ a.line = b.line ∧
    (a.catalog = .vulnerability ∧ b.catalog = .sensitive ∨
      a.catalog = b.catalog ∧ r.place a.catalog a.rule < r.place b.catalog b.rule)

theorem Hit.Before.ne {r : Registry} {a b : Hit} (h : Hit.Before r a b) :
    (a.line, a.catalog, a.rule) ≠ (b.line, b.catalog, b.rule) := by
  intro he
  simp only [Prod.mk.injEq] at he
  obtain ⟨hl, hc, hr⟩ := he
  rw [Hit.Before, hl, hc, hr] at h
  rcases h with h | ⟨-, ⟨hv, hs⟩ | ⟨-, h⟩⟩
  · exact Nat.lt_irrefl _ h
  · cases hv.symm.trans hs
  · exact Nat.lt_irrefl _ h

def Finding.ofMatch (c : Catalog) (rule : Rule) (line : List Char) (number : Nat) : Finding where
  catalog := c
  rule := rule.name
  severity := rule.severityIn c
  message := headline c rule.name
  line := number
  code := String.ofList (Text.trim line)
  description := rule.description.getD genericDescription

theorem Finding.ofHit_eq {r : Registry} {c : Catalog} {rule : Rule} (hr : rule ∈ r.rulesFor c)
    (line : List Char) (number : Nat) :
    ofHit r ⟨rule.name, c, number, String.ofList (Text.trim line)⟩ =
      ofMatch c rule line number := by
  simp only [ofHit, Registry.get?_name hr, Option.map_some, Option.bind_some, Option.getD_some]
  cases c <;> rfl

namespace Registry

variable {r : Registry} {text line : List Char} {number : Nat} {h : Hit}

theorem mem_hitsOnLine_iff :
    h ∈ r.hitsOnLine line number ↔ h.line = number ∧ ∃ rule, r.get? h.catalog h.rule = some rule ∧
      (rule.find? line.toArray).isSome ∧ h.code = String.ofList (Text.trim line) := by
  simp only [hitsOnLine, List.mem_flatMap, List.mem_filterMap, Option.ite_none_right_eq_some,
    Option.some.injEq, get?_eq_some_iff]
  constructor
  · rintro ⟨c, -, rule, hm, hf, rfl⟩
    exact ⟨rfl, rule, ⟨hm, rfl⟩, hf, rfl⟩
  · rintro ⟨rfl, rule, ⟨hm, hn⟩, hf, hc⟩
    refine ⟨h.catalog, by cases h.catalog <;> simp [Catalog.all], rule, hm, hf, ?_⟩
    rw [hn, ← hc]

theorem mem_flatMap_hitsOnLine_iff {lines : List (List Char)} :
    h ∈ ((lines.zipIdx 1).flatMap fun p => r.hitsOnLine p.1 p.2) ↔
      1 ≤ h.line ∧ ∃ line rule, lines[h.line - 1]? = some line ∧
        r.get? h.catalog h.rule = some rule ∧ (rule.find? line.toArray).isSome ∧
        h.code = String.ofList (Text.trim line) := by
  simp only [List.mem_flatMap, Prod.exists, List.mk_mem_zipIdx_iff_le_and_getElem?_sub,
    mem_hitsOnLine_iff]
  constructor
  · rintro ⟨line, number, ⟨hle, hl⟩, rfl, rule, hr⟩
    exact ⟨hle, line, rule, hl, hr⟩
  · rintro ⟨hle, line, rule, hl, hr⟩
    exact ⟨line, h.line, ⟨hle, hl⟩, rfl, rule, hr⟩

theorem mem_hits_iff :
    h ∈ r.hits text ↔ 1 ≤ h.line ∧ ∃ line rule, (Text.lines text)[h.line - 1]? = some line ∧
      r.get? h.catalog h.rule = some rule ∧ (rule.find? line.toArray).isSome ∧
      h.code = String.ofList (Text.trim line) :=
  mem_flatMap_hitsOnLine_iff

theorem mem_map_ofHit_iff {f : Finding} : f ∈ (r.hits text).map (Finding.ofHit r) ↔
    ∃ c rule line number, rule ∈ r.rulesFor c ∧ 1 ≤ number ∧
      (Text.lines text)[number - 1]? = some line ∧ (rule.find? line.toArray).isSome ∧
      Finding.ofMatch c rule line number = f := by
  simp only [List.mem_map, mem_hits_iff]
  constructor
  · rintro ⟨h, ⟨hle, line, rule, hl, hr, hf, hc⟩, rfl⟩
    obtain ⟨hm, hn⟩ := get?_eq_some_iff.mp hr
    refine ⟨h.catalog, rule, line, h.line, hm, hle, hl, hf, ?_⟩
    rw [← Finding.ofHit_eq hm, hn, ← hc]
  · rintro ⟨c, rule, line, number, hm, hle, hl, hf, rfl⟩
    exact ⟨_, ⟨hle, line, rule, hl, get?_name hm, hf, rfl⟩, Finding.ofHit_eq hm line number⟩

theorem pairwise_hitsOnLine (r : Registry) (line : List Char) (number : Nat) :
    (r.hitsOnLine line number).Pairwise (Hit.Before r) := by
  rw [hitsOnLine, List.pairwise_flatMap]
  constructor
  · intro c _
    rw [List.pairwise_filterMap]
    refine (r.pairwise_place c).imp ?_
    intro a b hab x hx y hy
    simp only [Option.ite_none_right_eq_some, Option.some.injEq] at hx hy
    obtain ⟨-, rfl⟩ := hx
    obtain ⟨-, rfl⟩ := hy
    exact .inr ⟨rfl, .inr ⟨rfl, hab⟩⟩
  · simp only [Catalog.all, List.pairwise_cons, List.mem_singleton, forall_eq, List.not_mem_nil,
      List.mem_filterMap, Option.ite_none_right_eq_some, Option.some.injEq]
    refine ⟨?_, by simp⟩
    rintro x ⟨a, -, -, rfl⟩ y ⟨b, -, -, rfl⟩
    exact .inr ⟨rfl, .inl ⟨rfl, rfl⟩⟩

theorem pairwise_hits (r : Registry) (text : List Char) :
    (r.hits text).Pairwise (Hit.Before r) := by
  rw [hits, List.pairwise_flatMap]
  constructor
  · intro p _
    exact r.pairwise_hitsOnLine p.1 p.2
  · have hs : ((Text.lines text).zipIdx 1).Pairwise fun a b => a.2 < b.2 := by
      rw [← List.pairwise_map, List.zipIdx_map_snd]
      exact List.pairwise_lt_range'
    refine hs.imp ?_
    intro a b hab x hx y hy
    rw [mem_hitsOnLine_iff] at hx hy
    exact .inl (by rw [hx.1, hy.1]; exact hab)

/-- A scan hits exactly the lines on which a rule matches, once for each rule, in order. -/
theorem hits_exactly (r : Registry) (text : List Char) :
    (∀ h : Hit, h ∈ r.hits text ↔ (1 ≤ h.line ∧ h.line ≤ (Text.lines text).length) ∧
      ∃ line rule, (Text.lines text)[h.line - 1]? = some line ∧
        r.get? h.catalog h.rule = some rule ∧ (rule.find? line.toArray).isSome ∧
        h.code = String.ofList (Text.trim line)) ∧
    (r.hits text).Pairwise (Hit.Before r) ∧
    ((r.hits text).map fun h => (h.line, h.catalog, h.rule)).Nodup ∧
    ∀ h ∈ r.hits text, h.code ≠ "" ∧ '\n' ∉ h.code.toList ∧ Text.IsTrimmed h.code.toList := by
  refine ⟨?_, r.pairwise_hits text, ?_, ?_⟩
  · intro h
    rw [mem_hits_iff]
    constructor
    · rintro ⟨hle, line, rule, hl, hr⟩
      obtain ⟨hlt, -⟩ := List.getElem?_eq_some_iff.mp hl
      exact ⟨⟨hle, by omega⟩, line, rule, hl, hr⟩
    · rintro ⟨⟨hle, -⟩, hr⟩
      exact ⟨hle, hr⟩
  · rw [List.Nodup, List.pairwise_map]
    exact (r.pairwise_hits text).imp Hit.Before.ne
  · intro h hh
    obtain ⟨-, line, rule, hl, -, hf, hc⟩ := mem_hits_iff.mp hh
    rw [hc, String.toList_ofList]
    obtain ⟨c, hm, hb⟩ := Rule.exists_not_blank_of_find? hf
    refine ⟨?_, ?_, Text.isTrimmed_trim line⟩
    · intro he
      have hn : Text.trim line = [] := by simpa using he
      rw [Text.trim_eq_nil_iff.mp hn c hm] at hb
      cases hb
    · intro hn
      exact Text.newline_notMem_of_mem_lines (List.mem_of_getElem? hl) (Text.mem_of_mem_trim hn)

end Registry

end Linewatch
