import Linewatch.Proofs.Scan.Bounded
import Linewatch.Proofs.Scan.Hits
import Linewatch.Proofs.Text.Newline

namespace Linewatch

def Hit.later (n : Nat) (h : Hit) : Hit := { h with line := h.line + n }

def Finding.later (n : Nat) (f : Finding) : Finding := { f with line := f.line + n }

theorem Finding.later_zero : later 0 = id := rfl

theorem Finding.later_comp_later (n m : Nat) : later n ∘ later m = later (n + m) := by
  funext f
  simp only [Function.comp, later, Nat.add_assoc, Nat.add_comm m n]

namespace Registry

variable (r : Registry)

theorem hitsOnLine_later (line : List Char) (number n : Nat) :
    r.hitsOnLine line (number + n) = (r.hitsOnLine line number).map (Hit.later n) := by
  simp only [hitsOnLine, List.map_flatMap, List.map_filterMap, apply_ite (Option.map (Hit.later n)),
    Option.map_some, Option.map_none, Hit.later]

theorem hits_append_newline (t u : List Char) :
    r.hits (t ++ '\n' :: u) =
      r.hits (t ++ ['\n']) ++ (r.hits u).map (Hit.later (1 + t.count '\n')) := by
  have hu : (Text.lines u).zipIdx (1 + (Text.lines (t ++ ['\n'])).length) =
      ((Text.lines u).zipIdx 1).map (Prod.map id (· + (1 + t.count '\n'))) := by
    rw [List.map_snd_add_zipIdx_eq_zipIdx, Text.length_lines_newline]
    congr 1
  simp only [hits]
  rw [Text.lines_append_newline, List.zipIdx_append, List.flatMap_append, hu, List.flatMap_map,
    List.map_flatMap]
  simp only [Prod.map, id, hitsOnLine_later]

theorem findings_append_newline (u v : List UInt8) :
    r.findings (u ++ 0x0A :: v) =
      r.findings (u ++ [0x0A]) ++ (r.findings v).map (Finding.later (1 + u.count 0x0A)) := by
  rw [findings, findings, findings, Utf8.decodeLossy_append_newline, hits_append_newline,
    Utf8.decodeLossy_concat_newline, Utf8.count_newline_decodeLossy, List.map_append, List.map_map,
    List.map_map]
  rfl

theorem findings_flatMap_newline (lines : List (List UInt8)) (hl : ∀ line ∈ lines, 0x0A ∉ line)
    (last : List UInt8) :
    r.findings (lines.flatMap (· ++ [0x0A]) ++ last) =
      (lines.zipIdx.flatMap fun p => (r.findings (p.1 ++ [0x0A])).map (Finding.later p.2)) ++
        (r.findings last).map (Finding.later lines.length) := by
  induction lines with
  | nil =>
    rw [List.flatMap_nil, List.nil_append, List.zipIdx_nil, List.flatMap_nil, List.nil_append]
    exact (List.map_id _).symm
  | cons line lines ih =>
    have hline : line.count 0x0A = 0 := List.count_eq_zero.mpr (hl line List.mem_cons_self)
    have hz : lines.zipIdx 1 = lines.zipIdx.map (Prod.map id (· + 1)) := by
      rw [List.map_snd_add_zipIdx_eq_zipIdx]
    rw [List.flatMap_cons, List.append_assoc, List.append_assoc, List.singleton_append,
      findings_append_newline, hline, ih fun l h => hl l (List.mem_cons_of_mem _ h),
      List.zipIdx_cons, Nat.zero_add, hz, List.flatMap_cons, List.flatMap_map, List.map_append,
      List.map_flatMap, List.append_assoc]
    simp only [Prod.map, id, List.map_map, Finding.later_comp_later, List.length_cons,
      Nat.add_comm, Nat.zero_add, Finding.later_zero, List.map_id]

theorem line_of_mem_findings {bytes : List UInt8} {f : Finding} (h : f ∈ r.findings bytes) :
    1 ≤ f.line ∧ f.line ≤ (Text.lines (Utf8.decodeLossy bytes)).length := by
  obtain ⟨c, rule, line, number, -, hle, hl, -, rfl⟩ := mem_map_ofHit_iff.mp h
  obtain ⟨hlt, -⟩ := List.getElem?_eq_some_iff.mp hl
  exact ⟨hle, Nat.le_of_pred_lt hlt⟩

theorem line_eq_one {line : List UInt8} (hl : 0x0A ∉ line) {f : Finding}
    (h : f ∈ r.findings (line ++ [0x0A]) ∨ f ∈ r.findings line) : f.line = 1 := by
  have hc : (Utf8.decodeLossy line).count '\n' = 0 := by
    rw [Utf8.count_newline_decodeLossy, List.count_eq_zero]
    exact hl
  cases h with
  | inl h =>
    have hf := r.line_of_mem_findings h
    rw [Utf8.decodeLossy_concat_newline, Text.length_lines_newline] at hf
    omega
  | inr h =>
    have hf := r.line_of_mem_findings h
    have hlen := Text.length_lines_le (Utf8.decodeLossy line)
    omega

/-- Bytes are searched line by line: the findings after a newline are those of what follows it, as
many lines further down as there are newlines before. Each line is searched by itself, so that
nothing in it, ill-formed or not, has a part in what is found on another. -/
theorem scan_line_by_line (r : Registry) :
    (∀ clock bytes, Scanner.scanBytes { registry := r } clock bytes = .ok (r.findings bytes)) ∧
    (∀ u v, r.findings (u ++ [0x0A] ++ v) =
      r.findings (u ++ [0x0A]) ++ (r.findings v).map (Finding.later (1 + u.count 0x0A))) ∧
    (∀ (lines : List (List UInt8)) (last : List UInt8), (∀ line ∈ lines, 0x0A ∉ line) →
      r.findings (lines.flatMap (· ++ [0x0A]) ++ last) =
        (lines.zipIdx.flatMap fun p => (r.findings (p.1 ++ [0x0A])).map (Finding.later p.2)) ++
          (r.findings last).map (Finding.later lines.length)) ∧
    ∀ line f, 0x0A ∉ line → f ∈ r.findings (line ++ [0x0A]) ∨ f ∈ r.findings line → f.line = 1 := by
  refine ⟨fun clock => Scanner.scanBytes_of_no_limits { registry := r } clock rfl, ?_, ?_, ?_⟩
  · intro u v
    rw [List.append_assoc, List.singleton_append, findings_append_newline]
  · exact fun lines last hl => r.findings_flatMap_newline lines hl last
  · exact fun line f hl h => r.line_eq_one hl h

theorem findings_after_truncated_line :
    ∃ a b, Scanner.builtin.scanBytes .frozen [0xE2, 0x82, 0x0A] = .ok a ∧
      Scanner.builtin.scanBytes .frozen (Utf8.encode "eval(x)") = .ok b ∧
      Scanner.builtin.scanBytes .frozen ([0xE2, 0x82, 0x0A] ++ Utf8.encode "eval(x)") =
        .ok (a ++ b.map (Finding.later 1)) ∧
      ∀ f ∈ a, f.line = 1 := by
  obtain ⟨hscan, -, hlines, hone⟩ := scan_line_by_line .builtin
  have hnew : (0x0A : UInt8) ∉ [0xE2, 0x82] := by decide
  refine ⟨_, _, hscan _ _, hscan _ _, (hscan _ _).trans (congrArg _ ?_), ?_⟩
  · have hl := hlines [[0xE2, 0x82]] (Utf8.encode "eval(x)") (by simp)
    simp only [List.zipIdx_singleton, List.flatMap_singleton, Finding.later_zero, List.map_id] at hl
    exact hl
  · exact fun f hf => hone [0xE2, 0x82] f hnew (.inl hf)

end Registry

end Linewatch
