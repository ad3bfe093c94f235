import Mathlib.Data.List.Forall2
import Linewatch.Report.Console
import Linewatch.Proofs.Report.Coherence

namespace Linewatch.Report

/-- Whether a list arranges findings for reading: the more serious ones come first, then those on
earlier lines, and findings that are alike in both keep their order. -/
structure Arranges (l m : List Finding) : Prop where
  perm : m.Perm l
  sorted : m.Pairwise fun f g =>
    g.severity < f.severity ∨ f.severity = g.severity ∧ f.line ≤ g.line
  stable : ∀ (s : Severity) (n : Nat), (m.filter fun f => f.severity = s ∧ f.line = n) =
    l.filter fun f => f.severity = s ∧ f.line = n

def sectionText (d : DocumentReport) : String :=
  s!"\n  {d.source}\n\n" ++ .join (d.findings.map findingBlock)

/-- How a text sets out a report: the number of findings, the given sections, which are the documents
with findings in their order, the summary and the result. -/
structure SetsOut (r : Report) (sections : List DocumentReport) (text : String) : Prop where
  documents : List.Forall₂ (fun d e => e.source = d.source ∧ Arranges d.findings e.findings)
    (r.documents.filter fun d => d.findings ≠ []) sections
  parts : text = s!"\n  {r.statistics.total} finding(s) detected:\n" ++
    .join (sections.map sectionText) ++ summaryLine r.statistics ++ resultLine r.verdict

variable {f g : Finding} {r : Report} {part : String}

def told (f : Finding) : List String :=
  [severityTag f.severity, f.catalog.name, f.message, s!"at line {f.line}: {f.code}\n",
    s!"why: {f.description}\n"]

def counted (s : Statistics) : List String :=
  [s!" {s.vulnerabilities} vulnerabilit", s!" {s.sensitive} sensitive;", s!" critical {s.critical},",
    s!" high {s.high},", s!" medium {s.medium},", s!" low {s.low},", s!" info {s.info}\n"]

theorem severityTag_injective : Function.Injective severityTag := by
  intro s t h
  cases s <;> cases t <;> first | rfl | exact absurd h (by decide)

theorem infix_join {parts : List String} (h : part ∈ parts) :
    part.toList <:+: (String.join parts).toList := by
  rw [String.toList_join, List.flatMap_def]
  exact List.infix_of_mem_flatten (List.mem_map_of_mem h)

theorem findingBlock_eq (f : Finding) : findingBlock f = .join ["  ", severityTag f.severity, " ",
    f.catalog.name, .ofList (List.replicate (13 - f.catalog.name.length) ' '), " ", f.message,
    "\n           ", s!"at line {f.line}: {f.code}\n", "           ", s!"why: {f.description}\n",
    "\n"] := by
  simp [findingBlock, Text.padded, toString, String.ext_iff]

theorem summaryLine_eq (s : Statistics) : summaryLine s = .join ["  Summary:",
    s!" {s.vulnerabilities} vulnerabilit", if s.vulnerabilities = 1 then "y" else "ies", ",",
    s!" {s.sensitive} sensitive;", s!" critical {s.critical},", s!" high {s.high},",
    s!" medium {s.medium},", s!" low {s.low},", s!" info {s.info}\n"] := by
  simp [summaryLine, toString, String.ext_iff]

theorem findingBlock_tells (h : part ∈ told f) : part.toList <:+: (findingBlock f).toList := by
  rw [findingBlock_eq]
  refine infix_join ?_
  simp only [told, List.mem_cons, List.not_mem_nil, or_false] at h ⊢
  obtain h | h | h | h | h := h <;> simp only [h, true_or, or_true]

theorem summaryLine_counts {s : Statistics} (h : part ∈ counted s) :
    part.toList <:+: (summaryLine s).toList := by
  rw [summaryLine_eq]
  refine infix_join ?_
  simp only [counted, List.mem_cons, List.not_mem_nil, or_false] at h ⊢
  obtain h | h | h | h | h | h | h := h <;> simp only [h, true_or, or_true]

theorem mayPrecede_iff : mayPrecede f g = true ↔
    g.severity < f.severity ∨ f.severity = g.severity ∧ f.line ≤ g.line := by
  simp only [mayPrecede, Bool.or_eq_true, Bool.and_eq_true, decide_eq_true_eq, beq_iff_eq]

theorem mayPrecede_trans (f g k : Finding) (hfg : mayPrecede f g = true)
    (hgk : mayPrecede g k = true) : mayPrecede f k = true := by
  rw [mayPrecede_iff] at *
  obtain hfg | ⟨hfg, hline⟩ := hfg
  · obtain hgk | ⟨hgk, -⟩ := hgk
    · exact .inl (Nat.lt_trans hgk hfg)
    · exact .inl (hgk ▸ hfg)
  · rw [hfg]
    exact hgk.imp id (And.imp id hline.trans)

theorem mayPrecede_total (f g : Finding) : (mayPrecede f g || mayPrecede g f) = true := by
  rw [Bool.or_eq_true, mayPrecede_iff, mayPrecede_iff]
  obtain hlt | heq | hgt := Nat.lt_trichotomy f.severity.rank g.severity.rank
  · exact .inr (.inl hlt)
  · have hs : f.severity = g.severity := Severity.rank_injective heq
    exact (Nat.le_total f.line g.line).imp (fun hl => .inr ⟨hs, hl⟩) fun hl => .inr ⟨hs.symm, hl⟩
  · exact .inl (.inl hgt)

def sections (r : Report) : List DocumentReport :=
  (r.documents.filter fun d => d.findings ≠ []).map fun d =>
    ⟨d.source, d.findings.mergeSort mayPrecede⟩

theorem flatMap_findings_filter (l : List DocumentReport) :
    (l.filter fun d => d.findings ≠ []).flatMap DocumentReport.findings =
      l.flatMap DocumentReport.findings := by
  induction l with
  | nil => rfl
  | cons d l ih =>
    by_cases hd : d.findings = []
    · rw [List.filter_cons_of_neg (by simp [hd]), ih, List.flatMap_cons, hd, List.nil_append]
    · rw [List.filter_cons_of_pos (by simp [hd]), List.flatMap_cons, ih, List.flatMap_cons]

theorem mem_findings_of_forall₂ {documents sections : List DocumentReport}
    (h : List.Forall₂ (fun d e => e.source = d.source ∧ Arranges d.findings e.findings)
      documents sections) (hf : f ∈ documents.flatMap DocumentReport.findings) :
    f ∈ sections.flatMap DocumentReport.findings := by
  induction h with
  | nil => exact hf
  | cons hd _ ih =>
    rw [List.flatMap_cons, List.mem_append] at hf ⊢
    exact hf.imp hd.2.perm.mem_iff.mpr ih

/-- What is set out tells of every finding all but its rule. -/
theorem SetsOut.tells {sections : List DocumentReport} {text : String} (h : r.SetsOut sections text)
    (hf : f ∈ r.findings) (hp : part ∈ told f) : part.toList <:+: text.toList := by
  rw [findings, ← flatMap_findings_filter] at hf
  obtain ⟨e, he, hf⟩ := List.mem_flatMap.mp (mem_findings_of_forall₂ h.documents hf)
  have hblock : (findingBlock f).toList <:+: (sectionText e).toList := by
    rw [sectionText, String.toList_append]
    exact (infix_join (List.mem_map_of_mem hf)).trans (List.suffix_append _ _).isInfix
  have hsection : (sectionText e).toList <:+: text.toList := by
    rw [h.parts, String.append_assoc, String.toList_append, String.toList_append]
    exact (infix_join (List.mem_map_of_mem he)).trans (List.infix_append _ _ _)
  exact ((findingBlock_tells hp).trans hblock).trans hsection

theorem SetsOut.counts {sections : List DocumentReport} {text : String} (h : r.SetsOut sections text)
    (hp : part ∈ counted r.statistics) : part.toList <:+: text.toList := by
  rw [h.parts, String.toList_append, String.toList_append]
  exact (summaryLine_counts hp).trans (List.infix_append _ _ _)

section

variable {s : Settings} {failOn : Option Severity} {clocks : Clocks} {documents : List Document}
  (h : (s.withFailOn failOn).scanAll clocks documents = .ok r)
include h

end

end Linewatch.Report
