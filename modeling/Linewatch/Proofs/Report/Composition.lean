import Mathlib.Data.List.Perm.Basic
import Linewatch.Proofs.Report.Runs

namespace Linewatch

namespace Report

/-- What the report on two batches together is, told by the reports on each. -/
structure Joins (a b r : Report) : Prop where
  documents : r.documents = a.documents ++ b.documents
  statistics : r.statistics = a.statistics.merge b.statistics
  total : r.verdict.totalFindings = a.verdict.totalFindings + b.verdict.totalFindings
  effective : r.verdict.effectiveFindings =
    a.verdict.effectiveFindings + b.verdict.effectiveFindings
  highest : r.verdict.highestSeverity = max a.verdict.highestSeverity b.verdict.highestSeverity
  pass : r.verdict.pass = true ↔ a.verdict.pass = true ∧ b.verdict.pass = true

variable (p : Policy) {l m : List (Document × List Finding)}

theorem joins_ofScanned (l m : List (Document × List Finding)) :
    Joins (ofScanned p l) (ofScanned p m) (ofScanned p (l ++ m)) where
  documents := List.map_append
  statistics := by
    simp only [statistics_ofScanned, findings_ofScanned, List.flatMap_append, Policy.apply_append,
      Statistics.ofFindings_append]
  total := by
    simp only [verdict_ofScanned, List.flatMap_append, Policy.evaluate, List.length_append]
  effective := by
    simp only [verdict_ofScanned, List.flatMap_append, Policy.evaluate, Policy.apply_append,
      List.length_append]
  highest := by
    simp only [verdict_ofScanned, List.flatMap_append, Policy.highestSeverity_append]
  pass := by
    simp only [verdict_ofScanned, List.flatMap_append, Policy.pass_append, Bool.and_eq_true]

theorem statistics_ofScanned_perm (h : l.Perm m) :
    (ofScanned p l).statistics = (ofScanned p m).statistics := by
  rw [statistics_ofScanned, statistics_ofScanned, findings_ofScanned, findings_ofScanned]
  exact Statistics.ofFindings_perm (p.apply_perm (h.flatMap_right _))

theorem verdict_ofScanned_perm (h : l.Perm m) :
    (ofScanned p l).verdict = (ofScanned p m).verdict :=
  p.evaluate_perm (h.flatMap_right _)

end Report

/-- A run on documents fails with the faults that they have alone, each in the same time. -/
theorem Settings.mayGive_error_iff_alone {s : Settings} {scanner : Scanner}
    (hs : s.scanner = .ok scanner) {clocks : Clocks} {documents : List Document} {fault : Fault} :
    s.MayGive clocks documents (.error fault) ↔
      ∃ p ∈ clocks.timed documents, s.MayGive (fun _ => p.2) [p.1] (.error fault) := by
  have halone : ∀ p : Document × Clock, Clocks.timed (fun _ => p.2) [p.1] = [p] := fun _ => rfl
  simp only [mayGive_error_iff hs, halone, List.mem_singleton, exists_eq_left]

namespace Settings

section

variable {s : Settings} {scanner : Scanner} (hs : s.scanner = .ok scanner)
  {clocks clocks₁ clocks₂ : Clocks}
include hs

theorem mayGive_error_iff_alone_of_inTime {documents : List Document} {alone : Document → Clock}
    (h : s.InTime clocks documents) (ha : ∀ d ∈ documents, s.InTime (fun _ => alone d) [d])
    (fault : Fault) : s.MayGive clocks documents (.error fault) ↔
      ∃ d ∈ documents, s.MayGive (fun _ => alone d) [d] (.error fault) := by
  rw [mayGive_error_iff_of_inTime hs h]
  refine exists_congr fun d => and_congr_right fun hd => ?_
  simp only [mayGive_error_iff_of_inTime hs (ha d hd), List.mem_singleton, exists_eq_left]

theorem exists_mayGive_append_iff {A B : List Document} (h : s.InTime clocks (A ++ B))
    (hA : s.InTime clocks₁ A) (hB : s.InTime clocks₂ B) :
    (∃ r, s.MayGive clocks (A ++ B) (.ok r)) ↔
      (∃ a, s.MayGive clocks₁ A (.ok a)) ∧ ∃ b, s.MayGive clocks₂ B (.ok b) := by
  rw [exists_mayGive_ok_iff hs, exists_mayGive_ok_iff hs, exists_mayGive_ok_iff hs, ← not_or,
    ← exists_or]
  refine not_congr (exists_congr fun fault => ?_)
  rw [mayGive_error_iff_of_inTime hs h, mayGive_error_iff_of_inTime hs hA,
    mayGive_error_iff_of_inTime hs hB]
  simp only [List.mem_append, or_and_right, exists_or]

theorem exists_mayGive_perm_iff {documents documents' : List Document}
    (hp : documents.Perm documents') (h : s.InTime clocks documents)
    (h' : s.InTime clocks₁ documents') :
    (∃ r, s.MayGive clocks documents (.ok r)) ↔ ∃ r, s.MayGive clocks₁ documents' (.ok r) := by
  rw [exists_mayGive_ok_iff hs, exists_mayGive_ok_iff hs]
  refine not_congr (exists_congr fun fault => ?_)
  rw [mayGive_error_iff_of_inTime hs h, mayGive_error_iff_of_inTime hs h']
  simp only [hp.mem_iff]

variable (hd : s.policy.Distinct) (hu : s.policy.Unambiguous)
include hd hu

theorem joins_of_mayGive {clocks₃ : Clocks} {A B : List Document} {a b r : Report}
    (ha : s.MayGive clocks₁ A (.ok a)) (hb : s.MayGive clocks₂ B (.ok b))
    (hr : s.MayGive clocks₃ (A ++ B) (.ok r)) : Report.Joins a b r := by
  obtain ⟨-, rfl⟩ := (mayGive_ok_iff hs hd hu).mp ha
  obtain ⟨-, rfl⟩ := (mayGive_ok_iff hs hd hu).mp hb
  obtain ⟨-, rfl⟩ := (mayGive_ok_iff hs hd hu).mp hr
  rw [List.map_append]
  exact Report.joins_ofScanned _ _ _

theorem mayGive_perm {documents documents' : List Document} {r r' : Report}
    (hp : documents.Perm documents') (hr : s.MayGive clocks documents (.ok r))
    (hr' : s.MayGive clocks₁ documents' (.ok r')) :
    (∃ entry : Document → DocumentReport,
      r.documents = documents.map entry ∧ r'.documents = documents'.map entry) ∧
    r'.statistics = r.statistics ∧ r'.verdict = r.verdict := by
  obtain ⟨-, rfl⟩ := (mayGive_ok_iff hs hd hu).mp hr
  obtain ⟨-, rfl⟩ := (mayGive_ok_iff hs hd hu).mp hr'
  refine ⟨⟨fun d => ⟨d.source, s.policy.apply (scanner.registry.findings d.content)⟩,
    List.map_map, List.map_map⟩, ?_, ?_⟩
  · exact Report.statistics_ofScanned_perm _ (hp.symm.map _)
  · exact Report.verdict_ofScanned_perm _ (hp.symm.map _)

end

/-- Batches compose. A run fails exactly if one of the documents fails alone, with the same fault. In
time, a batch that is put together of two has a report exactly if both have. However the runs order the
keys of the policy, the report is theirs joined, and the order of the documents is that of its entries,
as long as no two keys contradict each other. -/
theorem batches_compose {content : Option (List UInt8)} {s : Settings} {scanner : Scanner}
    (hl : load content = .ok s) (hs : s.scanner = .ok scanner) (failOn : Option Severity) :
    let run := (s.withFailOn failOn).MayGive
    let InTime := (s.withFailOn failOn).InTime
    (∀ clocks documents,
      ((∃ r, run clocks documents (.ok r)) ↔ ¬ ∃ fault, run clocks documents (.error fault)) ∧
      ∀ fault, run clocks documents (.error fault) ↔
        ∃ p ∈ clocks.timed documents, run (fun _ => p.2) [p.1] (.error fault)) ∧
    (∀ clocks documents (alone : Document → Clock), InTime clocks documents →
      (∀ d ∈ documents, InTime (fun _ => alone d) [d]) → ∀ fault,
        run clocks documents (.error fault) ↔
          ∃ d ∈ documents, run (fun _ => alone d) [d] (.error fault)) ∧
    (∀ clocks clocks₁ clocks₂ A B, InTime clocks (A ++ B) → InTime clocks₁ A → InTime clocks₂ B →
      ((∃ r, run clocks (A ++ B) (.ok r)) ↔
        (∃ a, run clocks₁ A (.ok a)) ∧ ∃ b, run clocks₂ B (.ok b))) ∧
    (s.policy.Unambiguous → ∀ clocks clocks₁ clocks₂ A B a b r,
      run clocks₁ A (.ok a) → run clocks₂ B (.ok b) → run clocks (A ++ B) (.ok r) →
        Report.Joins a b r) ∧
    ∀ (clocks clocks' : Clocks) documents documents', documents.Perm documents' →
      (InTime clocks documents → InTime clocks' documents' →
        ((∃ r, run clocks documents (.ok r)) ↔ ∃ r', run clocks' documents' (.ok r'))) ∧
      (s.policy.Unambiguous → ∀ r r',
        run clocks documents (.ok r) → run clocks' documents' (.ok r') →
          (∃ entry : Document → DocumentReport,
            r.documents = documents.map entry ∧ r'.documents = documents'.map entry) ∧
          r'.statistics = r.statistics ∧ r'.verdict = r.verdict) := by
  intro run InTime
  rw [← scanner_withFailOn s failOn] at hs
  have hd : (s.withFailOn failOn).policy.Distinct := (distinct_of_load hl).withFailOn failOn
  refine ⟨?_, ?_, ?_, ?_, ?_⟩
  · exact fun clocks documents => ⟨exists_mayGive_ok_iff hs, fun _ => mayGive_error_iff_alone hs⟩
  · exact fun _ _ _ h ha fault => mayGive_error_iff_alone_of_inTime hs h ha fault
  · exact fun _ _ _ _ _ h hA hB => exists_mayGive_append_iff hs h hA hB
  · exact fun hu _ _ _ _ _ _ _ _ ha hb hr =>
      joins_of_mayGive hs hd (hu.withFailOn failOn) ha hb hr
  · intro clocks clocks' documents documents' hp
    exact ⟨exists_mayGive_perm_iff hs hp,
      fun hu _ _ => mayGive_perm hs hd (hu.withFailOn failOn) hp⟩

theorem joins_two_documents :
    ∃ s a b r, load (some (Utf8.encode "[policy.overrides]\n\"VULN/eval\" = \"low\"\n")) = .ok s ∧
      s.policy.Unambiguous ∧ s.MayGive .frozen [⟨"a.js", Utf8.encode "eval(x)\n"⟩] (.ok a) ∧
      s.MayGive .frozen [⟨"b.js", [0xC3, 0x0A]⟩] (.ok b) ∧
      s.MayGive .frozen [⟨"a.js", Utf8.encode "eval(x)\n"⟩, ⟨"b.js", [0xC3, 0x0A]⟩] (.ok r) ∧
      Report.Joins a b r := by
  have hl : load (some (Utf8.encode "[policy.overrides]\n\"VULN/eval\" = \"low\"\n")) =
      .ok { policy := { overrides := [("VULN/eval", .low)] } } :=
    load_encode_of (by decide +kernel)
  have hu : ({ overrides := [("VULN/eval", .low)] } : Policy).Unambiguous := by decide
  have hgives := fun documents => MayGive.report (same_refl _)
    (scanAll_of_no_limits { policy := { overrides := [("VULN/eval", .low)] } } .frozen documents
      (registry_of_no_rules rfl) rfl)
  obtain ⟨-, -, -, hjoins, -⟩ := batches_compose hl (scanner_of_no_rules rfl) none
  exact ⟨_, _, _, _, hl, hu, hgives _, hgives _, hgives _,
    hjoins hu _ _ _ _ _ _ _ _ (hgives _) (hgives _) (hgives _)⟩

/-- Contrary keys rate the findings of a batch otherwise than those of its documents alone, and a
ceiling on time may fail the batch alone. -/
theorem batch_unlike_its_documents :
    (∃ s a b r, load (some (Utf8.encode
        "[policy.overrides]\n\"vuln/eval\" = \"low\"\n\"vulnerability/eval\" = \"critical\"\n")) =
          .ok s ∧ s.scanner = .ok .builtin ∧
      s.MayGive .frozen [.calling "a.js"] (.ok a) ∧
      s.MayGive .frozen [.calling "b.js"] (.ok b) ∧
      s.MayGive .frozen [.calling "a.js", .calling "b.js"] (.ok r) ∧
      ¬ Report.Joins a b r) ∧
    ∃ s clocks a b fault, load (some (Utf8.encode "[limits]\ntimeout_ms = 1\n")) = .ok s ∧
      s.MayGive .frozen [.calling "a.js"] (.ok a) ∧
      s.MayGive .frozen [.calling "b.js"] (.ok b) ∧
      s.MayGive clocks [.calling "a.js", .calling "b.js"] (.error fault) := by
  have hr : ∀ p l, ({ policy := p, limits := l } : Settings).registry = .ok .builtin :=
    fun p l => registry_of_no_rules rfl
  constructor
  · obtain ⟨a, r, ha, hrun, f, hf, hno⟩ := exists_rated_apart (hr .lowFirst {})
      (hr .criticalFirst {}) rfl rfl (by decide) (by decide) rfl rfl
      (List.mem_singleton_self (Document.calling "a.js"))
      (List.mem_cons_self (a := Document.calling "a.js"))
    have hb := scanAll_of_no_limits { policy := .lowFirst } .frozen [.calling "b.js"] (hr _ _) rfl
    have hsame : ({ policy := .criticalFirst } : Settings).Same { policy := .lowFirst } :=
      ⟨Policy.criticalFirst_same, rfl, rfl⟩
    refine ⟨_, a, _, r, load_encode_of (by decide +kernel), scanner_of_no_rules rfl,
      .report (same_refl { policy := .lowFirst }) ha, .report (same_refl _) hb,
      .report hsame hrun, fun hjoins => hno ?_⟩
    rw [Report.findings, hjoins.documents, List.flatMap_append]
    exact List.mem_append_left _ hf
  · obtain ⟨⟨a, ha⟩, -⟩ := gives_both_of_timeout (hr {} { timeout := some 1 }) rfl
      (List.mem_singleton_self (Document.calling "a.js"))
    obtain ⟨⟨b, hb⟩, -⟩ := gives_both_of_timeout (hr {} { timeout := some 1 }) rfl
      (List.mem_singleton_self (Document.calling "b.js"))
    obtain ⟨-, fault, hf⟩ := gives_both_of_timeout (hr {} { timeout := some 1 }) rfl
      (List.mem_cons_self (a := Document.calling "a.js"))
    exact ⟨_, _, a, b, fault, load_encode_of (by decide +kernel), ha, hb, hf⟩

end Settings

end Linewatch
