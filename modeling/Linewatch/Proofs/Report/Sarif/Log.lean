import Mathlib.Data.List.Forall2
import Linewatch.Proofs.Data.Json.RoundTrip
import Linewatch.Proofs.Report.Sarif.Rules

namespace Linewatch

def Datum.at? : List String → Datum → Option Datum
  | [], d => some d
  | name :: path, .table _ members => (members.lookup name).bind (at? path)
  | _ :: _, _ => none

namespace Report.Sarif

structure IsResult (source : String) (f : Finding) (d : Datum) : Prop where
  ruleId : d.at? ["ruleId"] = some (.text (f.catalog.name ++ "/" ++ f.rule))
  level : d.at? ["level"] = some (.text (level f.severity))
  message : d.at? ["message", "text"] = some (.text f.message)
  location : ∃ place, d.at? ["locations"] = some (.list [place]) ∧
    place.at? ["physicalLocation", "artifactLocation", "uri"] = some (.text source) ∧
    place.at? ["physicalLocation", "region", "startLine"] = some (.ofNat f.line) ∧
    place.at? ["physicalLocation", "region", "snippet", "text"] = some (.text f.code)

/-- What a descriptor says of the rule of a finding. -/
structure Describes (f : Finding) (d : Datum) : Prop where
  id : d.at? ["id"] = some (.text (f.catalog.name ++ "/" ++ f.rule))
  name : d.at? ["name"] = some (.text f.rule)
  description : d.at? ["shortDescription", "text"] = some (.text f.description)
  level : d.at? ["defaultConfiguration", "level"] = some (.text (level f.severity))

def occurrences (r : Report) : List (String × Finding) :=
  r.documents.flatMap fun d => d.findings.map (d.source, ·)

theorem isResult_result (source : String) (f : Finding) :
    IsResult source f (result source f) where
  ruleId := rfl
  level := rfl
  message := rfl
  location := ⟨_, rfl, rfl, rfl, rfl⟩

theorem describes_descriptor (f : Finding) : Describes f (descriptor f) where
  id := rfl
  name := rfl
  description := rfl
  level := rfl

theorem results_eq (r : Report) : results r = (occurrences r).map fun p => result p.1 p.2 := by
  rw [results, occurrences, List.map_flatMap]
  simp only [List.map_map, Function.comp_def]

theorem isJson_result (source : String) (f : Finding) : (result source f).IsJson := by
  simp [result, Datum.ofNat]

theorem isJson_descriptor (f : Finding) : (descriptor f).IsJson := by
  simp [descriptor]

theorem isJson_log (guid : String) (r : Report) : (log guid r).IsJson := by
  have hresults : ∀ d ∈ results r, d.IsJson := by
    rw [results_eq]
    exact List.forall_mem_map.mpr fun p _ => isJson_result p.1 p.2
  simpa [log, descriptors, isJson_descriptor] using hresults

/-- The results of a report's findings and the descriptors of the rules that they name, of which
each is taken from the first finding of its rule. -/
structure Linked (r : Report) (firsts : List Finding) (results rules : List Datum) : Prop where
  findings : List.Forall₂ (fun p d => IsResult p.1 p.2 d) (occurrences r) results
  descriptions : List.Forall₂ Describes firsts rules
  first : ∀ f, f ∈ firsts ↔ IsFirst r.findings f
  sorted : firsts.Pairwise Precedes
  distinct : (rules.map (Datum.at? ["id"])).Nodup
  resolves : ∀ d ∈ results, ∃! e, e ∈ rules ∧ e.at? ["id"] = d.at? ["ruleId"]
  used : ∀ e ∈ rules, ∃ d ∈ results, d.at? ["ruleId"] = e.at? ["id"]

theorem mem_findings_iff {r : Report} {f : Finding} :
    f ∈ r.findings ↔ ∃ source, (source, f) ∈ occurrences r := by
  simp [findings, occurrences]

theorem at?_id_descriptor (f : Finding) : (descriptor f).at? ["id"] = some (.text (ruleId f)) :=
  rfl

theorem at?_ruleId_result (source : String) (f : Finding) :
    (result source f).at? ["ruleId"] = some (.text (ruleId f)) := rfl

theorem descriptors_eq (r : Report) : descriptors r = (described r).map descriptor := rfl

theorem mem_descriptors_iff {r : Report} {d : Datum} :
    d ∈ descriptors r ↔ ∃ f, IsFirst r.findings f ∧ descriptor f = d := by
  simp only [descriptors_eq, List.mem_map, mem_described_iff]

theorem linked (r : Report) : Linked r (described r) (results r) (descriptors r) where
  findings := by
    rw [results_eq, List.forall₂_map_right_iff, List.forall₂_same]
    exact fun p _ => isResult_result p.1 p.2
  descriptions := by
    rw [descriptors_eq, List.forall₂_map_right_iff, List.forall₂_same]
    exact fun f _ => describes_descriptor f
  first f := mem_described_iff
  sorted := pairwise_described r
  distinct := by
    rw [descriptors_eq, List.map_map, List.Nodup, List.pairwise_map]
    refine (List.pairwise_map.mp (nodup_described r)).imp fun hne hid => hne ?_
    simpa [at?_id_descriptor, ruleId_inj] using hid
  resolves := by
    intro d hd
    rw [results_eq] at hd
    obtain ⟨⟨source, f⟩, hf, rfl⟩ := List.mem_map.mp hd
    obtain ⟨g, hg, hkey⟩ := exists_first (mem_findings_iff.mpr ⟨source, hf⟩)
    refine ⟨descriptor g, ⟨mem_descriptors_iff.mpr ⟨g, hg, rfl⟩, ?_⟩, ?_⟩
    · rw [at?_id_descriptor, at?_ruleId_result, ruleId_inj.mpr hkey]
    · rintro e ⟨he, hid⟩
      obtain ⟨g', hg', rfl⟩ := mem_descriptors_iff.mp he
      have hkey' : g'.key = f.key := by
        simpa [at?_id_descriptor, at?_ruleId_result, ruleId_inj] using hid
      rw [hg'.eq_of_key_eq hg (hkey'.trans hkey.symm)]
  used := by
    intro e he
    obtain ⟨f, hf, rfl⟩ := mem_descriptors_iff.mp he
    obtain ⟨source, hm⟩ := mem_findings_iff.mp hf.mem
    refine ⟨result source f, ?_, rfl⟩
    rw [results_eq]
    exact List.mem_map_of_mem hm

theorem descriptor_congr {f g : Finding} (hkey : f.key = g.key) (hs : f.severity = g.severity)
    (hd : f.description = g.description) : descriptor f = descriptor g := by
  obtain ⟨hc, hr⟩ := Prod.mk.inj hkey
  simp only [descriptor, ruleId_inj.mpr hkey, hc, hr, hs, hd]

/-- The rules of a log are those of its results, each described once and as its first finding has
it. In the log of a scan every other finding of the rule has it so, too. -/
theorem descriptors_fit_results (guid : String) (r : Report) :
    ∃ log run firsts results rules, Json.read? (r.toSarif guid).toList = some log ∧
      log.at? ["runs"] = some (.list [run]) ∧ run.at? ["results"] = some (.list results) ∧
      run.at? ["tool", "driver", "rules"] = some (.list rules) ∧
      Linked r firsts results rules ∧
      ∀ s clocks documents, Settings.scanAll s clocks documents = .ok r →
        ∀ e ∈ rules, (∀ d ∈ results, d.at? ["ruleId"] = e.at? ["id"] →
          d.at? ["level"] = e.at? ["defaultConfiguration", "level"]) ∧
        ∀ f ∈ r.findings, e.at? ["id"] = some (.text (f.catalog.name ++ "/" ++ f.rule)) →
          Describes f e := by
  refine ⟨log guid r, _, described r, results r, descriptors r, ?_, rfl, rfl, rfl, linked r, ?_⟩
  · exact Json.read?_pretty (isJson_log guid r)
  intro s clocks documents h e he
  obtain ⟨g, hg, rfl⟩ := mem_descriptors_iff.mp he
  have hall : ∀ f ∈ r.findings, ruleId g = ruleId f → Describes f (descriptor g) := by
    intro f hf hid
    have hkey := ruleId_inj.mp hid
    obtain ⟨hs, hd⟩ := Settings.uniform_of_scanAll h g hg.mem f hf hkey
    rw [descriptor_congr hkey hs hd]
    exact describes_descriptor f
  constructor
  · intro d hd hid
    rw [results_eq] at hd
    obtain ⟨⟨source, f⟩, hf, rfl⟩ := List.mem_map.mp hd
    rw [at?_id_descriptor, at?_ruleId_result, Option.some.injEq, Datum.text.injEq] at hid
    have hdescribes := hall f (mem_findings_iff.mpr ⟨source, hf⟩) hid.symm
    exact (isResult_result source f).level.trans hdescribes.level.symm
  · intro f hf hid
    rw [at?_id_descriptor, Option.some.injEq, Datum.text.injEq] at hid
    exact hall f hf hid

end Report.Sarif

end Linewatch
