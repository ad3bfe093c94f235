import Linewatch.Command.Run
import Linewatch.Proofs.Files.Tree
import Linewatch.Proofs.Report.Composition

namespace Linewatch.World

variable {w : World} {o : ScanOptions} {r : Report} {fault : Fault}

def documents (w : World) (o : ScanOptions) : Except Fault (List Document) :=
  Document.ofArguments w.tree.visible w.tree w.stdin o.paths

/-- What stands in the way of a report. -/
inductive Fails (w : World) (o : ScanOptions) : Fault → Prop
  | documents {fault : Fault} (h : w.documents o = .error fault) : Fails w o fault
  | settings {fault : Fault} (h : w.settings o.config = .error fault) : Fails w o fault
  | registry {s : Settings} {fault : Fault} (hs : w.settings o.config = .ok s)
      (h : s.registry = .error fault) : Fails w o fault
  | document {documents : List Document} {s : Settings} {registry : Registry} {i : Nat}
      {d : Document} {fault : Fault} (hd : w.documents o = .ok documents)
      (hs : w.settings o.config = .ok s) (hr : s.registry = .ok registry)
      (hi : documents[i]? = some d)
      (h : (Scanner.mk registry s.limits).scanBytes (w.clocks i) d.content = .error fault) :
      Fails w o fault

/-- The threshold that is given on the command line, if it is spelled so that it is recognised. -/
def givenThreshold (o : ScanOptions) : Option Severity := o.failOn.bind Severity.ofSpelling?

def format (o : ScanOptions) : OutputFormat := (OutputFormat.ofSpelling? o.format).getD .console

theorem failOnFor_fst (o : ScanOptions) : (failOnFor o.failOn).1 = givenThreshold o := by
  cases hf : o.failOn with
  | none => simp [failOnFor, givenThreshold, hf]
  | some spelling =>
    cases hs : Severity.ofSpelling? spelling <;> simp [failOnFor, givenThreshold, hf, hs]

theorem formatFor_fst (o : ScanOptions) : (formatFor o.format).1 = format o := by
  cases hs : OutputFormat.ofSpelling? o.format <;> simp [formatFor, format, hs]

theorem placeFor_eq_ok_iff {text : String} {p : Path} : w.placeFor text = .ok p ↔
    w.tree.resolve? text = some p ∧ w.tree.isDirectory p = false := by
  rw [placeFor]
  cases w.tree.resolve? text with
  | none => simp
  | some q =>
    cases hd : w.tree.isDirectory q with
    | true =>
      simp only [hd, if_true, reduceCtorEq, Option.some.injEq, false_iff, not_and]
      rintro rfl
      simp [hd]
    | false =>
      simp only [hd, Bool.false_eq_true, if_false, Except.ok.injEq, Option.some.injEq]
      constructor
      · rintro rfl
        exact ⟨rfl, hd⟩
      · exact And.left

theorem report_eq_ok_iff : w.report o = .ok r ↔ ∃ documents s, w.documents o = .ok documents ∧
    w.settings o.config = .ok s ∧
    (s.withFailOn (givenThreshold o)).scanAll w.clocks documents = .ok r := by
  rw [report, failOnFor_fst, ← World.documents]
  cases w.documents o with
  | error fault => simp
  | ok documents => cases w.settings o.config <;> simp

theorem fails_of_report (h : w.report o = .error fault) : w.Fails o fault := by
  rw [report, failOnFor_fst, ← World.documents] at h
  cases hd : w.documents o with
  | error f =>
    rw [hd] at h
    obtain rfl := Except.error.inj h
    exact .documents hd
  | ok documents =>
    rw [hd] at h
    cases hs : w.settings o.config with
    | error f =>
      simp only [hs] at h
      obtain rfl := Except.error.inj h
      exact .settings hs
    | ok s =>
      simp only [hs] at h
      cases hr : s.registry with
      | error f =>
        have hscanner : (s.withFailOn (givenThreshold o)).scanner = .error f := by
          rw [Settings.scanner_withFailOn, Settings.scanner, hr]
          rfl
        simp only [Settings.scanAll, hscanner] at h
        obtain rfl := Except.error.inj h
        exact .registry hs hr
      | ok registry =>
        have hscanner : (s.withFailOn (givenThreshold o)).scanner = .ok ⟨registry, s.limits⟩ := by
          rw [Settings.scanner_withFailOn]
          exact Settings.scanner_eq_ok_iff.mpr ⟨hr, rfl⟩
        obtain ⟨⟨d, clock⟩, hp, hf⟩ := Settings.exists_of_scanAll_eq_error hscanner h
        obtain ⟨i, hi, rfl⟩ := Clocks.mem_timed_iff.mp hp
        exact .document hd hs hr hi hf

/-- A report leaves no room for a failure. -/
theorem not_fails_of_report (h : w.report o = .ok r) : ¬ w.Fails o fault := by
  obtain ⟨documents, s, hd, hs, hscan⟩ := report_eq_ok_iff.mp h
  obtain ⟨⟨registry, limits⟩, -, hscanner, -⟩ := Settings.scanAll_eq_ok_iff.mp hscan
  have hall := ((Settings.scanAll_eq_ok_iff_forall hscanner).mp hscan).1
  rw [Settings.scanner_withFailOn] at hscanner
  have hr : s.registry = .ok registry := (Settings.scanner_eq_ok_iff.mp hscanner).1
  obtain rfl : limits = s.limits := (Settings.scanner_eq_ok_iff.mp hscanner).2
  intro hf
  cases hf with
  | documents hd' => cases hd.symm.trans hd'
  | settings hs' => cases hs.symm.trans hs'
  | registry hs' hr' =>
    obtain rfl := Except.ok.inj (hs.symm.trans hs')
    cases hr.symm.trans hr'
  | @document _ _ _ i d _ hd' hs' hr' hi hf =>
    obtain rfl := Except.ok.inj (hd.symm.trans hd')
    obtain rfl := Except.ok.inj (hs.symm.trans hs')
    obtain rfl := Except.ok.inj (hr.symm.trans hr')
    have hok := hall (d, w.clocks i) (Clocks.mem_timed_iff.mpr ⟨i, hi, rfl⟩)
    rw [hf] at hok
    cases hok

theorem exists_report_eq_error_iff :
    (∃ fault, w.report o = .error fault) ↔ ∃ fault, w.Fails o fault := by
  constructor
  · rintro ⟨fault, h⟩
    exact ⟨fault, fails_of_report h⟩
  · rintro ⟨fault, h⟩
    cases hr : w.report o with
    | error f => exact ⟨f, rfl⟩
    | ok r => exact absurd h (not_fails_of_report hr)

theorem pass_iff_of_report {s : Settings} (hs : w.settings o.config = .ok s)
    (h : w.report o = .ok r) : r.verdict.pass = true ↔
      ∀ f ∈ r.findings, ¬ (givenThreshold o).getD s.policy.failOn ≤ f.severity := by
  obtain ⟨documents, s', -, hs', hscan⟩ := report_eq_ok_iff.mp h
  obtain rfl := Except.ok.inj (hs.symm.trans hs')
  obtain ⟨_, _, -, -, -, hc, ht⟩ := Settings.scanAll_coherent hscan
  rw [hc.pass, ht]

theorem scan_of_error (h : w.report o = .error fault) :
    (w.scan o).exitCode = 2 ∧ (w.scan o).stdout = "" ∧ (w.scan o).treeAfter w.tree = w.tree := by
  have hs : w.scan o = .ofFault ((formatFor o.format).2 ++ (failOnFor o.failOn).2) fault := by
    simp only [scan, h]
  rw [hs]
  exact ⟨rfl, rfl, rfl⟩

section

variable (h : w.report o = .ok r)
include h

theorem scan_to_stdout (ho : o.output = none) :
    (w.scan o).exitCode = (if r.verdict.pass then 0 else 1) ∧
      (w.scan o).stdout = r.render w.stamp (format o) ∧
      (w.scan o).treeAfter w.tree = w.tree := by
  simp [scan, h, ho, formatFor_fst, Outcome.treeAfter]

theorem scan_to_file {output : String} {p : Path} (ho : o.output = some output)
    (hp : w.tree.resolve? output = some p) (hn : w.tree.isDirectory p = false) :
    (w.scan o).exitCode = (if r.verdict.pass then 0 else 1) ∧ (w.scan o).stdout = "" ∧
      (w.scan o).treeAfter w.tree =
        w.tree.set p (.file (Utf8.encode (r.render w.stamp (format o)))) := by
  have hplace : w.placeFor output = .ok p := placeFor_eq_ok_iff.mpr ⟨hp, hn⟩
  simp [scan, h, ho, hplace, formatFor_fst, Outcome.treeAfter]

end

def Tells (exitCode : Nat) (r : Report) (threshold : Severity) : Prop :=
  (exitCode = 0 ↔ ∀ f ∈ r.findings, ¬ threshold ≤ f.severity) ∧
    (exitCode = 1 ↔ ∃ f ∈ r.findings, threshold ≤ f.severity)

theorem tells_of_report {s : Settings} (hs : w.settings o.config = .ok s)
    (h : w.report o = .ok r) :
    Tells (if r.verdict.pass then 0 else 1) r ((givenThreshold o).getD s.policy.failOn) := by
  have hpass := pass_iff_of_report hs h
  have hfail : (∃ f ∈ r.findings, (givenThreshold o).getD s.policy.failOn ≤ f.severity) ↔
      r.verdict.pass = false := by
    rw [← Bool.not_eq_true, hpass]
    push Not
    rfl
  rw [Tells, hfail, ← hpass]
  cases r.verdict.pass <;> simp

/-- A scan is all or nothing, and its exit code tells the truth. If anything fails that a report
needs, there is no output and no file changes. Else the exit code says whether any finding of the
report reaches the threshold, and the report is all of the output, or all of the one file that
changes. -/
theorem scan_all_or_nothing (w : World) {args : List String}
    (h : Invocation.ofArguments args = .run (.scan o)) :
    ((∃ fault, w.Fails o fault) → (w.run args).exitCode = 2 ∧ (w.run args).stdout = "" ∧
      (w.run args).treeAfter w.tree = w.tree) ∧
    ((∀ fault, ¬ w.Fails o fault) → ∃ documents s r, w.documents o = .ok documents ∧
      w.settings o.config = .ok s ∧
      (s.withFailOn (givenThreshold o)).scanAll w.clocks documents = .ok r ∧
      (o.output = none →
        Tells (w.run args).exitCode r ((givenThreshold o).getD s.policy.failOn) ∧
        (w.run args).stdout = r.render w.stamp (format o) ∧
        (w.run args).treeAfter w.tree = w.tree) ∧
      ∀ output p, o.output = some output → w.tree.resolve? output = some p →
        w.tree.isDirectory p = false →
        Tells (w.run args).exitCode r ((givenThreshold o).getD s.policy.failOn) ∧
        (w.run args).stdout = "" ∧
        ((w.run args).treeAfter w.tree).get? p =
          some (.file (Utf8.encode (r.render w.stamp (format o)))) ∧
        ∀ q, q ≠ p → ((w.run args).treeAfter w.tree).get? q = w.tree.get? q) := by
  have hrun : w.run args = w.scan o := by
    rw [run, h]
  rw [hrun]
  constructor
  · intro hf
    obtain ⟨fault, hr⟩ := exists_report_eq_error_iff.mpr hf
    exact scan_of_error hr
  · intro hf
    cases hr : w.report o with
    | error fault => exact absurd (fails_of_report hr) (hf fault)
    | ok r =>
      obtain ⟨documents, s, hd, hs, hscan⟩ := report_eq_ok_iff.mp hr
      have htells := tells_of_report hs hr
      refine ⟨documents, s, r, hd, hs, hscan, ?_, ?_⟩
      · intro ho
        obtain ⟨hcode, hout, htree⟩ := scan_to_stdout hr ho
        rw [hcode]
        exact ⟨htells, hout, htree⟩
      · intro output p ho hp hn
        obtain ⟨hcode, hout, htree⟩ := scan_to_file hr ho hp hn
        rw [hcode, htree]
        exact ⟨htells, hout, Tree.get?_set_self _ _ (Tree.ne_nil_of_not_isDirectory hn),
          fun q hq => Tree.get?_set_of_ne _ _ hq⟩

theorem scan_of_stdin_to_file :
    let w : World := ⟨.empty, Utf8.encode "eval(x)\n", .frozen, ⟨"", ""⟩⟩
    let out := w.run ["scan", "-", "--fail-on", "LOW", "-o", "out.txt"]
    ∃ r, (({} : Settings).withFailOn (some .low)).scanAll .frozen
        [⟨"<stdin>", Utf8.encode "eval(x)\n"⟩] = .ok r ∧
      Tells out.exitCode r .low ∧ out.stdout = "" ∧
      (out.treeAfter .empty).get? ["out.txt"] = some (.file (Utf8.encode r.toConsole)) ∧
      ∀ q, q ≠ ["out.txt"] → (out.treeAfter .empty).get? q = Tree.empty.get? q := by
  intro w out
  let o : ScanOptions := ⟨["-"], none, "console", some "LOW", some "out.txt"⟩
  have hargs : Invocation.ofArguments ["scan", "-", "--fail-on", "LOW", "-o", "out.txt"] =
      .run (.scan o) := by decide +kernel
  have hthreshold : givenThreshold o = some .low := by decide +kernel
  have hformat : format o = .console := by decide +kernel
  have hd : w.documents o = .ok [⟨"<stdin>", Utf8.encode "eval(x)\n"⟩] := rfl
  have hfind : w.tree.find? (o.config.getD settingsName) = none := by decide +kernel
  have hs : w.settings o.config = .ok {} := by
    rw [settings, hfind]
    rfl
  have hscan := Settings.scanAll_of_no_limits (({} : Settings).withFailOn (some .low)) .frozen
    [⟨"<stdin>", Utf8.encode "eval(x)\n"⟩] (Settings.registry_of_no_rules rfl) rfl
  rw [← hthreshold] at hscan
  have hreport := report_eq_ok_iff.mpr ⟨_, _, hd, hs, hscan⟩
  obtain ⟨documents, s, r, hd', hs', hscan', -, hfile⟩ :=
    (scan_all_or_nothing w hargs).2 fun _ => not_fails_of_report hreport
  obtain rfl := Except.ok.inj (hd.symm.trans hd')
  obtain rfl := Except.ok.inj (hs.symm.trans hs')
  have hp : w.tree.resolve? "out.txt" = some ["out.txt"] := by decide +kernel
  obtain ⟨htells, hout, htext, hframe⟩ := hfile "out.txt" ["out.txt"] rfl hp (by decide +kernel)
  rw [hthreshold] at hscan' htells
  rw [hformat] at htext
  exact ⟨r, hscan', htells, hout, htext, hframe⟩

end Linewatch.World
