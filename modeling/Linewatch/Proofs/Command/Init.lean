import Linewatch.Proofs.Command.Documents
import Linewatch.Proofs.Command.Scan
import Linewatch.Proofs.Settings.Starter

namespace Linewatch.World

variable {w w' : World} {o : ScanOptions} {p : Path} {force : Bool}

theorem report_congr (hs : w.settings o.config = .ok {}) (hs' : w'.settings o.config = .ok {})
    (hd : w'.documents o = w.documents o) : w'.report o = w.report o := by
  have hscan : ∀ clocks documents, (({} : Settings).withFailOn (failOnFor o.failOn).1).scanAll clocks
      documents = .ok (Report.ofScanned (({} : Settings).withFailOn (failOnFor o.failOn).1).policy
        (documents.map Registry.builtin.searched)) := by
    intro clocks documents
    have hrules := Settings.registry_of_no_rules (s := {}) rfl
    cases (failOnFor o.failOn).1 with
    | none => exact Settings.scanAll_of_no_limits _ clocks documents hrules rfl
    | some threshold => exact Settings.scanAll_of_no_limits _ clocks documents hrules rfl
  rw [report, report, hs, hs', ← World.documents, ← World.documents, hd]
  simp only [hscan]

theorem exitCode_scan_congr (ho : o.output = none) (hr : w'.report o = w.report o) :
    (w'.scan o).exitCode = (w.scan o).exitCode := by
  rw [scan, scan, hr, ho]
  cases w.report o <;> rfl

theorem scan_congr (ho : o.output = none) (hr : w'.report o = w.report o)
    (hstamp : w'.stamp = w.stamp) : w'.scan o = w.scan o := by
  rw [scan, scan, hr, ho, hstamp]

/-- The place of the settings, when nothing is there, is one that has no part in scans. -/
theorem bystander_of_settings {t : Tree} (hp : t.resolve? settingsName = some p)
    (hn : t.find? settingsName = none) : t.Bystander p := by
  have hfree : t.get? p = none := by
    rw [Tree.find?, hp] at hn
    exact hn
  have hlast : p.getLast? = some (nameAtEnd settingsName) := by
    apply Tree.getLast?_of_resolve? hp
    rw [Tree.isDirectory, hfree]
    rfl
  have hname : nameAtEnd settingsName = ".sigscan.toml" := by decide +kernel
  rw [hname] at hlast
  refine ⟨hfree, ?_, ?_⟩
  · rw [Path.name, hlast]
    decide +kernel
  · intro source
    rw [hlast]
    cases source <;> decide

theorem init_of_present (h : w.tree.find? settingsName ≠ none) :
    (w.init false).exitCode = 1 ∧ (w.init false).treeAfter w.tree = w.tree := by
  have hsome : (w.tree.find? settingsName).isSome = true := Option.isSome_iff_ne_none.mpr h
  simp [init, hsome, Outcome.treeAfter]

theorem treeAfter_init (w : World) (force : Bool) : (w.init force).treeAfter w.tree = w.tree ∨
    ∃ p, w.tree.resolve? settingsName = some p ∧
      (w.init force).treeAfter w.tree = w.tree.set p (.file (Utf8.encode Settings.starter)) := by
  by_cases hf : (w.tree.find? settingsName).isSome ∧ !force
  · left
    rw [init, if_pos hf]
    rfl
  cases hp : w.placeFor settingsName with
  | error fault =>
    left
    rw [init, if_neg hf, hp]
    rfl
  | ok p =>
    right
    refine ⟨p, (placeFor_eq_ok_iff.mp hp).1, ?_⟩
    rw [init, if_neg hf, hp]
    rfl

section

variable {t : Tree} {config : Option String} {stdin : List UInt8} {clocks : Clocks} {stamp : Stamp}

theorem settings_of_absent (hn : t.find? settingsName = none)
    (hc : t.resolve? (config.getD settingsName) = t.resolve? settingsName) :
    (World.mk t stdin clocks stamp).settings config = .ok {} := by
  rw [Tree.find?, ← hc] at hn
  rw [settings, Tree.find?, hn]
  rfl

theorem settings_of_starter (hp : t.resolve? settingsName = some p)
    (hn : t.find? settingsName = none)
    (hc : t.resolve? (config.getD settingsName) = t.resolve? settingsName) :
    (World.mk (t.set p (.file (Utf8.encode Settings.starter))) stdin clocks stamp).settings config =
      .ok {} := by
  have hb := bystander_of_settings hp hn
  rw [settings, Tree.find?, hb.resolve?_set, hc, hp]
  simp only [Option.bind_some, Tree.get?_set_self _ _ hb.ne_nil]
  exact Settings.load_starter

end

theorem report_after_init (force : Bool) (hn : w.tree.find? settingsName = none)
    (hc : w.tree.resolve? (o.config.getD settingsName) = w.tree.resolve? settingsName)
    (stdin : List UInt8) (clocks clocks' : Clocks) (stamp stamp' : Stamp) :
    (World.mk ((w.init force).treeAfter w.tree) stdin clocks' stamp').report o =
      (World.mk w.tree stdin clocks stamp).report o := by
  have hs : (World.mk w.tree stdin clocks stamp).settings o.config = .ok {} :=
    settings_of_absent hn hc
  obtain ht | ⟨p, hp, ht⟩ := treeAfter_init w force
  · rw [ht]
    exact report_congr hs (settings_of_absent hn hc) rfl
  · rw [ht]
    have hb := bystander_of_settings hp hn
    exact report_congr hs (settings_of_starter hp hn hc)
      (Document.ofArguments_set hb _ stdin o.paths)

/-- To begin with a file of settings is neutral and does no harm. One that is there stays as it is
unless that is asked for, no other file changes, and if none was there then no scan that reads it can
tell: whatever else a scan is given, it has the same report and the same exit code. -/
theorem init_is_neutral (w : World) {args : List String}
    (h : Invocation.ofArguments args = .run (.init force)) :
    let after := (w.run args).treeAfter w.tree
    (force = false → w.tree.find? settingsName ≠ none →
      (w.run args).exitCode = 1 ∧ after = w.tree) ∧
    (∀ q, w.tree.resolve? settingsName ≠ some q → after.get? q = w.tree.get? q) ∧
    (w.tree.find? settingsName = none → ∀ scanArgs o,
      Invocation.ofArguments scanArgs = .run (.scan o) → o.output = none →
      w.tree.resolve? (o.config.getD settingsName) = w.tree.resolve? settingsName →
      ∀ stdin clocks clocks' stamp stamp',
        let first : World := ⟨w.tree, stdin, clocks, stamp⟩
        let second : World := ⟨after, stdin, clocks', stamp'⟩
        second.report o = first.report o ∧
        (second.run scanArgs).exitCode = (first.run scanArgs).exitCode ∧
        (stamp' = stamp → second.run scanArgs = first.run scanArgs)) := by
  have hrun : w.run args = w.init force := by
    rw [run, h]
  rw [hrun]
  intro after
  refine ⟨?_, ?_, ?_⟩
  · rintro rfl hpresent
    exact init_of_present hpresent
  · intro q hq
    obtain ht | ⟨p, hp, ht⟩ := treeAfter_init w force
    · exact congrArg (Tree.get? · q) ht
    · have hne : q ≠ p := by
        rintro rfl
        exact hq hp
      exact (congrArg (Tree.get? · q) ht).trans (w.tree.get?_set_of_ne _ hne)
  · intro habsent scanArgs o hscan ho hc stdin clocks clocks' stamp stamp' first second
    have hreport : second.report o = first.report o :=
      report_after_init force habsent hc stdin clocks clocks' stamp stamp'
    have hfirst : first.run scanArgs = first.scan o := by
      rw [run, hscan]
    have hsecond : second.run scanArgs = second.scan o := by
      rw [run, hscan]
    rw [hfirst, hsecond]
    exact ⟨hreport, exitCode_scan_congr ho hreport, scan_congr ho hreport⟩

theorem same_scan_after_init :
    let t : Tree := .ofFiles [(["a.js"], Utf8.encode "eval(x)\n")] ["work"]
    let once := ((World.mk t [] .frozen ⟨"", ""⟩).run ["init"]).treeAfter t
    (once.get? ["work", ".sigscan.toml"]).isSome = true ∧
    ((World.mk once [] .frozen ⟨"", ""⟩).run ["init"]).exitCode = 1 ∧
    ∀ clocks stamp, (World.mk once [] clocks stamp).run ["scan", ".", "-f", "json"] =
      (World.mk t [] .frozen stamp).run ["scan", ".", "-f", "json"] := by
  intro t once
  have hinit : Invocation.ofArguments ["init"] = .run (.init false) := by decide +kernel
  have hscan : Invocation.ofArguments ["scan", ".", "-f", "json"] =
      .run (.scan ⟨["."], none, "json", none, none⟩) := by decide +kernel
  have habsent : t.find? settingsName = none := by decide +kernel
  obtain ⟨-, -, hneutral⟩ := init_is_neutral (World.mk t [] .frozen ⟨"", ""⟩) hinit
  refine ⟨by decide +kernel, ?_, ?_⟩
  · have hpresent : once.find? settingsName ≠ none :=
      Option.isSome_iff_ne_none.mp (by decide +kernel)
    exact ((init_is_neutral (World.mk once [] .frozen ⟨"", ""⟩) hinit).1 rfl hpresent).1
  · intro clocks stamp
    have hsame := hneutral habsent _ _ hscan rfl rfl [] .frozen clocks stamp stamp
    exact hsame.2.2 rfl

end Linewatch.World
