import Mathlib.Data.List.Forall2
import Linewatch.Report
import Linewatch.Proofs.Scan.Bounded

namespace Linewatch

section

variable {α β ε : Type}

theorem mapM_eq_ok_iff {f : α → Except ε β} {l : List α} {m : List β} :
    l.mapM f = .ok m ↔ List.Forall₂ (fun a b => f a = .ok b) l m := by
  induction l generalizing m with
  | nil =>
    rw [List.mapM_nil, List.forall₂_nil_left_iff]
    exact ⟨fun h => (Except.ok.inj h).symm, fun h => congrArg Except.ok h.symm⟩
  | cons a l ih =>
    rw [List.mapM_cons, List.forall₂_cons_left_iff]
    cases ha : f a with
    | error fault => simp [bind, Except.bind]
    | ok b =>
      simp only [← ih, Except.ok.injEq]
      cases l.mapM f with
      | error fault => simp [bind, Except.bind]
      | ok rest => simp [bind, Except.bind, pure, Except.pure, eq_comm]

theorem mapM_cons_eq_error_iff {f : α → Except ε β} {a : α} {l : List α} {fault : ε} :
    (a :: l).mapM f = .error fault ↔
      f a = .error fault ∨ (∃ b, f a = .ok b) ∧ l.mapM f = .error fault := by
  rw [List.mapM_cons]
  cases f a with
  | error e => simp [bind, Except.bind]
  | ok b =>
    cases l.mapM f with
    | error e => simp [bind, Except.bind]
    | ok rest => simp [bind, Except.bind, pure, Except.pure]

theorem exists_of_mapM_eq_error {f : α → Except ε β} {l : List α} {fault : ε}
    (h : l.mapM f = .error fault) : ∃ a ∈ l, f a = .error fault := by
  induction l with
  | nil => cases h
  | cons a l ih =>
    obtain ha | ⟨-, hl⟩ := mapM_cons_eq_error_iff.mp h
    · exact ⟨a, List.mem_cons_self, ha⟩
    · obtain ⟨x, hx, hfx⟩ := ih hl
      exact ⟨x, List.mem_cons_of_mem a hx, hfx⟩

theorem exists_mapM_eq_ok_iff {f : α → Except ε β} {l : List α} :
    (∃ m, l.mapM f = .ok m) ↔ ∀ a ∈ l, ∃ b, f a = .ok b := by
  constructor
  · rintro ⟨m, h⟩
    have hm := mapM_eq_ok_iff.mp h
    clear h
    induction hm with
    | nil => simp
    | cons hb _ ih => exact List.forall_mem_cons.mpr ⟨⟨_, hb⟩, ih⟩
  · intro h
    cases hm : l.mapM f with
    | error fault =>
      obtain ⟨a, ha, he⟩ := exists_of_mapM_eq_error hm
      obtain ⟨b, hb⟩ := h a ha
      cases he.symm.trans hb
    | ok m => exact ⟨m, rfl⟩

theorem mapM_congr {f g : α → Except ε β} {l : List α} (h : ∀ a ∈ l, f a = g a) :
    l.mapM f = l.mapM g := by
  induction l with
  | nil => rfl
  | cons a l ih =>
    obtain ⟨ha, hl⟩ := List.forall_mem_cons.mp h
    rw [List.mapM_cons, List.mapM_cons, ha, ih hl]

theorem map_eq_error_iff {f : α → β} {x : Except ε α} {fault : ε} :
    x.map f = .error fault ↔ x = .error fault := by
  cases x <;> simp [Except.map]

theorem map_pair_eq_ok_iff {a : α} {x : Except ε β} {p : α × β} :
    x.map (a, ·) = .ok p ↔ p.1 = a ∧ x = .ok p.2 := by
  cases x with
  | error fault => simp [Except.map]
  | ok b =>
    constructor
    · rintro ⟨⟩
      exact ⟨rfl, rfl⟩
    · rintro ⟨rfl, ⟨⟩⟩
      rfl

end

def Registry.searched (r : Registry) (d : Document) : Document × List Finding :=
  (d, r.findings d.content)

def Clocks.timed (clocks : Clocks) (documents : List Document) : List (Document × Clock) :=
  documents.zipIdx.map fun p => (p.1, clocks p.2)

theorem Clocks.mem_timed_iff {clocks : Clocks} {documents : List Document} {p : Document × Clock} :
    p ∈ clocks.timed documents ↔ ∃ i, documents[i]? = some p.1 ∧ clocks i = p.2 := by
  obtain ⟨d, clock⟩ := p
  simp only [timed, List.mem_map, Prod.exists, List.mk_mem_zipIdx_iff_getElem?, Prod.mk.injEq]
  constructor
  · rintro ⟨_, i, hd, rfl, hc⟩
    exact ⟨i, hd, hc⟩
  · rintro ⟨i, hd, hc⟩
    exact ⟨d, i, hd, rfl, hc⟩

/-- Documents are scanned each under the clock of its place in the batch. -/
theorem Scanner.scanBatch_eq_ok_iff {s : Scanner} {clocks : Clocks} {documents : List Document}
    {scanned : List (Document × List Finding)} :
    s.scanBatch clocks documents = .ok scanned ↔ scanned.map Prod.fst = documents ∧
      ∀ i p, scanned[i]? = some p → s.scanBytes (clocks i) p.1.content = .ok p.2 := by
  rw [scanBatch, mapM_eq_ok_iff, List.forall₂_iff_get]
  simp only [List.length_zipIdx, List.get_eq_getElem, List.getElem_zipIdx, Nat.zero_add,
    map_pair_eq_ok_iff]
  generalize s.scanBytes = scanBytes
  constructor
  · rintro ⟨hlen, h⟩
    have hd : scanned.map Prod.fst = documents := by
      apply List.ext_getElem
      · rw [List.length_map, hlen]
      · intro i hs hd
        rw [List.getElem_map]
        exact (h i hd (hlen ▸ hd)).1
    refine ⟨hd, ?_⟩
    intro i p hp
    obtain ⟨hi, hget⟩ := List.getElem?_eq_some_iff.mp hp
    have hp := h i (hlen ▸ hi) hi
    rw [hget] at hp
    rw [hp.1]
    exact hp.2
  · rintro ⟨rfl, h⟩
    refine ⟨List.length_map _, ?_⟩
    intro i hd hs
    rw [List.getElem_map]
    exact ⟨rfl, h i _ (List.getElem?_eq_getElem hs)⟩

theorem Scanner.map_searched_of_scanned {s : Scanner} {clocks : Clocks}
    {scanned : List (Document × List Finding)}
    (h : ∀ (i : Nat) p, scanned[i]? = some p → s.scanBytes (clocks i) p.1.content = .ok p.2) :
    (scanned.map Prod.fst).map s.registry.searched = scanned := by
  have hfound : ∀ p ∈ scanned, s.registry.searched p.1 = p := by
    intro p hp
    obtain ⟨i, hi⟩ := List.mem_iff_getElem?.mp hp
    exact Prod.ext rfl (s.eq_findings_of_scanBytes _ (h i p hi)).symm
  rw [List.map_map]
  exact (List.map_congr_left hfound).trans (List.map_id scanned)

theorem Settings.scanAll_eq_ok_iff {s : Settings} {clocks : Clocks} {documents : List Document}
    {r : Report} :
    s.scanAll clocks documents = .ok r ↔
      ∃ scanner scanned, s.scanner = .ok scanner ∧ scanned.map Prod.fst = documents ∧
        (∀ i p, scanned[i]? = some p → scanner.scanBytes (clocks i) p.1.content = .ok p.2) ∧
        r = Report.ofScanned s.policy scanned := by
  rw [scanAll]
  cases s.scanner with
  | error fault => simp
  | ok scanner =>
    constructor
    · intro h
      cases hb : scanner.scanBatch clocks documents with
      | error fault => simp only [hb, Except.map, reduceCtorEq] at h
      | ok scanned =>
        simp only [hb, Except.map, Except.ok.injEq] at h
        obtain ⟨hd, hs⟩ := Scanner.scanBatch_eq_ok_iff.mp hb
        exact ⟨scanner, scanned, rfl, hd, hs, h.symm⟩
    · rintro ⟨_, scanned, ⟨⟩, hd, hs, rfl⟩
      have hb := Scanner.scanBatch_eq_ok_iff.mpr ⟨hd, hs⟩
      simp only [hb, Except.map]

namespace Settings

variable (s : Settings) (failOn : Option Severity) (clocks : Clocks) (documents : List Document)

theorem scanner_withFailOn : (s.withFailOn failOn).scanner = s.scanner := by
  cases failOn <;> rfl

theorem policy_withFailOn :
    (s.withFailOn failOn).policy = { s.policy with failOn := failOn.getD s.policy.failOn } := by
  cases failOn <;> rfl

theorem limits_withFailOn : (s.withFailOn failOn).limits = s.limits := by
  cases failOn <;> rfl

theorem rules_withFailOn : (s.withFailOn failOn).rules = s.rules := by
  cases failOn <;> rfl

theorem scanner_eq_ok_iff {s : Settings} {scanner : Scanner} : s.scanner = .ok scanner ↔
    s.registry = .ok scanner.registry ∧ scanner.limits = s.limits := by
  rw [Settings.scanner]
  cases s.registry with
  | error fault => simp [Except.map]
  | ok registry =>
    cases scanner
    simp [Except.map, eq_comm]

theorem registry_of_no_rules {s : Settings} (h : s.rules = []) : s.registry = .ok .builtin := by
  rw [registry, h]
  rfl

theorem scanner_of_no_rules {s : Settings} (h : s.rules = []) :
    s.scanner = .ok ⟨.builtin, s.limits⟩ := by
  rw [scanner, registry_of_no_rules h, Except.map]

theorem scanAll_of_no_limits {registry : Registry} (hr : s.registry = .ok registry)
    (hl : s.limits = {}) :
    s.scanAll clocks documents =
      .ok (Report.ofScanned s.policy (documents.map registry.searched)) := by
  rw [scanAll_eq_ok_iff]
  refine ⟨⟨registry, s.limits⟩, _, scanner_eq_ok_iff.mpr ⟨hr, rfl⟩, ?_, ?_, rfl⟩
  · rw [List.map_map]
    exact List.map_id documents
  · intro i p hp
    rw [List.getElem?_map, Option.map_eq_some_iff] at hp
    obtain ⟨d, -, rfl⟩ := hp
    exact Scanner.scan_of_no_limits _ _ hl _

section

variable {s : Settings} {scanner : Scanner} (hs : s.scanner = .ok scanner) {clocks : Clocks}
  {documents : List Document}
include hs

/-- A batch has a report if each of its documents can be scanned, and the clocks have no other part
in it. -/
theorem scanAll_eq_ok_iff_forall {r : Report} : s.scanAll clocks documents = .ok r ↔
    (∀ p ∈ clocks.timed documents,
      scanner.scanBytes p.2 p.1.content = .ok (scanner.registry.findings p.1.content)) ∧
    r = .ofScanned s.policy (documents.map scanner.registry.searched) := by
  rw [scanAll_eq_ok_iff]
  constructor
  · rintro ⟨_, scanned, hs', rfl, hb, rfl⟩
    obtain rfl : scanner = _ := Except.ok.inj (hs.symm.trans hs')
    refine ⟨?_, congrArg _ (Scanner.map_searched_of_scanned hb).symm⟩
    intro p hp
    obtain ⟨i, hi, hc⟩ := Clocks.mem_timed_iff.mp hp
    rw [List.getElem?_map, Option.map_eq_some_iff] at hi
    obtain ⟨q, hq, hqp⟩ := hi
    have hok := hb i q hq
    rw [scanner.eq_findings_of_scanBytes _ hok, hqp, hc] at hok
    exact hok
  · rintro ⟨hall, rfl⟩
    refine ⟨scanner, documents.map scanner.registry.searched, hs, ?_, ?_, rfl⟩
    · rw [List.map_map]
      exact List.map_id documents
    · intro i q hq
      rw [List.getElem?_map, Option.map_eq_some_iff] at hq
      obtain ⟨d, hd, rfl⟩ := hq
      exact hall (d, clocks i) (Clocks.mem_timed_iff.mpr ⟨i, hd, rfl⟩)

theorem exists_of_scanAll_eq_error {fault : Fault} (h : s.scanAll clocks documents = .error fault) :
    ∃ p ∈ clocks.timed documents, scanner.scanBytes p.2 p.1.content = .error fault := by
  have hb : scanner.scanBatch clocks documents = .error fault := by
    rw [scanAll, hs] at h
    exact map_eq_error_iff.mp h
  obtain ⟨q, hq, hf⟩ := exists_of_mapM_eq_error hb
  exact ⟨(q.1, clocks q.2), List.mem_map_of_mem hq, map_eq_error_iff.mp hf⟩

end

end Settings

end Linewatch
