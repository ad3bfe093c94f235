import Linewatch.Statistics
import Mathlib.Data.List.Infix

namespace Linewatch.Statistics

variable {l m : List Finding} {s t : Statistics}

theorem addFinding_eq (s : Statistics) (f : Finding) : s.addFinding f =
    { total := s.total
      vulnerabilities := s.vulnerabilities + if f.catalog == .vulnerability then 1 else 0
      sensitive := s.sensitive + if f.catalog == .sensitive then 1 else 0
      critical := s.critical + if f.severity == .critical then 1 else 0
      high := s.high + if f.severity == .high then 1 else 0
      medium := s.medium + if f.severity == .medium then 1 else 0
      low := s.low + if f.severity == .low then 1 else 0
      info := s.info + if f.severity == .info then 1 else 0 } := by
  rw [addFinding]
  cases f.catalog <;> cases f.severity <;> rfl

theorem foldl_addFinding (s : Statistics) (l : List Finding) : l.foldl addFinding s =
    { total := s.total
      vulnerabilities := s.vulnerabilities + l.countP fun f => f.catalog == .vulnerability
      sensitive := s.sensitive + l.countP fun f => f.catalog == .sensitive
      critical := s.critical + l.countP fun f => f.severity == .critical
      high := s.high + l.countP fun f => f.severity == .high
      medium := s.medium + l.countP fun f => f.severity == .medium
      low := s.low + l.countP fun f => f.severity == .low
      info := s.info + l.countP fun f => f.severity == .info } := by
  induction l generalizing s with
  | nil => rfl
  | cons f l ih =>
    rw [List.foldl_cons, ih, addFinding_eq]
    simp only [List.countP_cons, Nat.add_assoc, Nat.add_comm (List.countP _ l)]

theorem ofFindings_eq (l : List Finding) : ofFindings l =
    { total := l.length
      vulnerabilities := l.countP fun f => f.catalog == .vulnerability
      sensitive := l.countP fun f => f.catalog == .sensitive
      critical := l.countP fun f => f.severity == .critical
      high := l.countP fun f => f.severity == .high
      medium := l.countP fun f => f.severity == .medium
      low := l.countP fun f => f.severity == .low
      info := l.countP fun f => f.severity == .info } := by
  rw [ofFindings, foldl_addFinding]
  simp only [Nat.zero_add]

theorem total_ofFindings (l : List Finding) : (ofFindings l).total = l.length := by
  rw [ofFindings_eq]

theorem ofFindings_append (l m : List Finding) :
    ofFindings (l ++ m) = (ofFindings l).merge (ofFindings m) := by
  simp only [ofFindings_eq, merge, List.length_append, List.countP_append]

theorem ofFindings_perm (h : l.Perm m) : ofFindings l = ofFindings m := by
  simp only [ofFindings_eq, h.length_eq, h.countP_eq]

theorem foldl_merge_ofFindings (groups : List (List Finding)) (l : List Finding) :
    (groups.map ofFindings).foldl merge (ofFindings l) = ofFindings (l ++ groups.flatten) := by
  induction groups generalizing l with
  | nil => rw [List.map_nil, List.foldl_nil, List.flatten_nil, List.append_nil]
  | cons group groups ih =>
    rw [List.map_cons, List.foldl_cons, ← ofFindings_append, ih, List.flatten_cons,
      List.append_assoc]

theorem mergeAll_map_ofFindings (groups : List (List Finding)) :
    mergeAll (groups.map ofFindings) = ofFindings groups.flatten :=
  foldl_merge_ofFindings groups []

theorem scanl_merge_ofFindings (groups : List (List Finding)) (l : List Finding) :
    (groups.map ofFindings).scanl merge (ofFindings l) =
      groups.inits.map fun part => ofFindings (l ++ part.flatten) := by
  induction groups generalizing l with
  | nil => simp
  | cons group groups ih =>
    rw [List.map_cons, List.scanl_cons, ← ofFindings_append, ih, List.inits_cons, List.map_cons,
      List.map_map, List.flatten_nil, List.append_nil]
    simp only [Function.comp_def, List.flatten_cons, List.append_assoc]

/-- A way to merge the counts of some groups of findings, two at a time. -/
inductive Merging where
  | nothing
  | group (l : List Finding)
  | both (a b : Merging)

namespace Merging

def merged : Merging → Statistics
  | nothing => {}
  | group l => ofFindings l
  | both a b => a.merged.merge b.merged

def groups : Merging → List (List Finding)
  | nothing => []
  | group l => [l]
  | both a b => a.groups ++ b.groups

theorem merged_eq (a : Merging) : a.merged = ofFindings a.groups.flatten := by
  induction a with
  | nothing => rfl
  | group l => rw [merged, groups, List.flatten_singleton]
  | both a b iha ihb => rw [merged, groups, iha, ihb, ← ofFindings_append, List.flatten_append]

end Merging

structure Balanced (s : Statistics) : Prop where
  catalogs : s.vulnerabilities + s.sensitive = s.total
  severities : s.critical + s.high + s.medium + s.low + s.info = s.total

theorem Balanced.merge (hs : s.Balanced) (ht : t.Balanced) : (s.merge t).Balanced where
  catalogs := by
    simp only [Statistics.merge, ← hs.catalogs, ← ht.catalogs]
    omega
  severities := by
    simp only [Statistics.merge, ← hs.severities, ← ht.severities]
    omega

theorem balanced_ofFindings (l : List Finding) : (ofFindings l).Balanced := by
  induction l with
  | nil => exact ⟨rfl, rfl⟩
  | cons f l ih =>
    have hone : (ofFindings [f]).Balanced := by
      rw [ofFindings, List.foldl_cons, List.foldl_nil, addFinding]
      cases f.catalog <;> cases f.severity <;> exact ⟨rfl, rfl⟩
    rw [← List.singleton_append, ofFindings_append]
    exact hone.merge ih

theorem bySeverity_ofFindings (l : List Finding) (g : Severity) :
    (ofFindings l).bySeverity g = l.countP fun f => f.severity == g := by
  rw [ofFindings_eq]
  cases g <;> rfl

/-- The counts of groups of findings come to those of all findings, in whatever order and two at a
time they are merged, and one after the other they do so at each step. Every finding counts once in
the total, once by its catalog and once by its severity, wherever it stands. -/
theorem counts_add_up :
    (∀ (a : Merging) (groups : List (List Finding)), a.groups.Perm groups →
      a.merged = ofFindings groups.flatten) ∧
    (∀ groups : List (List Finding), (groups.map ofFindings).scanl merge {} =
      groups.inits.map fun part => ofFindings part.flatten) ∧
    ∀ l : List Finding, (ofFindings l).total = l.length ∧
      (ofFindings l).vulnerabilities = (l.countP fun f => f.catalog == .vulnerability) ∧
      (∀ g, (ofFindings l).bySeverity g = l.countP fun f => f.severity == g) ∧
      (ofFindings l).Balanced ∧ ∀ m, l.Perm m → ofFindings m = ofFindings l := by
  refine ⟨fun a groups h => ?_, fun groups => scanl_merge_ofFindings groups [], fun l =>
    ⟨total_ofFindings l, ?_, bySeverity_ofFindings l, balanced_ofFindings l,
      fun m h => (ofFindings_perm h).symm⟩⟩
  · rw [a.merged_eq]
    exact ofFindings_perm h.flatten
  · rw [ofFindings_eq]

def sample (c : Catalog) (g : Severity) : Finding := ⟨c, "xss", g, "", 1, "", ""⟩

theorem counts_add_up_swapped :
    (Merging.both (.group [sample .sensitive .critical])
        (.both .nothing (.group [sample .vulnerability .info]))).merged =
      ofFindings [sample .vulnerability .info, sample .sensitive .critical] ∧
    ofFindings [sample .sensitive .critical, sample .vulnerability .info] =
      ofFindings [sample .vulnerability .info, sample .sensitive .critical] :=
  ⟨counts_add_up.1 _ [[sample .vulnerability .info], [sample .sensitive .critical]]
    (.swap _ _ _), (counts_add_up.2.2 _).2.2.2.2 _ (.swap _ _ _)⟩

end Linewatch.Statistics
