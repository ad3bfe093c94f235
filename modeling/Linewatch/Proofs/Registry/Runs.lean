import Linewatch.Proofs.Registry

namespace Linewatch

structure Registration where
  catalog : Catalog
  rule : Rule

namespace Registry

/-- Attempts to add a rule. The answer is the fault if there is one, and then the registry stays as
it is. -/
def register (r : Registry) (q : Registration) : Option Fault × Registry :=
  match r.insert q.catalog q.rule with
  | .ok added => (none, added)
  | .error fault => (some fault, r)

def registerAll (r : Registry) : List Registration → List (Option Fault) × Registry
  | [] => ([], r)
  | q :: rest =>
    let (answer, next) := r.register q
    let (answers, last) := next.registerAll rest
    (answer :: answers, last)

def Taken (r : Registry) (q : Registration) : Prop :=
  q.rule.name ∈ (r.rulesFor q.catalog).map Rule.name

instance (r : Registry) (q : Registration) : Decidable (r.Taken q) :=
  inferInstanceAs (Decidable (_ ∈ _))

def added (c : Catalog) (calls : List Registration) (answers : List (Option Fault)) : List Rule :=
  (calls.zip answers).filterMap fun (q, answer) =>
    if q.catalog = c ∧ answer = none then some q.rule else none

variable {r : Registry} {q : Registration}

theorem register_of_taken (h : r.Taken q) :
    r.register q = (some (.duplicateRule q.catalog q.rule.name), r) := by
  rw [register, insert, RuleList.insert?_eq_none_iff.mpr h]

theorem register_of_not_taken (h : ¬ r.Taken q) :
    (r.register q).1 = none ∧ ∀ c, (r.register q).2.rulesFor c =
      if c = q.catalog then r.rulesFor c ++ [q.rule] else r.rulesFor c := by
  obtain ⟨r', hr⟩ := exists_insert_iff.mpr h
  rw [register, hr]
  exact ⟨rfl, rulesFor_of_insert hr⟩

theorem register_fst (r : Registry) (q : Registration) : (r.register q).1 =
    if r.Taken q then some (.duplicateRule q.catalog q.rule.name) else none := by
  by_cases h : r.Taken q
  · rw [register_of_taken h, if_pos h]
  · rw [(register_of_not_taken h).1, if_neg h]

theorem rulesFor_register (r : Registry) (q : Registration) (c : Catalog) :
    (r.register q).2.rulesFor c = r.rulesFor c ++ added c [q] [(r.register q).1] := by
  by_cases h : r.Taken q
  · rw [register_of_taken h]
    simp [added]
  · obtain ⟨ha, hr⟩ := register_of_not_taken h
    rw [hr c, ha]
    by_cases hc : q.catalog = c
    · simp [added, hc]
    · simp [added, hc, Ne.symm hc]

theorem size_register (r : Registry) (q : Registration) :
    (r.register q).2.size = r.size + [(r.register q).1].count none := by
  have hs : ∀ s : Registry, s.size =
    (s.rulesFor .vulnerability).length + (s.rulesFor .sensitive).length := fun _ => rfl
  by_cases h : r.Taken q
  · rw [register_of_taken h]
    simp
  · obtain ⟨ha, hr⟩ := register_of_not_taken h
    rw [hs, hs, hr, hr, ha]
    cases q.catalog <;> simp <;> omega

theorem registerAll_cons (r : Registry) (q : Registration) (rest : List Registration) :
    r.registerAll (q :: rest) = ((r.register q).1 :: ((r.register q).2.registerAll rest).1,
      ((r.register q).2.registerAll rest).2) := rfl

theorem registerAll_concat (r : Registry) (calls : List Registration) (q : Registration) :
    r.registerAll (calls ++ [q]) =
      ((r.registerAll calls).1 ++ [((r.registerAll calls).2.register q).1],
        ((r.registerAll calls).2.register q).2) := by
  induction calls generalizing r with
  | nil => rfl
  | cons p calls ih =>
    rw [List.cons_append, registerAll_cons, ih, registerAll_cons, List.cons_append]

theorem length_registerAll (r : Registry) (calls : List Registration) :
    (r.registerAll calls).1.length = calls.length := by
  induction calls generalizing r with
  | nil => rfl
  | cons q calls ih => rw [registerAll_cons, List.length_cons, ih, List.length_cons]

theorem added_cons (c : Catalog) (q : Registration) (calls : List Registration)
    (answer : Option Fault) (answers : List (Option Fault)) :
    added c (q :: calls) (answer :: answers) = added c [q] [answer] ++ added c calls answers := by
  rw [added, List.zip_cons_cons, ← List.singleton_append, List.filterMap_append]
  rfl

theorem rulesFor_registerAll (r : Registry) (calls : List Registration) (c : Catalog) :
    (r.registerAll calls).2.rulesFor c =
      r.rulesFor c ++ added c calls (r.registerAll calls).1 := by
  induction calls generalizing r with
  | nil => exact (List.append_nil _).symm
  | cons q calls ih =>
    rw [registerAll_cons, ih, rulesFor_register, List.append_assoc, ← added_cons]

theorem size_registerAll (r : Registry) (calls : List Registration) :
    (r.registerAll calls).2.size = r.size + (r.registerAll calls).1.count none := by
  induction calls generalizing r with
  | nil => rfl
  | cons q calls ih =>
    rw [registerAll_cons, ih, size_register, Nat.add_assoc, ← List.count_append]
    rfl

/-- After any attempts to add rules a catalog holds those it began with and then those that were
added, in order, and its index leads to each of them. An attempt fails exactly if its name is taken,
and changes nothing then. -/
theorem registered_exactly (start : Registry) (calls : List Registration) :
    let answers := (start.registerAll calls).1
    let r := (start.registerAll calls).2
    answers.length = calls.length ∧
    (∀ q, (start.registerAll (calls ++ [q])).1 = answers ++
        [if r.Taken q then some (.duplicateRule q.catalog q.rule.name) else none] ∧
      (r.Taken q → (start.registerAll (calls ++ [q])).2 = r)) ∧
    (∀ c, r.rulesFor c = start.rulesFor c ++ added c calls answers ∧
      ((r.rulesFor c).map Rule.name).Nodup ∧
      ∀ name i, (r.catalog c).place? name = some i ↔
        ∃ rule, (r.rulesFor c)[i]? = some rule ∧ rule.name = name) ∧
    (∀ c name rule, r.get? c name = some rule ↔ rule ∈ r.rulesFor c ∧ rule.name = name ∧
      ∀ other ∈ r.rulesFor c, other.name = name → other = rule) ∧
    r.size = start.size + answers.count none ∧
    r.summaries = (r.rulesFor .vulnerability).map (Rule.summary · .vulnerability) ++
      (r.rulesFor .sensitive).map (Rule.summary · .sensitive) ∧
    (r.summaries.map fun m => (m.catalog, m.name)).Nodup := by
  intro answers r
  refine ⟨length_registerAll start calls, ?_, ?_, ?_, size_registerAll start calls,
    summaries_eq r, nodup_summaries r⟩
  · intro q
    rw [registerAll_concat, register_fst]
    refine ⟨rfl, ?_⟩
    intro ht
    rw [register_of_taken ht]
  · intro c
    refine ⟨rulesFor_registerAll start calls c, (r.catalog c).nodup, ?_⟩
    exact (r.catalog c).indexes
  · intro c name rule
    exact get?_eq_some_iff_unique

end Registry

end Linewatch
