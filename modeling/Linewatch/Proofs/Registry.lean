import Mathlib.Data.List.Nodup
import Linewatch.Registry

namespace Linewatch

namespace RuleList

variable {l l' : RuleList} {name : String} {rule : Rule}

theorem place?_eq_some_iff {i : Nat} :
    l.place? name = some i ↔ (l.rules.map Rule.name)[i]? = some name := by
  rw [List.getElem?_map, Option.map_eq_some_iff]
  exact l.indexes name i

theorem place?_eq_none_iff : l.place? name = none ↔ name ∉ l.rules.map Rule.name := by
  simp only [Option.eq_none_iff_forall_ne_some, ne_eq, place?_eq_some_iff, List.mem_iff_getElem?,
    not_exists]

theorem nodup (l : RuleList) : (l.rules.map Rule.name).Nodup := by
  rw [List.nodup_iff_getElem?_ne_getElem?]
  intro i j hij hj heq
  rw [List.getElem?_eq_getElem hj] at heq
  have hi := place?_eq_some_iff.mpr heq
  rw [place?_eq_some_iff.mpr (List.getElem?_eq_getElem hj), Option.some.injEq] at hi
  exact Nat.ne_of_gt hij hi

theorem get?_eq_some_iff : l.get? name = some rule ↔ rule ∈ l.rules ∧ rule.name = name := by
  rw [get?, Option.bind_eq_some_iff]
  constructor
  · rintro ⟨i, hi, hr⟩
    rw [place?_eq_some_iff, List.getElem?_map, hr, Option.map_some, Option.some.injEq] at hi
    exact ⟨List.mem_of_getElem? hr, hi⟩
  · rintro ⟨hm, rfl⟩
    obtain ⟨i, hi⟩ := List.mem_iff_getElem?.mp hm
    refine ⟨i, ?_, hi⟩
    rw [place?_eq_some_iff, List.getElem?_map, hi, Option.map_some]

theorem insert?_eq_none_iff : l.insert? rule = none ↔ rule.name ∈ l.rules.map Rule.name := by
  rw [insert?, dite_eq_right_iff]
  constructor
  · intro h
    by_contra hnew
    exact nomatch h (place?_eq_none_iff.mpr hnew)
  · exact fun hm h => absurd hm (place?_eq_none_iff.mp h)

/-- A rule is added at the end of the list, and only if its name is new. -/
theorem rules_of_insert? (h : l.insert? rule = some l') :
    rule.name ∉ l.rules.map Rule.name ∧ l'.rules = l.rules ++ [rule] := by
  rw [insert?, Option.dite_none_right_eq_some] at h
  obtain ⟨hnew, h⟩ := h
  obtain rfl := Option.some.inj h
  exact ⟨place?_eq_none_iff.mp hnew, rfl⟩

end RuleList

namespace Registry

theorem rulesFor_set (r : Registry) (l : RuleList) (c d : Catalog) :
    (r.set l c).rulesFor d = if d = c then l.rules else r.rulesFor d := by
  cases c <;> cases d <;> rfl

theorem rulesFor_of_insert {r r' : Registry} {c : Catalog} {rule : Rule}
    (h : r.insert c rule = .ok r') (d : Catalog) :
    r'.rulesFor d = if d = c then r.rulesFor d ++ [rule] else r.rulesFor d := by
  rw [insert] at h
  cases hi : (r.catalog c).insert? rule with
  | none => simp only [hi, reduceCtorEq] at h
  | some l =>
    simp only [hi, Except.ok.injEq] at h
    obtain ⟨-, hl⟩ := RuleList.rules_of_insert? hi
    rw [← h, rulesFor_set]
    by_cases hd : d = c
    · rw [if_pos hd, if_pos hd, hl, hd, rulesFor]
    · rw [if_neg hd, if_neg hd]

theorem exists_insert_iff {r : Registry} {c : Catalog} {rule : Rule} :
    (∃ r', r.insert c rule = .ok r') ↔ rule.name ∉ (r.rulesFor c).map Rule.name := by
  rw [insert]
  cases hi : (r.catalog c).insert? rule with
  | none => simp [rulesFor, RuleList.insert?_eq_none_iff.mp hi]
  | some l => simpa [rulesFor] using (RuleList.rules_of_insert? hi).1

theorem get?_eq_some_iff {r : Registry} {c : Catalog} {name : String} {rule : Rule} :
    r.get? c name = some rule ↔ rule ∈ r.rulesFor c ∧ rule.name = name :=
  RuleList.get?_eq_some_iff

theorem get?_name {r : Registry} {c : Catalog} {rule : Rule} (h : rule ∈ r.rulesFor c) :
    r.get? c rule.name = some rule :=
  get?_eq_some_iff.mpr ⟨h, rfl⟩

theorem get?_eq_some_iff_unique {r : Registry} {c : Catalog} {name : String} {rule : Rule} :
    r.get? c name = some rule ↔ rule ∈ r.rulesFor c ∧ rule.name = name ∧
      ∀ other ∈ r.rulesFor c, other.name = name → other = rule := by
  rw [get?_eq_some_iff]
  constructor
  · rintro ⟨hm, hn⟩
    refine ⟨hm, hn, ?_⟩
    intro other ho hon
    exact List.inj_on_of_nodup_map (r.catalog c).nodup ho hm (hon.trans hn.symm)
  · exact fun ⟨hm, hn, _⟩ => ⟨hm, hn⟩

theorem summaries_eq (r : Registry) :
    r.summaries = (r.rulesFor .vulnerability).map (Rule.summary · .vulnerability) ++
      (r.rulesFor .sensitive).map (Rule.summary · .sensitive) := by
  simp [summaries, Catalog.all]

theorem nodup_summaries (r : Registry) :
    (r.summaries.map fun m => (m.catalog, m.name)).Nodup := by
  have hc : ∀ c,
      (((r.rulesFor c).map (Rule.summary · c)).map fun m => (m.catalog, m.name)).Nodup := by
    intro c
    have hk : ((r.rulesFor c).map (Rule.summary · c)).map (fun m => (m.catalog, m.name)) =
        ((r.rulesFor c).map Rule.name).map (Prod.mk c) := by
      rw [List.map_map, List.map_map]
      rfl
    rw [hk]
    exact (r.catalog c).nodup.map fun _ _ h => congrArg Prod.snd h
  rw [summaries_eq, List.map_append, List.nodup_append]
  refine ⟨hc _, hc _, ?_⟩
  simp only [List.map_map, List.mem_map]
  rintro _ ⟨a, -, rfl⟩ _ ⟨b, -, rfl⟩ h
  cases congrArg Prod.fst h

def place (r : Registry) (c : Catalog) (name : String) : Nat :=
  ((r.rulesFor c).map Rule.name).idxOf name

theorem pairwise_place (r : Registry) (c : Catalog) :
    (r.rulesFor c).Pairwise fun a b => r.place c a.name < r.place c b.name := by
  have hn : ((r.rulesFor c).map Rule.name).Nodup := (r.catalog c).nodup
  have h : ((r.rulesFor c).map Rule.name).Pairwise fun a b => r.place c a < r.place c b := by
    rw [List.pairwise_iff_getElem]
    intro i j hi hj hij
    rwa [place, place, hn.idxOf_getElem i hi, hn.idxOf_getElem j hj]
  rwa [List.pairwise_map] at h

end Registry

end Linewatch
