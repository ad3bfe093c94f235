import Linewatch.Policy
import Linewatch.Proofs.Text.Span

namespace Linewatch

theorem Catalog.slash_notMem_name (c : Catalog) : '/' ∉ c.name.toList := by
  cases c <;> decide

theorem Catalog.ofSpelling?_name (c : Catalog) : ofSpelling? c.name = some c := by
  cases c <;> decide

/-- Which rules a key refers to. A key without a slash is the name of rules in either catalog. What
stands before the first slash of any other key spells the catalog, and the name stands after it. -/
inductive Reference.Denotes : String → Catalog → String → Prop
  | bare {name : String} (h : '/' ∉ name.toList) (c : Catalog) : Denotes name c name
  | qualified {spelling : String} {c : Catalog} (h : '/' ∉ spelling.toList)
      (hc : Catalog.ofSpelling? spelling = some c) (name : String) :
      Denotes (spelling ++ "/" ++ name) c name

namespace Reference

theorem ofKey_bare {key : String} (h : '/' ∉ key.toList) : ofKey key = .ok ⟨none, key⟩ := by
  rw [ofKey, Text.span_of_notMem h]

theorem toList_qualified (spelling name : String) :
    (spelling ++ "/" ++ name).toList = spelling.toList ++ '/' :: name.toList := by
  simp

theorem ofKey_qualified {spelling : String} (h : '/' ∉ spelling.toList) (name : String) :
    ofKey (spelling ++ "/" ++ name) = match Catalog.ofSpelling? spelling with
      | some c => .ok ⟨some c, name⟩
      | none => .error (.unknownCatalog spelling (spelling ++ "/" ++ name)) := by
  cases hc : Catalog.ofSpelling? spelling with
  | none => simp only [ofKey, toList_qualified, Text.span_append_cons h, String.ofList_toList, hc]
  | some c => simp only [ofKey, toList_qualified, Text.span_append_cons h, String.ofList_toList, hc]

/-- The key that a catalog and a name make leads back to them, whatever slashes are in the name. -/
theorem ofKey_name (c : Catalog) (name : String) :
    ofKey (c.name ++ "/" ++ name) = .ok ⟨some c, name⟩ := by
  rw [ofKey_qualified c.slash_notMem_name, c.ofSpelling?_name]

theorem exists_eq_qualified {key : String} (h : '/' ∈ key.toList) :
    ∃ spelling name : String, '/' ∉ spelling.toList ∧ key = spelling ++ "/" ++ name := by
  obtain ⟨l, m, hk, hl⟩ := List.eq_append_cons_of_mem h
  refine ⟨.ofList l, .ofList m, by simpa using hl, ?_⟩
  rw [← String.toList_inj, toList_qualified, hk, String.toList_ofList, String.toList_ofList]

end Reference

namespace Policy

variable {f : Finding} {key spelling name : String}

theorem keySelects_of_bare (h : '/' ∉ key.toList) : keySelects f key = true ↔ f.rule = key := by
  rw [keySelects, Reference.ofKey_bare h]
  simp only [Reference.selects, Option.all_none, Bool.and_true, beq_iff_eq]
  exact eq_comm

theorem keySelects_qualified (h : '/' ∉ spelling.toList) :
    keySelects f (spelling ++ "/" ++ name) = true ↔
      Catalog.ofSpelling? spelling = some f.catalog ∧ f.rule = name := by
  rw [keySelects, Reference.ofKey_qualified h]
  cases Catalog.ofSpelling? spelling with
  | none => simp
  | some c =>
    simp only [Reference.selects, Option.all_some, Bool.and_eq_true, beq_iff_eq, Option.some.injEq]
    rw [and_comm, eq_comm (a := name)]

theorem keySelects_iff : keySelects f key = true ↔ Reference.Denotes key f.catalog f.rule := by
  constructor
  · intro h
    by_cases hk : '/' ∈ key.toList
    · obtain ⟨spelling, name, hs, rfl⟩ := Reference.exists_eq_qualified hk
      obtain ⟨hc, rfl⟩ := (keySelects_qualified hs).mp h
      exact .qualified hs hc f.rule
    · obtain rfl := (keySelects_of_bare hk).mp h
      exact .bare hk f.catalog
  · intro h
    generalize hc : f.catalog = c at h
    generalize hn : f.rule = name at h
    cases h with
    | bare hk => exact (keySelects_of_bare hk).mpr hn
    | qualified hs hsp => exact (keySelects_qualified hs).mpr ⟨hc ▸ hsp, hn⟩

end Policy

end Linewatch
