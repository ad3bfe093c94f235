import Linewatch.Settings
import Linewatch.Proofs.Signature

namespace Linewatch

namespace Settings

def signatures (s : Settings) : List Signature :=
  Signature.all ++ s.rules.map CustomRule.signature

/-- Whether an entry offends after the first `i` entries of the file and the built-in rules. -/
def OffendsAt (s : Settings) (i : Nat) (c : CustomRule) (fault : Fault) : Prop :=
  c.signature.Offends (Signature.all ++ (s.rules.take i).map CustomRule.signature) fault

variable {s : Settings} {r : Registry} {fault : Fault}

theorem registry_eq (s : Settings) :
    s.registry = Registry.builtin.addSignatures (s.rules.map CustomRule.signature) := by
  rw [registry, Registry.addSignatures, List.foldlM_map]

/-- The shared registry of the built-in rules saves the way from nothing to them. -/
theorem registry_eq_addSignatures (s : Settings) :
    s.registry = Registry.empty.addSignatures s.signatures := by
  have hall := Registry.addSignatures_all
  rw [Registry.addSignatures] at hall
  rw [registry_eq, Registry.addSignatures, Registry.addSignatures, signatures, List.foldlM_append,
    hall]
  rfl

theorem holds_of_registry (h : s.registry = .ok r) : r.Holds s.signatures := by
  rw [registry_eq] at h
  exact Registry.holds_builtin.of_addSignatures h

theorem filter_signatures (s : Settings) (c : Catalog) :
    s.signatures.filter (·.catalog = c) = Signature.all.filter (·.catalog = c) ++
      (s.rules.filter (·.catalog = c)).map CustomRule.signature := by
  rw [signatures, List.filter_append, List.filter_map]
  rfl

theorem nodup_names_signatures_iff (s : Settings) (c : Catalog) :
    ((s.signatures.filter (·.catalog = c)).map Signature.name).Nodup ↔
      ((s.rules.filter (·.catalog = c)).map CustomRule.name).Nodup ∧
      ∀ b ∈ Signature.all, b.catalog = c → ∀ a ∈ s.rules, a.catalog = c → b.name ≠ a.name := by
  have hn : ((s.rules.filter (·.catalog = c)).map CustomRule.signature).map Signature.name =
      (s.rules.filter (·.catalog = c)).map CustomRule.name := List.map_map
  rw [filter_signatures, List.map_append, hn, List.nodup_append]
  simp only [Registry.nodup_names_all c, true_and, List.forall_mem_map, List.mem_filter,
    decide_eq_true_eq, and_imp]

theorem exists_registry_iff : (∃ r, s.registry = .ok r) ↔
    (∀ a ∈ s.rules, (Pattern.ofText? a.regex.toList).isSome) ∧
    ∀ c, ((s.rules.filter (·.catalog = c)).map CustomRule.name).Nodup ∧
      ∀ b ∈ Signature.all, b.catalog = c → ∀ a ∈ s.rules, a.catalog = c → b.name ≠ a.name := by
  rw [registry_eq, Registry.holds_builtin.exists_addSignatures_iff]
  exact and_congr List.forall_mem_map (forall_congr' s.nodup_names_signatures_iff)

theorem registry_eq_error_iff : s.registry = .error fault ↔
    ∃ i a, s.rules[i]? = some a ∧ s.OffendsAt i a fault ∧
      ∀ j < i, ∀ b, s.rules[j]? = some b → ∀ f, ¬ s.OffendsAt j b f := by
  rw [registry_eq, Registry.holds_builtin.addSignatures_eq_error_iff]
  simp only [Registry.FirstOffends, List.getElem?_map, Option.map_eq_some_iff, ← List.map_take,
    exists_exists_and_eq_and, forall_exists_index, and_imp, forall_apply_eq_imp_iff₂, OffendsAt]

/-- Settings have a registry exactly if every pattern of theirs is one and no name is taken. It holds
the built-in rules and then those of the project, all as they are written down. If there is none, the
first entry of the file that offends is to blame. -/
theorem registry_in_order (s : Settings) :
    ((∃ r, s.registry = .ok r) ↔
      (∀ a ∈ s.rules, (Pattern.ofText? a.regex.toList).isSome) ∧
      ∀ c, ((s.rules.filter (·.catalog = c)).map CustomRule.name).Nodup ∧
        ∀ b ∈ Signature.all, b.catalog = c → ∀ a ∈ s.rules, a.catalog = c → b.name ≠ a.name) ∧
    (∀ r, s.registry = .ok r → ∀ c, (r.rulesFor c).map (Rule.signature c) =
      Signature.all.filter (·.catalog = c) ++
        (s.rules.filter (·.catalog = c)).map CustomRule.signature) ∧
    (s.rules = [] → s.registry = .ok .builtin) ∧
    s.registry = Registry.empty.addSignatures (Signature.all ++ s.rules.map CustomRule.signature) ∧
    ∀ fault, s.registry = .error fault ↔
      ∃ i a, s.rules[i]? = some a ∧ s.OffendsAt i a fault ∧
        ∀ j < i, ∀ b, s.rules[j]? = some b → ∀ f, ¬ s.OffendsAt j b f := by
  refine ⟨exists_registry_iff, ?_, ?_, registry_eq_addSignatures s,
    fun _ => registry_eq_error_iff⟩
  · intro r h c
    rw [holds_of_registry h c, filter_signatures]
  · intro h
    rw [registry, h]
    rfl

end Settings

end Linewatch
