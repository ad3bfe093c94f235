import Linewatch.Signature
import Linewatch.Proofs.Registry

namespace Linewatch

def Rule.signature (c : Catalog) (rule : Rule) : Signature :=
  ⟨c, rule.name, rule.regex, rule.severity, rule.description⟩

theorem Rule.signature_injective (c : Catalog) : Function.Injective (signature c) := by
  intro a b h
  obtain ⟨name, regex, severity, description, pattern, program, hp, rfl⟩ := a
  obtain ⟨name', regex', severity', description', pattern', program', hp', rfl⟩ := b
  simp only [signature, Signature.mk.injEq, true_and] at h
  obtain ⟨rfl, rfl, rfl, rfl⟩ := h
  obtain rfl : pattern = pattern' := Option.some.inj (hp.symm.trans hp')
  rfl

namespace Signature

variable {s : Signature} {rule : Rule} {fault : Fault}

def Compiles (s : Signature) : Prop := (Pattern.ofText? s.regex.toList).isSome = true

theorem rule_of_compiles (h : s.Compiles) :
    ∃ rule, s.rule = .ok rule ∧ rule.signature s.catalog = s := by
  obtain ⟨pattern, hp⟩ := Option.isSome_iff_exists.mp h
  rw [rule, Rule.compile]
  split
  next p hp' => exact ⟨_, rfl, rfl⟩
  next hp' =>
    rw [hp] at hp'
    cases hp'

theorem rule_of_not_compiles (h : ¬ s.Compiles) : s.rule = .error (.invalidPattern s.name) := by
  have hp : Pattern.ofText? s.regex.toList = none := Option.not_isSome_iff_eq_none.mp h
  rw [rule, Rule.compile]
  split
  next p hp' =>
    rw [hp] at hp'
    cases hp'
  next => rfl

theorem signature_of_rule (h : s.rule = .ok rule) : rule.signature s.catalog = s := by
  by_cases hs : s.Compiles
  · obtain ⟨other, ho, he⟩ := rule_of_compiles hs
    obtain rfl : rule = other := Except.ok.inj (h.symm.trans ho)
    exact he
  · rw [rule_of_not_compiles hs] at h
    cases h

/-- What is wrong with an entry that comes after others. Its pattern is looked at before its name. -/
inductive Offends (earlier : List Signature) (s : Signature) : Fault → Prop
  | pattern (h : ¬ s.Compiles) : Offends earlier s (.invalidPattern s.name)
  | name (h : s.Compiles) (ht : ∃ t ∈ earlier, t.catalog = s.catalog ∧ t.name = s.name) :
    Offends earlier s (.duplicateRule s.catalog s.name)

variable {earlier : List Signature}

theorem offends_of_not_compiles (h : ¬ s.Compiles) :
    s.Offends earlier fault ↔ fault = .invalidPattern s.name := by
  constructor
  · rintro (- | ⟨hs⟩)
    · rfl
    · exact absurd hs h
  · rintro rfl
    exact .pattern h

theorem offends_of_compiles (h : s.Compiles) : s.Offends earlier fault ↔
    (∃ t ∈ earlier, t.catalog = s.catalog ∧ t.name = s.name) ∧
      fault = .duplicateRule s.catalog s.name := by
  constructor
  · rintro (⟨hs⟩ | ⟨-, ht⟩)
    · exact absurd h hs
    · exact ⟨ht, rfl⟩
  · rintro ⟨ht, rfl⟩
    exact .name h ht

end Signature

namespace Registry

def addSignatures (r : Registry) (l : List Signature) : Except Fault Registry :=
  l.foldlM insertSignature r

/-- Whether the rules of each catalog are those that are written down for it, in order. -/
def Holds (r : Registry) (l : List Signature) : Prop :=
  ∀ c, (r.rulesFor c).map (Rule.signature c) = l.filter (·.catalog = c)

variable {r r' : Registry} {s : Signature} {l m : List Signature} {c : Catalog} {rule : Rule}
  {fault : Fault}

theorem holds_empty : empty.Holds [] := by
  intro c
  cases c <;> rfl

theorem Holds.names (h : r.Holds l) (c : Catalog) :
    (r.rulesFor c).map Rule.name = (l.filter (·.catalog = c)).map Signature.name := by
  rw [← h c, List.map_map]
  rfl

theorem Holds.nodup (h : r.Holds l) (c : Catalog) :
    ((l.filter (·.catalog = c)).map Signature.name).Nodup := by
  rw [← h.names c]
  exact (r.catalog c).nodup

theorem Holds.mem_rulesFor (h : r.Holds l) (hs : s ∈ l) (hr : s.rule = .ok rule) :
    rule ∈ r.rulesFor s.catalog := by
  have hm : rule.signature s.catalog ∈ (r.rulesFor s.catalog).map (Rule.signature s.catalog) := by
    rw [h, Signature.signature_of_rule hr]
    simpa using hs
  exact (List.mem_map_of_injective (Rule.signature_injective _)).mp hm

/-- The rule of an entry is added unless the entry offends, and no other fault is possible. -/
theorem Holds.insertSignature (h : r.Holds l) (s : Signature) :
    (∃ r', r.insertSignature s = .ok r' ∧ r'.Holds (l ++ [s]) ∧ ∀ fault, ¬ s.Offends l fault) ∨
      ∃ fault, r.insertSignature s = .error fault ∧ ∀ f, s.Offends l f ↔ f = fault := by
  by_cases hs : s.Compiles
  · obtain ⟨rule, hr, hrs⟩ := Signature.rule_of_compiles hs
    have hi : r.insertSignature s = r.insert s.catalog rule := by rw [Registry.insertSignature, hr]
    have hname : rule.name = s.name := congrArg Signature.name hrs
    have ht : rule.name ∈ (r.rulesFor s.catalog).map Rule.name ↔
        ∃ t ∈ l, t.catalog = s.catalog ∧ t.name = s.name := by
      rw [h.names, hname]
      simp [and_assoc]
    rw [hi]
    simp only [Signature.offends_of_compiles hs, ← ht]
    by_cases hn : rule.name ∈ (r.rulesFor s.catalog).map Rule.name
    · refine .inr ⟨.duplicateRule s.catalog s.name, ?_, fun f => and_iff_right hn⟩
      rw [insert, RuleList.insert?_eq_none_iff.mpr hn, hname]
    · obtain ⟨r', hr'⟩ := exists_insert_iff.mpr hn
      refine .inl ⟨r', hr', ?_, fun f hf => hn hf.1⟩
      intro c
      rw [rulesFor_of_insert hr' c, List.filter_append, ← h c]
      by_cases hc : c = s.catalog
      · subst hc
        simp [hrs]
      · simp [hc, Ne.symm hc]
  · refine .inr ⟨.invalidPattern s.name, ?_, fun f => Signature.offends_of_not_compiles hs⟩
    rw [Registry.insertSignature, Signature.rule_of_not_compiles hs]

theorem addSignatures_cons (r : Registry) (s : Signature) (m : List Signature) :
    r.addSignatures (s :: m) = (r.insertSignature s).bind (addSignatures · m) := List.foldlM_cons

theorem Holds.of_addSignatures (h : r.Holds l) (hm : r.addSignatures m = .ok r') :
    r'.Holds (l ++ m) := by
  induction m generalizing r l with
  | nil =>
    obtain rfl : r = r' := Except.ok.inj hm
    rwa [List.append_nil]
  | cons s m ih =>
    rw [addSignatures_cons] at hm
    rcases h.insertSignature s with ⟨next, hn, hnext, -⟩ | ⟨fault, hf, -⟩
    · rw [hn] at hm
      have hl := ih hnext hm
      rwa [List.append_assoc, List.singleton_append] at hl
    · rw [hf] at hm
      cases hm

def FirstOffends (l m : List Signature) (i : Nat) (fault : Fault) : Prop :=
  ∃ s, m[i]? = some s ∧ s.Offends (l ++ m.take i) fault ∧
    ∀ j < i, ∀ t, m[j]? = some t → ∀ f, ¬ t.Offends (l ++ m.take j) f

theorem firstOffends_zero : FirstOffends l (s :: m) 0 fault ↔ s.Offends l fault := by
  simp [FirstOffends]

theorem firstOffends_succ {i : Nat} : FirstOffends l (s :: m) (i + 1) fault ↔
    (∀ f, ¬ s.Offends l f) ∧ FirstOffends (l ++ [s]) m i fault := by
  simp only [FirstOffends, List.getElem?_cons_succ, List.take_succ_cons, List.append_assoc,
    List.singleton_append, Nat.forall_lt_succ_left, List.getElem?_cons_zero, List.take_zero,
    Option.some.injEq, forall_eq', List.append_nil]
  constructor
  · rintro ⟨t, ht, ho, hs, hall⟩
    exact ⟨hs, t, ht, ho, hall⟩
  · rintro ⟨hs, t, ht, ho, hall⟩
    exact ⟨t, ht, ho, hs, hall⟩

/-- What is written down cannot all be added exactly if an entry offends, and then the first one that
does is to blame. -/
theorem Holds.addSignatures_eq_error_iff (h : r.Holds l) :
    r.addSignatures m = .error fault ↔ ∃ i, FirstOffends l m i fault := by
  induction m generalizing r l with
  | nil =>
    constructor
    · rintro ⟨⟩
    · rintro ⟨i, s, hs, -⟩
      cases hs
  | cons s m ih =>
    rw [addSignatures_cons, ← Nat.or_exists_add_one, firstOffends_zero]
    simp only [firstOffends_succ]
    rcases h.insertSignature s with ⟨next, hn, hnext, hs⟩ | ⟨f, hf, hs⟩
    · rw [hn]
      simp only [hs fault, false_or, hs, not_false_eq_true, implies_true, true_and]
      exact ih hnext
    · rw [hf]
      have hno : ¬ ∀ e, ¬ s.Offends l e := fun hall => hall f ((hs f).mpr rfl)
      simp only [hs fault, hno, false_and, exists_false, or_false, Except.bind, Except.error.injEq]
      exact eq_comm

theorem Holds.exists_addSignatures_iff (h : r.Holds l) : (∃ r', r.addSignatures m = .ok r') ↔
    (∀ s ∈ m, s.Compiles) ∧
      ∀ c, (((l ++ m).filter (·.catalog = c)).map Signature.name).Nodup := by
  induction m generalizing r l with
  | nil =>
    rw [List.append_nil]
    exact ⟨fun _ => ⟨by simp, h.nodup⟩, fun _ => ⟨r, rfl⟩⟩
  | cons s m ih =>
    rw [addSignatures_cons, List.forall_mem_cons]
    rcases h.insertSignature s with ⟨next, hn, hnext, hs⟩ | ⟨fault, hf, hs⟩
    · have hc : s.Compiles := by
        by_contra hc
        exact hs _ (.pattern hc)
      have hl : l ++ s :: m = l ++ [s] ++ m := by simp
      simp only [hn, hl, hc, true_and]
      exact ih hnext
    · rw [hf]
      constructor
      · rintro ⟨r', ⟨⟩⟩
      · rintro ⟨⟨hc, -⟩, hd⟩
        obtain ⟨hc'⟩ | ⟨-, t, ht, htc, htn⟩ := (hs fault).mpr rfl
        · exact absurd hc hc'
        · have hdup := hd s.catalog
          rw [List.filter_append, List.map_append, List.nodup_append] at hdup
          refine absurd htn (hdup.2.2 _ ?_ _ ?_)
          · exact List.mem_map_of_mem (by simpa using ⟨ht, htc⟩)
          · exact List.mem_map_of_mem (by simp)

theorem Holds.exists_addSignatures_of_sublist {m' : List Signature} (h : r.Holds l)
    (hm : m'.Sublist m) (hr : r.addSignatures m = .ok r') : ∃ r'', r.addSignatures m' = .ok r'' := by
  obtain ⟨hc, hn⟩ := h.exists_addSignatures_iff.mp ⟨r', hr⟩
  refine h.exists_addSignatures_iff.mpr ⟨fun t ht => hc t (hm.subset ht), ?_⟩
  intro c
  exact (hn c).sublist (((hm.append_left l).filter _).map _)

theorem Holds.ne_of_mem {t : Signature} (h : r.Holds (l ++ s :: m)) (ht : t ∈ l ++ m) :
    ¬ (t.catalog = s.catalog ∧ t.name = s.name) := by
  rintro ⟨hc, hn⟩
  have hd := h.nodup s.catalog
  rw [List.filter_append, List.filter_cons_of_pos (by simp), List.map_append, List.map_cons,
    List.nodup_middle, List.nodup_cons, ← List.map_append, ← List.filter_append] at hd
  refine hd.1 ?_
  rw [← hn]
  exact List.mem_map_of_mem (List.mem_filter.mpr ⟨ht, decide_eq_true hc⟩)

theorem Holds.rulesFor_without (h : r.Holds (l ++ s :: m)) (h' : r'.Holds (l ++ m)) (c : Catalog) :
    r'.rulesFor c =
      (r.rulesFor c).filter fun rule => ¬ (c = s.catalog ∧ rule.name = s.name) := by
  have hothers : (l ++ s :: m).filter (fun t => ¬ (t.catalog = s.catalog ∧ t.name = s.name)) =
      l ++ m := by
    have hall : ∀ t ∈ l ++ m, decide (¬ (t.catalog = s.catalog ∧ t.name = s.name)) = true :=
      fun t ht => decide_eq_true (h.ne_of_mem ht)
    rw [List.filter_append, List.filter_cons_of_neg (by simp), ← List.filter_append,
      List.filter_eq_self.mpr hall]
  have hrules : ((r.rulesFor c).filter fun rule => ¬ (c = s.catalog ∧ rule.name = s.name)).map
      (Rule.signature c) = ((r.rulesFor c).map (Rule.signature c)).filter
        fun t => ¬ (t.catalog = s.catalog ∧ t.name = s.name) := by
    rw [List.filter_map]
    rfl
  apply List.map_injective_iff.mpr (Rule.signature_injective c)
  rw [h' c, hrules, h c, ← hothers, List.filter_filter, List.filter_filter]
  exact List.filter_congr fun t _ => Bool.and_comm _ _

theorem foldl_insertSignature (h : r.addSignatures m = .ok r') :
    m.foldl (fun r s => (r.insertSignature s).toOption.getD r) r = r' := by
  induction m generalizing r with
  | nil => exact Except.ok.inj h
  | cons s m ih =>
    rw [addSignatures_cons] at h
    cases hs : r.insertSignature s with
    | error fault =>
      rw [hs] at h
      cases h
    | ok next =>
      rw [hs] at h
      rw [List.foldl_cons, hs]
      exact ih h

end Registry

section

variable {s : Signature} {rule : Rule}

/-- The characters of the regular expression are given apart, for the kernel is slow to take them out
of the bytes of a string. -/
theorem Signature.compiles_of_eq {l : List Char} (h : s.regex = String.ofList l)
    (hl : (Pattern.ofText? l).isSome = true) : s.Compiles := by
  rw [Compiles, h, String.toList_ofList]
  exact hl

theorem Signature.any_of_eq {f : Pattern → Bool} {l : List Char} (h : s.regex = String.ofList l)
    (hl : (Pattern.ofText? l).any f = true) :
    (Pattern.ofText? s.regex.toList).any f = true := by
  rw [h, String.toList_ofList]
  exact hl

set_option maxRecDepth 2000 in
theorem Signature.compiles_of_mem_all : ∀ s ∈ all, s.Compiles := by
  simp only [all, List.forall_mem_cons]
  refine ⟨?_, ?_, ?_, ?_, ?_, ?_, ?_, ?_, ?_, ?_, by simp⟩
  all_goals exact compiles_of_eq rfl (by decide +kernel)

namespace Registry

theorem nodup_names_all (c : Catalog) :
    ((Signature.all.filter (·.catalog = c)).map Signature.name).Nodup := by
  cases c <;> decide

/-- No built-in signature is left out: they can all be added to nothing. -/
theorem addSignatures_all : empty.addSignatures Signature.all = .ok builtin := by
  obtain ⟨r, hr⟩ := holds_empty.exists_addSignatures_iff.mpr
    ⟨Signature.compiles_of_mem_all, nodup_names_all⟩
  rw [hr]
  exact congrArg Except.ok (foldl_insertSignature hr).symm

theorem holds_builtin : builtin.Holds Signature.all :=
  holds_empty.of_addSignatures addSignatures_all

theorem mem_rulesFor_builtin (hs : s ∈ Signature.all) (hr : s.rule = .ok rule) :
    rule ∈ builtin.rulesFor s.catalog :=
  holds_builtin.mem_rulesFor hs hr

theorem of_mem_rulesFor_builtin {f : Signature → Pattern → Bool}
    (hf : ∀ s ∈ Signature.all, (Pattern.ofText? s.regex.toList).any (f s) = true) {c : Catalog}
    (hr : rule ∈ builtin.rulesFor c) : f (rule.signature c) rule.pattern = true := by
  have hm : rule.signature c ∈ (builtin.rulesFor c).map (Rule.signature c) := List.mem_map_of_mem hr
  rw [holds_builtin] at hm
  have hs := hf _ (List.mem_filter.mp hm).1
  have hp : Pattern.ofText? (rule.signature c).regex.toList = some rule.pattern :=
    rule.ofText_regex
  rwa [hp] at hs

end Registry

end

end Linewatch
