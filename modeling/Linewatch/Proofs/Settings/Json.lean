import Linewatch.Proofs.Data.Without
import Linewatch.Proofs.Settings.Order

namespace Linewatch

open Datum (Parts)

variable {gone : Parts}

namespace Policy

/-- A policy as data, with its ignored keys and its overrides in any order. -/
inductive Written (p : Policy) : Datum → Prop
  | mk {keys : List String} {overrides : List (String × Severity)}
      (hk : keys.Perm p.ignoreRules) (ho : overrides.Perm p.overrides) :
      Written p (.record [("fail_on", p.failOn.toDatum), ("ignore_rules", .list (keys.map .text)),
        ("overrides", .record (overrides.map fun (key, s) => (key, s.toDatum)))])

theorem written_toDatum (p : Policy) : p.Written p.toDatum :=
  .mk (List.mergeSort_perm p.ignoreRules _) (.refl p.overrides)

theorem ignoreRules_foldl_ignore {keys : List String} {p : Policy}
    (h : (p.ignoreRules ++ keys).Nodup) :
    (keys.foldl ignore p).ignoreRules = p.ignoreRules ++ keys := by
  induction keys generalizing p with
  | nil => simp
  | cons key keys ih =>
    have hkey : key ∉ p.ignoreRules := fun hm =>
      (List.nodup_append.mp h).2.2 key hm key List.mem_cons_self rfl
    have hp : (p.ignore key).ignoreRules = p.ignoreRules ++ [key] := by
      rw [ignore, if_neg hkey]
    rw [List.append_cons] at h
    rw [List.foldl_cons, ih (hp ▸ h), hp, ← List.append_cons]

theorem ignoredOf_eq_self {keys : List String} (h : keys.Nodup) : ignoredOf keys = keys :=
  ignoreRules_foldl_ignore h

theorem overrides_foldl_override {members : List (String × Severity)} {p : Policy}
    (h : ((p.overrides ++ members).map (·.1)).Nodup) :
    (members.foldl (fun (p : Policy) o => p.override o.1 o.2) p).overrides =
      p.overrides ++ members := by
  induction members generalizing p with
  | nil => simp
  | cons o members ih =>
    have hother : ∀ a ∈ p.overrides, (a.1 != o.1) = true := by
      intro a ha
      rw [List.map_append] at h
      exact bne_iff_ne.mpr ((List.nodup_append.mp h).2.2 a.1 (List.mem_map_of_mem ha) o.1
        List.mem_cons_self)
    have hp : (p.override o.1 o.2).overrides = p.overrides ++ [o] := by
      rw [override, unoverride, List.filter_eq_self.mpr hother]
    rw [List.append_cons] at h
    rw [List.foldl_cons, ih (hp ▸ h), hp, ← List.append_cons]

theorem overridesOf_eq_self {members : List (String × Severity)}
    (h : (members.map (·.1)).Nodup) : overridesOf members = members :=
  overrides_foldl_override h

def optional : Parts
  | [.member name] => ["fail_on", "ignore_rules", "overrides"].contains name
  | _ => false

def defaulting (gone : Parts) (p : Policy) : Policy where
  failOn := if gone [.member "fail_on"] then .high else p.failOn
  ignoreRules := if gone [.member "ignore_rules"] then [] else p.ignoreRules
  overrides := if gone [.member "overrides"] then [] else p.overrides

theorem isJson_of_written {p : Policy} {d : Datum} (h : p.Written d) : d.IsJson := by
  obtain @⟨keys, overrides, -, -⟩ := h
  simp only [Datum.isJson_record, Datum.isJson_list, List.forall_mem_cons, List.forall_mem_map,
    Severity.toDatum, Datum.IsJson.text, implies_true, List.not_mem_nil, false_implies, and_true]

theorem tableOf?_overrides (dialect : Dialect) (overrides : List (String × Severity)) :
    (Datum.record (overrides.map fun (key, s) => (key, s.toDatum))).tableOf?
      (Severity.ofDatum? dialect) = some overrides := by
  rw [Datum.record, Datum.tableOf?, Datum.mapM_map_eq_some, List.map_id]
  intro o _
  simp

theorem ofDatum?_without (dialect : Dialect) {p : Policy} (hp : p.Distinct) {d : Datum}
    (hd : p.Written d) (hgone : ∀ step path, gone (step :: path) = true →
      optional (step :: path) = true) :
    ∃ q, ofDatum? dialect (d.without gone) = some q ∧ q.Same (p.defaulting gone) := by
  obtain @⟨keys, overrides, hk, ho⟩ := hd
  have hwhole : ∀ name, gone [.member name] = false →
      ∀ path, gone.below (.member name) path = false := by
    intro name h path
    cases path with
    | nil => exact h
    | cons step path =>
      exact Bool.eq_false_iff.mpr fun hg => nomatch hgone _ _ hg
  have hkeys : (Datum.list (keys.map .text)).listOf? Datum.text? = some keys :=
    Datum.listOf?_map fun _ _ => rfl
  refine ⟨⟨if gone [.member "fail_on"] then .high else p.failOn,
    ignoredOf (if gone [.member "ignore_rules"] then [] else keys),
    overridesOf (if gone [.member "overrides"] then [] else overrides)⟩, ?_, ?_⟩
  · simp only [ofDatum?, Option.bind_eq_bind, Option.bind_eq_some_iff]
    refine ⟨_, Record.of?_without rfl (by decide),
      _, Record.default?_without rfl _ fun _ => ?_,
      _, Record.default?_without rfl _ fun h => ?_,
      _, Record.default?_without rfl _ fun h => ?_, rfl⟩
    · exact Severity.ofDatum?_toDatum dialect p.failOn
    · rw [Datum.without_eq_self (hwhole _ h), hkeys]
    · rw [Datum.without_eq_self (hwhole _ h), tableOf?_overrides]
  · refine ⟨rfl, ?_, ?_⟩
    · by_cases h : gone [.member "ignore_rules"] = true
      · rw [defaulting, if_pos h, if_pos h]
        exact .refl _
      · rw [defaulting, if_neg h, if_neg h, ignoredOf_eq_self (hk.nodup_iff.mpr hp.ignoreRules)]
        exact hk
    · by_cases h : gone [.member "overrides"] = true
      · rw [defaulting, if_pos h, if_pos h]
        exact .refl _
      · have hnodup : (overrides.map (·.1)).Nodup := (ho.map _).nodup_iff.mpr hp.overrides
        rw [defaulting, if_neg h, if_neg h, overridesOf_eq_self hnodup]
        exact ho

end Policy

namespace Limits

structure Fits (l : Limits) : Prop where
  maxLines : ∀ n ∈ l.maxLines, n < UInt64.size
  timeout : ∀ n ∈ l.timeout, n < UInt64.size

def optional : Parts
  | [.member name] => ["max_lines", "timeout_ms"].contains name
  | _ => false

def defaulting (gone : Parts) (l : Limits) : Limits where
  maxLines := if gone [.member "max_lines"] then none else l.maxLines
  timeout := if gone [.member "timeout_ms"] then none else l.timeout

theorem isJson_toDatum (l : Limits) : l.toDatum.IsJson := by
  obtain ⟨_ | n, _ | m⟩ := l <;> simp [toDatum, Datum.option, Datum.ofNat]

theorem nullable?_count {n : Option Nat} (hn : ∀ a ∈ n, a < UInt64.size) (gone : Parts) :
    ((Datum.option .ofNat n).without gone).nullable? Datum.count? = some n := by
  cases n with
  | none => rfl
  | some n =>
    have h : ((Datum.option .ofNat (some n)).without gone).nullable? Datum.count? =
        (Datum.ofNat n).count?.map some := rfl
    rw [h, Datum.count?_ofNat (hn n rfl)]
    rfl

theorem ofDatum?_without (dialect : Dialect) {l : Limits} (hl : l.Fits) :
    ofDatum? dialect (l.toDatum.without gone) = some (l.defaulting gone) := by
  simp only [ofDatum?, Option.bind_eq_bind, Option.bind_eq_some_iff]
  refine ⟨_, Record.of?_without rfl (by decide), _, Record.nullable?_without rfl ?_, _,
    Record.nullable?_without rfl ?_, rfl⟩
  · exact nullable?_count hl.maxLines _
  · exact nullable?_count hl.timeout _

end Limits

namespace CustomRule

def optional : Parts
  | [.member name] => ["severity", "description"].contains name
  | _ => false

def defaulting (gone : Parts) (c : CustomRule) : CustomRule :=
  { c with
    severity := if gone [.member "severity"] then .high else c.severity
    description := if gone [.member "description"] then none else c.description }

theorem isJson_toDatum (c : CustomRule) : c.toDatum.IsJson := by
  cases h : c.description <;>
    simp [toDatum, h, Datum.option, Catalog.toDatum, Severity.toDatum]

theorem ofDatum?_without (dialect : Dialect) (c : CustomRule)
    (hgone : ∀ name, gone [.member name] = true → optional [.member name] = true) :
    ofDatum? dialect (c.toDatum.without gone) = some (c.defaulting gone) := by
  have hleft : ∀ name, optional [.member name] = false → gone [.member name] = false := by
    intro name h
    exact Bool.eq_false_iff.mpr fun hg => Bool.eq_false_iff.mp h (hgone name hg)
  simp only [ofDatum?, Option.bind_eq_bind, Option.bind_eq_some_iff]
  refine ⟨_, Record.of?_without rfl (by decide),
    c.catalog, Record.required?_without rfl (hleft _ (by decide)) ?_,
    c.name, Record.required?_without rfl (hleft _ (by decide)) rfl,
    c.regex, Record.required?_without rfl (hleft _ (by decide)) rfl,
    _, Record.default?_without rfl _ fun _ => ?_, _, Record.default?_without rfl _ fun _ => ?_, rfl⟩
  · exact Catalog.ofDatum?_toDatum dialect c.catalog
  · exact Severity.ofDatum?_toDatum dialect c.severity
  · cases c.description <;> rfl

end CustomRule

namespace Settings

structure Fits (s : Settings) : Prop where
  policy : s.policy.Distinct
  limits : s.limits.Fits

/-- Settings as data, with the keys of their policy in any order. -/
inductive Written (s : Settings) : Datum → Prop
  | mk {policy : Datum} (hp : s.policy.Written policy) :
      Written s (.record [("policy", policy), ("limits", s.limits.toDatum),
        ("rules", .list (s.rules.map CustomRule.toDatum))])

variable {s : Settings} {d : Datum}

theorem written_toDatum (s : Settings) : s.Written s.toDatum :=
  .mk s.policy.written_toDatum

theorem isJson_of_written (h : s.Written d) : d.IsJson := by
  obtain ⟨hp⟩ := h
  simp only [Datum.isJson_record, Datum.isJson_list, List.forall_mem_cons, List.forall_mem_map,
    Policy.isJson_of_written hp, Limits.isJson_toDatum, CustomRule.isJson_toDatum, implies_true,
    List.not_mem_nil, false_implies, and_true]

def optional : Parts
  | [.member name] => ["policy", "limits", "rules"].contains name
  | .member "policy" :: path => Policy.optional path
  | .member "limits" :: path => Limits.optional path
  | .member "rules" :: .item _ :: path => CustomRule.optional path
  | _ => false

def defaulting (gone : Parts) (s : Settings) : Settings where
  policy :=
    if gone [.member "policy"] then {} else s.policy.defaulting (gone.below (.member "policy"))
  limits :=
    if gone [.member "limits"] then {} else s.limits.defaulting (gone.below (.member "limits"))
  rules :=
    if gone [.member "rules"] then []
    else s.rules.zipIdx.map fun p =>
      p.1.defaulting ((gone.below (.member "rules")).below (.item p.2))

theorem defaulting_eq_self (h : ∀ path, gone path = false) (s : Settings) :
    s.defaulting gone = s := by
  have hrule : ∀ p : CustomRule × Nat,
      p.1.defaulting ((gone.below (.member "rules")).below (.item p.2)) = p.1 := by
    intro p
    simp [CustomRule.defaulting, Parts.below, h]
  simp [defaulting, Policy.defaulting, Limits.defaulting, Parts.below_eq_false h, h, hrule,
    List.zipIdx_map_fst]

theorem listOf?_rules (dialect : Dialect) (rules : List CustomRule)
    (hgone : ∀ i path, gone (.item i :: path) = true → CustomRule.optional path = true) :
    ((Datum.list (rules.map CustomRule.toDatum)).without gone).listOf?
      (CustomRule.ofDatum? dialect) =
        some (rules.zipIdx.map fun p => p.1.defaulting (gone.below (.item p.2))) := by
  rw [Datum.without, Datum.listOf?, Datum.itemsWithout_eq, List.zipIdx_map, List.map_map]
  refine Datum.mapM_map_eq_some fun p _ => ?_
  exact p.1.ofDatum?_without dialect fun name h => hgone p.2 _ h

theorem ofDatum?_without (dialect : Dialect) (hs : s.Fits) (hd : s.Written d)
    (hgone : ∀ path, gone path = true → optional path = true) :
    ∃ t, ofDatum? dialect (d.without gone) = some t ∧ t.Same (s.defaulting gone) := by
  obtain ⟨hp⟩ := hd
  have hpolicy : ∀ step path, gone.below (.member "policy") (step :: path) = true →
      Policy.optional (step :: path) = true :=
    fun step path h => hgone (.member "policy" :: step :: path) h
  obtain ⟨policy, hread, hsame⟩ := Policy.ofDatum?_without dialect hs.policy hp hpolicy
  refine ⟨⟨if gone [.member "policy"] then {} else policy,
    if gone [.member "limits"] then {} else s.limits.defaulting (gone.below (.member "limits")),
    if gone [.member "rules"] then []
    else s.rules.zipIdx.map fun p =>
      p.1.defaulting ((gone.below (.member "rules")).below (.item p.2))⟩, ?_, ?_, rfl, rfl⟩
  · simp only [ofDatum?, Option.bind_eq_bind, Option.bind_eq_some_iff]
    refine ⟨_, Record.of?_without rfl (by decide), _, Record.default?_without rfl _ fun _ => hread,
      _, Record.default?_without rfl _ fun _ => Limits.ofDatum?_without dialect hs.limits,
      _, Record.default?_without rfl _ fun _ => listOf?_rules dialect s.rules ?_, rfl⟩
    exact fun i path h => hgone (.member "rules" :: .item i :: path) h
  · by_cases h : gone [.member "policy"] = true
    · rw [defaulting, if_pos h, if_pos h]
      exact ⟨rfl, .refl _, .refl _⟩
    · rw [defaulting, if_neg h, if_neg h]
      exact hsame

/-- Settings are read back from their JSON text, in whatever order it lists the keys of the policy.
From a text that leaves out optional fields, at whatever levels, they are read with the defaults of
just these fields. -/
theorem left_out_means_default (hs : s.Fits) : s.Written s.toDatum ∧
    ∀ d, s.Written d → ∀ layout,
      (∃ t, (Json.read? (Json.write layout [] d)).bind (ofDatum? .json) = some t ∧ t.Same s) ∧
      ∀ gone : Parts, (∀ path, gone path = true → optional path = true) →
        ∃ t, (Json.read? (Json.write layout [] (d.without gone))).bind (ofDatum? .json) = some t ∧
          t.Same (s.defaulting gone) := by
  have hleft : ∀ d, s.Written d → ∀ layout, ∀ gone : Parts,
      (∀ path, gone path = true → optional path = true) →
      ∃ t, (Json.read? (Json.write layout [] (d.without gone))).bind (ofDatum? .json) = some t ∧
        t.Same (s.defaulting gone) := by
    intro d hd layout gone hgone
    rw [Json.read?_write ((isJson_of_written hd).without gone)]
    exact ofDatum?_without .json hs hd hgone
  refine ⟨s.written_toDatum, fun d hd layout => ⟨?_, hleft d hd layout⟩⟩
  obtain ⟨t, ht, hsame⟩ := hleft d hd layout (fun _ => false) fun _ h => nomatch h
  rw [Datum.without_eq_self fun _ => rfl] at ht
  rw [defaulting_eq_self fun _ => rfl] at hsame
  exact ⟨t, ht, hsame⟩

theorem left_out_of_two_rules :
    let s : Settings := {
      policy := ⟨.low, ["sensitive/\"", "\\"], [("xss", .info), ("", .medium)]⟩
      limits := ⟨some 0, some (UInt64.size - 1)⟩
      rules := [⟨.sensitive, "é\n😀", "[\x00]", .critical, some "\t"⟩,
        ⟨.vulnerability, "xss", "", .info, some "\\u0041"⟩] }
    let gone : Parts := fun path => path ∈ [[.member "limits"],
      [.member "policy", .member "overrides"], [.member "rules", .item 0, .member "description"],
      [.member "rules", .item 1, .member "severity"]]
    s.Fits ∧ (∀ path, gone path = true → optional path = true) ∧
    ∃ t, (Json.read? (Json.write .compact [] (s.toDatum.without gone))).bind (ofDatum? .json) =
        some t ∧
      t.Same {
        policy := ⟨.low, ["sensitive/\"", "\\"], []⟩
        limits := {}
        rules := [⟨.sensitive, "é\n😀", "[\x00]", .critical, none⟩,
          ⟨.vulnerability, "xss", "", .high, some "\\u0041"⟩] } := by
  intro s gone
  have hs : s.Fits := ⟨⟨by decide, by decide⟩, ⟨by decide, by decide⟩⟩
  have hgone : ∀ path, gone path = true → optional path = true := by
    intro path h
    have hall : ∀ path ∈ [[Datum.Step.member "limits"],
        [.member "policy", .member "overrides"], [.member "rules", .item 0, .member "description"],
        [.member "rules", .item 1, .member "severity"]], optional path = true := by decide
    exact hall path (of_decide_eq_true h)
  exact ⟨hs, hgone, ((left_out_means_default hs).2 _ s.written_toDatum .compact).2 gone hgone⟩

end Settings

end Linewatch
