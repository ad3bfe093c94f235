import Linewatch.Proofs.Policy
import Linewatch.Proofs.Settings.Rules
import Linewatch.Proofs.Settings.Starter

namespace Linewatch

namespace Policy

variable {key spelling rest : String}

theorem checkIgnored_of_bare (h : '/' ∉ key.toList) : checkIgnored key = .ok () := by
  rw [checkIgnored, Reference.ofKey_bare h]
  rfl

theorem checkIgnored_qualified (h : '/' ∉ spelling.toList) :
    checkIgnored (spelling ++ "/" ++ rest) = match Catalog.ofSpelling? spelling with
      | some _ => .ok ()
      | none => .error (.unknownCatalog spelling (spelling ++ "/" ++ rest)) := by
  rw [checkIgnored, Reference.ofKey_qualified h]
  cases Catalog.ofSpelling? spelling <;> rfl

end Policy

theorem Registry.Holds.exists_rule {r : Registry} {l : List Signature} {s : Signature}
    (h : r.Holds l) (hs : s ∈ l) : ∃ rule ∈ r.rulesFor s.catalog, rule.name = s.name := by
  have hm : s ∈ l.filter (·.catalog = s.catalog) := List.mem_filter.mpr ⟨hs, decide_eq_true rfl⟩
  rw [← h] at hm
  obtain ⟨rule, hr, he⟩ := List.mem_map.mp hm
  exact ⟨rule, hr, congrArg Signature.name he⟩

namespace Settings

variable {s : Settings} {text : List Char} {content : Option (List UInt8)}

theorem ofToml_eq_ok_iff : ofToml text = .ok s ↔
    (Toml.read? text).bind (ofDatum? .toml) = some s ∧ s.policy.validate = .ok () := by
  rw [ofToml]
  cases (Toml.read? text).bind (ofDatum? .toml) with
  | none => simp
  | some t =>
    rw [Option.some.injEq]
    constructor
    · intro h
      cases hv : t.policy.validate with
      | error fault => simp [hv] at h
      | ok =>
        obtain rfl : t = s := by simpa [hv] using h
        exact ⟨rfl, hv⟩
    · rintro ⟨rfl, hv⟩
      simp [hv]

theorem validate_of_load (h : load content = .ok s) : s.policy.validate = .ok () := by
  cases content with
  | none =>
    obtain rfl := Except.ok.inj h
    rfl
  | some bytes =>
    rw [load] at h
    cases hd : Utf8.decode? bytes with
    | none => simp [hd] at h
    | some text =>
      rw [hd] at h
      exact (ofToml_eq_ok_iff.mp h).2

/-- A name that holds no slash may be ignored, and with it go the findings of all rules of that name
and no others. What stands before the first slash of any other name has to spell a catalog, and the
findings that go are those of that catalog whose rule is named by what stands after it. -/
theorem ignored_by_name (h : load content = .ok s) (name : String) (l : List Finding) :
    ('/' ∉ name.toList →
      (s.policy.ignore name).validate = .ok () ∧
      (s.policy.ignore name).apply l = (s.policy.apply l).filter fun f => ¬ f.rule = name) ∧
    ∀ spelling rest : String, name = spelling ++ "/" ++ rest → '/' ∉ spelling.toList →
      (∀ c, Catalog.ofSpelling? spelling = some c →
        (s.policy.ignore name).validate = .ok () ∧
        (s.policy.ignore name).apply l =
          (s.policy.apply l).filter fun f => ¬ (f.catalog = c ∧ f.rule = rest)) ∧
      (Catalog.ofSpelling? spelling = none →
        (s.policy.ignore name).validate = .error (.unknownCatalog spelling name) ∧
        (s.policy.ignore name).apply l = s.policy.apply l) := by
  rw [Policy.validate_ignore_eq (validate_of_load h)]
  constructor
  · intro hn
    exact ⟨Policy.checkIgnored_of_bare hn,
      Policy.filter_apply_ignore (fun f => Policy.keySelects_of_bare hn) s.policy l⟩
  · rintro spelling rest rfl hs
    rw [Policy.checkIgnored_qualified hs]
    constructor
    · intro c hc
      have hselects : ∀ f, Policy.keySelects f (spelling ++ "/" ++ rest) = true ↔
          f.catalog = c ∧ f.rule = rest := by
        intro f
        rw [Policy.keySelects_qualified hs, hc, Option.some.injEq, eq_comm (a := c)]
      rw [hc]
      exact ⟨rfl, Policy.filter_apply_ignore hselects s.policy l⟩
    · intro hc
      have hselects : ∀ f, Policy.keySelects f (spelling ++ "/" ++ rest) = true ↔ False := by
        intro f
        rw [Policy.keySelects_qualified hs, hc]
        simp
      rw [hc, Policy.filter_apply_ignore hselects s.policy l]
      exact ⟨rfl, by simp⟩

theorem load_encode_of {text : String} (h : (ofToml text.toList).toOption = some s) :
    load (some (Utf8.encode text)) = .ok s :=
  (load_encode text).trans (ofToml_of_toOption h)

theorem ignored_in_both_catalogs : ∃ s registry,
    load (some (Utf8.encode "[[rules]]\ncatalog = \"sensitive\"\nname = \"eval\"\npattern = 'e'")) =
      .ok s ∧
    s.registry = .ok registry ∧ (∀ c, ∃ rule ∈ registry.rulesFor c, rule.name = "eval") ∧
    (s.policy.ignore "eval").validate = .ok () ∧
    (s.policy.ignore "eval").apply
      [⟨.vulnerability, "eval", .critical, "", 1, "", ""⟩,
        ⟨.sensitive, "eval", .critical, "", 1, "", ""⟩,
        ⟨.sensitive, "vulnerability/eval", .critical, "", 2, "", ""⟩] =
      [⟨.sensitive, "vulnerability/eval", .critical, "", 2, "", ""⟩] := by
  have hload : load (some (Utf8.encode
      "[[rules]]\ncatalog = \"sensitive\"\nname = \"eval\"\npattern = 'e'")) =
      .ok { rules := [⟨.sensitive, "eval", "e", .high, none⟩] } :=
    load_encode_of (by decide +kernel)
  obtain ⟨registry, hr⟩ := (exists_registry_iff (s :=
      { rules := [⟨.sensitive, "eval", "e", .high, none⟩] })).mpr
    ⟨by decide +kernel, fun c => by cases c <;> decide⟩
  obtain ⟨hvalid, happly⟩ := (ignored_by_name hload "eval" _).1 (by decide)
  refine ⟨_, registry, hload, hr, ?_, hvalid, happly.trans (by decide)⟩
  intro c
  cases c with
  | vulnerability =>
    exact (holds_of_registry hr).exists_rule (s := .evaluation) (by simp [signatures, Signature.all])
  | sensitive =>
    exact (holds_of_registry hr).exists_rule
      (s := (⟨.sensitive, "eval", "e", .high, none⟩ : CustomRule).signature) (by simp [signatures])

def slashedRules : List CustomRule :=
  [⟨.vulnerability, "a/b", "x", .high, none⟩, ⟨.vulnerability, "secret/jwt", "y", .high, none⟩]

def slashedText : String :=
  "[[rules]]\ncatalog = \"vulnerability\"\nname = \"a/b\"\npattern = 'x'\n" ++
    "[[rules]]\ncatalog = \"vulnerability\"\nname = \"secret/jwt\"\npattern = 'y'\n"

/-- A rule whose name holds a slash is not referred to by it: either nothing is, or another rule. -/
theorem slashed_names_mislead : ∃ s registry,
    load (some (Utf8.encode slashedText)) = .ok s ∧ s.registry = .ok registry ∧
    (∃ rule ∈ registry.rulesFor .vulnerability, rule.name = "a/b") ∧
    (s.policy.ignore "a/b").validate = .error (.unknownCatalog "a" "a/b") ∧
    (∃ rule ∈ registry.rulesFor .vulnerability, rule.name = "secret/jwt") ∧
    (s.policy.ignore "secret/jwt").validate = .ok () ∧
    (s.policy.ignore "secret/jwt").apply
      [⟨.vulnerability, "secret/jwt", .high, "", 1, "", ""⟩,
        ⟨.sensitive, "jwt", .critical, "", 2, "", ""⟩] =
      [⟨.vulnerability, "secret/jwt", .high, "", 1, "", ""⟩] := by
  have hload : load (some (Utf8.encode slashedText)) = .ok { rules := slashedRules } :=
    load_encode_of (by decide +kernel)
  obtain ⟨registry, hr⟩ := (exists_registry_iff (s := { rules := slashedRules })).mpr
    ⟨by decide +kernel, fun c => by cases c <;> decide⟩
  have hrule : ∀ a ∈ slashedRules, ∃ rule ∈ registry.rulesFor a.catalog, rule.name = a.name :=
    fun a ha => (holds_of_registry hr).exists_rule (s := a.signature)
      (List.mem_append_right _ (List.mem_map_of_mem ha))
  refine ⟨_, registry, hload, hr, ?_, rfl, ?_, rfl, by decide⟩
  · exact hrule ⟨.vulnerability, "a/b", "x", .high, none⟩ (by simp [slashedRules])
  · exact hrule ⟨.vulnerability, "secret/jwt", "y", .high, none⟩ (by simp [slashedRules])

end Settings

end Linewatch
