import Linewatch.Proofs.Policy.Order
import Linewatch.Proofs.Settings.Names
import Linewatch.Proofs.Text.Lower

namespace Linewatch

namespace Catalog

def spellings : Catalog → List String
  | vulnerability => ["vulnerability", "vuln"]
  | sensitive => ["sensitive", "secret", "sensitive-data"]

def Spells (c : Catalog) (s : String) : Prop :=
  ∃ name ∈ c.spellings, List.Forall₂ (fun a b => a = b ∨ a = b.toUpper) s.toList name.toList

theorem toLower_eq_of_mem_spellings (c : Catalog) :
    ∀ name ∈ c.spellings, ∀ b ∈ name.toList, b.toLower = b := by
  cases c <;> simp [spellings]

theorem ofSpelling?_eq_some_iff_mem {c : Catalog} {s : String} :
    ofSpelling? s = some c ↔ Text.lower s ∈ c.spellings := by
  rw [ofSpelling?]
  split <;> cases c <;> simp_all [spellings]

theorem ofSpelling?_eq_some_iff {c : Catalog} {s : String} :
    ofSpelling? s = some c ↔ c.Spells s := by
  have hname : ∀ name ∈ c.spellings, Text.lower s = name ↔
      List.Forall₂ (fun a b => a = b ∨ a = b.toUpper) s.toList name.toList := by
    intro name hn
    rw [← Text.map_toLower_eq_iff (c.toLower_eq_of_mem_spellings name hn), Text.lower,
      ← String.toList_inj, String.toList_ofList]
  rw [ofSpelling?_eq_some_iff_mem, Spells]
  constructor
  · exact fun h => ⟨_, h, (hname _ h).mp rfl⟩
  · rintro ⟨name, hn, h⟩
    rwa [(hname name hn).mpr h]

end Catalog

namespace Reference

variable {key : String} {cs : List Catalog}

def front (key : String) : String := .ofList (key.toList.takeWhile (· != '/'))

/-- Whether a key is a bare name, or spells one of the given catalogs before its first slash. -/
def RefersTo (cs : List Catalog) (key : String) : Prop :=
  '/' ∉ key.toList ∨ ∃ c ∈ cs, c.Spells (front key)

theorem front_qualified {spelling : String} (h : '/' ∉ spelling.toList) (name : String) :
    front (spelling ++ "/" ++ name) = spelling := by
  have hall : ∀ c ∈ spelling.toList, (c != '/') = true :=
    fun c hc => bne_iff_ne.mpr (ne_of_mem_of_not_mem hc h)
  rw [front, toList_qualified, List.takeWhile_append_of_pos hall,
    List.takeWhile_cons_of_neg (by simp), List.append_nil, String.ofList_toList]

theorem refersTo_iff_ofKey :
    RefersTo cs key ↔ ∃ r, ofKey key = .ok r ∧ ∀ c, r.catalog = some c → c ∈ cs := by
  by_cases hk : '/' ∈ key.toList
  · obtain ⟨spelling, name, hs, rfl⟩ := exists_eq_qualified hk
    have hrefers : RefersTo cs (spelling ++ "/" ++ name) ↔
        ∃ c ∈ cs, Catalog.ofSpelling? spelling = some c := by
      simp only [RefersTo, hk, not_true, false_or, front_qualified hs,
        Catalog.ofSpelling?_eq_some_iff]
    rw [hrefers, ofKey_qualified hs]
    cases Catalog.ofSpelling? spelling with
    | none => simp
    | some c => simp
  · simp [RefersTo, hk, ofKey_bare hk]

theorem RefersTo.exists_denotes (h : RefersTo cs key) : ∃ c name, Denotes key c name := by
  obtain ⟨⟨catalog, name⟩, hr, -⟩ := refersTo_iff_ofKey.mp h
  cases catalog with
  | some c => exact ⟨c, name, (qualifies_iff_ofKey.mpr hr).2⟩
  | none =>
    refine ⟨.vulnerability, key, .bare (fun hk => ?_) _⟩
    obtain ⟨spelling, rest, hs, rfl⟩ := exists_eq_qualified hk
    rw [ofKey_qualified hs] at hr
    cases hc : Catalog.ofSpelling? spelling <;> simp [hc] at hr

theorem RefersTo.mem_of_qualifies {c : Catalog} {name : String} (h : RefersTo cs key)
    (hq : Qualifies key c name) : c ∈ cs := by
  obtain ⟨r, hr, hall⟩ := refersTo_iff_ofKey.mp h
  rw [qualifies_iff_ofKey.mp hq] at hr
  obtain rfl := Except.ok.inj hr
  exact hall c rfl

end Reference

namespace Policy

variable {p q : Policy} {key : String}

/-- Whether the references of a policy are such as it may have: those to ignored rules with any
catalog, and those to rules of another severity with none but that of vulnerabilities. -/
structure Refers (p : Policy) : Prop where
  ignored : ∀ key ∈ p.ignoreRules, Reference.RefersTo Catalog.all key
  overridden : ∀ o ∈ p.overrides, Reference.RefersTo [.vulnerability] o.1

theorem checkIgnored_eq_ok_iff :
    checkIgnored key = .ok () ↔ Reference.RefersTo Catalog.all key := by
  have hall : ∀ c, c ∈ Catalog.all := by
    intro c
    cases c <;> decide
  rw [Reference.refersTo_iff_ofKey, checkIgnored]
  cases Reference.ofKey key with
  | error fault => simp [Except.map]
  | ok r => simp [Except.map, hall]

theorem checkOverride_eq_ok_iff :
    checkOverride key = .ok () ↔ Reference.RefersTo [.vulnerability] key := by
  rw [Reference.refersTo_iff_ofKey, checkOverride]
  cases Reference.ofKey key with
  | error fault => simp
  | ok r =>
    obtain ⟨catalog, name⟩ := r
    match catalog with
    | none => simp
    | some .vulnerability => simp
    | some .sensitive => simp

theorem validate_eq_ok_iff_refers : p.validate = .ok () ↔ p.Refers := by
  rw [validate_eq_ok_iff]
  simp only [checkIgnored_eq_ok_iff, checkOverride_eq_ok_iff]
  exact ⟨fun h => ⟨h.1, h.2⟩, fun h => ⟨h.1, h.2⟩⟩

theorem apply_congr (hi : ∀ key, key ∈ p.ignoreRules ↔ key ∈ q.ignoreRules)
    (ho : p.overrides = q.overrides) (l : List Finding) : p.apply l = q.apply l := by
  have hrerated : p.reratedBy = q.reratedBy := by
    funext f
    simp only [reratedBy, overrideFor, ho]
  simp only [apply_eq_map, hrerated, ignores_congr hi]

/-- Each ignored key drops the findings that it denotes from what would be left without it. -/
theorem apply_eq_filter_unignore (h : key ∈ p.ignoreRules) (l : List Finding) :
    p.apply l =
      ((p.unignore key).apply l).filter fun f => ¬ Reference.Denotes key f.catalog f.rule := by
  rw [← filter_apply_ignore fun f => keySelects_iff]
  apply apply_congr
  · intro other
    rw [mem_ignoreRules_ignore, unignore, List.mem_filter, bne_iff_ne]
    by_cases ho : other = key
    · simp [ho, h]
    · simp [ho]
  · rw [overrides_ignore]
    rfl

end Policy

namespace Settings

/-- Whether bytes are a text that describes settings, whatever these refer to. -/
def Describes (bytes : List UInt8) (s : Settings) : Prop :=
  ∃ text, Utf8.decode? bytes = some text ∧ (Toml.read? text).bind (ofDatum? .toml) = some s

variable {bytes : List UInt8} {s : Settings}

theorem load_of_describes (h : Describes bytes s) :
    load (some bytes) = match s.policy.validate with
      | .ok () => .ok s
      | .error fault => .error (.reference fault) := by
  obtain ⟨text, hd, ht⟩ := h
  cases hv : s.policy.validate <;> simp [load, hd, ofToml, ht, hv]

theorem load_eq_ok_iff_of_describes (h : Describes bytes s) :
    load (some bytes) = .ok s ↔ s.policy.Refers := by
  rw [load_of_describes h, ← Policy.validate_eq_ok_iff_refers]
  cases s.policy.validate <;> simp

theorem exists_load_eq_error_iff_of_describes (h : Describes bytes s) :
    (∃ fault, load (some bytes) = .error (.reference fault)) ↔ ¬ s.policy.Refers := by
  rw [load_of_describes h, ← Policy.validate_eq_ok_iff_refers]
  cases s.policy.validate <;> simp

/-- Settings that are loaded refer to rules throughout: each ignored key denotes some and drops
exactly their findings, and no overridden key is one of secrets, whatever its spelling. A text that
describes settings is turned down, with a fault of its references, exactly if they do not. -/
theorem references_live_and_allowed (content : Option (List UInt8)) :
    (∀ s, load content = .ok s → s.policy.Refers ∧
      (∀ key ∈ s.policy.ignoreRules, (∃ c name, Reference.Denotes key c name) ∧
        ∀ l, s.policy.apply l = ((s.policy.unignore key).apply l).filter fun f =>
          ¬ Reference.Denotes key f.catalog f.rule) ∧
      ∀ o ∈ s.policy.overrides, ∀ name, ¬ Reference.Qualifies o.1 .sensitive name) ∧
    ∀ bytes s, content = some bytes → Describes bytes s →
      (load content = .ok s ↔ s.policy.Refers) ∧
      ((∃ fault, load content = .error (.reference fault)) ↔ ¬ s.policy.Refers) := by
  constructor
  · intro s h
    have hrefers := Policy.validate_eq_ok_iff_refers.mp (validate_of_load h)
    refine ⟨hrefers, fun key hk => ⟨?_, Policy.apply_eq_filter_unignore hk⟩, ?_⟩
    · exact (hrefers.ignored key hk).exists_denotes
    · intro o ho name hq
      exact absurd ((hrefers.overridden o ho).mem_of_qualifies hq) (by decide)
  · rintro bytes s rfl h
    exact ⟨load_eq_ok_iff_of_describes h, exists_load_eq_error_iff_of_describes h⟩

theorem references_of_two_files :
    (∃ s, load (some (Utf8.encode
        "[policy]\nignore_rules = [\"SECRET/a/b\"]\n[policy.overrides]\n\"Vuln/eval\" = \"low\"")) =
        .ok s ∧
      s.policy.Refers ∧
      s.policy.apply [⟨.sensitive, "a/b", .critical, "", 1, "", ""⟩,
          ⟨.vulnerability, "a/b", .high, "", 2, "", ""⟩] =
        [⟨.vulnerability, "a/b", .high, "", 2, "", ""⟩]) ∧
    ∃ s fault, Describes (Utf8.encode "[policy.overrides]\n\"Sensitive-Data/jwt\" = \"info\"") s ∧
      load (some (Utf8.encode "[policy.overrides]\n\"Sensitive-Data/jwt\" = \"info\"")) =
        .error (.reference fault) := by
  constructor
  · have hload : load (some (Utf8.encode
        "[policy]\nignore_rules = [\"SECRET/a/b\"]\n[policy.overrides]\n\"Vuln/eval\" = \"low\"")) =
        .ok { policy := { ignoreRules := ["SECRET/a/b"], overrides := [("Vuln/eval", .low)] } } :=
      load_encode_of (by decide +kernel)
    obtain ⟨hrefers, hignored, -⟩ := (references_live_and_allowed _).1 _ hload
    refine ⟨_, hload, hrefers, ?_⟩
    rw [(hignored "SECRET/a/b" (by decide)).2]
    decide
  · have hdescribes : Describes
        (Utf8.encode "[policy.overrides]\n\"Sensitive-Data/jwt\" = \"info\"")
        { policy := { overrides := [("Sensitive-Data/jwt", .info)] } } :=
      ⟨_, Utf8.decode?_encode _, by decide +kernel⟩
    obtain ⟨-, hrejected⟩ := (references_live_and_allowed (some _)).2 _ _ rfl hdescribes
    obtain ⟨fault, hf⟩ := hrejected.mpr (mt Policy.validate_eq_ok_iff_refers.mpr (by decide))
    exact ⟨_, fault, hdescribes, hf⟩

end Settings

end Linewatch
