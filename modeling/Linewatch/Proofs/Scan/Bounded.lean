import Linewatch.Scan
import Linewatch.Proofs.Text.Utf8

namespace Linewatch

namespace Limits

def overrun? (l : Limits) (clock : Clock) (count : Nat) : Option Overrun :=
  (l.excess? count).or ((List.range' 1 count).findSome? (l.lateness? clock))

variable {l : Limits} {clock : Clock} {count line : Nat} {o : Overrun}

theorem excess?_eq_some_iff : l.excess? count = some o ↔
    ∃ limit, l.maxLines = some limit ∧ limit < count ∧ o = .tooManyLines count limit := by
  simp only [excess?, Option.bind_eq_some_iff, Option.ite_none_right_eq_some, Option.some.injEq,
    eq_comm (a := o)]

theorem excess?_eq_none_iff : l.excess? count = none ↔ ∀ limit ∈ l.maxLines, count ≤ limit := by
  simp only [excess?, Option.bind_eq_none_iff, ite_eq_right_iff, reduceCtorEq, imp_false, Nat.not_lt,
    Option.mem_def]

theorem lateness?_eq_none_iff :
    l.lateness? clock line = none ↔ ∀ t ∈ l.timeout, clock line < t := by
  simp only [lateness?, Option.bind_eq_none_iff, ite_eq_right_iff, reduceCtorEq, imp_false,
    Nat.not_le, Option.mem_def]

theorem lateness?_of_zero (h : l.timeout = some 0) :
    l.lateness? clock line = some (.tooLate 0 line) := by
  rw [lateness?, h, Option.bind_some, if_pos (Nat.zero_le _)]

/-- A scan that comes to every line in time is held to the ceiling on lines only. -/
theorem overrun?_of_in_time (h : ∀ t ∈ l.timeout, ∀ line, clock line < t) :
    l.overrun? clock count = l.excess? count := by
  have hn : (List.range' 1 count).findSome? (l.lateness? clock) = none := by
    rw [List.findSome?_eq_none_iff]
    exact fun line _ => lateness?_eq_none_iff.mpr fun t ht => h t ht line
  rw [overrun?, hn, Option.or_none]

theorem overrun?_of_excess (h : l.excess? count = some o) : l.overrun? clock count = some o := by
  rw [overrun?, h, Option.some_or]

theorem excess?_or_late_of_overrun? (h : l.overrun? clock count = some o) :
    l.excess? count = some o ∨ ∃ timeout line, o = .tooLate timeout line := by
  obtain h | ⟨-, h⟩ := Option.or_eq_some_iff.mp h
  · exact .inl h
  · obtain ⟨line, -, hl⟩ := List.exists_of_findSome?_eq_some h
    obtain ⟨timeout, -, ht⟩ := Option.bind_eq_some_iff.mp hl
    exact .inr ⟨timeout, line, (Option.some.inj (Option.ite_none_right_eq_some.mp ht).2).symm⟩

theorem overrun?_of_no_timeout (h : l.timeout = none) :
    l.overrun? clock count = l.excess? count := by
  apply overrun?_of_in_time
  simp [h]

theorem overrun?_of_zero (h : l.timeout = some 0) :
    l.overrun? clock count =
      (l.excess? count).or (if count = 0 then none else some (.tooLate 0 1)) := by
  cases count with
  | zero => rfl
  | succ n => rw [overrun?, List.range'_succ, List.findSome?_cons, lateness?_of_zero h]; rfl

end Limits

namespace Registry

variable (r : Registry) (l : Limits) (clock : Clock)

theorem hitsInTime_eq (found : Array Hit) (numbered : List (List Char × Nat)) :
    r.hitsInTime l clock found numbered =
      match numbered.findSome? fun p => l.lateness? clock p.2 with
      | some o => .error o
      | none => .ok (found ++ numbered.flatMap fun p => r.hitsOnLine p.1 p.2) := by
  induction numbered generalizing found with
  | nil => simp [hitsInTime]
  | cons p rest ih =>
    rw [hitsInTime, List.findSome?_cons]
    cases hl : l.lateness? clock p.2 with
    | some o => rfl
    | none =>
      rw [ih]
      cases rest.findSome? fun p => l.lateness? clock p.2 with
      | some o => rfl
      | none => exact congrArg Except.ok (Array.ext' (by simp))

theorem boundedHits_eq (text : List Char) :
    r.boundedHits l clock text = match l.overrun? clock (Text.lines text).length with
      | some o => .error (.overrun o)
      | none => .ok (r.hits text) := by
  have hs : ((Text.lines text).zipIdx 1).findSome? (fun p => l.lateness? clock p.2) =
      (List.range' 1 (Text.lines text).length).findSome? (l.lateness? clock) := by
    rw [← List.zipIdx_map_snd, List.findSome?_map]
    rfl
  rw [boundedHits, Limits.overrun?]
  cases l.excess? (Text.lines text).length with
  | some o => rfl
  | none =>
    simp only [hitsInTime_eq, hs, Option.none_or]
    cases (List.range' 1 (Text.lines text).length).findSome? (l.lateness? clock) with
    | some o => rfl
    | none => simp [hits]

theorem boundedHits_eq_error_iff {text : List Char} {fault : Fault} :
    r.boundedHits l clock text = .error fault ↔
      ∃ o, l.overrun? clock (Text.lines text).length = some o ∧ fault = .overrun o := by
  rw [boundedHits_eq]
  cases l.overrun? clock (Text.lines text).length with
  | some o => simp [eq_comm]
  | none => simp

end Registry

def Registry.findings (r : Registry) (bytes : List UInt8) : List Finding :=
  (r.hits (Utf8.decodeLossy bytes)).map (Finding.ofHit r)

namespace Scanner

variable (s : Scanner) (clock : Clock)

theorem scan_eq (text : List Char) :
    s.scan clock text = match s.limits.overrun? clock (Text.lines text).length with
      | some o => .error (.overrun o)
      | none => .ok ((s.registry.hits text).map (Finding.ofHit s.registry)) := by
  rw [scan, Registry.boundedHits_eq]
  cases s.limits.overrun? clock (Text.lines text).length <;> rfl

/-- A scan that comes to its end finds all there is. -/
theorem eq_of_scan_eq_ok {text : List Char} {found : List Finding}
    (h : s.scan clock text = .ok found) :
    found = (s.registry.hits text).map (Finding.ofHit s.registry) := by
  rw [scan_eq] at h
  cases ho : s.limits.overrun? clock (Text.lines text).length with
  | some o => simp only [ho, reduceCtorEq] at h
  | none => simpa only [ho, Except.ok.injEq, eq_comm] using h

theorem scan_of_no_limits (h : s.limits = {}) (text : List Char) :
    s.scan clock text = .ok ((s.registry.hits text).map (Finding.ofHit s.registry)) := by
  rw [scan_eq, Limits.overrun?_of_no_timeout (by rw [h]), h]
  rfl

theorem eq_findings_of_scanBytes {bytes : List UInt8} {found : List Finding}
    (h : s.scanBytes clock bytes = .ok found) : found = s.registry.findings bytes :=
  s.eq_of_scan_eq_ok clock h

theorem scanBytes_of_no_limits (h : s.limits = {}) (bytes : List UInt8) :
    s.scanBytes clock bytes = .ok (s.registry.findings bytes) :=
  s.scan_of_no_limits clock h _

theorem scanBytes_eq_error_iff {s : Scanner} {clock : Clock} {bytes : List UInt8}
    {fault : Fault} : s.scanBytes clock bytes = .error fault ↔
      ∃ o, s.limits.overrun? clock (Text.lines (Utf8.decodeLossy bytes)).length = some o ∧
        fault = .overrun o := by
  rw [scanBytes, scan_eq]
  cases s.limits.overrun? clock (Text.lines (Utf8.decodeLossy bytes)).length with
  | some o => simp [eq_comm]
  | none => simp

theorem scanBytes_eq_ok_iff {s : Scanner} {clock : Clock} {bytes : List UInt8} :
    s.scanBytes clock bytes = .ok (s.registry.findings bytes) ↔
      s.limits.overrun? clock (Text.lines (Utf8.decodeLossy bytes)).length = none := by
  rw [scanBytes, scan_eq]
  cases s.limits.overrun? clock (Text.lines (Utf8.decodeLossy bytes)).length with
  | some o => simp
  | none => simp [Registry.findings]

theorem scan_builtin (text : List Char) : builtin.scan clock text = .ok (scanText text) := by
  rw [scan_of_no_limits builtin clock rfl, scanText, builtin]

end Scanner

/-- A ceiling never shortens what is found: a scan finds all there is, or it fails and tells which
ceiling it has reached. -/
theorem scans_agree (r : Registry) (l : Limits) (clock : Clock) (text : List Char) :
    (r.boundedHits l clock text = .ok (r.hits text) ∨
      ∃ o, r.boundedHits l clock text = .error (.overrun o)) ∧
    (∀ fault, r.boundedHits { l with timeout := none } clock text = .error fault ↔
      ∃ limit, l.maxLines = some limit ∧ limit < (Text.lines text).length ∧
        fault = .overrun (.tooManyLines (Text.lines text).length limit)) ∧
    (∀ fault, r.boundedHits { l with timeout := some 0 } clock text = .error fault ↔
      (∃ limit, l.maxLines = some limit ∧ limit < (Text.lines text).length ∧
        fault = .overrun (.tooManyLines (Text.lines text).length limit)) ∨
      (∀ limit ∈ l.maxLines, (Text.lines text).length ≤ limit) ∧
        1 ≤ (Text.lines text).length ∧ fault = .overrun (.tooLate 0 1)) ∧
    ∀ t : String, Scanner.builtin.scan clock t.toList = .ok (scanText t.toList) ∧
      Scanner.builtin.scanBytes clock (Utf8.encode t) = .ok (scanText t.toList) := by
  refine ⟨?_, ?_, ?_, ?_⟩
  · rw [Registry.boundedHits_eq]
    cases l.overrun? clock (Text.lines text).length with
    | some o => exact .inr ⟨o, rfl⟩
    | none => exact .inl rfl
  · intro fault
    rw [Registry.boundedHits_eq_error_iff, Limits.overrun?_of_no_timeout rfl]
    simp only [Limits.excess?_eq_some_iff]
    constructor
    · rintro ⟨o, ⟨limit, hl, hlt, rfl⟩, rfl⟩
      exact ⟨limit, hl, hlt, rfl⟩
    · rintro ⟨limit, hl, hlt, rfl⟩
      exact ⟨_, ⟨limit, hl, hlt, rfl⟩, rfl⟩
  · intro fault
    rw [Registry.boundedHits_eq_error_iff, Limits.overrun?_of_zero rfl]
    simp only [Option.or_eq_some_iff, Limits.excess?_eq_some_iff, Limits.excess?_eq_none_iff,
      Option.ite_none_left_eq_some, Option.some.injEq]
    constructor
    · rintro ⟨o, ⟨limit, hl, hlt, rfl⟩ | ⟨hn, hc, rfl⟩, rfl⟩
      · exact .inl ⟨limit, hl, hlt, rfl⟩
      · exact .inr ⟨hn, Nat.one_le_iff_ne_zero.mpr hc, rfl⟩
    · rintro (⟨limit, hl, hlt, rfl⟩ | ⟨hn, hc, rfl⟩)
      · exact ⟨_, .inl ⟨limit, hl, hlt, rfl⟩, rfl⟩
      · exact ⟨_, .inr ⟨hn, Nat.one_le_iff_ne_zero.mp hc, rfl⟩, rfl⟩
  · intro t
    rw [Scanner.scanBytes, Utf8.decodeLossy_encode]
    exact ⟨Scanner.scan_builtin clock _, Scanner.scan_builtin clock _⟩

end Linewatch
