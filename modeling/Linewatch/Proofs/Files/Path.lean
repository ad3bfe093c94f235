import Mathlib.Data.List.Lex
import Mathlib.Data.String.Basic
import Linewatch.Files.Path
import Linewatch.Proofs.Text.Span

namespace Linewatch

namespace Path

theorem nameMayPrecede_iff {s t : List Char} : nameMayPrecede s t = true ↔ ¬ t < s := by
  induction s generalizing t with
  | nil => simp [nameMayPrecede]
  | cons c s ih =>
    cases t with
    | nil => simp [nameMayPrecede]
    | cons d t =>
      rw [List.cons_lt_cons_iff, nameMayPrecede, Bool.or_eq_true, Bool.and_eq_true,
        decide_eq_true_eq, beq_iff_eq, ih]
      rcases lt_trichotomy c d with h | rfl | h
      · simp [h, h.not_gt, h.ne']
      · simp
      · simp [h, h.not_gt, h.ne']

theorem mayPrecede_iff {p q : Path} : mayPrecede p q = true ↔ ¬ q < p := by
  induction p generalizing q with
  | nil => simp [mayPrecede]
  | cons a p ih =>
    cases q with
    | nil => simp [mayPrecede]
    | cons b q =>
      rw [List.cons_lt_cons_iff, mayPrecede]
      by_cases h : a = b
      · rw [if_pos h, ih, h]
        simp
      · rw [if_neg h, nameMayPrecede_iff, ← String.lt_iff_toList_lt]
        simp [Ne.symm h]

theorem mayPrecede_trans (p q r : Path) (hpq : mayPrecede p q = true)
    (hqr : mayPrecede q r = true) : mayPrecede p r = true := by
  rw [mayPrecede_iff] at *
  exact not_lt.mpr (le_trans (not_lt.mp hpq) (not_lt.mp hqr))

theorem mayPrecede_total (p q : Path) : (mayPrecede p q || mayPrecede q p) = true := by
  rw [Bool.or_eq_true, mayPrecede_iff, mayPrecede_iff]
  exact (le_total p q).imp not_lt.mpr not_lt.mpr

theorem eq_of_mayPrecede {p q : Path} (hpq : mayPrecede p q = true)
    (hqp : mayPrecede q p = true) : p = q := by
  rw [mayPrecede_iff] at *
  exact le_antisymm (not_lt.mp hpq) (not_lt.mp hqp)

theorem lt_of_mayPrecede {p q : Path} (h : mayPrecede p q = true) (hne : p ≠ q) : p < q :=
  lt_of_le_of_ne (not_lt.mp (mayPrecede_iff.mp h)) hne

end Path

/-- Whether a name is that of a file to be scanned: something, a dot, and one of two suffixes in
whatever case. -/
def IsScannedName (name : String) : Prop :=
  ∃ stem suffix, stem ≠ [] ∧ name.toList = stem ++ '.' :: suffix ∧
    (suffix.map Char.toLower = ['j', 's'] ∨ suffix.map Char.toLower = ['t', 'x', 't'])

theorem suffix?_eq_some_iff {name suffix : String} : suffix? name = some suffix ↔
    ∃ stem, stem ≠ [] ∧ '.' ∉ suffix.toList ∧ name.toList = stem ++ '.' :: suffix.toList := by
  constructor
  · intro h
    by_cases hdot : '.' ∈ name.toList.reverse
    · obtain ⟨l, m, hn, hl⟩ := List.eq_append_cons_of_mem hdot
      rw [suffix?, hn, Text.span_append_cons hl] at h
      cases m with
      | nil => cases h
      | cons d m =>
        obtain rfl := Option.some.inj h
        refine ⟨(d :: m).reverse, by simp, by simpa using hl, ?_⟩
        rw [← List.reverse_reverse name.toList, hn]
        simp
    · rw [suffix?, Text.span_of_notMem hdot] at h
      cases h
  · rintro ⟨stem, hs, hdot, hn⟩
    have hrev : name.toList.reverse = suffix.toList.reverse ++ '.' :: stem.reverse := by
      rw [hn]
      simp
    rw [suffix?, hrev, Text.span_append_cons (by simpa using hdot)]
    cases hm : stem.reverse with
    | nil => exact absurd (List.reverse_eq_nil_iff.mp hm) hs
    | cons d m => simp

theorem hasScannedSuffix_iff {name : String} : hasScannedSuffix name = true ↔ IsScannedName name := by
  have hlower : ∀ suffix : List Char, Text.lower (String.ofList suffix) ∈ ["js", "txt"] ↔
      suffix.map Char.toLower = ['j', 's'] ∨ suffix.map Char.toLower = ['t', 'x', 't'] := by
    intro suffix
    rw [Text.lower, String.toList_ofList]
    simp [← String.toList_inj]
  constructor
  · intro h
    cases hs : suffix? name with
    | none => simp [hasScannedSuffix, hs] at h
    | some suffix =>
      obtain ⟨stem, hne, -, hn⟩ := suffix?_eq_some_iff.mp hs
      refine ⟨stem, suffix.toList, hne, hn, (hlower suffix.toList).mp ?_⟩
      simpa [hasScannedSuffix, hs] using h
  · rintro ⟨stem, suffix, hne, hn, hl⟩
    have hdot : '.' ∉ suffix := by
      intro hm
      have hd : '.' ∈ suffix.map Char.toLower := List.mem_map.mpr ⟨'.', hm, by decide⟩
      rcases hl with hl | hl <;> simp [hl] at hd
    have hs : suffix? name = some (String.ofList suffix) :=
      suffix?_eq_some_iff.mpr ⟨stem, hne, by simpa using hdot, by simpa using hn⟩
    simpa [hasScannedSuffix, hs] using (hlower suffix).mpr hl

end Linewatch
