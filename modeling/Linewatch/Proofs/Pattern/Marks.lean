import Mathlib.Data.Finset.Prod
import Linewatch.Proofs.Pattern.Runs

namespace Linewatch.Program

variable {p : Program} {m : Marks} {n v : Node}

namespace Marks

def Fits (m : Marks) (size : Nat) : Prop := size * m.places ≤ m.bytes.size

theorem contains_eq_true_iff {addr place : Nat} : m.contains addr place = true ↔
    ∃ b, m.bytes.data[m.cell addr place]? = some b ∧ b ≠ 0 := by
  have hget : m.bytes[m.cell addr place]? = m.bytes.data[m.cell addr place]? := rfl
  rw [contains, hget]
  cases m.bytes.data[m.cell addr place]? <;> simp

@[simp] theorem places_insert (m : Marks) (addr place : Nat) :
    (m.insert addr place).places = m.places := rfl

theorem cell_inj (hn : n.2 < m.places) (hv : v.2 < m.places) :
    m.cell n.1 n.2 = m.cell v.1 v.2 ↔ n = v := by
  have hpos : 0 < m.places := by omega
  constructor
  · intro h
    have hdiv := congrArg (· / m.places) h
    have hmod := congrArg (· % m.places) h
    simp only [cell, Nat.mul_comm _ m.places, Nat.mul_add_div hpos, Nat.mul_add_mod,
      Nat.div_eq_of_lt hn, Nat.div_eq_of_lt hv, Nat.mod_eq_of_lt hn, Nat.mod_eq_of_lt hv,
      Nat.add_zero] at hdiv hmod
    exact Prod.ext hdiv hmod
  · rintro rfl
    rfl

theorem contains_insert (hn : n.2 < m.places) (hv : v.2 < m.places) :
    (m.insert n.1 n.2).contains v.1 v.2 = true ↔
      v = n ∧ m.cell n.1 n.2 < m.bytes.size ∨ m.contains v.1 v.2 = true := by
  have hdata : (m.insert n.1 n.2).bytes.data = m.bytes.data.setIfInBounds (m.cell n.1 n.2) 1 := rfl
  have hcell : (m.insert n.1 n.2).cell v.1 v.2 = m.cell v.1 v.2 := rfl
  simp only [contains_eq_true_iff, hdata, hcell, Array.getElem?_setIfInBounds, cell_inj hn hv]
  by_cases h : n = v
  · subst h
    by_cases hlt : m.cell n.1 n.2 < m.bytes.size <;> simp [hlt]
  · simp [h, Ne.symm h]

theorem cell_lt {size : Nat} (hfits : m.Fits size) (h1 : n.1 < size) (h2 : n.2 < m.places) :
    m.cell n.1 n.2 < m.bytes.size :=
  calc n.1 * m.places + n.2
    _ < (n.1 + 1) * m.places := by rw [Nat.succ_mul]; omega
    _ ≤ size * m.places := Nat.mul_le_mul_right _ h1
    _ ≤ m.bytes.size := hfits

theorem fits_insert {size : Nat} (hfits : m.Fits size) : (m.insert n.1 n.2).Fits size := by
  simpa [Fits, insert] using hfits

theorem le_size_zeros {size : Nat} (steps : Nat) {b : ByteArray} (hb : 0 < b.size)
    (h : size ≤ b.size + steps) : size ≤ (zeros size steps b).size := by
  induction steps generalizing b with
  | zero => exact h
  | succ steps ih =>
    rw [zeros]
    split
    · assumption
    · refine ih ?_ ?_ <;> simp only [ByteArray.size_append] <;> omega

theorem fits_none (size places : Nat) : (none size places).Fits size :=
  le_size_zeros _ (by decide) (Nat.le_add_left ..)

theorem eq_zero_of_mem_zeros {size : Nat} (steps : Nat) {b : ByteArray}
    (hb : ∀ x ∈ b.data, x = 0) : ∀ x ∈ (zeros size steps b).data, x = 0 := by
  induction steps generalizing b with
  | zero => exact hb
  | succ steps ih =>
    rw [zeros]
    split
    · exact hb
    · apply ih
      simpa [ByteArray.data_append, or_imp, forall_and] using hb

theorem contains_none (size places addr place : Nat) :
    (none size places).contains addr place = false := by
  refine Bool.eq_false_iff.mpr fun h => ?_
  obtain ⟨b, hb, hne⟩ := contains_eq_true_iff.mp h
  exact hne (eq_zero_of_mem_zeros _ (by simp) b (Array.mem_of_getElem? hb))

end Marks

/-- The nodes that a search is through with: those with a mark, and those beyond the program. -/
def seen (p : Program) (m : Marks) : Set Node :=
  {v | v.2 < m.places ∧ (p.code.size ≤ v.1 ∨ m.contains v.1 v.2 = true)}

def unmarked (p : Program) (m : Marks) : Nat :=
  ((Finset.range p.code.size ×ˢ Finset.range m.places).filter
    fun v => m.contains v.1 v.2 = false).card

theorem mem_seen_iff : v ∈ p.seen m ↔
    v.2 < m.places ∧ (p.code.size ≤ v.1 ∨ m.contains v.1 v.2 = true) :=
  Iff.rfl

theorem seen_insert (hn : n.2 < m.places) (hfits : m.Fits p.code.size) :
    p.seen (m.insert n.1 n.2) = insert n (p.seen m) := by
  ext v
  simp only [mem_seen_iff, Set.mem_insert_iff, Marks.places_insert]
  by_cases hv : v.2 < m.places
  · rw [Marks.contains_insert hn hv]
    by_cases h : v = n
    · subst h
      by_cases hlt : v.1 < p.code.size
      · simp [hv, Marks.cell_lt hfits hlt hv]
      · simp [hv, Nat.le_of_not_lt hlt]
    · simp [hv, h]
  · have h : v ≠ n := by
      rintro rfl
      exact hv hn
    simp [hv, h]

theorem unmarked_insert (hn : n.2 < m.places) (hfits : m.Fits p.code.size) (h1 : n.1 < p.code.size)
    (h : m.contains n.1 n.2 = false) :
    p.unmarked (m.insert n.1 n.2) + 1 = p.unmarked m := by
  have hmem : n ∈ (Finset.range p.code.size ×ˢ Finset.range m.places).filter
      fun v => m.contains v.1 v.2 = false := by
    simp [h1, hn, h]
  rw [unmarked, unmarked, ← Finset.card_erase_add_one hmem]
  congr 2
  ext v
  simp only [Finset.mem_filter, Finset.mem_erase, Finset.mem_product, Finset.mem_range,
    Marks.places_insert]
  by_cases hv : v.2 < m.places
  · have hins := Marks.contains_insert hn hv
    simp only [Marks.cell_lt hfits h1 hn, and_true] at hins
    rw [← Bool.not_eq_true, hins, ← Bool.not_eq_true]
    tauto
  · simp [hv]

theorem unmarked_insert_le (hn : n.2 < m.places) : p.unmarked (m.insert n.1 n.2) ≤ p.unmarked m := by
  refine Finset.card_le_card fun v hv => ?_
  simp only [Finset.mem_filter, Finset.mem_product, Finset.mem_range, Marks.places_insert] at hv ⊢
  refine ⟨hv.1, Bool.eq_false_iff.mpr fun hc => ?_⟩
  exact Bool.eq_false_iff.mp hv.2 ((Marks.contains_insert hn hv.1.2).mpr (.inr hc))

end Linewatch.Program
