import Mathlib.Data.List.Forall2
import Mathlib.Tactic.SplitIfs

namespace Linewatch.Text

variable {a b : Char}

theorem toNat_toLower (c : Char) :
    c.toLower.toNat = if 65 ≤ c.toNat ∧ c.toNat ≤ 90 then c.toNat + 32 else c.toNat := by
  have hcapital : c.val ≥ 'A'.val ∧ c.val ≤ 'Z'.val ↔ 65 ≤ c.toNat ∧ c.toNat ≤ 90 := Iff.rfl
  delta Char.toLower
  simp only [hcapital]
  split
  next h =>
    have hadd : (c.val + 32).toNat = (c.toNat + 32) % 2 ^ 32 := UInt32.toNat_add _ _
    exact hadd.trans (Nat.mod_eq_of_lt (by omega))
  next => rfl

theorem toNat_toUpper (c : Char) :
    c.toUpper.toNat = if 97 ≤ c.toNat ∧ c.toNat ≤ 122 then c.toNat - 32 else c.toNat := by
  have hsmall : 'a'.val ≤ c.val ∧ c.val ≤ 'z'.val ↔ 97 ≤ c.toNat ∧ c.toNat ≤ 122 := Iff.rfl
  delta Char.toUpper
  simp only [hsmall]
  split
  next h =>
    have hadd : (c.val + 4294967264).toNat = (c.toNat + 4294967264) % 2 ^ 32 :=
      UInt32.toNat_add _ _
    exact hadd.trans (by omega)
  next => rfl

theorem toLower_eq_iff (hb : b.toLower = b) : a.toLower = b ↔ a = b ∨ a = b.toUpper := by
  simp only [← Char.toNat_inj, toNat_toLower, toNat_toUpper] at *
  split_ifs at * <;> omega

theorem map_toLower_eq_iff {l m : List Char} (hm : ∀ b ∈ m, b.toLower = b) :
    l.map Char.toLower = m ↔ List.Forall₂ (fun a b => a = b ∨ a = b.toUpper) l m := by
  induction m generalizing l with
  | nil => simp
  | cons b m ih =>
    rw [List.forall_mem_cons] at hm
    cases l with
    | nil => simp
    | cons a l =>
      rw [List.map_cons, List.cons.injEq, List.forall₂_cons, toLower_eq_iff hm.1, ih hm.2]

theorem eq_of_map_toLower_eq {l m : List Char} (hm : ∀ b ∈ m, b.toLower = b ∧ b.toUpper = b)
    (h : l.map Char.toLower = m) : l = m := by
  rw [map_toLower_eq_iff fun b hb => (hm b hb).1] at h
  induction h with
  | nil => rfl
  | cons hab _ ih =>
    rw [List.forall_mem_cons] at hm
    rw [ih hm.2, hab.elim id (·.trans hm.1.2)]

end Linewatch.Text
