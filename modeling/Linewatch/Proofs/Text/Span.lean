import Mathlib.Data.List.Infix
import Mathlib.Data.List.TakeDrop
import Mathlib.Data.List.TakeWhile

namespace Linewatch.Text

variable {c : Char} {l : List Char}

theorem span_of_notMem (h : c ∉ l) : l.span (· != c) = (l, []) := by
  have hl : ∀ d ∈ l, (d != c) = true := fun d hd => bne_iff_ne.mpr (ne_of_mem_of_not_mem hd h)
  rw [List.span_eq_takeWhile_dropWhile, List.takeWhile_eq_self_iff.mpr hl,
    List.dropWhile_eq_nil_iff.mpr hl]

theorem span_append_cons (h : c ∉ l) (m : List Char) :
    (l ++ c :: m).span (· != c) = (l, c :: m) := by
  have hl : ∀ d ∈ l, (d != c) = true := fun d hd => bne_iff_ne.mpr (ne_of_mem_of_not_mem hd h)
  rw [List.span_eq_takeWhile_dropWhile, List.takeWhile_append_of_pos hl,
    List.dropWhile_append_of_pos hl]
  simp

variable {p : Char → Bool} {d : Char} {w x y z t : List Char}

theorem eq_nil_of_prefix_of_notMem (h : w <+: c :: y) (hc : c ∉ w) : w = [] := by
  obtain rfl | ⟨v, rfl, -⟩ := List.prefix_cons_iff.mp h
  · rfl
  · exact absurd List.mem_cons_self hc

theorem notMem_of_any (h : x.any y.contains = false) (hc : c ∈ x) : c ∉ y :=
  fun hy => List.any_eq_false.mp h c hc (List.contains_iff_mem.mpr hy)

theorem infix_of_notMem (h : w <:+: x ++ c :: y) (hc : c ∉ w) : w <:+: x ∨ w <:+: y := by
  obtain h | h | ⟨u, v, rfl, hu, hv⟩ := List.infix_append_iff.mp h
  · exact .inl h
  · obtain h | h := List.infix_cons_iff.mp h
    · rw [eq_nil_of_prefix_of_notMem h hc]
      exact .inl (List.nil_infix)
    · exact .inr h
  · rw [eq_nil_of_prefix_of_notMem hv fun hm => hc (List.mem_append_right _ hm), List.append_nil]
    exact .inl hu.isInfix

theorem append_cons_inj_of_first (hx : ∀ e ∈ x, p e = true) (hy : ∀ e ∈ y, p e = true)
    (hc : p c = false) (hd : p d = false) (h : x ++ c :: z = y ++ d :: t) :
    x = y ∧ c = d ∧ z = t := by
  have htake := congrArg (List.takeWhile p) h
  rw [List.takeWhile_append_of_pos hx, List.takeWhile_append_of_pos hy,
    List.takeWhile_cons_of_neg (by simp [hc]), List.takeWhile_cons_of_neg (by simp [hd]),
    List.append_nil, List.append_nil] at htake
  subst htake
  rw [List.append_cancel_left_eq, List.cons.injEq] at h
  exact ⟨rfl, h⟩

end Linewatch.Text
