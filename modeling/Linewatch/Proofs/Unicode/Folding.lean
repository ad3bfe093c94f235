import Linewatch.Unicode.Folding
import Linewatch.Proofs.Unicode.Table

namespace Linewatch.Unicode

variable {c d : Char}

def mayBeCase (d : Char) : Bool := 128 ≤ d.toNat || d.isAlpha

set_option maxRecDepth 2000 in
theorem exists_text_foldMap : ∃ text, foldMap = .ofText (String.ofList text) ∧
    ((CharMap.ofNumerals 0 (readNumerals 0 text).length (readNumerals 0 text)).all
      fun e => e.2.all mayBeCase) = true := by
  refine ⟨?text, ?map, ?all⟩
  case map =>
    -- The text is taken apart by unification, which is fast if nothing else is unfolded.
    delta foldMap
    apply congrArg
    with_reducible rfl
  case all => decide +kernel

theorem mayBeCase_of_mem_foldMap (h : d ∈ foldMap.get c) : mayBeCase d = true := by
  obtain ⟨text, hmap, hall⟩ := exists_text_foldMap
  obtain ⟨e, he, hd⟩ := CharMap.exists_entry_of_mem_get h
  rw [hmap, CharMap.ofText, numerals_ofList] at he
  exact List.all_eq_true.mp (List.all_eq_true.mp hall e he) d hd

theorem mayBeCase_of_mem_caseVariants (h : d ∈ caseVariants c) : mayBeCase d = true := by
  by_cases hc : c.toNat < 128
  · have hall : ∀ n < 128, (caseVariants (Char.ofNat n)).all mayBeCase = true := by decide +kernel
    have hlow := hall c.toNat hc
    rw [Char.ofNat_toNat] at hlow
    exact List.all_eq_true.mp hlow d h
  · rw [caseVariants, if_neg hc] at h
    split at h
    · cases h
    · exact mayBeCase_of_mem_foldMap h

end Linewatch.Unicode
