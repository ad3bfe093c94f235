import Linewatch.Text.Blank
import Linewatch.Unicode.Word

namespace Linewatch.Text

def blankCodes : List Nat :=
  [0x09, 0x0A, 0x0B, 0x0C, 0x0D, 0x20, 0x85, 0xA0, 0x1680, 0x2000, 0x2001, 0x2002, 0x2003, 0x2004,
   0x2005, 0x2006, 0x2007, 0x2008, 0x2009, 0x200A, 0x2028, 0x2029, 0x202F, 0x205F, 0x3000]

def blanks : List Char := blankCodes.map Char.ofNat

theorem mem_blanks {c : Char} (h : isBlank c = true) : c ∈ blanks := by
  have hcode : c.toNat ∈ blankCodes := by
    simp only [isBlank, Bool.or_eq_true, Bool.and_eq_true, decide_eq_true_eq, beq_iff_eq] at h
    simp only [blankCodes, List.mem_cons, List.not_mem_nil, or_false]
    omega
  rw [← Char.ofNat_toNat c]
  exact List.mem_map_of_mem hcode

theorem isWord_of_isBlank {c : Char} (h : isBlank c = true) : Unicode.isWord c = false := by
  have hall : blanks.all (fun c => !Unicode.isWord c) = true := by decide +kernel
  simpa using List.all_eq_true.mp hall c (mem_blanks h)

theorem isAsciiWord_of_isBlank {c : Char} (h : isBlank c = true) :
    Unicode.isAsciiWord c = false := by
  have hall : blanks.all (fun c => !Unicode.isAsciiWord c) = true := by decide +kernel
  simpa using List.all_eq_true.mp hall c (mem_blanks h)

end Linewatch.Text
