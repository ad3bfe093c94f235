import Linewatch.Proofs.Signature.Found
import Linewatch.Proofs.Pattern.Case
import Linewatch.Proofs.Text.Span

namespace Linewatch

namespace Credential

open Pattern

variable {before body after : List Char} {c : Char} {names : List String}

def quotes : List Char := ['"', '\'', '`']

def signs : List Char := [':', '=']

def delimiters : List Char := Text.blanks ++ signs ++ quotes

theorem mem_delimiters_of_isBlank (h : Text.isBlank c = true) : c ∈ delimiters :=
  List.mem_append_left _ (List.mem_append_left _ (Text.mem_blanks h))

theorem mem_delimiters_of_mem_signs (h : c ∈ signs) : c ∈ delimiters :=
  List.mem_append_left _ (List.mem_append_right _ h)

theorem mem_delimiters_of_mem_quotes (h : c ∈ quotes) : c ∈ delimiters :=
  List.mem_append_right _ h

theorem notMem_quotes_of_isBlank (h : Text.isBlank c = true) : c ∉ quotes :=
  Text.notMem_of_any (by decide +kernel) (Text.mem_blanks h)

theorem notMem_quotes_of_mem_signs (h : c ∈ signs) : c ∉ quotes :=
  Text.notMem_of_any (by decide) h

/-- A value in quotation marks that is given to one of some names, which may be in any case. -/
structure Assignment (names : List String) where
  name : List Char
  left : List Char
  sign : Char
  right : List Char
  quote : Char
  value : List Char
  isName : ∃ w ∈ names, name.map Char.toLower = w.toList
  isBlank_left : ∀ c ∈ left, Text.isBlank c = true
  isSign : sign ∈ signs
  isBlank_right : ∀ c ∈ right, Text.isBlank c = true
  isQuote : quote ∈ quotes

def Assignment.front (a : Assignment names) : List Char := a.name ++ a.left ++ a.sign :: a.right

def Assignment.line (a : Assignment names) : List Char :=
  a.front ++ a.quote :: (a.value ++ [a.quote])

def Assignment.ofText (name : List Char) (isName : ∃ w ∈ names, name.map Char.toLower = w.toList)
    (value : String) : Assignment names where
  name := name
  left := [' ']
  sign := '='
  right := [' ']
  quote := '"'
  value := value.toList
  isName := isName
  isBlank_left := List.all_eq_true.mp (by decide)
  isSign := by decide
  isBlank_right := List.all_eq_true.mp (by decide)
  isQuote := by decide

theorem Assignment.exists_front_eq (a : Assignment names) :
    ∃ l, ∃ c ∈ delimiters, a.front = l ++ [c] := by
  have hmem : ∀ c ∈ a.sign :: a.right, c ∈ delimiters := by
    rw [List.forall_mem_cons]
    exact ⟨mem_delimiters_of_mem_signs a.isSign,
      fun c hc => mem_delimiters_of_isBlank (a.isBlank_right c hc)⟩
  refine ⟨a.name ++ a.left ++ (a.sign :: a.right).dropLast, _,
    hmem _ (List.getLast_mem (List.cons_ne_nil _ _)), ?_⟩
  rw [List.append_assoc, List.dropLast_concat_getLast, Assignment.front]

def mark (cs : List Char) : Pattern := .one (.folded (.listed cs))

theorem fits_mark {cs : List Char} (h : cs.any Unicode.mayBeCase = false) :
    (mark cs).Fits before body after ↔ ∃ c ∈ cs, body = [c] := by
  rw [mark, fits_one]
  simp only [CharClass.contains_folded_listed h, and_comm]

theorem mayBeCase_signs : signs.any Unicode.mayBeCase = false := by decide

theorem mayBeCase_quotes : quotes.any Unicode.mayBeCase = false := by decide

end Credential

end Linewatch
