import Mathlib.Data.List.Forall2
import Linewatch.Data.Toml.Reader

namespace Linewatch.Toml

def textOf (lines : List String) : List Char := lines.flatMap fun l => l.toList ++ ['\n']

/-- Whether lines say the same wherever they stand. A line by itself says one thing, or nothing if
it is empty or a comment. -/
def Tells (lines : List String) (said : List Line) : Prop :=
  ∀ fuel done rest, lines? (fuel + lines.length) done (textOf lines ++ rest) =
    lines? fuel (said.reverse ++ done) rest

def Fails (line : String) : Prop :=
  ∀ fuel done rest, lines? fuel done (line.toList ++ '\n' :: rest) = none

def isSilent : List Char → Bool
  | [] => true
  | '#' :: l => l.all isPlain
  | _ => false

variable {lines lines' : List String} {said said' : List Line} {line : String}

theorem textOf_append (lines lines' : List String) :
    textOf (lines ++ lines') = textOf lines ++ textOf lines' :=
  List.flatMap_append

theorem textOf_cons (line : String) (lines : List String) :
    textOf (line :: lines) = line.toList ++ '\n' :: textOf lines := by
  rw [textOf, List.flatMap_cons, List.append_assoc]
  rfl

theorem length_le_length_textOf (lines : List String) : lines.length ≤ (textOf lines).length := by
  induction lines with
  | nil => exact Nat.le_refl 0
  | cons line lines ih =>
    rw [textOf_cons, List.length_append, List.length_cons, List.length_cons]
    omega

theorem Tells.nil : Tells [] [] := fun _ _ _ => rfl

theorem Tells.append (h : Tells lines said) (h' : Tells lines' said') :
    Tells (lines ++ lines') (said ++ said') := by
  intro fuel done rest
  have hlength : fuel + (lines ++ lines').length = fuel + lines'.length + lines.length := by
    rw [List.length_append]
    omega
  rw [hlength, textOf_append, List.append_assoc, h, h', List.reverse_append, List.append_assoc]

theorem tells_of_forall₂ {saids : List (List Line)}
    (h : List.Forall₂ (fun l said => Tells [l] said) lines saids) : Tells lines saids.flatten := by
  induction h with
  | nil => exact .nil
  | cons hl _ ih => exact hl.append ih

theorem skipBlanks_comment (l : List Char) : skipBlanks ('#' :: l) = '#' :: l := rfl

theorem restOfLine?_comment {l : List Char} (h : ∀ c ∈ l, isPlain c = true) (rest : List Char) :
    restOfLine? ('#' :: (l ++ '\n' :: rest)) = some rest := by
  have hskip : skipComment (l ++ '\n' :: rest) = '\n' :: rest := by
    rw [skipComment, List.dropWhile_append_of_pos h]
    rfl
  simp only [restOfLine?, skipBlanks_comment, hskip]
  rfl

theorem lines?_comment {l : List Char} (h : ∀ c ∈ l, isPlain c = true) (fuel : Nat)
    (done : List Line) (rest : List Char) :
    lines? (fuel + 1) done ('#' :: (l ++ '\n' :: rest)) = lines? fuel done rest := by
  simp only [lines?, skipBlanks_comment, restOfLine?_comment h]

theorem tells_of_isSilent (h : isSilent line.toList = true) : Tells [line] [] := by
  intro fuel done rest
  rw [textOf_cons, List.append_assoc]
  generalize line.toList = l at h
  fun_cases isSilent l with
  | case1 => rfl
  | case2 l =>
    rw [isSilent, List.all_eq_true] at h
    exact lines?_comment h fuel done rest
  | case3 l hn hc =>
    rw [isSilent] at h
    · cases h
    · exact hn
    · exact hc

def ofLines? (said : List Line) : Option Datum := do
  let draft ← said.foldlM Draft.add? Draft.start
  let root ← draft.settle?
  return .table true (membersData true root)

theorem read?_textOf (h : Tells lines said) (hmark : withoutMark (textOf lines) = textOf lines) :
    read? (textOf lines) = ofLines? said := by
  have hlength := length_le_length_textOf lines
  have hfuel : (textOf lines).length + 1 =
      (textOf lines).length - lines.length + 1 + lines.length := by
    omega
  have hread := h ((textOf lines).length - lines.length + 1) [] []
  rw [List.append_nil, List.append_nil, ← hfuel] at hread
  have hsaid : lines? ((textOf lines).length + 1) [] (textOf lines) = some said := by
    rw [hread]
    exact congrArg some said.reverse_reverse
  rw [read?, hmark, hsaid]
  rfl

/-- A line that cannot be read spoils the document. -/
theorem read?_eq_none (h : Tells lines said) (hf : Fails line)
    (hmark : withoutMark (textOf (lines ++ line :: lines')) = textOf (lines ++ line :: lines')) :
    read? (textOf (lines ++ line :: lines')) = none := by
  have hlength := length_le_length_textOf (lines ++ line :: lines')
  rw [List.length_append] at hlength
  have hfuel : (textOf (lines ++ line :: lines')).length + 1 =
      (textOf (lines ++ line :: lines')).length + 1 - lines.length + lines.length := by
    omega
  have hnone : lines? ((textOf (lines ++ line :: lines')).length + 1) []
      (textOf (lines ++ line :: lines')) = none := by
    rw [hfuel]
    generalize (textOf (lines ++ line :: lines')).length + 1 - lines.length = fuel
    rw [textOf_append, h, textOf_cons, hf]
  rw [read?, hmark, hnone]
  rfl

end Linewatch.Toml
