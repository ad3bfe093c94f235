import Linewatch.Proofs.Pattern.Fits
import Linewatch.Proofs.Text.Lower
import Linewatch.Proofs.Unicode.Folding

namespace Linewatch

variable {c : Char} {cs : List Char}

namespace CharClass

def listed : List Char → CharClass
  | [] => .empty
  | c :: cs => cs.foldl (fun a d => .union a (.char d)) (.char c)

theorem contains_foldl_union {a : CharClass} :
    (cs.foldl (fun a d => .union a (.char d)) a).contains c = true ↔
      a.contains c = true ∨ c ∈ cs := by
  induction cs generalizing a with
  | nil => simp
  | cons d cs ih =>
    simp only [List.foldl_cons, ih, contains, contains_char, Bool.or_eq_true, decide_eq_true_eq,
      List.mem_cons, or_assoc]

theorem contains_listed : (listed cs).contains c = true ↔ c ∈ cs := by
  cases cs with
  | nil => simp [listed, contains]
  | cons d cs =>
    rw [listed, contains_foldl_union, contains_char, decide_eq_true_eq, List.mem_cons]

/-- No other character is a case of one that is no letter. -/
theorem contains_folded_listed (h : cs.any Unicode.mayBeCase = false) :
    (folded (listed cs)).contains c = true ↔ c ∈ cs := by
  rw [contains, Bool.or_eq_true, contains_listed, List.any_eq_true]
  refine or_iff_left ?_
  rintro ⟨d, hd, hc⟩
  exact List.any_eq_false.mp h d (contains_listed.mp hc) (Unicode.mayBeCase_of_mem_caseVariants hd)

end CharClass

namespace Pattern

variable {before body after : List Char} {w : String} {words : List String}

def anyCase (c : Char) : Pattern := .one (.listed (c :: Unicode.caseVariants c))

def spelledAnyCase (w : String) : List Pattern := w.toList.map anyCase

def oneOfAnyCase (words : List String) : Pattern :=
  .altAll (words.map fun w => .catAll (spelledAnyCase w))

/-- Whether a text is a word, each of its characters in any case. -/
def IsAnyCase (w : String) (body : List Char) : Prop :=
  List.Forall₂ (fun d c => c ∈ d :: Unicode.caseVariants d) w.toList body

theorem fits_spelledAnyCase :
    (catAll (spelledAnyCase w)).Fits before body after ↔ IsAnyCase w body := by
  rw [spelledAnyCase, IsAnyCase]
  induction w.toList generalizing before body with
  | nil =>
    rw [List.forall₂_nil_left_iff]
    exact fits_empty
  | cons d w ih =>
    simp only [List.map_cons, fits_catAll_cons, anyCase, fits_one, CharClass.contains_listed, ih,
      List.forall₂_cons_left_iff]
    constructor
    · rintro ⟨_, y, rfl, ⟨c, rfl, hc⟩, hy⟩
      exact ⟨c, y, hc, hy, rfl⟩
    · rintro ⟨c, y, hc, hy, rfl⟩
      exact ⟨[c], y, rfl, ⟨c, rfl, hc⟩, hy⟩

theorem fits_oneOfAnyCase : (oneOfAnyCase words).Fits before body after ↔
    ∃ w ∈ words, IsAnyCase w body := by
  simp only [oneOfAnyCase, fits_altAll, List.mem_map, exists_exists_and_eq_and,
    fits_spelledAnyCase]

theorem IsAnyCase.exists_mem {c : Char} (h : IsAnyCase w body) (hc : c ∈ body) :
    ∃ d ∈ w.toList, c ∈ d :: Unicode.caseVariants d := by
  rw [IsAnyCase] at h
  generalize w.toList = l at h ⊢
  induction h with
  | nil => cases hc
  | cons hd _ ih =>
    obtain rfl | hc := List.mem_cons.mp hc
    · exact ⟨_, List.mem_cons_self, hd⟩
    · obtain ⟨e, he, hc⟩ := ih hc
      exact ⟨e, List.mem_cons_of_mem _ he, hc⟩

def isSmall (w : String) : Bool :=
  w.toList.all fun d => d.toLower == d && (d :: Unicode.caseVariants d).contains d.toUpper

theorem isAnyCase_of_toLower (hw : isSmall w = true) (h : body.map Char.toLower = w.toList) :
    IsAnyCase w body := by
  simp only [isSmall, List.all_eq_true, Bool.and_eq_true, beq_iff_eq, List.contains_iff_mem] at hw
  rw [Text.map_toLower_eq_iff fun d hd => (hw d hd).1] at h
  have hflip := List.Forall₂.flip (R := fun (d c : Char) => c = d ∨ c = d.toUpper) h
  refine List.Forall₂.imp ?_ ((List.forall₂_and_left _ _).mpr ⟨hw, hflip⟩)
  rintro d c ⟨⟨-, hupper⟩, rfl | rfl⟩
  · exact List.mem_cons_self
  · exact hupper

end Pattern

end Linewatch
