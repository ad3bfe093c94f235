import Linewatch.Proofs.Pattern.Ways
import Linewatch.Proofs.Text.Blank

namespace Linewatch

variable {whole body before after : Array Char} {ok ok' : Anchor → Bool} {n i j : Nat} {p : Pattern}

/-- Whether a stretch of a line has the characters of a text, and the given anchors hold in it where
they hold in the text by itself. -/
structure Window (ok : Anchor → Bool) (whole : Array Char) (n : Nat) (body : Array Char) : Prop where
  chars : ∀ i < body.size, whole[n + i]? = body[i]?
  anchors : ∀ a, ok a = true → ∀ i ≤ body.size, a.holdsAt whole (n + i) = a.holdsAt body i

def Pattern.anchorsAre (ok : Anchor → Bool) : Pattern → Bool
  | .empty | .one _ => true
  | .look a => ok a
  | .cat p q | .alt p q => p.anchorsAre ok && q.anchorsAre ok
  | .rep p _ _ _ => p.anchorsAre ok

namespace Window

theorem rounds_iff {R S : Nat → Nat → Prop} {size m : Nat} (hR : ∀ i j, R i j → i ≤ j)
    (hS : ∀ i j, S i j → i ≤ j) (hRS : ∀ i j, j ≤ size → (R (n + i) (n + j) ↔ S i j))
    (hj : j ≤ size) : Rounds R m (n + i) (n + j) ↔ Rounds S m i j := by
  induction m generalizing i with
  | zero => exact Nat.add_left_cancel_iff
  | succ m ih =>
    constructor
    · rintro ⟨k, hk, hr⟩
      obtain ⟨k, rfl⟩ : ∃ k', k = n + k' :=
        ⟨k - n, by have := hR _ _ hk; omega⟩
      have hle := Pattern.le_of_rounds hR hr
      exact ⟨k, (hRS i k (by omega)).mp hk, ih.mp hr⟩
    · rintro ⟨k, hk, hr⟩
      have hle := Pattern.le_of_rounds hS hr
      exact ⟨n + k, (hRS i k (by omega)).mpr hk, ih.mpr hr⟩

/-- A pattern matches in a stretch what it matches in the text by itself. -/
theorem matches_iff (h : Window ok whole n body) (hp : p.anchorsAre ok = true)
    (hj : j ≤ body.size) : p.Matches whole (n + i) (n + j) ↔ p.Matches body i j := by
  induction p generalizing i j with
  | empty => exact Nat.add_left_cancel_iff
  | one cls =>
    have hstep : n + j = n + i + 1 ↔ j = i + 1 := by omega
    simp only [Pattern.Matches, hstep]
    refine and_congr_left fun heq => ?_
    rw [h.chars i (by omega)]
  | look a =>
    simp only [Pattern.Matches, Nat.add_left_cancel_iff]
    refine and_congr_left fun heq => ?_
    rw [h.anchors a hp i (by omega)]
  | cat p q ihp ihq =>
    simp only [Pattern.anchorsAre, Bool.and_eq_true] at hp
    constructor
    · rintro ⟨k, hk, hq⟩
      obtain ⟨k, rfl⟩ : ∃ k', k = n + k' := ⟨k - n, by have := hk.le; omega⟩
      have hle := hq.le
      exact ⟨k, (ihp hp.1 (by omega)).mp hk, (ihq hp.2 hj).mp hq⟩
    · rintro ⟨k, hk, hq⟩
      exact ⟨n + k, (ihp hp.1 (Nat.le_trans hq.le hj)).mpr hk, (ihq hp.2 hj).mpr hq⟩
  | alt p q ihp ihq =>
    simp only [Pattern.anchorsAre, Bool.and_eq_true] at hp
    exact or_congr (ihp hp.1 hj) (ihq hp.2 hj)
  | rep p least most greedy ih =>
    refine exists_congr fun m => and_congr_right fun _ => ?_
    exact rounds_iff (fun _ _ => Pattern.Matches.le) (fun _ _ => Pattern.Matches.le)
      (fun i j hj => ih hp hj) hj

end Window

namespace Anchor

def isWordEdge : Anchor → Bool
  | word _ _ => true
  | _ => false

def isWordEdgeOrStart : Anchor → Bool
  | word _ _ | textStart => true
  | _ => false

/-- White space at an edge of a word stands there as nothing does. -/
theorem holds_word_congr {edge : WordEdge} {ascii : Bool} {x x' y y' : Option Char}
    (hx : x = x' ∨ x' = none ∧ ∀ c ∈ x, Text.isBlank c = true)
    (hy : y = y' ∨ y' = none ∧ ∀ c ∈ y, Text.isBlank c = true) :
    (word edge ascii).holds x y = (word edge ascii).holds x' y' := by
  have hword : ∀ c, Text.isBlank c = true →
      (if ascii then Unicode.isAsciiWord else Unicode.isWord) c = false := by
    intro c hc
    cases ascii
    · exact Text.isWord_of_isBlank hc
    · exact Text.isAsciiWord_of_isBlank hc
  have hside : ∀ {z z' : Option Char}, (z = z' ∨ z' = none ∧ ∀ c ∈ z, Text.isBlank c = true) →
      z.any (if ascii then Unicode.isAsciiWord else Unicode.isWord) =
        z'.any (if ascii then Unicode.isAsciiWord else Unicode.isWord) := by
    rintro z z' (rfl | ⟨rfl, hz⟩)
    · rfl
    · cases z with
      | none => rfl
      | some c => exact hword c (hz c rfl)
  simp only [holds, hside hx, hside hy]

end Anchor

namespace Window

theorem after_blanks (h : ∀ c ∈ before, Text.isBlank c = true) :
    Window Anchor.isWordEdge (before ++ body) before.size body where
  chars i _ := by rw [Array.getElem?_append_right (Nat.le_add_right ..), Nat.add_sub_cancel_left]
  anchors a ha i _ := by
    match a, ha with
    | .word edge ascii, _ =>
      refine Anchor.holds_word_congr ?_ (.inl ?_)
      · cases i with
        | zero =>
          refine .inr ⟨rfl, fun c hc => ?_⟩
          rw [Nat.add_zero] at hc
          split at hc
          next => cases hc
          next h0 =>
            rw [Array.getElem?_append_left (by omega)] at hc
            exact h c (Array.mem_of_getElem? hc)
        | succ i =>
          left
          rw [if_neg (by omega), if_neg (by omega), Nat.add_succ_sub_one,
            Array.getElem?_append_right (Nat.le_add_right ..), Nat.add_sub_cancel_left]
          rfl
      · rw [Array.getElem?_append_right (Nat.le_add_right ..), Nat.add_sub_cancel_left]

theorem before_blanks (h : ∀ c ∈ after, Text.isBlank c = true) :
    Window Anchor.isWordEdgeOrStart (body ++ after) 0 body where
  chars i hi := by rw [Nat.zero_add, Array.getElem?_append_left hi]
  anchors a ha i hi := by
    rw [Nat.zero_add]
    have hbefore : (if i = 0 then none else (body ++ after)[i - 1]?) =
        if i = 0 then none else body[i - 1]? := by
      split
      next => rfl
      next h0 => exact Array.getElem?_append_left (by omega)
    match a, ha with
    | .textStart, _ => exact congrArg Option.isNone hbefore
    | .word edge ascii, _ =>
      refine Anchor.holds_word_congr (.inl hbefore) ?_
      obtain hlt | rfl := Nat.lt_or_eq_of_le hi
      · exact .inl (Array.getElem?_append_left hlt)
      · refine .inr ⟨Array.getElem?_eq_none (Nat.le_refl _), fun c hc => ?_⟩
        rw [Array.getElem?_append_right (Nat.le_refl _)] at hc
        exact h c (Array.mem_of_getElem? hc)

end Window

end Linewatch
