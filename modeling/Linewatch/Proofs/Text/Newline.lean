import Mathlib.Tactic.SplitIfs
import Linewatch.Proofs.Text.Lines
import Linewatch.Proofs.Text.Utf8

namespace Linewatch

namespace Utf8

/-- What holds of every state that decoding comes to: the bytes that continue a character are from
`0x80` on, and the character that they complete lies beyond ASCII. -/
def State.Sound : State → Prop
  | .start => True
  | .inside owed least most value =>
    0x80 ≤ least.toNat ∧ most.toNat < 0xC0 ∧
      2 ≤ if owed = 1 then value else 64 * value + (least.toNat - 0x80)

theorem first_cases (b : UInt8) :
    b.toNat < 0x80 ∧ first b = ([some (.ofNat b.toNat)], .start) ∨
    0x80 ≤ b.toNat ∧ (first b = ([none], .start) ∨ (first b).1 = [] ∧ (first b).2.Sound) := by
  have hb := b.toNat_lt
  simp only [first, UInt8.lt_iff_toNat_lt, ← UInt8.toNat_inj, UInt8.reduceToNat]
  by_cases h : b.toNat < 0x80
  · rw [if_pos h]
    exact .inl ⟨h, rfl⟩
  · rw [if_neg h]
    refine .inr ⟨Nat.not_lt.mp h, ?_⟩
    split_ifs
    · exact .inl rfl
    rotate_right
    · exact .inl rfl
    all_goals
      refine .inr ⟨rfl, by decide, by decide, ?_⟩
      simp only [UInt8.reduceToNat]
      split <;> omega

theorem sound_first (b : UInt8) : (first b).2.Sound := by
  rcases first_cases b with ⟨-, h⟩ | ⟨-, h | ⟨-, h⟩⟩
  · rw [h]
    trivial
  · rw [h]
    trivial
  · exact h

theorem ofNat_eq_newline_iff {n : Nat} : Char.ofNat n = '\n' ↔ n = 0x0A := by
  constructor
  · intro h
    by_cases hn : n.isValidChar
    · rw [Char.ofNat, dif_pos hn] at h
      exact congrArg Char.toNat h
    · rw [Char.ofNat, dif_neg hn] at h
      exact absurd h (by decide)
  · rintro rfl
    rfl

theorem count_newline_first (b : UInt8) :
    (first b).1.count (some '\n') = if b = 0x0A then 1 else 0 := by
  rcases first_cases b with ⟨-, h⟩ | ⟨hb, h⟩
  · have hc : some (Char.ofNat b.toNat) = some '\n' ↔ b = 0x0A := by
      rw [Option.some.injEq, ofNat_eq_newline_iff, ← UInt8.toNat_inj]
      rfl
    rw [h, List.count_singleton]
    simp only [beq_iff_eq, hc]
  · have hne : b ≠ 0x0A := by
      rintro rfl
      exact absurd hb (by decide)
    rcases h with h | ⟨h, -⟩ <;> simp [h, hne]

section

variable {s : State} (h : s.Sound)
include h

theorem sound_step (b : UInt8) : (step b s).2.Sound := by
  cases s with
  | start => exact sound_first b
  | inside owed least most value =>
    obtain ⟨hl, hm, hv⟩ := h
    rw [step]
    by_cases hb : least ≤ b ∧ b ≤ most
    · rw [if_pos hb]
      by_cases ho : owed = 1
      · rw [if_pos ho]
        trivial
      · rw [if_neg ho] at hv ⊢
        rw [UInt8.le_iff_toNat_le, UInt8.le_iff_toNat_le] at hb
        have hnext : 2 ≤ 64 * value + b.toNat % 64 := by omega
        refine ⟨by decide, by decide, ?_⟩
        split
        next => exact hnext
        next => omega
    · rw [if_neg hb]
      exact sound_first b

/-- No step makes a newline but that of its own byte. -/
theorem count_newline_step (b : UInt8) :
    (step b s).1.count (some '\n') = if b = 0x0A then 1 else 0 := by
  cases s with
  | start => exact count_newline_first b
  | inside owed least most value =>
    obtain ⟨hl, hm, hv⟩ := h
    rw [step]
    by_cases hb : least ≤ b ∧ b ≤ most
    · rw [if_pos hb]
      rw [UInt8.le_iff_toNat_le, UInt8.le_iff_toNat_le] at hb
      have hne : b ≠ 0x0A := by
        rintro rfl
        exact absurd (Nat.le_trans hl hb.1) (by decide)
      by_cases ho : owed = 1
      · rw [if_pos ho] at hv ⊢
        have hc : Char.ofNat (64 * value + b.toNat % 64) ≠ '\n' := by
          rw [Ne, ofNat_eq_newline_iff]
          omega
        simp [hc, hne]
      · simp [ho, hne]
    · rw [if_neg hb, List.count_cons_of_ne (by simp)]
      exact count_newline_first b

/-- A newline ends what is before it, whatever the state, and decoding begins afresh. -/
theorem step_newline : step 0x0A s = (decodeFrom s [] ++ [some '\n'], .start) := by
  cases s with
  | start => rfl
  | inside owed least most value =>
    have hb : ¬ (least ≤ 0x0A ∧ 0x0A ≤ most) := by
      rw [UInt8.le_iff_toNat_le]
      exact fun hb => absurd (Nat.le_trans h.1 hb.1) (by decide)
    rw [step, if_neg hb]
    rfl

end

theorem decodeFrom_append_newline {s : State} (h : s.Sound) (u v : List UInt8) :
    decodeFrom s (u ++ 0x0A :: v) = decodeFrom s u ++ some '\n' :: decodeFrom .start v := by
  -- Each byte leads to a sound state, so the newline is met in one, however `u` ends.
  induction u generalizing s with
  | nil => rw [List.nil_append, decodeFrom_cons, step_newline h, List.append_assoc]; rfl
  | cons b u ih =>
    rw [List.cons_append, decodeFrom_cons, ih (sound_step h b), decodeFrom_cons, List.append_assoc]

theorem count_newline_decodeFrom {s : State} (h : s.Sound) (bytes : List UInt8) :
    (decodeFrom s bytes).count (some '\n') = bytes.count 0x0A := by
  induction bytes generalizing s with
  | nil => cases s <;> rfl
  | cons b rest ih =>
    rw [decodeFrom_cons, List.count_append, count_newline_step h, ih (sound_step h b),
      List.count_cons, Nat.add_comm]
    simp

theorem decodeLossy_append_newline (u v : List UInt8) :
    decodeLossy (u ++ 0x0A :: v) = decodeLossy u ++ '\n' :: decodeLossy v := by
  simp only [decodeLossy, decode_eq, decodeFrom_append_newline (s := .start) trivial,
    List.map_append, List.map_cons, Option.getD_some]

theorem decodeLossy_concat_newline (u : List UInt8) :
    decodeLossy (u ++ [0x0A]) = decodeLossy u ++ ['\n'] :=
  decodeLossy_append_newline u []

theorem count_newline_decodeLossy (bytes : List UInt8) :
    (decodeLossy bytes).count '\n' = bytes.count 0x0A := by
  rw [← count_newline_decodeFrom (s := .start) trivial, decodeLossy, decode_eq, List.count,
    List.countP_map, List.count]
  refine List.countP_congr ?_
  intro c _
  cases c <;> simp

end Utf8

namespace Text

theorem pieces_ne_nil {text : List Char} (h : text ≠ []) : pieces text ≠ [] := by
  cases text with
  | nil => exact absurd rfl h
  | cons c text =>
    rw [pieces_cons]
    cases pieces text with
    | nil => exact List.cons_ne_nil _ _
    | cons piece l =>
      rw [addToPieces]
      split <;> exact List.cons_ne_nil _ _

theorem addToPieces_append (c : Char) {l : List (List Char)} (h : l ≠ []) (m : List (List Char)) :
    addToPieces c (l ++ m) = addToPieces c l ++ m := by
  cases l with
  | nil => exact absurd rfl h
  | cons piece l =>
    rw [List.cons_append, addToPieces, addToPieces]
    split <;> rfl

theorem pieces_append_newline (t u : List Char) :
    pieces (t ++ '\n' :: u) = pieces (t ++ ['\n']) ++ pieces u := by
  induction t with
  | nil =>
    rw [List.nil_append, List.nil_append, pieces_cons, pieces_cons]
    cases pieces u <;> rfl
  | cons c t ih =>
    have hn : pieces (t ++ ['\n']) ≠ [] := pieces_ne_nil (by simp)
    rw [List.cons_append, pieces_cons, ih, addToPieces_append c hn, List.cons_append, pieces_cons]

theorem length_addToPieces (c : Char) {l : List (List Char)} (h : l ≠ []) :
    (addToPieces c l).length = l.length + if c = '\n' then 1 else 0 := by
  cases l with
  | nil => exact absurd rfl h
  | cons piece l =>
    rw [addToPieces]
    split <;> rfl

theorem length_pieces_newline (t : List Char) :
    (pieces (t ++ ['\n'])).length = t.count '\n' + 1 := by
  induction t with
  | nil => rfl
  | cons c t ih =>
    have hn : pieces (t ++ ['\n']) ≠ [] := pieces_ne_nil (by simp)
    rw [List.cons_append, pieces_cons, length_addToPieces c hn, ih, List.count_cons]
    simp only [beq_iff_eq]
    omega

theorem length_pieces_le (t : List Char) : (pieces t).length ≤ t.count '\n' + 1 := by
  induction t with
  | nil => exact Nat.zero_le _
  | cons c t ih =>
    rw [pieces_cons, List.count_cons]
    by_cases hn : pieces t = []
    · rw [hn]
      exact Nat.le_add_left _ _
    · rw [length_addToPieces c hn]
      simp only [beq_iff_eq]
      omega

theorem lines_append_newline (t u : List Char) :
    lines (t ++ '\n' :: u) = lines (t ++ ['\n']) ++ lines u := by
  rw [lines, pieces_append_newline, List.map_append, lines, lines]

theorem length_lines_newline (t : List Char) :
    (lines (t ++ ['\n'])).length = t.count '\n' + 1 := by
  rw [lines, List.length_map, length_pieces_newline]

theorem length_lines_le (t : List Char) : (lines t).length ≤ t.count '\n' + 1 := by
  rw [lines, List.length_map]
  exact length_pieces_le t

end Text

end Linewatch
