import Mathlib.Tactic.SplitIfs
import Linewatch.Data.Json.Token
import Linewatch.Data.Json.Writer

namespace Linewatch.Json

open Token

theorem hexDigit?_hexDigit : ∀ n < 16, Token.hexDigit? (hexDigit n) = some n := by
  decide

theorem unit?_hexDigit {n : Nat} (hn : n < 256) :
    Token.unit? '0' '0' (hexDigit (n / 16)) (hexDigit (n % 16)) = some n := by
  have hzero : Token.hexDigit? '0' = some 0 := by decide
  rw [Token.unit?, hzero, hexDigit?_hexDigit _ (by omega), hexDigit?_hexDigit _ (by omega)]
  simp only [Option.some.injEq]
  omega

theorem pushUnit_of_lt {p : Partial} (hp : p.high = none) {n : Nat} (hn : n < 0xD800) :
    p.pushUnit n = p.push (.ofNat n) := by
  have hhigh : Token.isHighSurrogate n = false := by
    simp only [Token.isHighSurrogate, Bool.and_eq_false_iff, decide_eq_false_iff_not]
    omega
  have hlow : Token.isLowSurrogate n = false := by
    simp only [Token.isLowSurrogate, Bool.and_eq_false_iff, decide_eq_false_iff_not]
    omega
  simp only [Partial.pushUnit, hp, hhigh, hlow, Bool.false_eq_true, ↓reduceIte]

theorem text?_escape {p : Partial} (hp : p.high = none) (c : Char) (rest : List Char) :
    text? p (escape c ++ rest) = text? (p.push c) rest := by
  unfold escape
  split_ifs with hq hs hb hf hn hr ht hc
  · rw [hq]; rfl
  · rw [hs]; rfl
  · rw [hb]; rfl
  · rw [hf]; rfl
  · rw [hn]; rfl
  · rw [hr]; rfl
  · rw [ht]; rfl
  · have hu := unit?_hexDigit (show c.toNat < 256 by omega)
    have hpush := pushUnit_of_lt hp (show c.toNat < 0xD800 by omega)
    rw [Char.ofNat_toNat] at hpush
    simp only [List.cons_append, List.nil_append, text?, hu, hpush]
  · rw [List.singleton_append, text?, if_neg hc]
    · exact hq
    · intro a b d e rest' h
      exact absurd h hs
    · intro d rest' h
      exact absurd h hs

theorem text?_quoted (taken cs rest : List Char) :
    text? ⟨taken, none, true⟩ (cs.foldr (fun c rest => escape c ++ rest) ('"' :: rest)) =
      some (.text (String.ofList (taken.reverse ++ cs)), rest) := by
  induction cs generalizing taken with
  | nil => rw [List.append_nil]; rfl
  | cons c cs ih =>
    have h := ih (c :: taken)
    rw [List.reverse_cons, List.append_assoc] at h
    rw [List.foldr_cons, text?_escape rfl]
    exact h

theorem first?_quoted (s : String) (rest : List Char) :
    first? (quoted s rest) = some (.text s, rest) := by
  have h := text?_quoted [] s.toList rest
  rw [List.reverse_nil, List.nil_append, String.ofList_toList] at h
  exact h

theorem length_lt_quoted (s : String) (rest : List Char) :
    rest.length < (quoted s rest).length := by
  have h : ∀ cs : List Char,
      rest.length < (cs.foldr (fun c rest => escape c ++ rest) ('"' :: rest)).length := by
    intro cs
    induction cs with
    | nil => exact Nat.lt_succ_self _
    | cons c cs ih =>
      rw [List.foldr_cons, List.length_append]
      omega
  exact Nat.lt_succ_of_lt (h s.toList)

def EndsNumber (l : List Char) : Prop :=
  ∀ c ∈ l.head?, c.isDigit = false ∧ c ≠ '.' ∧ c ≠ 'e' ∧ c ≠ 'E'

theorem EndsNumber.nil : EndsNumber [] := by
  intro c hc
  cases hc

variable {rest : List Char}

theorem digits_append {cs : List Char} (hcs : ∀ c ∈ cs, c.isDigit = true) (hrest : EndsNumber rest)
    (value : Nat) : digits value (cs ++ rest) = (Nat.ofDigitChars 10 cs value, rest) := by
  induction cs generalizing value with
  | nil =>
    cases rest with
    | nil => rfl
    | cons c rest =>
      have hc := (hrest c rfl).1
      rw [List.nil_append, digits, hc]
      rfl
  | cons c cs ih =>
    have hc := hcs c List.mem_cons_self
    have hrest := ih (fun d hd => hcs d (List.mem_cons_of_mem c hd)) (10 * value + (c.toNat - 48))
    rw [List.cons_append, digits, if_pos hc, hrest, Nat.ofDigitChars_cons]
    rfl

theorem head?_toDigits_ne_zero {n : Nat} (hn : 0 < n) : (Nat.toDigits 10 n).head? ≠ some '0' := by
  induction n using Nat.strongRecOn with
  | ind n ih =>
    rw [Nat.toDigits_eq_if (by decide)]
    split_ifs with hlt
    · have h : ∀ m < 10, 0 < m → [m.digitChar].head? ≠ some '0' := by decide
      exact h n hlt hn
    · have hquot := ih (n / 10) (by omega) (by omega)
      obtain ⟨c, cs, hl⟩ := List.exists_cons_of_ne_nil (Nat.toDigits_ne_nil (n := n / 10) (b := 10))
      rw [hl] at hquot ⊢
      exact hquot

theorem wholePart?_toDigits (n : Nat) (hrest : EndsNumber rest) :
    wholePart? (Nat.toDigits 10 n ++ rest) = some (n, rest) := by
  obtain rfl | hn := Nat.eq_zero_or_pos n
  · rw [Nat.toDigits_zero, List.singleton_append]
    cases rest with
    | nil => rfl
    | cons c rest =>
      have hc := (hrest c rfl).1
      simp only [wholePart?, hc, Bool.false_eq_true, ↓reduceIte]
  · have hdigits : ∀ c ∈ Nat.toDigits 10 n, c.isDigit = true :=
      fun c hc => Nat.isDigit_of_mem_toDigits (by decide) (Nat.le_refl 10) hc
    have hvalue := Nat.ofDigitChars_ten_toDigits (n := n)
    have hzero := head?_toDigits_ne_zero hn
    cases hl : Nat.toDigits 10 n with
    | nil => exact absurd hl Nat.toDigits_ne_nil
    | cons c cs =>
      rw [hl] at hdigits hvalue hzero
      have hc := hdigits c List.mem_cons_self
      have h := digits_append (fun d hd => hdigits d (List.mem_cons_of_mem c hd)) hrest
        (c.toNat - 48)
      rw [Nat.ofDigitChars_cons, Nat.mul_zero, Nat.zero_add] at hvalue
      rw [List.cons_append, wholePart?, if_pos hc, h]
      · exact congrArg (fun m => some (m, rest)) hvalue
      · rintro rfl
        exact hzero rfl

theorem fraction?_of_ends (hrest : EndsNumber rest) : fraction? rest = some (false, rest) := by
  cases rest with
  | nil => rfl
  | cons c rest =>
    rw [fraction?]
    intro _ h
    exact (hrest c rfl).2.1 (List.cons.inj h).1

theorem exponent?_of_ends (hrest : EndsNumber rest) : exponent? rest = some (false, rest) := by
  cases rest with
  | nil => rfl
  | cons c rest =>
    obtain ⟨-, -, he, hE⟩ := hrest c rfl
    refine if_neg ?_
    rintro (h | h)
    · exact he h
    · exact hE h

theorem number?_toDigits (n : Nat) (hrest : EndsNumber rest) :
    number? false (Nat.toDigits 10 n ++ rest) = some (.whole n, rest) := by
  simp only [number?, wholePart?_toDigits n hrest, fraction?_of_ends hrest,
    exponent?_of_ends hrest, Bool.false_and, Bool.or_self, Bool.false_eq_true, ↓reduceIte]

theorem number?_negative (n : Nat) (hrest : EndsNumber rest) :
    number? true (Nat.toDigits 10 (n + 1) ++ rest) = some (.whole (Int.negSucc n), rest) := by
  simp only [number?, wholePart?_toDigits (n + 1) hrest, fraction?_of_ends hrest,
    exponent?_of_ends hrest, Bool.true_and, Bool.or_self]
  rfl

theorem first?_of_isDigit {c : Char} (hc : c.isDigit = true) (l : List Char) :
    first? (c :: l) = number? false (c :: l) := by
  have hne : ∀ d : Char, d.isDigit = false → c ≠ d := by
    rintro d hd rfl
    rw [hc] at hd
    cases hd
  rw [first?]
  all_goals simp [hne]

theorem first?_number (n : Int) (hrest : EndsNumber rest) :
    first? (number n rest) = some (.whole n, rest) := by
  cases n with
  | ofNat n =>
    have hn := number?_toDigits n hrest
    rw [number]
    cases hl : Nat.toDigits 10 n with
    | nil => exact absurd hl Nat.toDigits_ne_nil
    | cons c cs =>
      have hc : c.isDigit = true := Nat.isDigit_of_mem_toDigits (n := n) (by decide) (Nat.le_refl 10)
        (hl ▸ List.mem_cons_self)
      rw [hl] at hn
      rw [List.cons_append, first?_of_isDigit hc]
      exact hn
  | negSucc n => exact number?_negative n hrest

theorem length_lt_number (n : Int) (rest : List Char) :
    rest.length < (number n rest).length := by
  have h : ∀ m, rest.length < (Nat.toDigits 10 m ++ rest).length := by
    intro m
    have hpos := List.length_pos_iff.mpr (Nat.toDigits_ne_nil (n := m) (b := 10))
    rw [List.length_append]
    omega
  cases n with
  | ofNat n => exact h n
  | negSucc n => exact Nat.lt_succ_of_lt (h (n + 1))

end Linewatch.Json
