import Mathlib.Data.List.TakeWhile
import Linewatch.Proofs.Pattern.Ink

namespace Linewatch

theorem CharClass.contains_char {c d : Char} : (char c).contains d = decide (d = c) := by
  rw [Bool.eq_iff_iff]
  simp only [char, contains, Bool.and_eq_true, decide_eq_true_eq]
  exact ⟨fun h => Char.le_antisymm h.2 h.1, fun h => h ▸ ⟨Char.le_refl _, Char.le_refl _⟩⟩

namespace Pattern

variable {p q : Pattern} {l m : List Pattern} {before body after rest line : List Char}
  {cls : CharClass} {greedy : Bool} {c : Char}

/-- Whether a pattern matches a text that stands between two others. -/
def Fits (p : Pattern) (before body after : List Char) : Prop :=
  p.Matches (before ++ body ++ after).toArray before.length (before ++ body).length

/-- Whether a pattern matches at the beginning of a text that stands after another. -/
def Begins (p : Pattern) (before rest : List Char) : Prop :=
  ∃ body after, rest = body ++ after ∧ p.Fits before body after

theorem exists_append_of_le {k : Nat} (h : before.length ≤ k) (hk : k ≤ (before ++ body).length) :
    ∃ x y, body = x ++ y ∧ (before ++ x).length = k := by
  refine ⟨body.take (k - before.length), body.drop (k - before.length), ?_, ?_⟩
  · rw [List.take_append_drop]
  · rw [List.length_append] at *
    rw [List.length_take]
    omega

theorem eq_nil_of_length_eq (h : before.length = (before ++ body).length) :
    body = [] := by
  rwa [List.length_append, Nat.left_eq_add, List.length_eq_zero_iff] at h

/-- A match between two places is one of the text between them. -/
theorem Matches.exists_fits {i j : Nat} (hi : i ≤ line.length) (h : p.Matches line.toArray i j) :
    ∃ before body after, line = before ++ body ++ after ∧ before.length = i ∧
      (before ++ body).length = j ∧ p.Fits before body after := by
  have hj := h.le_size (by rwa [List.size_toArray])
  rw [List.size_toArray] at hj
  obtain ⟨before, rest, rfl, rfl⟩ : ∃ before rest, line = before ++ rest ∧ before.length = i :=
    ⟨line.take i, line.drop i, (List.take_append_drop i line).symm, List.length_take_of_le hi⟩
  obtain ⟨body, after, rfl, rfl⟩ := exists_append_of_le h.le hj
  refine ⟨before, body, after, (List.append_assoc _ _ _).symm, rfl, rfl, ?_⟩
  rwa [Fits, List.append_assoc]

theorem occurs_iff_begins :
    p.Occurs line.toArray ↔ ∃ before rest, line = before ++ rest ∧ p.Begins before rest := by
  constructor
  · rintro ⟨i, j, hi, h⟩
    obtain ⟨before, body, after, rfl, -, -, h⟩ := h.exists_fits (by rwa [List.size_toArray] at hi)
    exact ⟨before, _, List.append_assoc _ _ _, body, after, rfl, h⟩
  · rintro ⟨before, rest, rfl, body, after, rfl, h⟩
    rw [Fits, List.append_assoc] at h
    exact ⟨_, _, by simp, h⟩

theorem fits_cat : (cat p q).Fits before body after ↔
    ∃ x y, body = x ++ y ∧ p.Fits before x (y ++ after) ∧ q.Fits (before ++ x) y after := by
  simp only [Fits, Matches]
  constructor
  · rintro ⟨k, hp, hq⟩
    obtain ⟨x, y, rfl, rfl⟩ := exists_append_of_le hp.le hq.le
    refine ⟨x, y, rfl, ?_, ?_⟩
    · simpa only [List.append_assoc] using hp
    · simpa only [List.append_assoc] using hq
  · rintro ⟨x, y, rfl, hp, hq⟩
    refine ⟨(before ++ x).length, ?_, ?_⟩
    · simpa only [List.append_assoc] using hp
    · simpa only [List.append_assoc] using hq

theorem fits_alt : (alt p q).Fits before body after ↔
    p.Fits before body after ∨ q.Fits before body after := Iff.rfl

theorem fits_empty : empty.Fits before body after ↔ body = [] := by
  rw [Fits, Matches]
  constructor
  · exact eq_nil_of_length_eq
  · rintro rfl
    rw [List.append_nil]

theorem fits_one : (one cls).Fits before body after ↔ ∃ c, body = [c] ∧ cls.contains c = true := by
  have hsize : (before ++ body).length = before.length + 1 ↔ body.length = 1 := by
    rw [List.length_append, Nat.add_left_cancel_iff]
  rw [Fits, Matches, hsize, List.length_eq_one_iff]
  constructor
  · rintro ⟨⟨c, hc, hm⟩, d, rfl⟩
    obtain rfl : d = c := by simpa using hc
    exact ⟨d, rfl, hm⟩
  · rintro ⟨c, rfl, hm⟩
    exact ⟨⟨c, by simp, hm⟩, c, rfl⟩

theorem fits_look {a : Anchor} : (look a).Fits before body after ↔
    body = [] ∧ a.holds before.getLast? after.head? = true := by
  have hholds : a.holdsAt (before ++ [] ++ after).toArray before.length =
      a.holds before.getLast? after.head? := by
    rw [Anchor.holdsAt, List.append_nil]
    congr 1
    · cases hb : before.reverse with
      | nil => simp [List.reverse_eq_nil_iff.mp hb]
      | cons c front =>
        obtain rfl : before = front.reverse ++ [c] := by
          rw [← List.reverse_cons, ← hb, List.reverse_reverse]
        simp
    · rw [List.getElem?_toArray, List.getElem?_append_right (Nat.le_refl _), Nat.sub_self,
        List.head?_eq_getElem?]
  rw [Fits, Matches]
  constructor
  · rintro ⟨h, hlength⟩
    obtain rfl := eq_nil_of_length_eq hlength
    exact ⟨rfl, hholds ▸ h⟩
  · rintro ⟨rfl, h⟩
    exact ⟨hholds.trans h, by rw [List.append_nil]⟩

theorem rounds_one_iff {n : Nat} :
    Rounds ((one cls).Matches (before ++ body ++ after).toArray) n before.length
        (before ++ body).length ↔ body.length = n ∧ ∀ c ∈ body, cls.contains c = true := by
  induction n generalizing before body with
  | zero =>
    rw [Rounds, List.length_append, Nat.left_eq_add, List.length_eq_zero_iff]
    exact ⟨fun h => ⟨h, by simp [h]⟩, And.left⟩
  | succ n ih =>
    rw [Rounds]
    constructor
    · rintro ⟨k, hk, hr⟩
      obtain ⟨x, y, rfl, rfl⟩ :=
        exists_append_of_le hk.le (le_of_rounds (fun _ _ => Matches.le) hr)
      have hfits : (one cls).Fits before x (y ++ after) := by
        simpa only [Fits, List.append_assoc] using hk
      obtain ⟨c, rfl, hc⟩ := fits_one.mp hfits
      have hrest : Rounds ((one cls).Matches (before ++ [c] ++ y ++ after).toArray) n
          (before ++ [c]).length (before ++ [c] ++ y).length := by
        simpa only [List.append_assoc] using hr
      obtain ⟨hy, hall⟩ := ih.mp hrest
      exact ⟨by simp [hy], by simpa [hc] using hall⟩
    · rintro ⟨hn, hall⟩
      cases body with
      | nil => cases hn
      | cons c body =>
        rw [List.forall_mem_cons] at hall
        have hfirst : (one cls).Fits before [c] (body ++ after) := fits_one.mpr ⟨c, rfl, hall.1⟩
        refine ⟨(before ++ [c]).length, by simpa [Fits] using hfirst, ?_⟩
        have hrest : Rounds ((one cls).Matches (before ++ [c] ++ body ++ after).toArray) n
            (before ++ [c]).length (before ++ [c] ++ body).length :=
          ih.mpr ⟨Nat.succ.inj hn, hall.2⟩
        simpa using hrest

theorem fits_rep_one {least : Nat} {most : Option Nat} :
    (rep (one cls) least most greedy).Fits before body after ↔
      least ≤ body.length ∧ (∀ k, most = some k → body.length ≤ max least k) ∧
        ∀ c ∈ body, cls.contains c = true := by
  have hrep : (rep (one cls) least most greedy).Fits before body after ↔
      ∃ n, (least ≤ n ∧ ∀ k, most = some k → n ≤ max least k) ∧
        Rounds ((one cls).Matches (before ++ body ++ after).toArray) n before.length
          (before ++ body).length := Iff.rfl
  simp only [hrep, rounds_one_iff]
  constructor
  · rintro ⟨n, ⟨hl, hm⟩, rfl, hall⟩
    exact ⟨hl, hm, hall⟩
  · rintro ⟨hl, hm, hall⟩
    exact ⟨_, ⟨hl, hm⟩, rfl, hall⟩

def char (c : Char) : Pattern := .one (.char c)

def spelled (w : String) : List Pattern := w.toList.map char

def blanks : Pattern := .rep (.one .blank) 0 none true

def optional (p : Pattern) : Pattern := .rep p 0 (some 1) true

def oneOf (words : List String) : Pattern := .altAll (words.map fun w => .catAll (spelled w))

theorem fits_char : (char c).Fits before body after ↔ body = [c] := by
  rw [char, fits_one]
  simp only [CharClass.contains_char, decide_eq_true_eq]
  exact ⟨fun ⟨d, hd, h⟩ => h ▸ hd, fun h => ⟨c, h, rfl⟩⟩

theorem fits_blanks :
    blanks.Fits before body after ↔ ∀ c ∈ body, Text.isBlank c = true := by
  rw [blanks, fits_rep_one]
  simp [CharClass.contains]

theorem fits_optional : (optional p).Fits before body after ↔
    body = [] ∨ p.Fits before body after := by
  have hempty : body = [] ↔ empty.Fits before body after := fits_empty.symm
  rw [optional, Fits, matches_option, hempty]
  rfl

theorem fits_andThen : (p.andThen q).Fits before body after ↔ (cat p q).Fits before body after :=
  matches_andThen

theorem fits_catAll_cons : (catAll (p :: l)).Fits before body after ↔
    ∃ x y, body = x ++ y ∧ p.Fits before x (y ++ after) ∧
      (catAll l).Fits (before ++ x) y after := by
  rw [catAll, fits_andThen, fits_cat]

theorem fits_catAll_nil : (catAll []).Fits before body after ↔ body = [] := fits_empty

theorem fits_look_cons {a : Anchor} : (catAll (look a :: l)).Fits before body after ↔
    a.holds before.getLast? (body ++ after).head? = true ∧ (catAll l).Fits before body after := by
  simp only [fits_catAll_cons, fits_look]
  constructor
  · rintro ⟨_, body, rfl, ⟨rfl, ha⟩, h⟩
    exact ⟨ha, by simpa using h⟩
  · rintro ⟨ha, h⟩
    exact ⟨[], body, rfl, ⟨rfl, ha⟩, by simpa using h⟩

theorem fits_catAll_singleton : (catAll [p]).Fits before body after ↔ p.Fits before body after := by
  rw [catAll, fits_andThen, fits_cat]
  constructor
  · rintro ⟨x, y, rfl, hp, hy⟩
    obtain rfl := fits_empty.mp hy
    simpa using hp
  · intro h
    exact ⟨body, [], (List.append_nil _).symm, h, fits_empty.mpr rfl⟩

theorem fits_catAll_append : (catAll (l ++ m)).Fits before body after ↔
    ∃ x y, body = x ++ y ∧ (catAll l).Fits before x (y ++ after) ∧
      (catAll m).Fits (before ++ x) y after := by
  induction l generalizing before body with
  | nil =>
    constructor
    · intro h
      exact ⟨[], body, rfl, fits_empty.mpr rfl, by simpa using h⟩
    · rintro ⟨x, y, rfl, hx, h⟩
      obtain rfl := fits_empty.mp hx
      simpa using h
  | cons p l ih =>
    simp only [List.cons_append, fits_catAll_cons, ih]
    constructor
    · rintro ⟨x, _, rfl, hx, y, z, rfl, hy, hz⟩
      refine ⟨x ++ y, z, by simp, ⟨x, y, rfl, by simpa using hx, hy⟩, by simpa using hz⟩
    · rintro ⟨_, z, rfl, ⟨x, y, rfl, hx, hy⟩, hz⟩
      exact ⟨x, y ++ z, by simp, by simpa using hx, y, z, rfl, hy, by simpa using hz⟩

/-- What ends with rounds of a class has a run of its characters at the end. -/
theorem Fits.exists_suffix_of_rep {least : Nat} {most : Option Nat}
    (h : (catAll (l ++ [rep (one cls) least most greedy])).Fits before body after) :
    ∃ w, w <:+ body ∧ least ≤ w.length ∧ ∀ c ∈ w, cls.contains c = true := by
  obtain ⟨x, w, rfl, -, h⟩ := fits_catAll_append.mp h
  obtain ⟨hlength, -, hw⟩ := fits_rep_one.mp (fits_catAll_singleton.mp h)
  exact ⟨w, List.suffix_append _ _, hlength, hw⟩

theorem fits_spelled {w : String} :
    (catAll (spelled w)).Fits before body after ↔ body = w.toList := by
  rw [spelled]
  induction w.toList generalizing before body with
  | nil => exact fits_empty
  | cons c w ih =>
    rw [List.map_cons, fits_catAll_cons]
    simp only [fits_char, ih]
    constructor
    · rintro ⟨_, _, rfl, rfl, rfl⟩
      rfl
    · rintro rfl
      exact ⟨[c], w, rfl, rfl, rfl⟩

theorem fits_altAll : (altAll l).Fits before body after ↔ ∃ p ∈ l, p.Fits before body after := by
  induction l with
  | nil => simp [altAll, fits_one, CharClass.contains]
  | cons p l ih =>
    cases l with
    | nil => simp [altAll]
    | cons q l =>
      have halt : altAll (p :: q :: l) = alt p (altAll (q :: l)) := rfl
      rw [halt, fits_alt, ih]
      simp

theorem begins_altAll : (altAll l).Begins before rest ↔ ∃ p ∈ l, p.Begins before rest := by
  simp only [Begins, fits_altAll]
  constructor
  · rintro ⟨body, after, hr, p, hp, h⟩
    exact ⟨p, hp, body, after, hr, h⟩
  · rintro ⟨p, hp, body, after, hr, h⟩
    exact ⟨body, after, hr, p, hp, h⟩

theorem begins_one : (one cls).Begins before rest ↔ ∃ c t, rest = c :: t ∧ cls.contains c = true := by
  simp only [Begins, fits_one]
  constructor
  · rintro ⟨_, after, rfl, c, rfl, hc⟩
    exact ⟨c, after, rfl, hc⟩
  · rintro ⟨c, t, rfl, hc⟩
    exact ⟨[c], t, rfl, c, rfl, hc⟩

theorem begins_cat : (cat p q).Begins before rest ↔
    ∃ x y, rest = x ++ y ∧ p.Fits before x y ∧ q.Begins (before ++ x) y := by
  simp only [Begins, fits_cat]
  constructor
  · rintro ⟨_, after, rfl, x, y, rfl, hp, hq⟩
    exact ⟨x, y ++ after, List.append_assoc _ _ _, hp, y, after, rfl, hq⟩
  · rintro ⟨x, _, rfl, hp, y, after, rfl, hq⟩
    exact ⟨x ++ y, after, (List.append_assoc _ _ _).symm, x, y, rfl, hp, hq⟩

theorem begins_catAll_nil : (catAll []).Begins before rest ↔ True := by
  rw [iff_true]
  exact ⟨[], rest, rfl, fits_empty.mpr rfl⟩

theorem begins_catAll_cons : (catAll (p :: l)).Begins before rest ↔
    ∃ x y, rest = x ++ y ∧ p.Fits before x y ∧ (catAll l).Begins (before ++ x) y := by
  rw [← begins_cat]
  simp only [Begins, catAll, fits_andThen]

theorem begins_catAll_singleton : (catAll [p]).Begins before rest ↔ p.Begins before rest := by
  simp only [begins_catAll_cons, begins_catAll_nil, and_true]
  rfl

theorem begins_char : (catAll (char c :: l)).Begins before rest ↔
    ∃ t, rest = c :: t ∧ (catAll l).Begins (before ++ [c]) t := by
  simp only [begins_catAll_cons, fits_char]
  constructor
  · rintro ⟨_, t, rfl, rfl, h⟩
    exact ⟨t, rfl, h⟩
  · rintro ⟨t, rfl, h⟩
    exact ⟨[c], t, rfl, rfl, h⟩

theorem begins_lastChar : (catAll [char c]).Begins before rest ↔ rest.head? = some c := by
  simp only [begins_char, begins_catAll_nil, and_true, List.head?_eq_some_iff]

theorem begins_spelled {w : String} : (catAll (spelled w ++ l)).Begins before rest ↔
    ∃ t, rest = w.toList ++ t ∧ (catAll l).Begins (before ++ w.toList) t := by
  rw [spelled]
  induction w.toList generalizing before rest with
  | nil => simp
  | cons c w ih =>
    rw [List.map_cons, List.cons_append, begins_char]
    simp only [ih, List.append_assoc, List.singleton_append]
    constructor
    · rintro ⟨_, rfl, t, rfl, h⟩
      exact ⟨t, rfl, h⟩
    · rintro ⟨t, rfl, h⟩
      exact ⟨_, rfl, t, rfl, h⟩

/-- What begins with a sequence of patterns that spells a word has the word in it. -/
theorem Begins.infix_of_spelled {w : String} (h : (catAll (l ++ spelled w ++ m)).Begins before rest) :
    w.toList <:+: rest := by
  induction l generalizing before rest with
  | nil =>
    obtain ⟨t, rfl, -⟩ := begins_spelled.mp h
    exact (List.prefix_append _ _).isInfix
  | cons p l ih =>
    obtain ⟨x, y, rfl, -, h⟩ := begins_catAll_cons.mp h
    exact (ih h).trans (List.suffix_append _ _).isInfix

theorem begins_oneOf {words : List String} : (catAll (oneOf words :: l)).Begins before rest ↔
    ∃ w ∈ words, ∃ t, rest = w.toList ++ t ∧ (catAll l).Begins (before ++ w.toList) t := by
  simp only [begins_catAll_cons, oneOf, fits_altAll, List.mem_map,
    exists_exists_and_eq_and, fits_spelled]
  constructor
  · rintro ⟨_, t, rfl, ⟨w, hw, rfl⟩, h⟩
    exact ⟨w, hw, t, rfl, h⟩
  · rintro ⟨w, hw, t, rfl, h⟩
    exact ⟨_, t, rfl, ⟨w, hw, rfl⟩, h⟩

theorem begins_optional : (catAll (optional p :: l)).Begins before rest ↔
    (catAll l).Begins before rest ∨ (catAll (p :: l)).Begins before rest := by
  simp only [begins_catAll_cons, fits_optional]
  constructor
  · rintro ⟨x, y, rfl, rfl | hx, h⟩
    · exact .inl (by simpa using h)
    · exact .inr ⟨x, y, rfl, hx, h⟩
  · rintro (h | ⟨x, y, rfl, hx, h⟩)
    · exact ⟨[], rest, rfl, .inl rfl, by simpa using h⟩
    · exact ⟨x, y, rfl, .inr hx, h⟩

theorem Begins.exists_ink (hp : p.beginsInInk = true) (h : p.Begins before rest) :
    ∃ c t, rest = c :: t ∧ Text.isBlank c = false := by
  obtain ⟨body, after, rfl, h⟩ := h
  obtain ⟨c, hc, hink⟩ := Matches.begins hp h
  rw [List.append_assoc, List.getElem?_toArray, List.getElem?_append_right (Nat.le_refl _),
    Nat.sub_self, ← List.head?_eq_getElem?, List.head?_eq_some_iff] at hc
  obtain ⟨t, ht⟩ := hc
  exact ⟨c, t, ht, hink⟩

theorem begins_blanks
    (hl : ∀ {before rest c}, (catAll l).Begins before (c :: rest) → Text.isBlank c = false) :
    (catAll (blanks :: l)).Begins before rest ↔
      (catAll l).Begins (before ++ rest.takeWhile Text.isBlank) (Text.trimLeft rest) := by
  simp only [begins_catAll_cons, fits_blanks]
  constructor
  · rintro ⟨x, y, rfl, hx, h⟩
    have hy : y.takeWhile Text.isBlank = [] ∧ y.dropWhile Text.isBlank = y := by
      cases y with
      | nil => exact ⟨rfl, rfl⟩
      | cons c y =>
        have hc : ¬ Text.isBlank c = true := by simp [hl h]
        exact ⟨List.takeWhile_cons_of_neg hc, List.dropWhile_cons_of_neg hc⟩
    rwa [Text.trimLeft, List.takeWhile_append_of_pos hx, List.dropWhile_append_of_pos hx, hy.1, hy.2,
      List.append_nil]
  · intro h
    refine ⟨_, _, List.takeWhile_append_dropWhile.symm, ?_, h⟩
    exact fun c hc => List.mem_takeWhile_imp hc

theorem begins_blanks_char (hc : Text.isBlank c = false) :
    (catAll [blanks, char c]).Begins before rest ↔ (Text.trimLeft rest).head? = some c := by
  rw [begins_blanks, begins_lastChar]
  intro _ _ d h
  rw [begins_lastChar, List.head?_cons, Option.some.injEq] at h
  rwa [h]

theorem begins_parenthesis :
    (catAll [blanks, char '(']).Begins before rest ↔ (Text.trimLeft rest).head? = some '(' :=
  begins_blanks_char (by decide)

end Pattern

end Linewatch
