import Linewatch.Proofs.Pattern.Window

namespace Linewatch

namespace CharClass

def isInk (a : CharClass) : Bool := Text.blanks.all fun c => !a.contains c

def holdsBlanks (a : CharClass) : Bool := Text.blanks.all a.contains

variable {a : CharClass} {c : Char}

theorem isBlank_of_isInk (h : a.isInk = true) (hc : a.contains c = true) : Text.isBlank c = false := by
  refine Bool.eq_false_iff.mpr fun hb => ?_
  have hnot := List.all_eq_true.mp h c (Text.mem_blanks hb)
  simp [hc] at hnot

theorem contains_of_holdsBlanks (h : a.holdsBlanks = true) (hc : Text.isBlank c = true) :
    a.contains c = true :=
  List.all_eq_true.mp h c (Text.mem_blanks hc)

end CharClass

namespace Pattern

def takesNothing : Pattern → Bool
  | empty | look _ => true
  | one _ => false
  | cat p q | alt p q => p.takesNothing && q.takesNothing
  | rep p _ _ _ => p.takesNothing

def beginsInInk : Pattern → Bool
  | empty | look _ => false
  | one cls => cls.isInk
  | cat p q => p.beginsInInk || p.takesNothing && q.beginsInInk
  | alt p q => p.beginsInInk && q.beginsInInk
  | rep p least _ _ => decide (1 ≤ least) && p.beginsInInk

def endsInInk : Pattern → Bool
  | empty | look _ => false
  | one cls => cls.isInk
  | cat p q => q.endsInInk || q.takesNothing && p.endsInInk
  | alt p q => p.endsInInk && q.endsInInk
  | rep p least _ _ => decide (1 ≤ least) && p.endsInInk

variable {p q : Pattern} {chars before body after : Array Char} {i j : Nat}

theorem eq_of_rounds {R : Nat → Nat → Prop} (hR : ∀ i j, R i j → i = j) {n : Nat}
    (h : Rounds R n i j) : i = j := by
  induction n generalizing i with
  | zero => exact h
  | succ n ih =>
    obtain ⟨k, hk, h⟩ := h
    exact (hR i k hk).trans (ih h)

theorem Matches.eq_of_takesNothing (hp : p.takesNothing = true) (h : p.Matches chars i j) :
    i = j := by
  induction p generalizing i j with
  | empty => exact h
  | one => cases hp
  | look => exact h.2
  | cat p q ihp ihq =>
    simp only [takesNothing, Bool.and_eq_true] at hp
    obtain ⟨k, hk, hq⟩ := h
    exact (ihp hp.1 hk).trans (ihq hp.2 hq)
  | alt p q ihp ihq =>
    simp only [takesNothing, Bool.and_eq_true] at hp
    exact h.elim (ihp hp.1) (ihq hp.2)
  | rep p least most greedy ih =>
    obtain ⟨n, -, h⟩ := h
    exact eq_of_rounds (fun _ _ => ih hp) h

theorem exists_first_round {R : Nat → Nat → Prop} {n : Nat} (hn : 1 ≤ n) (h : Rounds R n i j) :
    ∃ k, R i k ∧ Rounds R (n - 1) k j := by
  obtain ⟨n, rfl⟩ := Nat.exists_eq_add_of_le' hn
  exact h

theorem exists_last_round {R : Nat → Nat → Prop} {n : Nat} (hn : 1 ≤ n) (h : Rounds R n i j) :
    ∃ k, R k j := by
  obtain ⟨n, rfl⟩ := Nat.exists_eq_add_of_le' hn
  obtain ⟨k, -, l, hl, rfl⟩ := rounds_add.mp h
  exact ⟨k, hl⟩

theorem Matches.lt_of_takesSome (hp : p.takesSome = true) (h : p.Matches chars i j) : i < j := by
  induction p generalizing i j with
  | empty | look => cases hp
  | one cls =>
    obtain ⟨-, rfl⟩ := h
    exact Nat.lt_succ_self i
  | cat p q ihp ihq =>
    simp only [takesSome, Bool.or_eq_true] at hp
    obtain ⟨k, hk, hq⟩ := h
    obtain hp | hp := hp
    · exact Nat.lt_of_lt_of_le (ihp hp hk) hq.le
    · exact Nat.lt_of_le_of_lt hk.le (ihq hp hq)
  | alt p q ihp ihq =>
    simp only [takesSome, Bool.and_eq_true] at hp
    exact h.elim (ihp hp.1) (ihq hp.2)
  | rep p least most greedy ih =>
    simp only [takesSome, Bool.and_eq_true, decide_eq_true_eq] at hp
    obtain ⟨n, hn, h⟩ := h
    obtain ⟨k, hk, h⟩ := exists_first_round (Nat.le_trans hp.1 hn.1) h
    exact Nat.lt_of_lt_of_le (ih hp.2 hk) (le_of_rounds (fun _ _ => Matches.le) h)

def roundsTakeSome : Pattern → Bool
  | empty | one _ | look _ => true
  | cat p q | alt p q => p.roundsTakeSome && q.roundsTakeSome
  | rep p _ none _ => p.roundsTakeSome && p.takesSome
  | rep p _ (some _) _ => p.roundsTakeSome

theorem progresses_of_roundsTakeSome (h : p.roundsTakeSome = true) : p.Progresses chars := by
  induction p with
  | empty | one | look => trivial
  | cat p q hp hq | alt p q hp hq =>
    simp only [roundsTakeSome, Bool.and_eq_true] at h
    exact ⟨hp h.1, hq h.2⟩
  | rep p least most greedy hp =>
    cases most with
    | some most => exact hp h
    | none =>
      simp only [roundsTakeSome, Bool.and_eq_true] at h
      exact ⟨hp h.1, fun i hm => Nat.lt_irrefl i (hm.lt_of_takesSome h.2)⟩

theorem Matches.begins (hp : p.beginsInInk = true) (h : p.Matches chars i j) :
    ∃ c, chars[i]? = some c ∧ Text.isBlank c = false := by
  induction p generalizing i j with
  | empty | look => cases hp
  | one cls =>
    obtain ⟨⟨c, hc, hm⟩, -⟩ := h
    exact ⟨c, hc, CharClass.isBlank_of_isInk hp hm⟩
  | cat p q ihp ihq =>
    simp only [beginsInInk, Bool.or_eq_true, Bool.and_eq_true] at hp
    obtain ⟨k, hk, hq⟩ := h
    obtain hp | ⟨hp, hq'⟩ := hp
    · exact ihp hp hk
    · obtain rfl := hk.eq_of_takesNothing hp
      exact ihq hq' hq
  | alt p q ihp ihq =>
    simp only [beginsInInk, Bool.and_eq_true] at hp
    exact h.elim (ihp hp.1) (ihq hp.2)
  | rep p least most greedy ih =>
    simp only [beginsInInk, Bool.and_eq_true, decide_eq_true_eq] at hp
    obtain ⟨n, hn, h⟩ := h
    obtain ⟨k, hk, -⟩ := exists_first_round (Nat.le_trans hp.1 hn.1) h
    exact ih hp.2 hk

theorem Matches.ends (hp : p.endsInInk = true) (h : p.Matches chars i j) :
    ∃ k c, j = k + 1 ∧ chars[k]? = some c ∧ Text.isBlank c = false := by
  induction p generalizing i j with
  | empty | look => cases hp
  | one cls =>
    obtain ⟨⟨c, hc, hm⟩, rfl⟩ := h
    exact ⟨i, c, rfl, hc, CharClass.isBlank_of_isInk hp hm⟩
  | cat p q ihp ihq =>
    simp only [endsInInk, Bool.or_eq_true, Bool.and_eq_true] at hp
    obtain ⟨k, hk, hq⟩ := h
    obtain hp | ⟨hq', hp⟩ := hp
    · exact ihq hp hq
    · obtain rfl := hq.eq_of_takesNothing hq'
      exact ihp hp hk
  | alt p q ihp ihq =>
    simp only [endsInInk, Bool.and_eq_true] at hp
    exact h.elim (ihp hp.1) (ihq hp.2)
  | rep p least most greedy ih =>
    simp only [endsInInk, Bool.and_eq_true, decide_eq_true_eq] at hp
    obtain ⟨n, hn, h⟩ := h
    obtain ⟨k, hk⟩ := exists_last_round (Nat.le_trans hp.1 hn.1) h
    exact ih hp.2 hk

/-- Whether white space put before a text changes nothing about whether a pattern matches there: every
match begins with ink, but for a character before it that may be white space or missing. -/
def ignoresIndent : Pattern → Bool
  | alt p q => p.ignoresIndent && q.ignoresIndent
  | cat (alt (look .textStart) (one cls)) q =>
    cls.holdsBlanks && (q.beginsInInk && q.anchorsAre Anchor.isWordEdge)
  | p => p.beginsInInk && p.anchorsAre Anchor.isWordEdge

theorem le_of_begins (hb : ∀ c ∈ before, Text.isBlank c = true) (hp : p.beginsInInk = true)
    (h : p.Matches (before ++ body) i j) : before.size ≤ i := by
  obtain ⟨c, hc, hink⟩ := h.begins hp
  refine Nat.le_of_not_lt fun hlt => ?_
  rw [Array.getElem?_append_left hlt] at hc
  rw [hb c (Array.mem_of_getElem? hc)] at hink
  cases hink

/-- A match that begins after the white space before a text is one in the text. -/
theorem exists_matches_of_le (hb : ∀ c ∈ before, Text.isBlank c = true)
    (hp : p.anchorsAre Anchor.isWordEdge = true) (hle : before.size ≤ i)
    (hi : i ≤ (before ++ body).size) (h : p.Matches (before ++ body) i j) :
    ∃ i' j', i = before.size + i' ∧ j = before.size + j' ∧ i' ≤ body.size ∧
      p.Matches body i' j' := by
  have hj := h.le_size hi
  have hij := h.le
  rw [Array.size_append] at hi hj
  obtain ⟨i', rfl⟩ := Nat.exists_eq_add_of_le hle
  obtain ⟨j', rfl⟩ := Nat.exists_eq_add_of_le (Nat.le_trans hle hij)
  have hw : Window Anchor.isWordEdge (before ++ body) before.size body := .after_blanks hb
  exact ⟨i', j', rfl, rfl, by omega, (hw.matches_iff hp (by omega)).mp h⟩

theorem occurs_append_left_of_begins (hb : ∀ c ∈ before, Text.isBlank c = true)
    (hp : p.beginsInInk = true) (ha : p.anchorsAre Anchor.isWordEdge = true) :
    p.Occurs (before ++ body) ↔ p.Occurs body := by
  constructor
  · rintro ⟨i, j, hi, h⟩
    obtain ⟨i', j', -, -, hi', h'⟩ := exists_matches_of_le hb ha (le_of_begins hb hp h) hi h
    exact ⟨i', j', hi', h'⟩
  · rintro ⟨i, j, hi, h⟩
    have hw : Window Anchor.isWordEdge (before ++ body) before.size body := .after_blanks hb
    refine ⟨before.size + i, before.size + j, ?_, (hw.matches_iff ha (h.le_size hi)).mpr h⟩
    rw [Array.size_append]
    omega

theorem holdsAt_textStart_iff (hi : i ≤ chars.size) :
    Anchor.textStart.holdsAt chars i = true ↔ i = 0 := by
  cases i with
  | zero => simp [Anchor.holdsAt, Anchor.holds]
  | succ i => simp [Anchor.holdsAt, Anchor.holds, Array.getElem?_eq_getElem hi]

theorem occurs_append_left_of_class {cls : CharClass} (hb : ∀ c ∈ before, Text.isBlank c = true)
    (hcls : cls.holdsBlanks = true) (hq : q.beginsInInk = true)
    (ha : q.anchorsAre Anchor.isWordEdge = true) :
    (cat (alt (look .textStart) (one cls)) q).Occurs (before ++ body) ↔
      (cat (alt (look .textStart) (one cls)) q).Occurs body := by
  obtain h0 | hpos := Nat.eq_zero_or_pos before.size
  · rw [Array.eq_empty_of_size_eq_zero h0, Array.empty_append]
  have hw : Window Anchor.isWordEdge (before ++ body) before.size body := .after_blanks hb
  constructor
  · rintro ⟨i, j, hi, k, halt, h⟩
    have hle := le_of_begins hb hq h
    obtain ⟨k', j', rfl, -, hk', h'⟩ := exists_matches_of_le hb ha hle (halt.le_size hi) h
    obtain ⟨hlook, rfl⟩ | ⟨⟨c, hc, hm⟩, hik⟩ := halt
    · have := (holdsAt_textStart_iff hi).mp hlook
      omega
    · cases k' with
      | zero => exact ⟨0, j', hk', 0, .inl ⟨(holdsAt_textStart_iff hk').mpr rfl, rfl⟩, h'⟩
      | succ k' =>
        obtain rfl : i = before.size + k' := by omega
        rw [hw.chars k' hk'] at hc
        exact ⟨k', j', by omega, k' + 1, .inr ⟨⟨c, hc, hm⟩, rfl⟩, h'⟩
  · rintro ⟨i, j, hi, k, halt, h⟩
    have hk := halt.le_size hi
    have h' := (hw.matches_iff ha (h.le_size hk)).mpr h
    obtain ⟨hlook, rfl⟩ | ⟨⟨c, hc, hm⟩, rfl⟩ := halt
    · obtain rfl := (holdsAt_textStart_iff hi).mp hlook
      have hlast : (before ++ body)[before.size - 1]? = some before[before.size - 1] := by
        rw [Array.getElem?_append_left (by omega), Array.getElem?_eq_getElem]
      have hm : cls.contains before[before.size - 1] = true :=
        CharClass.contains_of_holdsBlanks hcls (hb _ (Array.getElem_mem _))
      refine ⟨before.size - 1, _, ?_, before.size, .inr ⟨⟨_, hlast, hm⟩, ?_⟩, h'⟩
      · rw [Array.size_append]
        omega
      · omega
    · rw [← hw.chars i (by omega)] at hc
      refine ⟨before.size + i, _, ?_, _, .inr ⟨⟨c, hc, hm⟩, rfl⟩, h'⟩
      rw [Array.size_append]
      omega

theorem occurs_alt : (alt p q).Occurs chars ↔ p.Occurs chars ∨ q.Occurs chars := by
  simp only [Occurs, Matches, and_or_left, exists_or]

/-- White space before a text changes nothing about whether a pattern that ignores it matches. -/
theorem occurs_append_left (hb : ∀ c ∈ before, Text.isBlank c = true) (hp : p.ignoresIndent = true) :
    p.Occurs (before ++ body) ↔ p.Occurs body := by
  fun_induction ignoresIndent p with
  | case1 p q ihp ihq =>
    rw [Bool.and_eq_true] at hp
    rw [occurs_alt, occurs_alt, ihp hp.1, ihq hp.2]
  | case2 cls q =>
    simp only [Bool.and_eq_true] at hp
    exact occurs_append_left_of_class hb hp.1 hp.2.1 hp.2.2
  | case3 p =>
    rw [Bool.and_eq_true] at hp
    exact occurs_append_left_of_begins hb hp.1 hp.2

def never : Pattern := .one .empty

def thenStem (p q : Pattern) : Pattern :=
  if q = never then never else p.andThen q

def orStem (p q : Pattern) : Pattern :=
  if p = never then q else if q = never then p else .alt p q

/-- What matches in front of the last character of a match, if that character is white space. -/
def blankStem : Pattern → Pattern
  | empty | look _ => never
  | one cls => if cls.isInk then never else empty
  | cat p q =>
    if q.takesSome then p.thenStem q.blankStem else (p.thenStem q.blankStem).orStem p.blankStem
  | alt p q => p.blankStem.orStem q.blankStem
  | rep p _ _ greedy => (rep p 0 none greedy).thenStem p.blankStem

theorem not_matches_never : ¬ never.Matches chars i j := by
  rintro ⟨⟨c, -, hm⟩, -⟩
  cases hm

theorem matches_andThen : (p.andThen q).Matches chars i j ↔
    ∃ k, p.Matches chars i k ∧ q.Matches chars k j := by
  unfold andThen
  split
  · simp [Matches]
  · simp [Matches]
  · rfl

theorem matches_thenStem : (p.thenStem q).Matches chars i j ↔
    ∃ k, p.Matches chars i k ∧ q.Matches chars k j := by
  rw [thenStem]
  split
  next h =>
    subst h
    constructor
    · exact fun h => absurd h not_matches_never
    · rintro ⟨k, -, h⟩
      exact absurd h not_matches_never
  next => exact matches_andThen

theorem matches_orStem : (p.orStem q).Matches chars i j ↔
    p.Matches chars i j ∨ q.Matches chars i j := by
  rw [orStem]
  split
  next h => simp [h, not_matches_never]
  next =>
    split
    next h => simp [h, not_matches_never]
    next => rfl

/-- One of the rounds that get past a place begins at or before it and gets all the way. -/
theorem exists_round_past {R : Nat → Nat → Prop} (hR : ∀ i j, R i j → i ≤ j) {n : Nat}
    (h : Rounds R n i (j + 1)) (hi : i ≤ j) :
    ∃ m k, k ≤ j ∧ Rounds R m i k ∧ R k (j + 1) := by
  induction n generalizing i with
  | zero =>
    obtain rfl : i = j + 1 := h
    omega
  | succ n ih =>
    obtain ⟨k, hk, h⟩ := h
    by_cases hkj : k ≤ j
    · obtain ⟨m, l, hl, hm, hlast⟩ := ih h hkj
      exact ⟨m + 1, l, hl, ⟨k, hk, hm⟩, hlast⟩
    · obtain rfl : k = j + 1 := by
        have := le_of_rounds hR h
        omega
      exact ⟨0, i, hi, rfl, hk⟩

theorem blankStem_matches {c : Char} (h : p.Matches chars i (j + 1)) (hi : i ≤ j)
    (hc : chars[j]? = some c) (hb : Text.isBlank c = true) : p.blankStem.Matches chars i j := by
  induction p generalizing i with
  | empty => exact absurd h (by simp only [Matches]; omega)
  | look a => exact absurd h.2 (by omega)
  | one cls =>
    obtain ⟨⟨d, hd, hm⟩, hij⟩ := h
    obtain rfl : i = j := by omega
    obtain rfl : d = c := Option.some.inj (hd.symm.trans hc)
    have hnot : ¬ cls.isInk = true := fun hink => by
      simp [CharClass.isBlank_of_isInk hink hm] at hb
    simp only [blankStem, hnot, if_false, Bool.false_eq_true]
    rfl
  | cat p q ihp ihq =>
    obtain ⟨k, hk, hq⟩ := h
    have hstem : k ≤ j → (p.thenStem q.blankStem).Matches chars i j := fun hkj =>
      matches_thenStem.mpr ⟨k, hk, ihq hq hkj⟩
    rw [blankStem]
    split
    next hsome => exact hstem (Nat.le_of_lt_succ (hq.lt_of_takesSome hsome))
    next =>
      rw [matches_orStem]
      by_cases hkj : k ≤ j
      · exact .inl (hstem hkj)
      · obtain rfl : k = j + 1 := by
          have := hq.le
          omega
        exact .inr (ihp hk hi)
  | alt p q ihp ihq =>
    rw [blankStem, matches_orStem]
    exact h.imp (ihp · hi) (ihq · hi)
  | rep p least most greedy ih =>
    obtain ⟨n, -, h⟩ := h
    obtain ⟨m, k, hkj, hm, hk⟩ := exists_round_past (fun _ _ => Matches.le) h hi
    rw [blankStem, matches_thenStem]
    exact ⟨k, ⟨m, ⟨Nat.zero_le m, by simp⟩, hm⟩, ih hk hkj⟩

/-- Whether white space after a text changes nothing about whether a pattern matches there, but for
matches that take the first of it. -/
def ignoresTrailing (p : Pattern) : Bool :=
  p.takesSome && p.anchorsAre Anchor.isWordEdgeOrStart &&
    (p.blankStem.endsInInk && p.blankStem.anchorsAre Anchor.isWordEdgeOrStart)

theorem occurs_append_right (hb : ∀ c ∈ after, Text.isBlank c = true)
    (hp : p.ignoresTrailing = true) (h : p.Occurs (body ++ after)) :
    p.Occurs body ∨ after.size ≠ 0 ∧ ∃ i, p.blankStem.Matches body i body.size := by
  simp only [ignoresTrailing, Bool.and_eq_true] at hp
  obtain ⟨⟨hsome, ha⟩, hink, hstem⟩ := hp
  obtain ⟨i, j, hi, h⟩ := h
  have hw : Window Anchor.isWordEdgeOrStart (body ++ after) 0 body := .before_blanks hb
  have hlt := h.lt_of_takesSome hsome
  have hsize := h.le_size hi
  rw [Array.size_append] at hsize
  by_cases hj : j ≤ body.size
  · have hm := (hw.matches_iff ha (i := i) hj).mp (by simpa using h)
    exact .inl ⟨i, j, by omega, hm⟩
  -- The match takes white space. What it takes before that is ink, so it takes no more than one.
  right
  obtain ⟨k, rfl⟩ := Nat.exists_eq_add_of_lt hlt
  obtain ⟨c, hc⟩ : ∃ c, (body ++ after)[i + k]? = some c :=
    ⟨_, Array.getElem?_eq_getElem (by rw [Array.size_append]; omega)⟩
  have hblank : Text.isBlank c = true := by
    rw [Array.getElem?_append_right (by omega)] at hc
    exact hb c (Array.mem_of_getElem? hc)
  have hfront := blankStem_matches h (by omega) hc hblank
  obtain ⟨l, d, hl, hd, hdink⟩ := hfront.ends hink
  have hlt : l < body.size := by
    refine Nat.lt_of_not_le fun hle => ?_
    rw [Array.getElem?_append_right hle] at hd
    simp [hb d (Array.mem_of_getElem? hd)] at hdink
  have hend : i + k = body.size := by omega
  rw [hend] at hfront
  refine ⟨by omega, i, ?_⟩
  exact (hw.matches_iff hstem (Nat.le_refl _)).mp (by simpa using hfront)

end Pattern

end Linewatch
