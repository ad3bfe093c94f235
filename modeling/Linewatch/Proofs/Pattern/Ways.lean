import Linewatch.Pattern.Basic

namespace Linewatch

def Rounds (R : Nat → Nat → Prop) : (n : Nat) → Nat → Nat → Prop
  | 0, i, j => i = j
  | n + 1, i, j => ∃ k, R i k ∧ Rounds R n k j

/-- A choice between two sides: where in a pattern it is made, at which place of the line, and whether
the preferred side is taken. -/
structure Choice (Point : Type) where
  point : Point
  place : Nat
  preferred : Bool

namespace Choice

variable {α β : Type}

def move (f : α → β) (c : Choice α) : Choice β := ⟨f c.point, c.place, c.preferred⟩

def key (c : Choice α) : α × Nat := (c.point, c.place)

/-- Whether a way is preferred to another: where they part, it takes the preferred side. -/
def Before : List (Choice α) → List (Choice α) → Prop
  | c :: v, d :: w =>
    c.preferred = true ∧ d.preferred = false ∨ c.preferred = d.preferred ∧ Before v w
  | _, _ => False

/-- Whether a way never comes to the same choice twice at the same place. -/
def Direct (w : List (Choice α)) : Prop := (w.map key).Nodup

theorem Before.asymm {v w : List (Choice α)} (h : Before v w) : ¬ Before w v := by
  induction v generalizing w with
  | nil => exact h.elim
  | cons c v ih =>
    cases w with
    | nil => exact h.elim
    | cons d w =>
      rintro (⟨hd, hc⟩ | ⟨hdc, hwv⟩)
      · obtain ⟨hc', -⟩ | ⟨hcd, -⟩ := h
        · simp [hc] at hc'
        · simp [hc, hd] at hcd
      · obtain ⟨hc, hd⟩ | ⟨-, hvw⟩ := h
        · simp [hc, hd] at hdc
        · exact ih hvw hwv

theorem direct_of_map {f : α → β} {w : List (Choice α)} (h : Direct (w.map (move f))) :
    Direct w := by
  have hkeys : (w.map (move f)).map key = (w.map key).map (Prod.map f id) := by
    simp [Function.comp_def, key, move]
  rw [Direct, hkeys] at h
  exact List.Pairwise.of_map _ (fun a b hne heq => hne (congrArg _ heq)) h

end Choice

namespace Pattern

/-- Whether a pattern matches what stands between two places of a line. A limit on the rounds of a
repetition that is below their least number counts as that number. -/
def Matches (chars : Array Char) : Pattern → Nat → Nat → Prop
  | empty, i, j => i = j
  | one cls, i, j => (∃ c, chars[i]? = some c ∧ cls.contains c = true) ∧ j = i + 1
  | look a, i, j => a.holdsAt chars i = true ∧ i = j
  | cat p q, i, j => ∃ k, p.Matches chars i k ∧ q.Matches chars k j
  | alt p q, i, j => p.Matches chars i j ∨ q.Matches chars i j
  | rep p least most _, i, j =>
    ∃ n, (least ≤ n ∧ ∀ m, most = some m → n ≤ max least m) ∧ Rounds (p.Matches chars) n i j

def Occurs (p : Pattern) (chars : Array Char) : Prop :=
  ∃ i j, i ≤ chars.size ∧ p.Matches chars i j

inductive Side where
  | first
  | second
deriving DecidableEq

abbrev Point := List Side

def roundsThen (p last : Pattern) : (n : Nat) → Pattern
  | 0 => last
  | n + 1 => .cat p (roundsThen p last n)

def atMost (p : Pattern) (greedy : Bool) : (n : Nat) → Pattern
  | 0 => .empty
  | 1 => .rep p 0 (some 1) greedy
  | n + 2 => .rep (.cat p (atMost p greedy (n + 1))) 0 (some 1) greedy

/-- A pattern with its counted rounds written out, as "aa(a(a)?)?" for two to four of "a" and "aa+"
for two or more. No repetition is left but of at most one round, or of at least one. -/
def writtenOut : Pattern → Pattern
  | empty => .empty
  | one cls => .one cls
  | look a => .look a
  | cat p q => .cat p.writtenOut q.writtenOut
  | alt p q => .alt p.writtenOut q.writtenOut
  | rep p 0 none greedy => .rep (.rep p.writtenOut 1 none greedy) 0 (some 1) greedy
  | rep p (least + 1) none greedy =>
    roundsThen p.writtenOut (.rep p.writtenOut 1 none greedy) least
  | rep p least (some most) greedy =>
    roundsThen p.writtenOut (atMost p.writtenOut greedy (most - least)) least

def within (s : Side) (w : List (Choice Point)) : List (Choice Point) :=
  w.map (Choice.move (s :: ·))

/-- The ways through a pattern whose counted rounds are written out, from one place to another. An
alternation prefers its first side. A repetition prefers another round if it is greedy and the end of
the repetition if it is not. -/
inductive Way (chars : Array Char) : Pattern → Nat → List (Choice Point) → Nat → Prop
  | empty {i : Nat} : Way chars .empty i [] i
  | one {cls : CharClass} {i : Nat} {c : Char} (hc : chars[i]? = some c)
      (h : cls.contains c = true) : Way chars (.one cls) i [] (i + 1)
  | look {a : Anchor} {i : Nat} (h : a.holdsAt chars i = true) : Way chars (.look a) i [] i
  | cat {p q : Pattern} {i k j : Nat} {v w : List (Choice Point)} (hp : Way chars p i v k)
      (hq : Way chars q k w j) : Way chars (.cat p q) i (within .first v ++ within .second w) j
  | left {p q : Pattern} {i j : Nat} {w : List (Choice Point)} (h : Way chars p i w j) :
      Way chars (.alt p q) i (⟨[], i, true⟩ :: within .first w) j
  | right {p q : Pattern} {i j : Nat} {w : List (Choice Point)} (h : Way chars q i w j) :
      Way chars (.alt p q) i (⟨[], i, false⟩ :: within .second w) j
  | skip {p : Pattern} {greedy : Bool} {i : Nat} :
      Way chars (.rep p 0 (some 1) greedy) i [⟨[], i, !greedy⟩] i
  | enter {p : Pattern} {greedy : Bool} {i j : Nat} {w : List (Choice Point)}
      (h : Way chars p i w j) :
      Way chars (.rep p 0 (some 1) greedy) i (⟨[], i, greedy⟩ :: within .first w) j
  | last {p : Pattern} {greedy : Bool} {i j : Nat} {w : List (Choice Point)}
      (h : Way chars p i w j) :
      Way chars (.rep p 1 none greedy) i (within .first w ++ [⟨[], j, !greedy⟩]) j
  | again {p : Pattern} {greedy : Bool} {i k j : Nat} {v w : List (Choice Point)}
      (hp : Way chars p i v k) (hr : Way chars (.rep p 1 none greedy) k w j) :
      Way chars (.rep p 1 none greedy) i (within .first v ++ ⟨[], k, greedy⟩ :: w) j

/-- Whether a place is where the preferred match from another place ends: it is the end of the first
of the direct ways. -/
def Prefers (p : Pattern) (chars : Array Char) (i j : Nat) : Prop :=
  ∃ w, Way chars p.writtenOut i w j ∧ Choice.Direct w ∧
    ∀ v k, Way chars p.writtenOut i v k → Choice.Direct v → w = v ∨ Choice.Before w v

/-- Whether no round of a repetition without limit can match nothing but a place of a line. -/
def Progresses (chars : Array Char) : Pattern → Prop
  | empty | one _ | look _ => True
  | cat p q | alt p q => p.Progresses chars ∧ q.Progresses chars
  | rep p _ none _ => p.Progresses chars ∧ ∀ i, ¬ p.Matches chars i i
  | rep p _ (some _) _ => p.Progresses chars

inductive IsWrittenOut : Pattern → Prop
  | empty : IsWrittenOut .empty
  | one (cls : CharClass) : IsWrittenOut (.one cls)
  | look (a : Anchor) : IsWrittenOut (.look a)
  | cat {p q : Pattern} (hp : IsWrittenOut p) (hq : IsWrittenOut q) : IsWrittenOut (.cat p q)
  | alt {p q : Pattern} (hp : IsWrittenOut p) (hq : IsWrittenOut q) : IsWrittenOut (.alt p q)
  | option {p : Pattern} (h : IsWrittenOut p) (greedy : Bool) :
      IsWrittenOut (.rep p 0 (some 1) greedy)
  | plus {p : Pattern} (h : IsWrittenOut p) (greedy : Bool) : IsWrittenOut (.rep p 1 none greedy)

variable {p q last : Pattern} {chars : Array Char} {i j : Nat}

theorem IsWrittenOut.roundsThen (hp : IsWrittenOut p) (hl : IsWrittenOut last) (n : Nat) :
    IsWrittenOut (roundsThen p last n) := by
  induction n with
  | zero => exact hl
  | succ n ih => exact .cat hp ih

theorem IsWrittenOut.atMost (hp : IsWrittenOut p) (greedy : Bool) (n : Nat) :
    IsWrittenOut (atMost p greedy n) := by
  induction n with
  | zero => exact .empty
  | succ n ih =>
    cases n with
    | zero => exact .option hp greedy
    | succ n => exact .option (.cat hp ih) greedy

theorem isWrittenOut_writtenOut (p : Pattern) : p.writtenOut.IsWrittenOut := by
  induction p with
  | empty => exact .empty
  | one cls => exact .one cls
  | look a => exact .look a
  | cat p q hp hq => exact .cat hp hq
  | alt p q hp hq => exact .alt hp hq
  | rep p least most greedy hp =>
    cases most with
    | some most => simpa only [writtenOut] using hp.roundsThen (hp.atMost greedy _) least
    | none =>
      cases least with
      | zero => exact .option (.plus hp greedy) greedy
      | succ least => exact hp.roundsThen (.plus hp greedy) least

theorem le_of_rounds {R : Nat → Nat → Prop} (hR : ∀ i j, R i j → i ≤ j) {n : Nat}
    (h : Rounds R n i j) : i ≤ j := by
  induction n generalizing i with
  | zero => exact Nat.le_of_eq h
  | succ n ih =>
    obtain ⟨k, hk, h⟩ := h
    exact Nat.le_trans (hR i k hk) (ih h)

theorem le_size_of_rounds {R : Nat → Nat → Prop} {size : Nat}
    (hR : ∀ i j, R i j → i ≤ size → j ≤ size) {n : Nat} (h : Rounds R n i j) (hi : i ≤ size) :
    j ≤ size := by
  induction n generalizing i with
  | zero => exact h ▸ hi
  | succ n ih =>
    obtain ⟨k, hk, h⟩ := h
    exact ih h (hR i k hk hi)

theorem Matches.le (h : p.Matches chars i j) : i ≤ j := by
  induction p generalizing i j with
  | empty => exact Nat.le_of_eq h
  | one cls => exact h.2 ▸ Nat.le_succ i
  | look a => exact Nat.le_of_eq h.2
  | cat p q hp hq =>
    obtain ⟨k, hk, hj⟩ := h
    exact Nat.le_trans (hp hk) (hq hj)
  | alt p q hp hq => exact h.elim hp hq
  | rep p least most greedy hp =>
    obtain ⟨n, -, h⟩ := h
    exact le_of_rounds (fun _ _ => hp) h

theorem Matches.le_size (h : p.Matches chars i j) (hi : i ≤ chars.size) : j ≤ chars.size := by
  induction p generalizing i j with
  | empty => exact h ▸ hi
  | one cls =>
    obtain ⟨⟨c, hc, -⟩, rfl⟩ := h
    exact (Array.getElem?_eq_some_iff.mp hc).1
  | look a => exact h.2 ▸ hi
  | cat p q hp hq =>
    obtain ⟨k, hk, hj⟩ := h
    exact hq hj (hp hk hi)
  | alt p q hp hq => exact h.elim (hp · hi) (hq · hi)
  | rep p least most greedy hp =>
    obtain ⟨n, -, h⟩ := h
    exact le_size_of_rounds (fun _ _ => hp) h hi

theorem rounds_add {R : Nat → Nat → Prop} {m n : Nat} :
    Rounds R (m + n) i j ↔ ∃ k, Rounds R m i k ∧ Rounds R n k j := by
  induction m generalizing i with
  | zero => simp [Rounds]
  | succ m ih =>
    have hm : m + 1 + n = m + n + 1 := by omega
    simp only [hm, Rounds, ih]
    constructor
    · rintro ⟨a, ha, k, hk, hj⟩
      exact ⟨k, ⟨a, ha, hk⟩, hj⟩
    · rintro ⟨k, ⟨a, ha, hk⟩, hj⟩
      exact ⟨a, ha, k, hk, hj⟩

theorem matches_roundsThen {n : Nat} : (p.roundsThen last n).Matches chars i j ↔
    ∃ k, Rounds (p.Matches chars) n i k ∧ last.Matches chars k j := by
  induction n generalizing i with
  | zero => simp [roundsThen, Rounds]
  | succ n ih =>
    simp only [roundsThen, Matches, ih, Rounds]
    constructor
    · rintro ⟨a, ha, k, hk, hj⟩
      exact ⟨k, ⟨a, ha, hk⟩, hj⟩
    · rintro ⟨k, ⟨a, ha, hk⟩, hj⟩
      exact ⟨a, ha, k, hk, hj⟩

theorem matches_option {greedy : Bool} :
    (rep p 0 (some 1) greedy).Matches chars i j ↔ i = j ∨ p.Matches chars i j := by
  simp only [Matches, Nat.zero_le, Option.some.injEq, forall_eq', true_and, Nat.zero_max,
    Nat.le_one_iff_eq_zero_or_eq_one, or_and_right, exists_or, exists_eq_left, Rounds]
  simp

theorem matches_atMost {greedy : Bool} {n : Nat} :
    (p.atMost greedy n).Matches chars i j ↔ ∃ m ≤ n, Rounds (p.Matches chars) m i j := by
  induction n generalizing i with
  | zero => simp [atMost, Matches, Rounds]
  | succ n ih =>
    have hsucc : (∃ m ≤ n + 1, Rounds (p.Matches chars) m i j) ↔
        i = j ∨ ∃ k, p.Matches chars i k ∧ ∃ m ≤ n, Rounds (p.Matches chars) m k j := by
      constructor
      · rintro ⟨m, hm, hr⟩
        cases m with
        | zero => exact .inl hr
        | succ m =>
          obtain ⟨k, hk, hr⟩ := hr
          exact .inr ⟨k, hk, m, by omega, hr⟩
      · rintro (rfl | ⟨k, hk, m, hm, hr⟩)
        · exact ⟨0, by omega, rfl⟩
        · exact ⟨m + 1, by omega, k, hk, hr⟩
    rw [hsucc]
    cases n with
    | zero => simp [atMost, matches_option, Rounds]
    | succ n => simp only [atMost, matches_option, Matches, ih]

/-- To write rounds out changes nothing about what is matched. -/
theorem matches_writtenOut : p.writtenOut.Matches chars i j ↔ p.Matches chars i j := by
  induction p generalizing i j with
  | empty | one | look => rfl
  | cat p q hp hq => simp only [writtenOut, Matches, hp, hq]
  | alt p q hp hq => simp only [writtenOut, Matches, hp, hq]
  | rep p least most greedy hp =>
    have hR : p.writtenOut.Matches chars = p.Matches chars := by
      funext a b
      exact propext hp
    cases most with
    | some most =>
      simp only [writtenOut, matches_roundsThen, matches_atMost, hR, Matches, Option.some.injEq,
        forall_eq']
      constructor
      · rintro ⟨k, hk, m, hm, hr⟩
        exact ⟨least + m, by omega, rounds_add.mpr ⟨k, hk, hr⟩⟩
      · rintro ⟨n, hn, hr⟩
        obtain ⟨m, rfl⟩ : ∃ m, n = least + m := ⟨n - least, by omega⟩
        obtain ⟨k, hk, hr⟩ := rounds_add.mp hr
        exact ⟨k, hk, m, by omega, hr⟩
    | none =>
      cases least with
      | zero =>
        simp only [writtenOut, matches_option, Matches, hR, reduceCtorEq, false_implies,
          implies_true, and_true, Nat.zero_le, true_and]
        constructor
        · rintro (rfl | ⟨n, -, hr⟩)
          · exact ⟨0, rfl⟩
          · exact ⟨n, hr⟩
        · rintro ⟨n, hr⟩
          cases n with
          | zero => exact .inl hr
          | succ n => exact .inr ⟨n + 1, by omega, hr⟩
      | succ least =>
        simp only [writtenOut, matches_roundsThen, Matches, hR, reduceCtorEq, false_implies,
          implies_true, and_true]
        constructor
        · rintro ⟨k, hk, n, hn, hr⟩
          exact ⟨least + n, by omega, rounds_add.mpr ⟨k, hk, hr⟩⟩
        · rintro ⟨n, hn, hr⟩
          obtain ⟨m, rfl⟩ : ∃ m, n = least + m := ⟨n - least, by omega⟩
          obtain ⟨k, hk, hr⟩ := rounds_add.mp hr
          exact ⟨k, hk, m, by omega, hr⟩

theorem Way.rounds {greedy : Bool} {w : List (Choice Point)}
    (h : Way chars (.rep p 1 none greedy) i w j) :
    ∃ n, 1 ≤ n ∧ Rounds (fun i j => ∃ w, Way chars p i w j) n i j := by
  generalize hq : rep p 1 none greedy = q at h
  induction h with
  | empty | one | look | cat | left | right | skip | enter => cases hq
  | last h =>
    cases hq
    exact ⟨1, by omega, _, ⟨_, h⟩, rfl⟩
  | again hp _ _ ih =>
    cases hq
    obtain ⟨n, hn, hr⟩ := ih rfl
    exact ⟨n + 1, by omega, _, ⟨_, hp⟩, hr⟩

theorem exists_way_of_rounds {greedy : Bool} {n : Nat}
    (h : Rounds (fun i j => ∃ w, Way chars p i w j) (n + 1) i j) :
    ∃ w, Way chars (.rep p 1 none greedy) i w j := by
  induction n generalizing i with
  | zero =>
    obtain ⟨k, ⟨w, hw⟩, rfl⟩ := h
    exact ⟨_, .last hw⟩
  | succ n ih =>
    obtain ⟨k, ⟨v, hv⟩, hr⟩ := h
    obtain ⟨w, hw⟩ := ih hr
    exact ⟨_, .again hv hw⟩

theorem IsWrittenOut.matches_iff (h : IsWrittenOut p) :
    p.Matches chars i j ↔ ∃ w, Way chars p i w j := by
  induction h generalizing i j with
  | empty =>
    constructor
    · rintro rfl
      exact ⟨_, .empty⟩
    · rintro ⟨_, ⟨⟩⟩
      rfl
  | one cls =>
    constructor
    · rintro ⟨⟨c, hc, h⟩, rfl⟩
      exact ⟨_, .one hc h⟩
    · rintro ⟨w, hw⟩
      cases hw with
      | one hc h => exact ⟨⟨_, hc, h⟩, rfl⟩
  | look a =>
    constructor
    · rintro ⟨h, rfl⟩
      exact ⟨_, .look h⟩
    · rintro ⟨w, hw⟩
      cases hw with
      | look h => exact ⟨h, rfl⟩
  | cat _ _ hp hq =>
    simp only [Matches, hp, hq]
    constructor
    · rintro ⟨k, ⟨v, hv⟩, w, hw⟩
      exact ⟨_, .cat hv hw⟩
    · rintro ⟨w, hw⟩
      cases hw with
      | cat hv hw => exact ⟨_, ⟨_, hv⟩, _, hw⟩
  | alt _ _ hp hq =>
    simp only [Matches, hp, hq]
    constructor
    · rintro (⟨w, hw⟩ | ⟨w, hw⟩)
      · exact ⟨_, .left hw⟩
      · exact ⟨_, .right hw⟩
    · rintro ⟨w, hw⟩
      cases hw with
      | left hw => exact .inl ⟨_, hw⟩
      | right hw => exact .inr ⟨_, hw⟩
  | option _ greedy hp =>
    rw [matches_option, hp]
    constructor
    · rintro (rfl | ⟨w, hw⟩)
      · exact ⟨_, .skip⟩
      · exact ⟨_, .enter hw⟩
    · rintro ⟨w, hw⟩
      cases hw with
      | skip => exact .inl rfl
      | enter hw => exact .inr ⟨_, hw⟩
  | @plus p _ greedy hp =>
    have hR : p.Matches chars = fun i j => ∃ w, Way chars p i w j := by
      funext a b
      exact propext hp
    simp only [Matches, hR, reduceCtorEq, false_implies, implies_true, and_true]
    constructor
    · rintro ⟨n, hn, hr⟩
      obtain ⟨m, rfl⟩ : ∃ m, n = m + 1 := ⟨n - 1, by omega⟩
      exact exists_way_of_rounds hr
    · rintro ⟨w, hw⟩
      exact hw.rounds

theorem matches_iff_exists_way : p.Matches chars i j ↔ ∃ w, Way chars p.writtenOut i w j := by
  rw [← matches_writtenOut, p.isWrittenOut_writtenOut.matches_iff]

theorem Prefers.matches (h : p.Prefers chars i j) : p.Matches chars i j := by
  obtain ⟨w, hw, -⟩ := h
  exact matches_iff_exists_way.mpr ⟨w, hw⟩

theorem Progresses.roundsThen (hp : p.Progresses chars) (hl : last.Progresses chars) (n : Nat) :
    (p.roundsThen last n).Progresses chars := by
  induction n with
  | zero => exact hl
  | succ n ih => exact ⟨hp, ih⟩

theorem Progresses.atMost (hp : p.Progresses chars) (greedy : Bool) (n : Nat) :
    (p.atMost greedy n).Progresses chars := by
  induction n with
  | zero => trivial
  | succ n ih =>
    cases n with
    | zero => exact hp
    | succ n => exact ⟨hp, ih⟩

theorem Progresses.writtenOut (h : p.Progresses chars) : p.writtenOut.Progresses chars := by
  induction p with
  | empty | one | look => trivial
  | cat p q hp hq => exact ⟨hp h.1, hq h.2⟩
  | alt p q hp hq => exact ⟨hp h.1, hq h.2⟩
  | rep p least most greedy hp =>
    cases most with
    | some most => simpa only [Pattern.writtenOut] using (hp h).roundsThen ((hp h).atMost greedy _) least
    | none =>
      have hloop : (rep p.writtenOut 1 none greedy).Progresses chars :=
        ⟨hp h.1, fun i hm => h.2 i (matches_writtenOut.mp hm)⟩
      cases least with
      | zero => exact hloop
      | succ least => exact (hp h.1).roundsThen hloop least

variable {k : Nat} {v w : List (Choice Point)}

theorem Way.le (h : Way chars p i w j) : i ≤ j := by
  induction h with
  | empty | look | skip => exact Nat.le_refl _
  | one => exact Nat.le_succ _
  | cat _ _ hp hq => exact Nat.le_trans hp hq
  | left _ ih | right _ ih | enter _ ih | last _ ih => exact ih
  | again _ _ hp hr => exact Nat.le_trans hp hr

theorem Way.place_mem (h : Way chars p i w j) : ∀ c ∈ w, i ≤ c.place ∧ c.place ≤ j := by
  induction h with
  | empty | one | look => simp
  | cat hv hw ihv ihw =>
    simp only [within, List.mem_append, List.mem_map]
    rintro c (⟨c, hc, rfl⟩ | ⟨c, hc, rfl⟩)
    · exact ⟨(ihv c hc).1, Nat.le_trans (ihv c hc).2 hw.le⟩
    · exact ⟨Nat.le_trans hv.le (ihw c hc).1, (ihw c hc).2⟩
  | left h ih | right h ih | enter h ih =>
    simp only [within, List.mem_cons, List.mem_map]
    rintro c (rfl | ⟨c, hc, rfl⟩)
    · exact ⟨Nat.le_refl _, h.le⟩
    · exact ih c hc
  | skip =>
    simp only [List.mem_singleton]
    rintro c rfl
    exact ⟨Nat.le_refl _, Nat.le_refl _⟩
  | last h ih =>
    simp only [within, List.mem_append, List.mem_map, List.mem_singleton]
    rintro c (⟨c, hc, rfl⟩ | rfl)
    · exact ih c hc
    · exact ⟨h.le, Nat.le_refl _⟩
  | again hv hw ihv ihw =>
    simp only [within, List.mem_append, List.mem_map, List.mem_cons]
    rintro c (⟨c, hc, rfl⟩ | rfl | hc)
    · exact ⟨(ihv c hc).1, Nat.le_trans (ihv c hc).2 hw.le⟩
    · exact ⟨hv.le, hw.le⟩
    · exact ⟨Nat.le_trans hv.le (ihw c hc).1, (ihw c hc).2⟩

theorem direct_within {s : Side} (h : Choice.Direct w) : Choice.Direct (within s w) := by
  have htail : (within s w).map (Choice.move List.tail) = w := by
    simp [within, Function.comp_def, Choice.move]
  rw [← htail] at h
  exact Choice.direct_of_map h

theorem direct_append : Choice.Direct (v ++ w) ↔
    Choice.Direct v ∧ Choice.Direct w ∧ ∀ c ∈ v, ∀ d ∈ w, c.key ≠ d.key := by
  simp [Choice.Direct, List.nodup_append]

theorem direct_cons {c : Choice Point} :
    Choice.Direct (c :: w) ↔ (∀ d ∈ w, c.key ≠ d.key) ∧ Choice.Direct w := by
  simp [Choice.Direct, eq_comm]

end Pattern

end Linewatch
