import Linewatch.Pattern.Program
import Linewatch.Proofs.Pattern.Runs

namespace Linewatch

open Pattern

namespace Block

variable {a b : Block} {greedy : Bool}

theorem block_roundsThen (p last : Pattern) (n : Nat) :
    (p.roundsThen last n).block = p.block.copies last.block n := by
  induction n with
  | zero => rfl
  | succ n ih => simp only [roundsThen, Pattern.block, copies, ih]

theorem block_atMost (p : Pattern) (greedy : Bool) (n : Nat) :
    (p.atMost greedy n).block = p.block.upTo greedy n := by
  induction n with
  | zero => rfl
  | succ n ih =>
    cases n with
    | zero => rfl
    | succ n => simp [atMost, Pattern.block, repeated, copies, upTo, ih]

end Block

namespace Pattern

theorem block_writtenOut (p : Pattern) : p.writtenOut.block = p.block := by
  induction p with
  | empty | one | look => rfl
  | cat p q hp hq => simp only [writtenOut, block, hp, hq]
  | alt p q hp hq => simp only [writtenOut, block, hp, hq]
  | rep p least most greedy hp =>
    cases most with
    | some most =>
      simp only [writtenOut, Block.block_roundsThen, Block.block_atMost, hp, block, Block.repeated]
      split
      next h => rw [Nat.sub_eq_zero_of_le h, Block.upTo]
      next => rfl
    | none =>
      cases least with
      | zero => simp [writtenOut, block, hp, Block.repeated, Block.copies, Block.upTo]
      | succ least =>
        simp only [writtenOut, Block.block_roundsThen, block, hp, Block.repeated, Block.copies]

def offset : Pattern → Point → Nat
  | cat p _, .first :: π => p.offset π
  | cat p q, .second :: π => p.block.size + q.offset π
  | alt p _, .first :: π => p.offset π + 1
  | alt p q, .second :: π => p.block.size + q.offset π + 1
  | rep p 0 _ _, .first :: π => p.offset π + 1
  | rep p (_ + 1) _ _, [] => p.block.size
  | rep p (_ + 1) _ _, .first :: π => p.offset π
  | _, _ => 0

def pointAt : Pattern → Nat → Point
  | cat p q, n =>
    if n < p.block.size then .first :: p.pointAt n else .second :: q.pointAt (n - p.block.size)
  | alt p q, n + 1 =>
    if n < p.block.size then .first :: p.pointAt n else .second :: q.pointAt (n - p.block.size)
  | rep p 0 _ _, n + 1 => .first :: p.pointAt n
  | rep p (_ + 1) _ _, n => if n < p.block.size then .first :: p.pointAt n else []
  | _, _ => []

def Chooses : Pattern → Point → Prop
  | cat p _, .first :: π => p.Chooses π
  | cat _ q, .second :: π => q.Chooses π
  | alt _ _, [] => True
  | alt p _, .first :: π => p.Chooses π
  | alt _ q, .second :: π => q.Chooses π
  | rep _ _ _ _, [] => True
  | rep p _ _ _, .first :: π => p.Chooses π
  | _, _ => False

variable {p q : Pattern} {chars : Array Char} {i j : Nat} {π : Point} {greedy : Bool}

theorem size_cat : (cat p q).block.size = p.block.size + q.block.size := rfl

theorem size_alt : (alt p q).block.size = 1 + p.block.size + q.block.size := rfl

theorem size_option : (rep p 0 (some 1) greedy).block.size = 1 + p.block.size := rfl

theorem offset_lt (h : IsWrittenOut p) (hπ : p.Chooses π) : p.offset π < p.block.size := by
  induction h generalizing π with
  | empty | one | look => cases π <;> exact hπ.elim
  | @cat p q _ _ hp hq =>
    match π, hπ with
    | .first :: π, hπ =>
      have := hp hπ
      simp only [offset, size_cat]
      omega
    | .second :: π, hπ =>
      have := hq hπ
      simp only [offset, size_cat]
      omega
  | @alt p q _ _ hp hq =>
    match π, hπ with
    | [], _ =>
      simp only [offset, size_alt]
      omega
    | .first :: π, hπ =>
      have := hp hπ
      simp only [offset, size_alt]
      omega
    | .second :: π, hπ =>
      have := hq hπ
      simp only [offset, size_alt]
      omega
  | @option p _ greedy hp =>
    match π, hπ with
    | [], _ =>
      simp only [offset, size_option]
      omega
    | .first :: π, hπ =>
      have := hp hπ
      simp only [offset, size_option]
      omega
  | @plus p _ greedy hp =>
    match π, hπ with
    | [], _ => exact Nat.lt_succ_self _
    | .first :: π, hπ => exact Nat.lt_succ_of_lt (hp hπ)

theorem pointAt_offset (h : IsWrittenOut p) (hπ : p.Chooses π) : p.pointAt (p.offset π) = π := by
  induction h generalizing π with
  | empty | one | look => cases π <;> exact hπ.elim
  | @cat p q h _ hp hq =>
    match π, hπ with
    | .first :: π, hπ => simp only [offset, pointAt, offset_lt h hπ, if_true, hp hπ]
    | .second :: π, hπ =>
      simp only [offset, pointAt, Nat.not_lt_of_le (Nat.le_add_right ..), if_false,
        Nat.add_sub_cancel_left, hq hπ]
  | @alt p q h _ hp hq =>
    match π, hπ with
    | [], _ => rfl
    | .first :: π, hπ => simp only [offset, pointAt, offset_lt h hπ, if_true, hp hπ]
    | .second :: π, hπ =>
      simp only [offset, pointAt, Nat.not_lt_of_le (Nat.le_add_right ..), if_false,
        Nat.add_sub_cancel_left, hq hπ]
  | @option p _ greedy hp =>
    match π, hπ with
    | [], _ => rfl
    | .first :: π, hπ => simp only [offset, pointAt, hp hπ]
  | @plus p h greedy hp =>
    match π, hπ with
    | [], _ => simp only [offset, pointAt, Nat.lt_irrefl, if_false]
    | .first :: π, hπ => simp only [offset, pointAt, offset_lt h hπ, if_true, hp hπ]

theorem Way.chooses {w : List (Choice Point)} (h : Way chars p i w j) :
    ∀ c ∈ w, p.Chooses c.point := by
  induction h with
  | empty | one | look => simp
  | cat _ _ hp hq =>
    simp only [within, List.mem_append, List.mem_map]
    rintro c (⟨c, hc, rfl⟩ | ⟨c, hc, rfl⟩)
    · exact hp c hc
    · exact hq c hc
  | left _ ih | right _ ih | enter _ ih =>
    simp only [within, List.mem_cons, List.mem_map]
    rintro c (rfl | ⟨c, hc, rfl⟩)
    · trivial
    · exact ih c hc
  | skip =>
    simp only [List.mem_singleton]
    rintro c rfl
    trivial
  | last _ ih =>
    simp only [within, List.mem_append, List.mem_map, List.mem_singleton]
    rintro c (⟨c, hc, rfl⟩ | rfl)
    · exact ih c hc
    · trivial
  | again _ _ ih ihr =>
    simp only [within, List.mem_append, List.mem_map, List.mem_cons]
    rintro c (⟨c, hc, rfl⟩ | rfl | hc)
    · exact ih c hc
    · trivial
    · exact ihr c hc

theorem length_code (h : IsWrittenOut p) (base exit : Nat) :
    (p.block.code base exit).length = p.block.size := by
  induction h generalizing base exit with
  | empty | one | look => rfl
  | cat _ _ hp hq => simp [block, Block.seq, hp, hq]
  | alt _ _ hp hq => simp [block, Block.either, hp, hq]; omega
  | option _ _ hp =>
    simp [block, Block.repeated, Block.copies, Block.upTo, Block.option, hp, Nat.add_comm]
  | plus _ _ hp => simp [block, Block.repeated, Block.copies, Block.plus, hp]

end Pattern

namespace Program

variable {prog : Program} {p : Pattern} {chars : Array Char} {base exit into past i j : Nat}
  {w : List (Choice Nat)} {greedy : Bool} {a b : List Instr} {instr : Instr}

def Holds (prog : Program) (base : Nat) (code : List Instr) : Prop :=
  ∀ k < code.length, prog.code[base + k]? = code[k]?

theorem holds_cons :
    prog.Holds base (instr :: a) ↔ prog.code[base]? = some instr ∧ prog.Holds (base + 1) a := by
  constructor
  · intro h
    refine ⟨h 0 (Nat.zero_lt_succ _), fun k hk => ?_⟩
    have := h (k + 1) (Nat.succ_lt_succ hk)
    rwa [List.getElem?_cons_succ, Nat.add_comm k, ← Nat.add_assoc] at this
  · rintro ⟨h0, ha⟩ k hk
    cases k with
    | zero => exact h0
    | succ k =>
      rw [List.getElem?_cons_succ, Nat.add_comm k, ← Nat.add_assoc]
      exact ha k (Nat.lt_of_succ_lt_succ hk)

theorem holds_append :
    prog.Holds base (a ++ b) ↔ prog.Holds base a ∧ prog.Holds (base + a.length) b := by
  induction a generalizing base with
  | nil => simp [Holds]
  | cons instr a ih =>
    rw [List.cons_append, holds_cons, holds_cons, ih, and_assoc, List.length_cons,
      Nat.add_comm a.length, Nat.add_assoc]

theorem runs_choice (h : prog.code[base]? = some (Block.choice greedy into past)) :
    prog.Runs chars (base, i) w j ↔
      (∃ v, w = ⟨base, i, greedy⟩ :: v ∧ prog.Runs chars (into, i) v j) ∨
        ∃ v, w = ⟨base, i, !greedy⟩ :: v ∧ prog.Runs chars (past, i) v j := by
  cases greedy with
  | true => exact Runs.fork_iff (by simp [nexts, h, Block.choice])
  | false =>
    rw [or_comm]
    exact Runs.fork_iff (by simp [nexts, h, Block.choice])

/-- The choices of a way, at the instructions that stand for them. -/
def laidOut (p : Pattern) (base : Nat) (w : List (Choice Point)) : List (Choice Nat) :=
  w.map (Choice.move fun π => base + p.offset π)

/-- Whether a run takes a way through a pattern and then goes on from what follows the pattern. -/
def Passes (prog : Program) (chars : Array Char) (p : Pattern) (base exit i : Nat)
    (w : List (Choice Nat)) (e : Nat) : Prop :=
  ∃ v j u, Way chars p i v j ∧ w = laidOut p base v ++ u ∧ prog.Runs chars (exit, j) u e

section LaidOut

variable {q : Pattern} {c : Choice Point} {u v : List (Choice Point)}

@[simp]
theorem laidOut_nil : laidOut p base [] = [] := rfl

@[simp]
theorem laidOut_cons : laidOut p base (c :: v) =
    ⟨base + p.offset c.point, c.place, c.preferred⟩ :: laidOut p base v := rfl

@[simp]
theorem laidOut_append : laidOut p base (u ++ v) = laidOut p base u ++ laidOut p base v :=
  List.map_append

@[simp]
theorem laidOut_cat_first : laidOut (.cat p q) base (within .first v) = laidOut p base v := by
  simp [laidOut, within, Choice.move, offset, Function.comp_def]

@[simp]
theorem laidOut_cat_second : laidOut (.cat p q) base (within .second v) =
    laidOut q (base + p.block.size) v := by
  simp [laidOut, within, Choice.move, offset, Function.comp_def, Nat.add_assoc]

@[simp]
theorem laidOut_alt_first : laidOut (.alt p q) base (within .first v) = laidOut p (base + 1) v := by
  simp [laidOut, within, Choice.move, offset, Function.comp_def, Nat.add_assoc, Nat.add_comm 1]

@[simp]
theorem laidOut_alt_second : laidOut (.alt p q) base (within .second v) =
    laidOut q (base + 1 + p.block.size) v := by
  simp [laidOut, within, Choice.move, offset, Function.comp_def, Nat.add_assoc, Nat.add_comm]

@[simp]
theorem laidOut_option : laidOut (.rep p 0 (some 1) greedy) base (within .first v) =
    laidOut p (base + 1) v := by
  simp [laidOut, within, Choice.move, offset, Function.comp_def, Nat.add_assoc, Nat.add_comm 1]

@[simp]
theorem laidOut_plus : laidOut (.rep p 1 none greedy) base (within .first v) = laidOut p base v := by
  simp [laidOut, within, Choice.move, offset, Function.comp_def]

end LaidOut

theorem runs_of_nexts_eq_singleton {e : Nat} (hn : prog.nexts chars (base, i) = [(exit, j)])
    (hway : ∀ v k, Way chars p i v k ↔ v = [] ∧ k = j) :
    prog.Runs chars (base, i) w e ↔ prog.Passes chars p base exit i w e := by
  rw [Runs.step_iff hn]
  constructor
  · intro hr
    exact ⟨[], j, w, (hway _ _).mpr ⟨rfl, rfl⟩, rfl, hr⟩
  · rintro ⟨v, k, u, hv, rfl, hr⟩
    obtain ⟨rfl, rfl⟩ := (hway _ _).mp hv
    exact hr

theorem runs_of_nexts_eq_nil {e : Nat} (hn : prog.nexts chars (base, i) = [])
    (ha : prog.code[base]? ≠ some .accept) (hway : ∀ v k, ¬ Way chars p i v k) :
    prog.Runs chars (base, i) w e ↔ prog.Passes chars p base exit i w e := by
  constructor
  · intro hr
    exact absurd hr (Runs.not_of_nexts_eq_nil hn ha)
  · rintro ⟨v, k, u, hv, -, -⟩
    exact absurd hv (hway v k)

/-- A run through the code of a loop: after each round another one, or the end. -/
theorem runs_plus {e : Nat}
    (hp : ∀ i w, prog.Runs chars (base, i) w e ↔
      prog.Passes chars p base (base + p.block.size) i w e)
    (hchoice : prog.code[base + p.block.size]? = some (Block.choice greedy base exit)) :
    prog.Runs chars (base, i) w e ↔ prog.Passes chars (.rep p 1 none greedy) base exit i w e := by
  constructor
  · -- The run after a round has fewer choices left, and nothing else gets less if the round is empty.
    intro hr
    induction hlen : w.length using Nat.strong_induction_on generalizing i w with
    | _ len ih =>
    obtain ⟨v, k, u, hv, rfl, hr'⟩ := (hp i w).mp hr
    obtain ⟨u, rfl, hru⟩ | ⟨u, rfl, hru⟩ := (runs_choice hchoice).mp hr'
    · have hlt : u.length < len := by
        rw [← hlen, List.length_append, List.length_cons]
        omega
      obtain ⟨v', j, u', hv', rfl, hrest⟩ := ih _ hlt hru rfl
      exact ⟨_, j, u', .again hv hv', by simp [offset], hrest⟩
    · exact ⟨_, k, u, .last hv, by simp [offset], hru⟩
  · rintro ⟨v, j, u, hv, rfl, hr⟩
    generalize hq : Pattern.rep p 1 none greedy = q at hv
    induction hv with
    | empty | one | look | cat | left | right | skip | enter => cases hq
    | last hv =>
      cases hq
      exact (hp _ _).mpr ⟨_, _, _, hv, by simp [offset],
        (runs_choice hchoice).mpr (.inr ⟨_, rfl, hr⟩)⟩
    | again hv _ _ ih =>
      cases hq
      exact (hp _ _).mpr ⟨_, _, _, hv, by simp [offset],
        (runs_choice hchoice).mpr (.inl ⟨_, rfl, ih hr rfl⟩)⟩

/-- The runs through the code of a pattern take the ways through the pattern. -/
theorem runs_block {e : Nat} (h : IsWrittenOut p) (hcode : prog.Holds base (p.block.code base exit)) :
    prog.Runs chars (base, i) w e ↔ prog.Passes chars p base exit i w e := by
  -- What follows the pattern stays open: in a row it is the code of the second pattern.
  induction h generalizing base exit i w with
  | empty =>
    refine runs_of_nexts_eq_singleton (j := i) ?_ fun v k => ⟨?_, ?_⟩
    · simp [nexts, (holds_cons.mp hcode).1]
    · rintro ⟨⟩
      exact ⟨rfl, rfl⟩
    · rintro ⟨rfl, rfl⟩
      exact .empty
  | one cls =>
    have hinstr : prog.code[base]? = some (.take cls exit) := (holds_cons.mp hcode).1
    by_cases hm : ∃ c, chars[i]? = some c ∧ cls.contains c = true
    · obtain ⟨c, hc, hm⟩ := hm
      refine runs_of_nexts_eq_singleton (j := i + 1) ?_ fun v k => ⟨?_, ?_⟩
      · simp [nexts, hinstr, hc, hm]
      · rintro ⟨⟩
        exact ⟨rfl, rfl⟩
      · rintro ⟨rfl, rfl⟩
        exact .one hc hm
    · refine runs_of_nexts_eq_nil ?_ (by simp [hinstr]) fun v k hv => ?_
      · cases hc : chars[i]? with
        | none => simp [nexts, hinstr, hc]
        | some c =>
          have hnot : cls.contains c = false := Bool.eq_false_iff.mpr fun h => hm ⟨c, hc, h⟩
          simp [nexts, hinstr, hc, hnot]
      · cases hv with
        | one hc h => exact hm ⟨_, hc, h⟩
  | look a =>
    have hinstr : prog.code[base]? = some (.test a exit) := (holds_cons.mp hcode).1
    by_cases hm : a.holdsAt chars i = true
    · refine runs_of_nexts_eq_singleton (j := i) ?_ fun v k => ⟨?_, ?_⟩
      · simp [nexts, hinstr, hm]
      · rintro ⟨⟩
        exact ⟨rfl, rfl⟩
      · rintro ⟨rfl, rfl⟩
        exact .look hm
    · refine runs_of_nexts_eq_nil ?_ (by simp [hinstr]) fun v k hv => ?_
      · simp [nexts, hinstr, hm]
      · cases hv with
        | look h => exact hm h
  | @cat p q h _ hp hq =>
    obtain ⟨hcp, hcq⟩ := holds_append.mp hcode
    rw [length_code h] at hcq
    rw [hp hcp]
    constructor
    · rintro ⟨v, k, u, hv, rfl, hr⟩
      obtain ⟨v', j, u, hv', rfl, hr'⟩ := (hq hcq).mp hr
      exact ⟨_, j, u, .cat hv hv', by simp, hr'⟩
    · rintro ⟨v, j, u, hv, rfl, hr⟩
      cases hv with
      | cat hv hv' => exact ⟨_, _, _, hv, by simp, (hq hcq).mpr ⟨_, _, _, hv', rfl, hr⟩⟩
  | @alt p q h _ hp hq =>
    obtain ⟨hfork, hrest⟩ := holds_cons.mp hcode
    obtain ⟨hcp, hcq⟩ := holds_append.mp hrest
    rw [length_code h] at hcq
    have hn : prog.nexts chars (base, i) = [(base + 1, i), (base + 1 + p.block.size, i)] := by
      simp [nexts, hfork]
    rw [Runs.fork_iff hn]
    constructor
    · rintro (⟨u, rfl, hr⟩ | ⟨u, rfl, hr⟩)
      · obtain ⟨v, j, u, hv, rfl, hr'⟩ := (hp hcp).mp hr
        exact ⟨_, j, u, .left hv, by simp [offset], hr'⟩
      · obtain ⟨v, j, u, hv, rfl, hr'⟩ := (hq hcq).mp hr
        exact ⟨_, j, u, .right hv, by simp [offset], hr'⟩
    · rintro ⟨v, j, u, hv, rfl, hr⟩
      cases hv with
      | left hv => exact .inl ⟨_, by simp [offset], (hp hcp).mpr ⟨_, _, _, hv, rfl, hr⟩⟩
      | right hv => exact .inr ⟨_, by simp [offset], (hq hcq).mpr ⟨_, _, _, hv, rfl, hr⟩⟩
  | @option p _ greedy hp =>
    obtain ⟨hchoice, hcp⟩ := holds_cons.mp hcode
    rw [runs_choice hchoice]
    constructor
    · rintro (⟨u, rfl, hr⟩ | ⟨u, rfl, hr⟩)
      · obtain ⟨v, j, u, hv, rfl, hr'⟩ := (hp hcp).mp hr
        exact ⟨_, j, u, .enter hv, by simp [offset], hr'⟩
      · exact ⟨_, i, u, .skip, by simp [offset], hr⟩
    · rintro ⟨v, j, u, hv, rfl, hr⟩
      cases hv with
      | enter hv => exact .inl ⟨_, by simp [offset], (hp hcp).mpr ⟨_, _, _, hv, rfl, hr⟩⟩
      | skip => exact .inr ⟨_, by simp [offset], hr⟩
  | @plus p h greedy hp =>
    obtain ⟨hcp, hrest⟩ := holds_append.mp hcode
    rw [length_code h] at hrest
    exact runs_plus (fun i w => hp hcp) (holds_cons.mp hrest).1

theorem holds_program (p : Pattern) : p.program.Holds 0 (p.block.code 0 p.block.size) := by
  intro k hk
  simp [Pattern.program, List.getElem?_append_left hk]

theorem accept_program (h : IsWrittenOut p) : p.program.code[p.block.size]? = some .accept := by
  simp [Pattern.program, length_code h]

theorem runs_program {e : Nat} (h : IsWrittenOut p) : p.program.Runs chars (0, i) w e ↔
    ∃ v, Way chars p i v e ∧ w = laidOut p 0 v := by
  rw [runs_block h (holds_program p)]
  constructor
  · rintro ⟨v, j, u, hv, rfl, hr⟩
    obtain ⟨rfl, rfl⟩ := (Runs.accept_iff (accept_program h)).mp hr
    exact ⟨v, hv, List.append_nil _⟩
  · rintro ⟨v, hv, rfl⟩
    exact ⟨v, e, [], hv, (List.append_nil _).symm, .accept (accept_program h)⟩

theorem program_writtenOut (p : Pattern) : p.writtenOut.program = p.program := by
  rw [Pattern.program, Pattern.program, block_writtenOut]

variable {u v : List (Choice Point)}

theorem before_laidOut :
    Choice.Before (laidOut p base u) (laidOut p base v) ↔ Choice.Before u v := by
  induction u generalizing v with
  | nil => exact Iff.rfl
  | cons c u ih =>
    cases v with
    | nil => exact Iff.rfl
    | cons d v => simp only [laidOut_cons, Choice.Before, ih]

/-- The choices of a way can be told from the instructions at which they are made. -/
theorem map_pointAt_laidOut (h : IsWrittenOut p) (hw : ∀ c ∈ v, p.Chooses c.point) :
    (laidOut p 0 v).map (Choice.move p.pointAt) = v := by
  rw [laidOut, List.map_map]
  refine (List.map_congr_left fun c hc => ?_).trans (List.map_id v)
  simp [Choice.move, pointAt_offset h (hw c hc)]

theorem direct_laidOut (h : IsWrittenOut p) (hw : ∀ c ∈ v, p.Chooses c.point) :
    Choice.Direct (laidOut p 0 v) ↔ Choice.Direct v := by
  constructor
  · exact Choice.direct_of_map
  · intro hd
    rw [← map_pointAt_laidOut h hw] at hd
    exact Choice.direct_of_map hd

/-- The first direct run of a pattern's program ends where the preferred match of the pattern
ends. -/
theorem isFirst_program : p.program.IsFirst chars ∅ (0, i) (some j) ↔ p.Prefers chars i j := by
  have h := p.isWrittenOut_writtenOut
  rw [← program_writtenOut]
  constructor
  · rintro ⟨w, hw, hc, hall⟩
    obtain ⟨v, hv, rfl⟩ := (runs_program h).mp hw
    refine ⟨v, hv, (direct_laidOut h hv.chooses).mp (clear_empty.mp hc), fun u k hu hd => ?_⟩
    obtain heq | hbefore := hall _ k ((runs_program h).mpr ⟨u, hu, rfl⟩)
      (clear_empty.mpr ((direct_laidOut h hu.chooses).mpr hd))
    · left
      rw [← map_pointAt_laidOut h hv.chooses, heq, map_pointAt_laidOut h hu.chooses]
    · exact .inr (before_laidOut.mp hbefore)
  · rintro ⟨v, hv, hd, hall⟩
    refine ⟨_, (runs_program h).mpr ⟨v, hv, rfl⟩,
      clear_empty.mpr ((direct_laidOut h hv.chooses).mpr hd), fun w k hw hc => ?_⟩
    obtain ⟨u, hu, rfl⟩ := (runs_program h).mp hw
    obtain rfl | hbefore := hall u k hu ((direct_laidOut h hu.chooses).mp (clear_empty.mp hc))
    · exact .inl rfl
    · exact .inr (before_laidOut.mpr hbefore)

end Program

namespace Pattern

variable {p : Pattern} {chars : Array Char} {i j k : Nat} {v w : List (Choice Point)}

/-- A pattern of which one way ends with a choice that another way begins with matches a place. -/
theorem Way.matches_of_meet (hp : IsWrittenOut p) (hv : Way chars p i v k) (hw : Way chars p k w j)
    {c d : Choice Point} (hc : c ∈ v) (hd : d ∈ w) (hkey : c.key = d.key) :
    p.Matches chars k k := by
  obtain ⟨x, y, rfl⟩ := List.append_of_mem hc
  obtain ⟨x', y', rfl⟩ := List.append_of_mem hd
  have hrunv := (Program.runs_program hp).mpr ⟨_, hv, rfl⟩
  have hrunw := (Program.runs_program hp).mpr ⟨_, hw, rfl⟩
  rw [Program.laidOut_append, Program.laidOut_cons] at hrunv hrunw
  have hkey' : c.point = d.point ∧ c.place = d.place := Prod.ext_iff.mp hkey
  have hrun := hrunv.splice hrunw (by simp [Choice.key, hkey'])
  obtain ⟨u, hu, -⟩ := (Program.runs_program hp).mp hrun
  exact hp.matches_iff.mpr ⟨u, hu⟩

theorem Way.lt_of_progresses (hp : IsWrittenOut p) (hm : ∀ i, ¬ p.Matches chars i i)
    (h : Way chars p i w j) : i < j := by
  refine Nat.lt_of_le_of_ne h.le ?_
  rintro rfl
  exact hm i (hp.matches_iff.mpr ⟨w, h⟩)

/-- In a loop that makes progress, the choices met at its first place are those of the first round. -/
theorem Way.exists_first_round {greedy : Bool} (hp : IsWrittenOut p)
    (hm : ∀ i, ¬ p.Matches chars i i) (h : Way chars (.rep p 1 none greedy) i w j) :
    ∃ v k, Way chars p i v k ∧ ∀ c ∈ w, c.place = i → ∃ d ∈ v, c.key = (.first :: d.point, d.place) := by
  cases h with
  | last hv =>
    have hlt := hv.lt_of_progresses hp hm
    refine ⟨_, _, hv, ?_⟩
    simp only [within, List.mem_append, List.mem_map, List.mem_singleton]
    rintro c (⟨d, hd, rfl⟩ | rfl) hplace
    · exact ⟨d, hd, rfl⟩
    · exact absurd hplace (Nat.ne_of_gt hlt)
  | again hv hr =>
    have hlt := hv.lt_of_progresses hp hm
    refine ⟨_, _, hv, ?_⟩
    simp only [within, List.mem_append, List.mem_map, List.mem_cons]
    rintro c (⟨d, hd, rfl⟩ | rfl | hc) hplace
    · exact ⟨d, hd, rfl⟩
    · exact absurd hplace (Nat.ne_of_gt hlt)
    · exact absurd hplace (Nat.ne_of_gt (hlt.trans_le (hr.place_mem c hc).1))

/-- The ways through a pattern that makes progress make no detours. -/
theorem Way.direct (hp : IsWrittenOut p) (hprog : p.Progresses chars) (h : Way chars p i w j) :
    Choice.Direct w := by
  have hroot : ∀ {s : Side} {v : List (Choice Point)} {i : Nat} {b : Bool}, ∀ d ∈ within s v,
      (⟨[], i, b⟩ : Choice Point).key ≠ d.key := by
    simp [within, Choice.key, Choice.move]
  induction h with
  | empty | one | look => exact List.nodup_nil
  | cat _ _ ihv ihw =>
    cases hp with
    | cat hp hq =>
      refine direct_append.mpr ⟨direct_within (ihv hp hprog.1), direct_within (ihw hq hprog.2), ?_⟩
      simp [within, Choice.key, Choice.move]
  | left _ ih =>
    cases hp with
    | alt hp hq => exact direct_cons.mpr ⟨hroot, direct_within (ih hp hprog.1)⟩
  | right _ ih =>
    cases hp with
    | alt hp hq => exact direct_cons.mpr ⟨hroot, direct_within (ih hq hprog.2)⟩
  | skip => exact direct_cons.mpr ⟨by simp, List.nodup_nil⟩
  | enter _ ih =>
    cases hp with
    | option hp => exact direct_cons.mpr ⟨hroot, direct_within (ih hp hprog)⟩
  | last _ ih =>
    cases hp with
    | plus hp =>
      refine direct_append.mpr ⟨direct_within (ih hp hprog.1),
        direct_cons.mpr ⟨by simp, List.nodup_nil⟩, fun c hc d hd => ?_⟩
      rw [List.mem_singleton.mp hd]
      exact (hroot c hc).symm
  | @again p greedy i k j v w hv hr ihv ihr =>
    obtain ⟨hprog', hm⟩ := id hprog
    cases hp with
    | plus hp =>
      obtain ⟨v', k', hv', hround⟩ := hr.exists_first_round hp hm
      have hagain : ∀ c : Choice Point, c.place ≤ k → ∀ d ∈ w, c.key = d.key →
          ∃ d' ∈ v', c.key = (.first :: d'.point, d'.place) := by
        intro c hle d hd heq
        have hplace : c.place = d.place := congrArg Prod.snd heq
        have hge := (hr.place_mem d hd).1
        rw [heq]
        exact hround d hd (by omega)
      have hnew : ∀ c ∈ within .first v, ∀ d ∈ w, c.key ≠ d.key := by
        intro c hc d hd heq
        obtain ⟨b, hb, rfl⟩ := List.mem_map.mp hc
        obtain ⟨d', hd', heq'⟩ := hagain (b.move (.first :: ·)) (hv.place_mem b hb).2 d hd heq
        simp only [Choice.key, Choice.move, Prod.mk.injEq, List.cons.injEq, true_and] at heq'
        exact hm k (hv.matches_of_meet hp hv' hb hd' (Prod.ext heq'.1 heq'.2))
      refine direct_append.mpr ⟨direct_within (ihv hp hprog'),
        direct_cons.mpr ⟨fun d hd heq => ?_, ihr (.plus hp greedy) hprog⟩, fun c hc d hd => ?_⟩
      · obtain ⟨d', -, heq'⟩ := hagain _ (Nat.le_refl k) d hd heq
        cases heq'
      · obtain rfl | hd := List.mem_cons.mp hd
        · exact (hroot c hc).symm
        · exact hnew c hc d hd

/-- Of a pattern that makes progress, the preferred match ends where the first of all ways ends. -/
theorem prefers_iff_of_progresses (h : p.Progresses chars) : p.Prefers chars i j ↔
    ∃ w, Way chars p.writtenOut i w j ∧
      ∀ v k, Way chars p.writtenOut i v k → w = v ∨ Choice.Before w v := by
  have hdirect : ∀ {v k}, Way chars p.writtenOut i v k → Choice.Direct v :=
    fun hv => hv.direct p.isWrittenOut_writtenOut h.writtenOut
  constructor
  · rintro ⟨w, hw, -, hall⟩
    exact ⟨w, hw, fun v k hv => hall v k hv (hdirect hv)⟩
  · rintro ⟨w, hw, hall⟩
    exact ⟨w, hw, hdirect hw, fun v k hv _ => hall v k hv⟩

end Pattern

end Linewatch
