import Mathlib.Data.Set.Insert
import Linewatch.Pattern.Search
import Linewatch.Proofs.Pattern.Ways

namespace Linewatch.Program

abbrev Node := Nat × Nat

def nexts (p : Program) (chars : Array Char) (n : Node) : List Node :=
  match p.code[n.1]? with
  | none => []
  | some .accept => []
  | some (.jump next) => [(next, n.2)]
  | some (.fork first second) => [(first, n.2), (second, n.2)]
  | some (.test anchor next) => if anchor.holdsAt chars n.2 then [(next, n.2)] else []
  | some (.take cls next) =>
    match chars[n.2]? with
    | some c => if cls.contains c then [(next, n.2 + 1)] else []
    | none => []

/-- The runs from a node to the end of the program, with the choices made at forks and the place
where the run ends. -/
inductive Runs (p : Program) (chars : Array Char) : Node → List (Choice Nat) → Nat → Prop
  | accept {n : Node} (h : p.code[n.1]? = some .accept) : Runs p chars n [] n.2
  | step {n m : Node} {w : List (Choice Nat)} {j : Nat} (h : p.nexts chars n = [m])
      (hr : Runs p chars m w j) : Runs p chars n w j
  | first {n a b : Node} {w : List (Choice Nat)} {j : Nat} (h : p.nexts chars n = [a, b])
      (hr : Runs p chars a w j) : Runs p chars n (⟨n.1, n.2, true⟩ :: w) j
  | second {n a b : Node} {w : List (Choice Nat)} {j : Nat} (h : p.nexts chars n = [a, b])
      (hr : Runs p chars b w j) : Runs p chars n (⟨n.1, n.2, false⟩ :: w) j

def Clear (A : Set Node) (w : List (Choice Nat)) : Prop :=
  Choice.Direct w ∧ ∀ c ∈ w, c.key ∉ A

/-- Where the first of the runs from a node ends that stay clear of the forks in a set, if there are
any. -/
def IsFirst (p : Program) (chars : Array Char) (A : Set Node) (n : Node) : Option Nat → Prop
  | none => ∀ w j, p.Runs chars n w j → ¬ Clear A w
  | some j => ∃ w, p.Runs chars n w j ∧ Clear A w ∧
    ∀ v k, p.Runs chars n v k → Clear A v → w = v ∨ Choice.Before w v

variable {p : Program} {chars : Array Char} {n m a b : Node} {A : Set Node} {j k : Nat}
  {v w : List (Choice Nat)} {r : Option Nat}

theorem nexts_of_accept (h : p.code[n.1]? = some .accept) : p.nexts chars n = [] := by
  simp only [nexts, h]

theorem nexts_cases (p : Program) (chars : Array Char) (n : Node) :
    p.nexts chars n = [] ∨ (∃ m, p.nexts chars n = [m]) ∨ ∃ a b, p.nexts chars n = [a, b] := by
  rw [nexts]
  split
  · exact .inl rfl
  · exact .inl rfl
  · exact .inr (.inl ⟨_, rfl⟩)
  · exact .inr (.inr ⟨_, _, rfl⟩)
  · split
    · exact .inr (.inl ⟨_, rfl⟩)
    · exact .inl rfl
  · split
    · split
      · exact .inr (.inl ⟨_, rfl⟩)
      · exact .inl rfl
    · exact .inl rfl

theorem place_le_of_mem_nexts (hn : n.2 ≤ chars.size) (hm : m ∈ p.nexts chars n) :
    m.2 ≤ chars.size := by
  rw [nexts] at hm
  split at hm
  · cases hm
  · cases hm
  · obtain rfl := List.mem_singleton.mp hm
    exact hn
  · obtain rfl | hm := List.mem_cons.mp hm
    · exact hn
    · obtain rfl := List.mem_singleton.mp hm
      exact hn
  · split at hm
    · obtain rfl := List.mem_singleton.mp hm
      exact hn
    · cases hm
  · split at hm
    next c hc =>
      split at hm
      · obtain rfl := List.mem_singleton.mp hm
        obtain ⟨hlt, -⟩ := Array.getElem?_eq_some_iff.mp hc
        exact hlt
      · cases hm
    · cases hm

namespace Runs

theorem step_iff (h : p.nexts chars n = [m]) : p.Runs chars n w j ↔ p.Runs chars m w j := by
  constructor
  · intro hr
    cases hr with
    | accept ha => simp [nexts_of_accept ha] at h
    | step hs hr =>
      rw [h] at hs
      cases hs
      exact hr
    | first hs | second hs => simp [h] at hs
  · exact .step h

theorem fork_iff (h : p.nexts chars n = [a, b]) : p.Runs chars n w j ↔
    (∃ v, w = ⟨n.1, n.2, true⟩ :: v ∧ p.Runs chars a v j) ∨
      ∃ v, w = ⟨n.1, n.2, false⟩ :: v ∧ p.Runs chars b v j := by
  constructor
  · intro hr
    cases hr with
    | accept ha => simp [nexts_of_accept ha] at h
    | step hs => simp [h] at hs
    | first hs hr =>
      rw [h] at hs
      cases hs
      exact .inl ⟨_, rfl, hr⟩
    | second hs hr =>
      rw [h] at hs
      cases hs
      exact .inr ⟨_, rfl, hr⟩
  · rintro (⟨v, rfl, hr⟩ | ⟨v, rfl, hr⟩)
    · exact .first h hr
    · exact .second h hr

theorem accept_iff (h : p.code[n.1]? = some .accept) : p.Runs chars n w j ↔ w = [] ∧ j = n.2 := by
  constructor
  · intro hr
    cases hr with
    | accept => exact ⟨rfl, rfl⟩
    | step hs | first hs | second hs => simp [nexts_of_accept h] at hs
  · rintro ⟨rfl, rfl⟩
    exact .accept h

theorem not_of_nexts_eq_nil (h : p.nexts chars n = []) (ha : p.code[n.1]? ≠ some .accept) :
    ¬ p.Runs chars n w j := by
  intro hr
  cases hr with
  | accept h' => exact ha h'
  | step hs | first hs | second hs => simp [h] at hs

/-- What is chosen on a run tells where it ends. -/
theorem unique (h : p.Runs chars n w j) (h' : p.Runs chars n w k) : j = k := by
  induction h generalizing k with
  | accept ha => exact ((accept_iff ha).mp h').2.symm
  | step hs _ ih => exact ih ((step_iff hs).mp h')
  | first hs _ ih =>
    obtain ⟨v, he, hr⟩ | ⟨v, he, hr⟩ := (fork_iff hs).mp h'
    · cases he
      exact ih hr
    · cases he
  | second hs _ ih =>
    obtain ⟨v, he, hr⟩ | ⟨v, he, hr⟩ := (fork_iff hs).mp h'
    · cases he
    · cases he
      exact ih hr

/-- What is left of a run after some of its choices is a run from the fork of the next one. -/
theorem of_append {c : Choice Nat} (h : p.Runs chars n (v ++ c :: w) j) :
    p.Runs chars c.key (c :: w) j := by
  generalize hu : v ++ c :: w = u at h
  induction h generalizing v with
  | accept => simp at hu
  | step _ _ ih => exact ih hu
  | @first n a b u j hs hr ih =>
    cases v with
    | nil =>
      cases hu
      exact .first hs hr
    | cons d v => exact ih (List.cons.inj hu).2
  | @second n a b u j hs hr ih =>
    cases v with
    | nil =>
      cases hu
      exact .second hs hr
    | cons d v => exact ih (List.cons.inj hu).2

/-- A run may go on as another one does from a fork that both come to. -/
theorem splice {c d : Choice Nat} {x y : List (Choice Nat)} (h : p.Runs chars n (v ++ c :: w) j)
    (h' : p.Runs chars m (x ++ d :: y) k) (hkey : c.key = d.key) :
    p.Runs chars m (x ++ c :: w) j := by
  have hrest := hkey ▸ of_append h
  generalize hu : x ++ d :: y = u at h'
  induction h' generalizing x with
  | accept => simp at hu
  | step hs _ ih => exact .step hs (ih hu)
  | first hs _ ih =>
    cases x with
    | nil =>
      cases hu
      exact hrest
    | cons b x =>
      obtain ⟨rfl, hu'⟩ := List.cons.inj hu
      exact .first hs (ih hu')
  | second hs _ ih =>
    cases x with
    | nil =>
      cases hu
      exact hrest
    | cons b x =>
      obtain ⟨rfl, hu'⟩ := List.cons.inj hu
      exact .second hs (ih hu')

/-- A fork at which a run comes by again is where a shorter run can begin. -/
theorem exists_direct_of_cons {c : Choice Nat} (hn : c.key = n) (h : p.Runs chars n (c :: w) j)
    (hd : Choice.Direct w) : ∃ v, p.Runs chars n v j ∧ Choice.Direct v := by
  by_cases hm : c.key ∈ w.map Choice.key
  · obtain ⟨d, hd', hk⟩ := List.mem_map.mp hm
    obtain ⟨x, y, rfl⟩ := List.append_of_mem hd'
    refine ⟨d :: y, ?_, ?_⟩
    · rw [← hn, ← hk]
      exact of_append (v := c :: x) h
    · rw [Choice.Direct, List.map_append] at hd
      exact (List.nodup_append.mp hd).2.1
  · exact ⟨c :: w, h, List.nodup_cons.mpr ⟨hm, hd⟩⟩

theorem exists_direct (h : p.Runs chars n w j) : ∃ v, p.Runs chars n v j ∧ Choice.Direct v := by
  induction h with
  | accept ha => exact ⟨[], .accept ha, List.nodup_nil⟩
  | step hs _ ih =>
    obtain ⟨v, hv, hd⟩ := ih
    exact ⟨v, .step hs hv, hd⟩
  | first hs _ ih =>
    obtain ⟨v, hv, hd⟩ := ih
    exact exists_direct_of_cons rfl (.first hs hv) hd
  | second hs _ ih =>
    obtain ⟨v, hv, hd⟩ := ih
    exact exists_direct_of_cons rfl (.second hs hv) hd

end Runs

theorem clear_empty : Clear ∅ w ↔ Choice.Direct w := by
  simp [Clear]

theorem clear_cons {c : Choice Nat} :
    Clear A (c :: w) ↔ c.key ∉ A ∧ Clear (insert c.key A) w := by
  simp only [Clear, Choice.Direct, List.map_cons, List.nodup_cons, List.forall_mem_cons,
    Set.mem_insert_iff, not_or, List.mem_map, not_exists, not_and]
  constructor
  · rintro ⟨⟨hc, hd⟩, ha, hw⟩
    exact ⟨ha, hd, fun d hm => ⟨hc d hm, hw d hm⟩⟩
  · rintro ⟨ha, hd, hw⟩
    exact ⟨⟨fun d hm => (hw d hm).1, hd⟩, ha, fun d hm => (hw d hm).2⟩

namespace IsFirst

theorem of_accept (h : p.code[n.1]? = some .accept) : p.IsFirst chars A n (some n.2) := by
  refine ⟨[], .accept h, ⟨List.nodup_nil, by simp⟩, fun v k hv _ => .inl ?_⟩
  exact ((Runs.accept_iff h).mp hv).1.symm

theorem of_nexts_eq_nil (h : p.nexts chars n = []) (ha : p.code[n.1]? ≠ some .accept) :
    p.IsFirst chars A n none :=
  fun _ _ hr => absurd hr (Runs.not_of_nexts_eq_nil h ha)

theorem step (h : p.nexts chars n = [m]) (hm : p.IsFirst chars A m r) : p.IsFirst chars A n r := by
  cases r with
  | none => exact fun w j hr => hm w j ((Runs.step_iff h).mp hr)
  | some j =>
    obtain ⟨w, hw, hc, hall⟩ := hm
    exact ⟨w, .step h hw, hc, fun v k hv => hall v k ((Runs.step_iff h).mp hv)⟩

theorem first (h : p.nexts chars n = [a, b]) (hn : n ∉ A)
    (ha : p.IsFirst chars (insert n A) a (some j)) : p.IsFirst chars A n (some j) := by
  obtain ⟨w, hw, hc, hall⟩ := ha
  refine ⟨_, .first h hw, clear_cons.mpr ⟨hn, hc⟩, ?_⟩
  intro v k hv hcv
  obtain ⟨u, rfl, hu⟩ | ⟨u, rfl, -⟩ := (Runs.fork_iff h).mp hv
  · obtain rfl | hb := hall u k hu (clear_cons.mp hcv).2
    · exact .inl rfl
    · exact .inr (.inr ⟨rfl, hb⟩)
  · exact .inr (.inl ⟨rfl, rfl⟩)

theorem second (h : p.nexts chars n = [a, b]) (hn : n ∉ A)
    (ha : p.IsFirst chars (insert n A) a none) (hb : p.IsFirst chars (insert n A) b r) :
    p.IsFirst chars A n r := by
  cases r with
  | none =>
    intro w j hw hc
    obtain ⟨u, rfl, hu⟩ | ⟨u, rfl, hu⟩ := (Runs.fork_iff h).mp hw
    · exact ha u j hu (clear_cons.mp hc).2
    · exact hb u j hu (clear_cons.mp hc).2
  | some j =>
    obtain ⟨w, hw, hc, hall⟩ := hb
    refine ⟨_, .second h hw, clear_cons.mpr ⟨hn, hc⟩, ?_⟩
    intro v k hv hcv
    obtain ⟨u, rfl, hu⟩ | ⟨u, rfl, hu⟩ := (Runs.fork_iff h).mp hv
    · exact absurd (clear_cons.mp hcv).2 (ha u k hu)
    · obtain rfl | hbefore := hall u k hu (clear_cons.mp hcv).2
      · exact .inl rfl
      · exact .inr (.inr ⟨rfl, hbefore⟩)

/-- From within a set that no run leaves but at the given forks, no run arrives clear of them. -/
theorem none_of_closed {V : Set Node} (hforks : ∀ v ∈ A, ∃ a b, p.nexts chars v = [a, b])
    (hV : ∀ v ∈ V, v ∉ A → ∀ u ∈ p.nexts chars v, u ∈ V)
    (haccept : ∀ v ∈ V, p.code[v.1]? ≠ some .accept) (hn : n ∈ V) : p.IsFirst chars A n none := by
  intro w j hr hc
  -- Without a fork of `A` the run would stay in `V` to its end, where nothing accepts.
  suffices h : ∃ c ∈ w, c.key ∈ A by
    obtain ⟨c, hm, hk⟩ := h
    exact hc.2 c hm hk
  clear hc
  induction hr with
  | accept ha => exact absurd ha (haccept _ hn)
  | @step n m w j hs _ ih =>
    have hA : n ∉ A := by
      intro hA
      obtain ⟨a, b, hf⟩ := hforks n hA
      simp [hs] at hf
    exact ih (hV n hn hA m (by simp [hs]))
  | @first n a b w j hs _ ih =>
    by_cases hA : n ∈ A
    · exact ⟨_, List.mem_cons_self, hA⟩
    · obtain ⟨c, hm, hk⟩ := ih (hV n hn hA a (by simp [hs]))
      exact ⟨c, List.mem_cons_of_mem _ hm, hk⟩
  | @second n a b w j hs _ ih =>
    by_cases hA : n ∈ A
    · exact ⟨_, List.mem_cons_self, hA⟩
    · obtain ⟨c, hm, hk⟩ := ih (hV n hn hA b (by simp [hs]))
      exact ⟨c, List.mem_cons_of_mem _ hm, hk⟩

theorem not_runs (h : p.IsFirst chars ∅ n none) : ¬ p.Runs chars n w j := fun hr =>
  have ⟨v, hv, hd⟩ := hr.exists_direct
  h v j hv (clear_empty.mpr hd)

theorem unique (h : p.IsFirst chars A n (some j)) (h' : p.IsFirst chars A n (some k)) : j = k := by
  obtain ⟨v, hv, hcv, hallv⟩ := h
  obtain ⟨w, hw, hcw, hallw⟩ := h'
  obtain rfl | hvw := hallv w k hw hcw
  · exact hv.unique hw
  · obtain rfl | hwv := hallw v j hv hcv
    · exact hv.unique hw
    · exact absurd hwv hvw.asymm

end IsFirst

end Linewatch.Program
