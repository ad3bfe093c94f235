import Linewatch.Proofs.Pattern.Marks
import Linewatch.Proofs.Pattern.Runs

namespace Linewatch.Program

variable {p : Program} {chars : Array Char} {m : Marks} {n v : Node} {fuel start : Nat}

theorem follow_of_contains {rest : List Node} (h : m.contains n.1 n.2 = true) :
    p.follow chars (fuel + 1) start (n :: rest) m = p.follow chars fuel start rest m := by
  simp [follow, h]

theorem follow_of_accept {rest : List Node} (h : m.contains n.1 n.2 = false)
    (ha : p.code[n.1]? = some .accept) :
    p.follow chars (fuel + 1) start (n :: rest) m = some ⟨start, n.2⟩ := by
  simp [follow, h, ha]

theorem follow_of_not_contains {rest : List Node} (h : m.contains n.1 n.2 = false)
    (ha : p.code[n.1]? ≠ some .accept) : p.follow chars (fuel + 1) start (n :: rest) m =
      p.follow chars fuel start (p.nexts chars n ++ rest) (m.insert n.1 n.2) := by
  cases hc : p.code[n.1]? with
  | none => simp [follow, nexts, h, hc]
  | some instr =>
    cases instr with
    | accept => exact absurd hc ha
    | jump | fork => simp [follow, nexts, h, hc]
    | test anchor next => by_cases ht : anchor.holdsAt chars n.2 <;> simp [follow, nexts, h, hc, ht]
    | take cls next =>
      cases ht : chars[n.2]? with
      | none => simp [follow, nexts, h, hc, ht]
      | some c => by_cases hm : cls.contains c <;> simp [follow, nexts, h, hc, ht, hm]

structure Item where
  node : Node
  forks : Set Node

inductive FirstOf (p : Program) (chars : Array Char) : List Item → Option Nat → Prop
  | nil : FirstOf p chars [] none
  | hit {item : Item} {rest : List Item} {j : Nat}
      (h : p.IsFirst chars item.forks item.node (some j)) : FirstOf p chars (item :: rest) (some j)
  | miss {item : Item} {rest : List Item} {r : Option Nat}
      (h : p.IsFirst chars item.forks item.node none) (hr : FirstOf p chars rest r) :
      FirstOf p chars (item :: rest) r

/-- What is known of the nodes that a search has seen: from a node that is none of the forks on the
way to an item, they lead to each other, to the item and to the nodes above it. -/
def Closed (p : Program) (chars : Array Char) (V : Set Node) : Set Node → List Item → Prop
  | above, [] => ∀ v ∈ V, ∀ u ∈ p.nexts chars v, u ∈ V ∪ above
  | above, item :: rest =>
    item.forks ⊆ V ∧ (∀ v ∈ item.forks, ∃ a b, p.nexts chars v = [a, b]) ∧
      (∀ v ∈ V, v ∉ item.forks → ∀ u ∈ p.nexts chars v, u ∈ V ∪ insert item.node above) ∧
      Closed p chars V (insert item.node above) rest

/-- What a search answers that begins with a stack at a place of the line. -/
inductive Outcome (p : Program) (chars : Array Char) : Nat → List Item → Option Span → Prop
  | found {start j : Nat} {items : List Item} (h : p.FirstOf chars items (some j)) :
      Outcome p chars start items (some ⟨start, j⟩)
  | next {start : Nat} {items : List Item} {r : Option Span} (h : p.FirstOf chars items none)
      (hs : start < chars.size) (hr : Outcome p chars (start + 1) [⟨(0, start + 1), ∅⟩] r) :
      Outcome p chars start items r
  | ended {start : Nat} {items : List Item} (h : p.FirstOf chars items none)
      (hs : chars.size ≤ start) : Outcome p chars start items none

variable {V W above above' : Set Node} {item : Item} {items items' rest : List Item}

theorem Outcome.of_firstOf {r : Option Span} (h : p.Outcome chars start items r)
    (hfirst : ∀ o, p.FirstOf chars items o → p.FirstOf chars items' o) :
    p.Outcome chars start items' r := by
  cases h with
  | found h => exact .found (hfirst _ h)
  | next h hs hr => exact .next (hfirst _ h) hs hr
  | ended h hs => exact .ended (hfirst _ h) hs

/-- What has been seen may grow by nodes that lead to it or to the nodes above. -/
theorem Closed.mono (h : p.Closed chars V above items) (hV : V ⊆ W) (habove : above ⊆ W ∪ above')
    (hnew : ∀ v ∈ W, v ∉ V → ∀ u ∈ p.nexts chars v, u ∈ W ∪ above') :
    p.Closed chars W above' items := by
  induction items generalizing above above' with
  | nil =>
    intro v hv u hu
    by_cases hmem : v ∈ V
    · exact (h v hmem u hu).elim (fun h => .inl (hV h)) (fun h => habove h)
    · exact hnew v hv hmem u hu
  | cons item rest ih =>
    obtain ⟨hforks, hsplit, hclosed, hrest⟩ := h
    have hle : W ∪ above' ⊆ W ∪ insert item.node above' :=
      Set.union_subset_union_right _ (Set.subset_insert _ _)
    have habove' : insert item.node above ⊆ W ∪ insert item.node above' :=
      Set.insert_subset (.inr (Set.mem_insert _ _)) (habove.trans hle)
    refine ⟨hforks.trans hV, hsplit, ?_, ih hrest habove' fun v hv hn u hu => hle (hnew v hv hn u hu)⟩
    intro v hv hn u hu
    by_cases hmem : v ∈ V
    · exact (hclosed v hmem hn u hu).elim (fun h => .inl (hV h)) (fun h => habove' h)
    · exact hle (hnew v hv hmem u hu)

/-- A node that has been dealt with, with what it leads to on the stack, adds to what has been
seen. -/
theorem Closed.tail (h : p.Closed chars V ∅ (item :: rest))
    (hn : ∀ u ∈ p.nexts chars item.node, u ∈ insert item.node V ∪ above) :
    p.Closed chars (insert item.node V) above rest := by
  refine h.2.2.2.mono (Set.subset_insert _ _) ?_ ?_
  · exact Set.insert_subset (.inl (Set.mem_insert _ _)) (Set.empty_subset _)
  · intro v hv hmem u hu
    obtain rfl : v = item.node := hv.resolve_right hmem
    exact hn u hu

theorem Closed.step (h : p.Closed chars V ∅ (item :: rest))
    (hn : p.nexts chars item.node = [n]) :
    p.Closed chars (insert item.node V) ∅ (⟨n, item.forks⟩ :: rest) := by
  have hrest : p.Closed chars (insert item.node V) (insert n ∅) rest :=
    h.tail fun u hu => .inr (by simpa [hn] using hu)
  obtain ⟨hforks, hsplit, hclosed, -⟩ := h
  refine ⟨hforks.trans (Set.subset_insert _ _), hsplit, ?_, hrest⟩
  rintro v (rfl | hv) hnot u hu
  · exact .inr (by simpa [hn] using hu)
  · obtain hu | rfl | hu := hclosed v hv hnot u hu
    · exact .inl (.inr hu)
    · exact .inl (.inl rfl)
    · cases hu

theorem Closed.fork {a b : Node} (h : p.Closed chars V ∅ (item :: rest))
    (hn : p.nexts chars item.node = [a, b]) :
    p.Closed chars (insert item.node V) ∅
      (⟨a, insert item.node item.forks⟩ :: ⟨b, insert item.node item.forks⟩ :: rest) := by
  have hrest : p.Closed chars (insert item.node V) (insert b (insert a ∅)) rest :=
    h.tail fun u hu => .inr (by simpa [hn, or_comm] using hu)
  obtain ⟨hforks, hsplit, hclosed, -⟩ := h
  have hsub : insert item.node item.forks ⊆ insert item.node V := Set.insert_subset_insert hforks
  have hsplit' : ∀ v ∈ insert item.node item.forks, ∃ a b, p.nexts chars v = [a, b] := by
    rintro v (rfl | hv)
    · exact ⟨a, b, hn⟩
    · exact hsplit v hv
  have hclosed' : ∀ v ∈ insert item.node V, v ∉ insert item.node item.forks →
      ∀ u ∈ p.nexts chars v, u ∈ insert item.node V := by
    rintro v (rfl | hv) hnot u hu
    · exact absurd (Set.mem_insert _ _) hnot
    · obtain hu | rfl | hu := hclosed v hv (fun h => hnot (.inr h)) u hu
      · exact .inr hu
      · exact .inl rfl
      · cases hu
  exact ⟨hsub, hsplit', fun v hv hnot u hu => .inl (hclosed' v hv hnot u hu),
    hsub, hsplit', fun v hv hnot u hu => .inl (hclosed' v hv hnot u hu), hrest⟩

/-- What holds all along a search, of the stack, the marks and the fuel that is left. -/
structure Keeps (p : Program) (chars : Array Char) (fuel start : Nat) (items : List Item)
    (m : Marks) : Prop where
  places : m.places = chars.size + 1
  fits : m.Fits p.code.size
  start_le : start ≤ chars.size
  place_le : ∀ item ∈ items, item.node.2 ≤ chars.size
  closed : p.Closed chars (p.seen m) ∅ items
  fruitless : ∀ v ∈ p.seen m, p.code[v.1]? ≠ some .accept
  fuel_lt : 2 * p.unmarked m + items.length + 2 * (chars.size - start) < fuel

namespace Keeps

theorem place_lt (h : p.Keeps chars fuel start (item :: rest) m) : item.node.2 < m.places := by
  have := h.place_le item List.mem_cons_self
  have := h.places
  omega

theorem pop (h : p.Keeps chars (fuel + 1) start (item :: rest) m) (hn : item.node ∈ p.seen m) :
    p.Keeps chars fuel start rest m := by
  refine ⟨h.places, h.fits, h.start_le, fun i hi => h.place_le i (List.mem_cons_of_mem _ hi), ?_,
    h.fruitless, ?_⟩
  · have hclosed := h.closed.2.2.2
    exact hclosed.mono (Set.Subset.refl _)
      (Set.insert_subset (.inl hn) (Set.empty_subset _)) fun v hv hnot => absurd hv hnot
  · have := h.fuel_lt
    rw [List.length_cons] at this
    omega

/-- From what has been seen there is no run that is clear of the forks on the way there. -/
theorem isFirst_none (h : p.Keeps chars fuel start (item :: rest) m) (hn : item.node ∈ p.seen m) :
    p.IsFirst chars item.forks item.node none := by
  obtain ⟨-, hsplit, hclosed, -⟩ := h.closed
  refine IsFirst.none_of_closed hsplit (fun v hv hnot u hu => ?_) h.fruitless hn
  obtain hu | rfl | hu := hclosed v hv hnot u hu
  · exact hu
  · exact hn
  · cases hu

theorem advance (h : p.Keeps chars (fuel + 1) start (item :: rest) m) (items : List Item)
    (ha : p.code[item.node.1]? ≠ some .accept)
    (hnodes : ∀ i ∈ items, i.node ∈ p.nexts chars item.node)
    (hclosed : p.Closed chars (insert item.node (p.seen m)) ∅ (items ++ rest))
    (hfuel : 2 * p.unmarked (m.insert item.node.1 item.node.2) + items.length ≤ 2 * p.unmarked m) :
    p.Keeps chars fuel start (items ++ rest) (m.insert item.node.1 item.node.2) where
  places := h.places
  fits := Marks.fits_insert h.fits
  start_le := h.start_le
  place_le i hi := by
    obtain hi | hi := List.mem_append.mp hi
    · exact place_le_of_mem_nexts (h.place_le item List.mem_cons_self) (hnodes i hi)
    · exact h.place_le i (List.mem_cons_of_mem _ hi)
  closed := by rwa [seen_insert h.place_lt h.fits]
  fruitless := by
    rw [seen_insert h.place_lt h.fits]
    rintro v (rfl | hv)
    · exact ha
    · exact h.fruitless v hv
  fuel_lt := by
    have := h.fuel_lt
    rw [List.length_cons] at this
    rw [List.length_append]
    omega

theorem restart (h : p.Keeps chars (fuel + 1) start [] m) (hs : start < chars.size) :
    p.Keeps chars fuel (start + 1) [⟨(0, start + 1), ∅⟩] m where
  places := h.places
  fits := h.fits
  start_le := hs
  place_le i hi := by
    obtain rfl := List.mem_singleton.mp hi
    exact hs
  closed := by
    have hclosed : p.Closed chars (p.seen m) ∅ [] := h.closed
    refine ⟨Set.empty_subset _, fun v hv => hv.elim, fun v hv _ u hu => ?_, fun v hv u hu => ?_⟩
    · exact .inl ((hclosed v hv u hu).resolve_right (Set.notMem_empty u))
    · exact .inl ((hclosed v hv u hu).resolve_right (Set.notMem_empty u))
  fruitless := h.fruitless
  fuel_lt := by
    have := h.fuel_lt
    rw [List.length_nil] at this
    rw [List.length_singleton]
    omega

end Keeps

theorem lt_size_of_nexts_eq_cons {l : List Node} (h : p.nexts chars n = v :: l) :
    n.1 < p.code.size := by
  refine Nat.lt_of_not_le fun hle => ?_
  simp [nexts, Array.getElem?_eq_none hle] at h

theorem outcome_follow (h : p.Keeps chars fuel start items m) :
    p.Outcome chars start items (p.follow chars fuel start (items.map Item.node) m) := by
  induction fuel generalizing start items m with
  | zero => exact absurd h.fuel_lt (Nat.not_lt_zero _)
  | succ fuel ih =>
    cases items with
    | nil =>
      rw [List.map_nil, follow]
      split
      next hs =>
        exact .next .nil hs (ih (h.restart hs))
      next hs => exact .ended .nil (Nat.le_of_not_lt hs)
    | cons item rest =>
      rw [List.map_cons]
      by_cases hm : m.contains item.node.1 item.node.2 = true
      · -- The node has been seen, and what was found from it then still stands.
        have hn : item.node ∈ p.seen m := ⟨h.place_lt, .inr hm⟩
        rw [follow_of_contains hm]
        exact (ih (h.pop hn)).of_firstOf fun _ => .miss (h.isFirst_none hn)
      rw [Bool.not_eq_true] at hm
      by_cases ha : p.code[item.node.1]? = some .accept
      · rw [follow_of_accept hm ha]
        exact .found (.hit (.of_accept ha))
      rw [follow_of_not_contains hm ha]
      -- The node gets its mark, which pays for what it leads to being put on the stack.
      obtain hn | ⟨a, hn⟩ | ⟨a, b, hn⟩ := p.nexts_cases chars item.node
      · have hk := h.advance [] ha (by simp) (h.closed.tail (by simp [hn]))
          (Nat.mul_le_mul_left 2 (unmarked_insert_le h.place_lt))
        rw [hn]
        exact (ih hk).of_firstOf fun _ => .miss (.of_nexts_eq_nil hn ha)
      · have hlt := lt_size_of_nexts_eq_cons hn
        have hcount := unmarked_insert h.place_lt h.fits hlt hm
        have hk := h.advance [⟨a, item.forks⟩] ha (by simp [hn]) (h.closed.step hn)
          (by rw [List.length_singleton]; omega)
        rw [hn]
        refine (ih hk).of_firstOf fun _ hfirst => ?_
        cases hfirst with
        | hit hi => exact .hit (.step hn hi)
        | miss hi hr => exact .miss (.step hn hi) hr
      · have hlt := lt_size_of_nexts_eq_cons hn
        have hcount := unmarked_insert h.place_lt h.fits hlt hm
        have hk := h.advance [⟨a, insert item.node item.forks⟩,
          ⟨b, insert item.node item.forks⟩] ha (by simp [hn]) (h.closed.fork hn)
          (by rw [List.length_cons, List.length_singleton]; omega)
        have hnot : item.node ∉ item.forks := fun hmem => by
          obtain hle | hc := (h.closed.1 hmem).2
          · omega
          · simp [hm] at hc
        rw [hn]
        refine (ih hk).of_firstOf fun _ hfirst => ?_
        cases hfirst with
        | hit hi => exact .hit (.first hn hnot hi)
        | miss hi hr =>
          cases hr with
          | hit hj => exact .hit (.second hn hnot hi hj)
          | miss hj hr => exact .miss (.second hn hnot hi hj) hr

/-- A search with no marks yet has fuel enough. -/
theorem keeps_start (p : Program) (chars : Array Char) :
    p.Keeps chars ((2 * p.code.size + 2) * (chars.size + 1) + 1) 0 [⟨(0, 0), ∅⟩]
      (.none p.code.size (chars.size + 1)) where
  places := rfl
  fits := Marks.fits_none _ _
  start_le := Nat.zero_le _
  place_le i hi := by
    obtain rfl := List.mem_singleton.mp hi
    exact Nat.zero_le _
  closed := by
    have hbeyond : ∀ v ∈ p.seen (.none p.code.size (chars.size + 1)), p.nexts chars v = [] := by
      intro v hv
      obtain hle | hc := hv.2
      · simp [nexts, Array.getElem?_eq_none hle]
      · simp [Marks.contains_none] at hc
    refine ⟨Set.empty_subset _, fun v hv => hv.elim, fun v hv _ u hu => ?_, fun v hv u hu => ?_⟩
    · simp [hbeyond v hv] at hu
    · simp [hbeyond v hv] at hu
  fruitless v hv := by
    obtain hle | hc := hv.2
    · simp [Array.getElem?_eq_none hle]
    · simp [Marks.contains_none] at hc
  fuel_lt := by
    have hle : p.unmarked (.none p.code.size (chars.size + 1)) ≤ p.code.size * (chars.size + 1) := by
      refine (Finset.card_filter_le _ _).trans_eq ?_
      rw [Finset.card_product, Finset.card_range, Finset.card_range]
      rfl
    have hmul : (2 * p.code.size + 2) * (chars.size + 1) =
        2 * (p.code.size * (chars.size + 1)) + 2 * (chars.size + 1) := by
      rw [Nat.add_mul, Nat.mul_assoc]
    rw [List.length_singleton]
    omega

theorem outcome_find? (p : Program) (chars : Array Char) :
    p.Outcome chars 0 [⟨(0, 0), ∅⟩] (p.find? chars) :=
  outcome_follow (keeps_start p chars)

theorem FirstOf.isFirst {r : Option Nat} (h : p.FirstOf chars [item] r) :
    p.IsFirst chars item.forks item.node r := by
  cases h with
  | hit h => exact h
  | miss h hr =>
    cases hr
    exact h

theorem Outcome.not_runs (h : p.Outcome chars start [⟨(0, start), ∅⟩] none) {s : Nat}
    (hs : start ≤ s) (hle : s ≤ chars.size) {w : List (Choice Nat)} {j : Nat} :
    ¬ p.Runs chars (0, s) w j := by
  generalize hr : (none : Option Span) = r at h
  generalize hi : [(⟨(0, start), ∅⟩ : Item)] = items at h
  induction h with
  | found => cases hr
  | @next start _ _ h _ _ ih =>
    subst hi
    obtain rfl | hlt := Nat.eq_or_lt_of_le hs
    · exact h.isFirst.not_runs
    · exact ih hlt hr rfl
  | @ended start _ h hs' =>
    subst hi
    obtain rfl : s = start := by omega
    exact h.isFirst.not_runs

theorem Outcome.isFirst {sp : Span} (h : p.Outcome chars start [⟨(0, start), ∅⟩] (some sp)) :
    start ≤ sp.start ∧ (start ≤ chars.size → sp.start ≤ chars.size) ∧
      (∀ s, start ≤ s → s < sp.start → ∀ w j, ¬ p.Runs chars (0, s) w j) ∧
        p.IsFirst chars ∅ (0, sp.start) (some sp.stop) := by
  generalize hr : some sp = r at h
  generalize hi : [(⟨(0, start), ∅⟩ : Item)] = items at h
  induction h with
  | found h =>
    subst hi
    cases hr
    exact ⟨Nat.le_refl _, id, fun s hs hlt => absurd hs (Nat.not_le_of_lt hlt), h.isFirst⟩
  | @next start _ _ h hlt _ ih =>
    subst hi
    obtain ⟨hle, hsize, hnone, hfirst⟩ := ih hr rfl
    refine ⟨Nat.le_of_succ_le hle, fun _ => hsize hlt, fun s hs hlt w j => ?_, hfirst⟩
    obtain rfl | hs := Nat.eq_or_lt_of_le hs
    · exact h.isFirst.not_runs
    · exact hnone s hs hlt w j
  | ended => cases hr

/-- A search finds the leftmost place that a run starts from, and where the first direct run from
there ends. -/
theorem find?_eq_some_iff {sp : Span} : p.find? chars = some sp ↔ sp.start ≤ chars.size ∧
    (∀ s < sp.start, ∀ w j, ¬ p.Runs chars (0, s) w j) ∧
      p.IsFirst chars ∅ (0, sp.start) (some sp.stop) := by
  have hout := p.outcome_find? chars
  constructor
  · intro h
    rw [h] at hout
    obtain ⟨-, hle, hnone, hfirst⟩ := hout.isFirst
    exact ⟨hle (Nat.zero_le _), fun s => hnone s (Nat.zero_le s), hfirst⟩
  · rintro ⟨hle, hnone, hfirst⟩
    have ⟨w, hw, _⟩ := hfirst
    cases h : p.find? chars with
    | none =>
      rw [h] at hout
      exact absurd hw (hout.not_runs (Nat.zero_le _) hle)
    | some sp' =>
      rw [h] at hout
      obtain ⟨-, -, hnone', hfirst'⟩ := hout.isFirst
      have ⟨w', hw', _⟩ := hfirst'
      have hstart : sp'.start = sp.start := by
        obtain hlt | heq | hlt := Nat.lt_trichotomy sp'.start sp.start
        · exact absurd hw' (hnone _ hlt w' _)
        · exact heq
        · exact absurd hw (hnone' _ (Nat.zero_le _) hlt w _)
      rw [hstart] at hfirst'
      have hstop := hfirst'.unique hfirst
      cases sp
      cases sp'
      simp only at hstart hstop
      rw [hstart, hstop]

theorem find?_eq_none_iff : p.find? chars = none ↔
    ∀ s ≤ chars.size, ∀ w j, ¬ p.Runs chars (0, s) w j := by
  constructor
  · intro h s hs w j
    have hout := p.outcome_find? chars
    rw [h] at hout
    exact hout.not_runs (Nat.zero_le _) hs
  · intro h
    refine Option.eq_none_iff_forall_ne_some.mpr fun sp hsp => ?_
    obtain ⟨hle, -, w, hw, -⟩ := find?_eq_some_iff.mp hsp
    exact h _ hle w _ hw

end Linewatch.Program
