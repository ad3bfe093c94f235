import Mathlib.Tactic.SplitIfs
import Linewatch.Unicode.CharMap

namespace Linewatch.Unicode

def readNumerals (value : Nat) : List Char → List Nat
  | [] => []
  | c :: rest =>
    (numerals.digit (value, #[]) c).2.toList ++ readNumerals (numerals.digit (value, #[]) c).1 rest

theorem digit_eq (value : Nat) (done : Array Nat) (c : Char) :
    numerals.digit (value, done) c =
      ((numerals.digit (value, #[]) c).1, done ++ (numerals.digit (value, #[]) c).2) := by
  simp only [numerals.digit]
  split_ifs <;> simp

theorem toList_foldl_digit (value : Nat) (done : Array Nat) (l : List Char) :
    (l.foldl numerals.digit (value, done)).2.toList = done.toList ++ readNumerals value l := by
  induction l generalizing value done with
  | nil => simp [readNumerals]
  | cons c l ih =>
    rw [List.foldl_cons, digit_eq, ih, readNumerals, Array.toList_append, List.append_assoc]

theorem numerals_ofList (l : List Char) : numerals (String.ofList l) = readNumerals 0 l := by
  rw [numerals, String.foldl_eq_foldl_toList, String.toList_ofList, toList_foldl_digit]
  rfl

namespace CharTable

variable {t : CharTable} {n : Nat} {c : Char}

structure Ascending (t : CharTable) : Prop where
  nonempty : ∀ r ∈ t.ranges.toList, r.1 ≤ r.2
  apart : t.ranges.toList.Pairwise fun r s => r.2 < s.1

theorem le_of_mem_rangesOfGaps {next : Nat} {gaps : List Nat} {r : Nat × Nat}
    (h : r ∈ rangesOfGaps next gaps) : next ≤ r.1 ∧ r.1 ≤ r.2 := by
  fun_induction rangesOfGaps next gaps with
  | case1 next gap extra rest first ih =>
    obtain rfl | h := List.mem_cons.mp h
    · exact ⟨Nat.le_add_right _ _, Nat.le_add_right _ _⟩
    · obtain ⟨hn, hr⟩ := ih h
      exact ⟨by omega, hr⟩
  | case2 => cases h

theorem ascending_ofGaps (gaps : List Nat) : (ofGaps gaps).Ascending where
  nonempty _ hr := (le_of_mem_rangesOfGaps hr).2
  apart := by
    have hall (next : Nat) : (rangesOfGaps next gaps).Pairwise fun r s => r.2 < s.1 := by
      fun_induction rangesOfGaps next gaps with
      | case1 next gap extra rest first ih =>
        exact .cons (fun s hs => (le_of_mem_rangesOfGaps hs).1) ih
      | case2 => exact .nil
    exact hall 0

theorem exists_range_of_search {steps lo hi : Nat} (h : t.search n steps lo hi = true) :
    ∃ r ∈ t.ranges.toList, r.1 ≤ n ∧ n ≤ r.2 := by
  induction steps generalizing lo hi with
  | zero => cases h
  | succ steps ih =>
    rw [search] at h
    split at h
    · cases h
    · dsimp only at h
      split at h
      · cases h
      next first last hr =>
        split at h
        · exact ih h
        · split at h
          · exact ih h
          · exact ⟨_, Array.mem_toList_iff.mpr (Array.mem_of_getElem? hr), by omega, by omega⟩

theorem exists_range_of_contains (h : t.contains c = true) :
    ∃ r ∈ t.ranges.toList, r.1 ≤ c.toNat ∧ c.toNat ≤ r.2 :=
  exists_range_of_search h

variable {i k : Nat}

theorem Ascending.lt (ht : t.Ascending) (hi : i < t.ranges.size) (hk : k < t.ranges.size)
    (h : i < k) : t.ranges[i].2 < t.ranges[k].1 :=
  List.pairwise_iff_getElem.mp ht.apart i k hi hk h

theorem Ascending.le_index (ht : t.Ascending) (hi : i < t.ranges.size) (hk : k < t.ranges.size)
    (h : n ≤ t.ranges[i].2) (hn : t.ranges[k].1 ≤ n) : k ≤ i := by
  refine Nat.le_of_not_lt fun hik => ?_
  have := ht.lt hi hk hik
  omega

/-- A search that has the range of a code point still before it comes to the range. -/
theorem search_of_range (ht : t.Ascending) (hk : k < t.ranges.size)
    (hn : t.ranges[k].1 ≤ n ∧ n ≤ t.ranges[k].2) {steps lo hi : Nat} (hlo : lo ≤ k) (hhi : k < hi)
    (hsize : hi ≤ t.ranges.size) (hsteps : hi - lo ≤ steps) : t.search n steps lo hi = true := by
  induction steps generalizing lo hi with
  | zero => omega
  | succ steps ih =>
    have hmid : (lo + hi) / 2 < t.ranges.size := by omega
    have hne := ht.nonempty _ (Array.mem_toList_iff.mpr (Array.getElem_mem hmid))
    rw [search, if_neg (by omega)]
    simp only [Array.getElem?_eq_getElem hmid]
    split
    next hbefore =>
      have hle := ht.le_index hmid hk (by omega) hn.1
      have hneq : k ≠ (lo + hi) / 2 := by
        rintro rfl
        omega
      exact ih hlo (by omega) (by omega) (by omega)
    next hfirst =>
      split
      next hafter =>
        have hle := ht.le_index hk hmid hn.2 (by omega)
        have hneq : k ≠ (lo + hi) / 2 := by
          rintro rfl
          omega
        exact ih (by omega) hhi hsize (by omega)
      · rfl

theorem contains_of_range (ht : t.Ascending) {r : Nat × Nat} (hr : r ∈ t.ranges.toList)
    (hc : r.1 ≤ c.toNat ∧ c.toNat ≤ r.2) : t.contains c = true := by
  obtain ⟨k, hk, rfl⟩ := List.getElem_of_mem hr
  exact search_of_range ht hk hc (Nat.zero_le _) hk (Nat.le_refl _) (Nat.le_succ _)

end CharTable

namespace RunTable

variable {keep : Nat → Bool} {n : Nat}

def start : List (Nat × Nat) → Nat
  | [] => 0x110000
  | (first, _) :: _ => first

def kept (keep : Nat → Bool) : List (Nat × Nat) → List (Nat × Nat)
  | [] => []
  | (first, value) :: rest =>
    if keep value then (first, start rest) :: kept keep rest else kept keep rest

theorem collect_cons {first value : Nat} {rest : List (Nat × Nat)} {acc : Array (Nat × Nat)} :
    table.collect keep ((first, value) :: rest) acc =
      if keep value then
        match acc.back? with
        | some (before, stop) =>
          if stop = first then table.collect keep rest (acc.pop.push (before, start rest))
          else table.collect keep rest (acc.push (first, start rest))
        | none => table.collect keep rest (acc.push (first, start rest))
      else table.collect keep rest acc := by
  cases rest <;> rfl

def Reaches (l : List (Nat × Nat)) (n : Nat) : Prop := ∃ r ∈ l, r.1 ≤ n ∧ n ≤ r.2 - 1

theorem reaches_append {l m : List (Nat × Nat)} :
    Reaches (l ++ m) n ↔ Reaches l n ∨ Reaches m n := by
  simp only [Reaches, List.mem_append, or_and_right, exists_or]

theorem reaches_singleton {r : Nat × Nat} : Reaches [r] n ↔ r.1 ≤ n ∧ n ≤ r.2 - 1 := by
  simp only [Reaches, List.mem_singleton, exists_eq_left]

theorem reaches_cons {r : Nat × Nat} {l : List (Nat × Nat)} :
    Reaches (r :: l) n ↔ (r.1 ≤ n ∧ n ≤ r.2 - 1) ∨ Reaches l n := by
  simp only [Reaches, List.mem_cons, or_and_right, exists_or, exists_eq_left]

theorem reaches_kept_of_collect {runs : List (Nat × Nat)} {acc : Array (Nat × Nat)}
    (h : Reaches (table.collect keep runs acc).toList n) :
    Reaches acc.toList n ∨ Reaches (kept keep runs) n := by
  induction runs generalizing acc with
  | nil => exact .inl h
  | cons run runs ih =>
    obtain ⟨first, value⟩ := run
    rw [collect_cons] at h
    rw [kept]
    split
    next hkeep =>
      rw [if_pos hkeep] at h
      rw [reaches_cons]
      have hnew (h : Reaches (table.collect keep runs (acc.push (first, start runs))).toList n) :
          Reaches acc.toList n ∨ (first ≤ n ∧ n ≤ start runs - 1) ∨ Reaches (kept keep runs) n := by
        have hacc := ih h
        rwa [Array.toList_push, reaches_append, reaches_singleton, or_assoc] at hacc
      split at h
      next before stop hback =>
        obtain ⟨front, rfl⟩ := Array.back?_eq_some_iff.mp hback
        split at h
        next hstop =>
          subst hstop
          have hacc := ih h
          rw [Array.pop_push, Array.toList_push, reaches_append, reaches_singleton] at hacc
          rw [Array.toList_push, reaches_append, reaches_singleton]
          obtain (hfront | hjoined) | hkept := hacc
          · exact .inl (.inl hfront)
          · obtain hlt | hle := Nat.lt_or_ge n stop
            · exact .inl (.inr ⟨hjoined.1, Nat.le_sub_one_of_lt hlt⟩)
            · exact .inr (.inl ⟨hle, hjoined.2⟩)
          · exact .inr (.inr hkept)
        next => exact hnew h
      next => exact hnew h
    next hkeep =>
      rw [if_neg hkeep] at h
      exact ih h

theorem reaches_kept_of_contains {t : RunTable} {c : Char} (h : (t.table keep).contains c = true) :
    Reaches (kept keep t.runs.toList) c.toNat := by
  obtain ⟨r, hr, hc⟩ := CharTable.exists_range_of_contains h
  rw [table, Array.toList_map] at hr
  obtain ⟨s, hs, rfl⟩ := List.mem_map.mp hr
  obtain ⟨_, ⟨⟩, -⟩ | hkept := reaches_kept_of_collect ⟨s, hs, hc⟩
  exact hkept

end RunTable

namespace CharMap

variable {m : CharMap}

theorem exists_entry_of_mem_search {n steps lo hi : Nat} {d : Char}
    (h : d ∈ m.search n steps lo hi) : ∃ e ∈ m.entries.toList, d ∈ e.2 := by
  induction steps generalizing lo hi with
  | zero => cases h
  | succ steps ih =>
    rw [search] at h
    split at h
    · cases h
    · dsimp only at h
      split at h
      · cases h
      next key value he =>
        split at h
        · exact ih h
        · split at h
          · exact ih h
          · exact ⟨_, Array.mem_toList_iff.mpr (Array.mem_of_getElem? he), h⟩

theorem exists_entry_of_mem_get {c d : Char} (h : d ∈ m.get c) :
    ∃ e ∈ m.entries.toList, d ∈ e.2 :=
  exists_entry_of_mem_search h

end CharMap

end Linewatch.Unicode
