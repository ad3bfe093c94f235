import Mathlib.Data.List.Basic
import Linewatch.Files.Tree

namespace Linewatch

theorem Path.cut_ne_nil (l : List Char) : cut l ≠ [] := by
  cases l with
  | nil => simp [cut]
  | cons c l =>
    by_cases hc : c = '/'
    · simp [cut, hc]
    · rw [cut, if_neg hc]
      split <;> simp

theorem Path.parts_ne_nil (text : String) : parts text ≠ [] :=
  mt List.map_eq_nil_iff.mp (cut_ne_nil text.toList)

namespace Tree

variable {t t' : Tree} {p q : Path} {part text : String} {e : Entry}

theorem isDirectory_nil (t : Tree) : t.isDirectory [] = true := by
  simp [isDirectory, get?]

theorem ne_nil_of_not_isDirectory (h : t.isDirectory p = false) : p ≠ [] := by
  rintro rfl
  rw [isDirectory_nil] at h
  cases h

theorem get?_of_ne_nil (h : p ≠ []) : t.get? p = t.entries.lookup p := if_neg h

/-- A part of a written path stays in a directory, leaves it, or names what lies in it. -/
theorem enter_eq_some_iff : t.enter p part = some q ↔ t.isDirectory p = true ∧
    ((part = "" ∨ part = ".") ∧ q = p ∨ part = ".." ∧ q = p.dropLast ∨
      (part ≠ "" ∧ part ≠ "." ∧ part ≠ "..") ∧ q = p ++ [part]) := by
  rw [enter]
  cases t.isDirectory p with
  | false => simp
  | true =>
    by_cases hstay : part = "" ∨ part = "."
    · rcases hstay with rfl | rfl <;> simp [eq_comm (a := q)]
    · have hn := not_or.mp hstay
      by_cases hup : part = ".."
      · simp [hup, eq_comm (a := q)]
      · simp [hn.1, hn.2, hup, eq_comm (a := q)]

/-- Whether all that leads to a path are directories. -/
def Leads (t : Tree) (p : Path) : Prop := ∀ n < p.length, t.isDirectory (p.take n) = true

theorem leads_nil (t : Tree) : t.Leads [] := fun _ h => absurd h (Nat.not_lt_zero _)

theorem Leads.dropLast (h : t.Leads p) : t.Leads p.dropLast := by
  intro n hn
  rw [List.length_dropLast] at hn
  rw [List.dropLast_eq_take, List.take_take, Nat.min_eq_left (by omega)]
  exact h n (by omega)

theorem Leads.concat (h : t.Leads p) (hd : t.isDirectory p = true) (name : String) :
    t.Leads (p ++ [name]) := by
  intro n hn
  rw [List.length_append, List.length_singleton] at hn
  rcases Nat.lt_succ_iff_lt_or_eq.mp hn with hlt | rfl
  · rw [List.take_append_of_le_length (by omega)]
    exact h n hlt
  · rw [List.take_left]
    exact hd

theorem Leads.isDirectory_dropLast (h : t.Leads p) : t.isDirectory p.dropLast = true := by
  cases p with
  | nil => exact t.isDirectory_nil
  | cons a p =>
    rw [List.dropLast_eq_take]
    exact h _ (by simp)

theorem Leads.enter (h : t.Leads p) (he : t.enter p part = some q) : t.Leads q := by
  obtain ⟨hd, ⟨-, rfl⟩ | ⟨-, rfl⟩ | ⟨-, rfl⟩⟩ := enter_eq_some_iff.mp he
  · exact h
  · exact h.dropLast
  · exact h.concat hd part

theorem Leads.foldlM_enter {parts : List String} (h : t.Leads p)
    (hf : parts.foldlM t.enter p = some q) : t.Leads q := by
  induction parts generalizing p with
  | nil =>
    obtain rfl := Option.some.inj hf
    exact h
  | cons part parts ih =>
    rw [List.foldlM_cons] at hf
    obtain ⟨r, hr, hf⟩ := Option.bind_eq_some_iff.mp hf
    exact ih (h.enter hr) hf

theorem exists_enter_of_resolve? (h : t.resolve? text = some p) :
    ∃ before last q, Path.parts text = before ++ [last] ∧ t.Leads q ∧ t.enter q last = some p := by
  have hparts := (List.dropLast_concat_getLast (Path.parts_ne_nil text)).symm
  rw [resolve?] at h
  split at h
  · cases h
  next c rest hc =>
    rw [hparts, ← List.append_assoc, List.foldlM_append] at h
    obtain ⟨q, hq, h⟩ := Option.bind_eq_some_iff.mp h
    rw [List.foldlM_cons] at h
    obtain ⟨r, hr, h⟩ := Option.bind_eq_some_iff.mp h
    obtain rfl := Option.some.inj h
    exact ⟨_, _, q, hparts, t.leads_nil.foldlM_enter hq, hr⟩

theorem getLast?_of_resolve? (h : t.resolve? text = some p) (hp : t.isDirectory p = false) :
    p.getLast? = some (nameAtEnd text) := by
  obtain ⟨before, last, q, hparts, hl, he⟩ := exists_enter_of_resolve? h
  obtain ⟨hd, ⟨-, rfl⟩ | ⟨-, rfl⟩ | ⟨⟨hempty, hdot, -⟩, rfl⟩⟩ := enter_eq_some_iff.mp he
  · rw [hd] at hp
    cases hp
  · rw [hl.isDirectory_dropLast] at hp
    cases hp
  · simp [nameAtEnd, hparts, hempty, hdot]

/-- Paths lead through directories, so that in trees with the same directories they lead to the same
places. -/
theorem resolve?_congr (hd : t'.isDirectory = t.isDirectory) (hh : t'.home = t.home) :
    t'.resolve? = t.resolve? := by
  have he : t'.enter = t.enter := by
    funext p part
    rw [enter, enter, hd]
  funext text
  rw [resolve?, resolve?, he, hh]

theorem isDirectory_set (hp : t.isDirectory p = false) (he : e ≠ .directory) :
    (t.set p e).isDirectory = t.isDirectory := by
  funext q
  by_cases hq : q = p
  · subst hq
    have hg := t.get?_set_self e (ne_nil_of_not_isDirectory hp)
    rw [hp, isDirectory, hg]
    simpa using he
  · rw [isDirectory, isDirectory, t.get?_set_of_ne e hq]

theorem resolve?_set (hp : t.isDirectory p = false) (he : e ≠ .directory) :
    (t.set p e).resolve? = t.resolve? :=
  resolve?_congr (isDirectory_set hp he) rfl

theorem entries_set_of_new (hp : p ≠ []) (h : t.get? p = none) (e : Entry) :
    (t.set p e).entries = t.entries ++ [(p, e)] := by
  rw [get?_of_ne_nil hp, List.lookup_eq_none_iff] at h
  have hf : t.entries.filter (fun x => x.1 != p) = t.entries := by
    rw [List.filter_eq_self]
    intro x hx
    rw [bne_comm]
    exact h x hx
  exact congrArg (· ++ [(p, e)]) hf

end Tree

end Linewatch
