import Linewatch.Proofs.Data.Codec
import Linewatch.Proofs.Data.Json.RoundTrip

namespace Linewatch

namespace Datum

inductive Step where
  | member (name : String)
  | item (i : Nat)
deriving DecidableEq

/-- A choice of parts, each given by the steps that lead down to it. -/
abbrev Parts := List Step → Bool

def Parts.below (gone : Parts) (s : Step) : Parts := fun path => gone (s :: path)

mutual

/-- A datum without the chosen members. The items of lists stay, whatever has been chosen. -/
def without (gone : Parts) : Datum → Datum
  | .list items => .list (itemsWithout gone 0 items)
  | .table headed members => .table headed (membersWithout gone members)
  | d => d

def itemsWithout (gone : Parts) (i : Nat) : List Datum → List Datum
  | [] => []
  | d :: items => d.without (gone.below (.item i)) :: itemsWithout gone (i + 1) items

def membersWithout (gone : Parts) : List (String × Datum) → List (String × Datum)
  | [] => []
  | (name, d) :: members =>
    if gone [.member name] then membersWithout gone members
    else (name, d.without (gone.below (.member name))) :: membersWithout gone members

end

variable {gone : Parts}

theorem Parts.below_eq_false (h : ∀ path, gone path = false) (s : Step) (path : List Step) :
    gone.below s path = false :=
  h (s :: path)

theorem itemsWithout_eq (i : Nat) (items : List Datum) :
    itemsWithout gone i items =
      (items.zipIdx i).map fun p => p.1.without (gone.below (.item p.2)) := by
  induction items generalizing i with
  | nil => rfl
  | cons d items ih => rw [itemsWithout, ih, List.zipIdx_cons, List.map_cons]

theorem membersWithout_eq (members : List (String × Datum)) :
    membersWithout gone members =
      (members.filter fun m => !gone [.member m.1]).map fun m =>
        (m.1, m.2.without (gone.below (.member m.1))) := by
  induction members with
  | nil => rfl
  | cons m members ih =>
    obtain ⟨name, d⟩ := m
    by_cases h : gone [.member name] = true <;> simp [membersWithout, h, ih]

theorem lookup_membersWithout (name : String) (members : List (String × Datum)) :
    (membersWithout gone members).lookup name =
      if gone [.member name] then none
      else (members.lookup name).map (without (gone.below (.member name))) := by
  induction members with
  | nil => simp [membersWithout]
  | cons m members ih =>
    obtain ⟨other, d⟩ := m
    rw [membersWithout]
    by_cases hn : name = other
    · subst hn
      by_cases h : gone [.member name] = true
      · rw [if_pos h, ih, if_pos h, if_pos h]
      · simp [h]
    · have hne : (name == other) = false := beq_false_of_ne hn
      split
      · simp [ih, List.lookup_cons, hne]
      · simp [ih, List.lookup_cons, hne]

mutual

theorem without_eq_self {gone : Parts} (h : ∀ path, gone path = false) (d : Datum) :
    d.without gone = d := by
  cases d with
  | list items => rw [without, itemsWithout_eq_self h]
  | table headed members => rw [without, membersWithout_eq_self h]
  | _ => rfl

theorem itemsWithout_eq_self {gone : Parts} (h : ∀ path, gone path = false) (i : Nat)
    (items : List Datum) : itemsWithout gone i items = items := by
  cases items with
  | nil => rfl
  | cons d items =>
    rw [itemsWithout, without_eq_self (Parts.below_eq_false h _) d, itemsWithout_eq_self h]

theorem membersWithout_eq_self {gone : Parts} (h : ∀ path, gone path = false)
    (members : List (String × Datum)) : membersWithout gone members = members := by
  match members with
  | [] => rfl
  | (name, d) :: members =>
    rw [membersWithout, h, without_eq_self (Parts.below_eq_false h _) d, membersWithout_eq_self h]
    rfl

end

theorem IsJson.without {d : Datum} (h : d.IsJson) (gone : Parts) : (d.without gone).IsJson := by
  induction h generalizing gone with
  | null => exact .null
  | flag b => exact .flag b
  | whole n => exact .whole n
  | text s => exact .text s
  | list hitems ih =>
    refine .list ?_
    rw [itemsWithout_eq, List.forall_mem_map]
    exact fun p hp => ih p.1 (List.fst_mem_of_mem_zipIdx hp) _
  | record hmembers ih =>
    refine .record ?_
    rw [membersWithout_eq, List.forall_mem_map]
    exact fun m hm => ih m ((List.mem_filter.mp hm).1) _

end Datum

namespace Record

open Datum (Parts)

variable {gone : Parts} {dialect : Dialect} {names : List String} {members : List (String × Datum)}

theorem of?_without (hnames : members.map (·.1) = names) (hnodup : names.Nodup) :
    of? dialect names ((Datum.record members).without gone) =
      some ⟨false, Datum.membersWithout gone members⟩ := by
  have hleft : ((Datum.membersWithout gone members).map (·.1)).Sublist names := by
    rw [Datum.membersWithout_eq, List.map_map, ← hnames]
    exact List.filter_sublist.map _
  have hall : ((Datum.membersWithout gone members).filter fun m => names.contains m.1) =
      Datum.membersWithout gone members := by
    refine List.filter_eq_self.mpr fun m hm => ?_
    rw [List.contains_iff_mem]
    exact hleft.subset (List.mem_map_of_mem hm)
  simp only [of?, Datum.record, Datum.without, hall, hleft.nodup hnodup, ↓reduceIte]

variable {name : String} {d : Datum} {take : Datum → Option α} {a : α}

theorem required?_without (h : get? ⟨false, members⟩ name = some d)
    (hleft : gone [.member name] = false)
    (ht : take (d.without (gone.below (.member name))) = some a) :
    required? ⟨false, Datum.membersWithout gone members⟩ name take = some a := by
  rw [get?] at h
  rw [required?, get?, Datum.lookup_membersWithout, h, hleft]
  exact ht

theorem default?_without (h : get? ⟨false, members⟩ name = some d) (standard : α)
    (ht : gone [.member name] = false →
      take (d.without (gone.below (.member name))) = some a) :
    default? ⟨false, Datum.membersWithout gone members⟩ name standard take =
      some (if gone [.member name] then standard else a) := by
  rw [get?] at h
  rw [default?, get?, Datum.lookup_membersWithout, h]
  cases hg : gone [.member name] with
  | true => rfl
  | false => exact ht hg

theorem nullable?_without {a : Option α} (h : get? ⟨false, members⟩ name = some d)
    (ht : (d.without (gone.below (.member name))).nullable? take = some a) :
    nullable? ⟨false, Datum.membersWithout gone members⟩ name take =
      some (if gone [.member name] then none else a) := by
  rw [get?] at h
  rw [nullable?, get?, Datum.lookup_membersWithout, h]
  cases gone [.member name] with
  | true => rfl
  | false => exact ht

end Record

end Linewatch
