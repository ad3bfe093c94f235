import Linewatch.Rule

namespace Linewatch

theorem getElem?_concat_eq_some_iff {α : Type} {l : List α} {a b : α} {i : Nat} :
    (l ++ [a])[i]? = some b ↔ l[i]? = some b ∨ i = l.length ∧ a = b := by
  rcases Nat.lt_trichotomy i l.length with hlt | rfl | hgt
  · rw [List.getElem?_append_left hlt]
    simp [Nat.ne_of_lt hlt]
  · simp
  · rw [List.getElem?_eq_none (by simp; omega), List.getElem?_eq_none (by omega)]
    simp [Nat.ne_of_gt hgt]

def Indexes (index : List (String × Nat)) (rules : List Rule) : Prop :=
  ∀ name i, index.lookup name = some i ↔ ∃ rule, rules[i]? = some rule ∧ rule.name = name

theorem Indexes.nil : Indexes [] [] := by
  intro name i
  simp

theorem Indexes.push {index : List (String × Nat)} {rules : List Rule} {rule : Rule}
    (h : Indexes index rules) (hnew : index.lookup rule.name = none) :
    Indexes ((rule.name, rules.length) :: index) (rules ++ [rule]) := by
  intro name i
  have hadd : (∃ other, (rules ++ [rule])[i]? = some other ∧ other.name = name) ↔
      index.lookup name = some i ∨ i = rules.length ∧ rule.name = name := by
    simp only [h name i, getElem?_concat_eq_some_iff, or_and_right, exists_or, and_assoc,
      exists_and_left, exists_eq_left']
  rw [hadd, List.lookup_cons]
  by_cases hn : name = rule.name
  · simp [hn, hnew, eq_comm]
  · simp [beq_false_of_ne hn, Ne.symm hn]

/-- Rules in the order in which they were added, and an index of their names. -/
structure RuleList where
  rules : List Rule
  /-- The places of the rules by their names. -/
  index : List (String × Nat)
  indexes : Indexes index rules

namespace RuleList

def empty : RuleList := ⟨[], [], .nil⟩

def place? (l : RuleList) (name : String) : Option Nat := l.index.lookup name

def get? (l : RuleList) (name : String) : Option Rule := (l.place? name).bind fun i => l.rules[i]?

/-- Adds a rule at the end, unless its name is taken. -/
def insert? (l : RuleList) (r : Rule) : Option RuleList :=
  if h : l.place? r.name = none then
    some ⟨l.rules ++ [r], (r.name, l.rules.length) :: l.index, l.indexes.push h⟩
  else none

end RuleList

structure Registry where
  vulnerability : RuleList
  sensitive : RuleList

namespace Registry

def empty : Registry := ⟨.empty, .empty⟩

def catalog (r : Registry) : Catalog → RuleList
  | .vulnerability => r.vulnerability
  | .sensitive => r.sensitive

def rulesFor (r : Registry) (c : Catalog) : List Rule := (r.catalog c).rules

def get? (r : Registry) (c : Catalog) (name : String) : Option Rule := (r.catalog c).get? name

def size (r : Registry) : Nat := r.vulnerability.rules.length + r.sensitive.rules.length

def isEmpty (r : Registry) : Bool := r.size == 0

def set (r : Registry) (l : RuleList) : Catalog → Registry
  | .vulnerability => { r with vulnerability := l }
  | .sensitive => { r with sensitive := l }

def insert (r : Registry) (c : Catalog) (rule : Rule) : Except Fault Registry :=
  match (r.catalog c).insert? rule with
  | some l => .ok (r.set l c)
  | none => .error (.duplicateRule c rule.name)

def summaries (r : Registry) : List RuleSummary :=
  Catalog.all.flatMap fun c => (r.rulesFor c).map fun rule => rule.summary c

end Registry

end Linewatch
