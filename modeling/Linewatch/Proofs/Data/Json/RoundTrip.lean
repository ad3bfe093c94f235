import Linewatch.Data.Json.Reader
import Linewatch.Proofs.Data.Json.Token

namespace Linewatch

/-- What JSON can say: it has neither numbers that are not whole nor headed tables. -/
inductive Datum.IsJson : Datum → Prop
  | null : IsJson .null
  | flag (b : Bool) : IsJson (.flag b)
  | whole (n : Int) : IsJson (.whole n)
  | text (s : String) : IsJson (.text s)
  | list {items : List Datum} (h : ∀ d ∈ items, IsJson d) : IsJson (.list items)
  | record {members : List (String × Datum)} (h : ∀ m ∈ members, IsJson m.2) :
    IsJson (.record members)

namespace Datum

attribute [simp] IsJson.null IsJson.flag IsJson.whole IsJson.text

@[simp] theorem isJson_list {items : List Datum} : IsJson (.list items) ↔ ∀ d ∈ items, IsJson d := by
  refine ⟨?_, .list⟩
  rintro (_ | _ | _ | _ | h)
  exact h

@[simp] theorem isJson_record {members : List (String × Datum)} :
    IsJson (.record members) ↔ ∀ m ∈ members, IsJson m.2 := by
  refine ⟨?_, .record⟩
  rintro (_ | _ | _ | _ | _ | h)
  exact h

end Datum

namespace Json

open Token (isBlank first?)

inductive Reads : Machine → List Char → Machine → Prop
  | nil (m : Machine) : Reads m [] m
  | blank {m m' : Machine} {c : Char} {l : List Char} (hc : isBlank c = true) (h : Reads m l m') :
    Reads m (c :: l) m'
  | token {m m₁ m' : Machine} {t : Token} {l rest : List Char} (ht : first? l = some (t, rest))
    (hlt : rest.length < l.length) (hm : step m t = some m₁) (h : Reads m₁ rest m') :
    Reads m l m'

theorem first?_of_blank {c : Char} (hc : isBlank c = true) (l : List Char) :
    first? (c :: l) = none := by
  simp only [isBlank, Bool.or_eq_true, beq_iff_eq] at hc
  obtain ((rfl | rfl) | rfl) | rfl := hc <;> rfl

theorem dropWhile_of_first? {l rest : List Char} {t : Token} (h : first? l = some (t, rest)) :
    l.dropWhile isBlank = l := by
  cases l with
  | nil => rfl
  | cons c l =>
    refine List.dropWhile_cons_of_neg ?_
    intro hc
    rw [first?_of_blank hc] at h
    cases h

/-- The tokens that the machine passes over are those of the text. -/
theorem Reads.exists_tokens {m m' : Machine} {l : List Char} (h : Reads m l m') {fuel : Nat}
    (hfuel : l.length < fuel) :
    ∃ ts, run m ts = some m' ∧ ∀ before, Token.all? fuel before l = some (before.reverse ++ ts) := by
  induction h generalizing fuel with
  | nil m =>
    obtain ⟨fuel, rfl⟩ := Nat.exists_eq_add_one_of_ne_zero (Nat.ne_of_gt hfuel)
    refine ⟨[], rfl, fun before => ?_⟩
    rw [List.append_nil]
    rfl
  | blank hc h ih =>
    obtain ⟨fuel, rfl⟩ := Nat.exists_eq_add_one_of_ne_zero (Nat.ne_of_gt (Nat.zero_lt_of_lt hfuel))
    obtain ⟨ts, hts, hall⟩ := ih (Nat.lt_of_succ_lt hfuel)
    refine ⟨ts, hts, fun before => ?_⟩
    have hl := hall before
    rw [Token.all?] at hl ⊢
    rw [List.dropWhile_cons_of_pos hc]
    exact hl
  | @token m m₁ m' t l rest ht hlt hm h ih =>
    obtain ⟨fuel, rfl⟩ := Nat.exists_eq_add_one_of_ne_zero (Nat.ne_of_gt (Nat.zero_lt_of_lt hfuel))
    obtain ⟨ts, hts, hall⟩ := ih (show rest.length < fuel by omega)
    refine ⟨t :: ts, ?_, fun before => ?_⟩
    · rw [run, hm]
      exact hts
    · have hrest := hall (t :: before)
      rw [List.reverse_cons, List.append_assoc] at hrest
      rw [Token.all?, dropWhile_of_first? ht]
      cases l with
      | nil => cases hlt
      | cons c l =>
        simp only [ht]
        exact hrest

theorem read?_of_reads {l : List Char} {d : Datum} (h : Reads (.value, []) l (.done d, [])) :
    read? l = some d := by
  obtain ⟨ts, hts, hall⟩ := h.exists_tokens (Nat.lt_succ_self _)
  have htokens : tokens? l = some ts := hall []
  rw [read?, htokens]
  simp only [hts]

namespace Reads

variable {m m' : Machine} {fs : List Frame} {rest : List Char} {layout : Layout}

theorem newline (h : Reads m rest m') : Reads m (layout.newline rest) m' := by
  cases layout with
  | compact => exact h
  | indented level =>
    refine .blank rfl ?_
    induction 2 * level with
    | zero => exact h
    | succ n ih => exact .blank rfl ih

theorem colon (h : Reads (.value, fs) rest m') : Reads (.colon, fs) (layout.colon rest) m' := by
  cases layout with
  | compact => exact .token rfl (Nat.lt_succ_self _) rfl h
  | indented level => exact .token rfl (Nat.lt_succ_self _) rfl (.blank rfl h)

theorem quoted {m₁ : Machine} {s : String} (hm : step m (.text s) = some m₁)
    (h : Reads m₁ rest m') : Reads m (quoted s rest) m' :=
  .token (first?_quoted s rest) (length_lt_quoted s rest) hm h

end Reads

/-- A list that has just been opened takes the first item as any other place takes a value. -/
theorem step_of_begin {stage : Stage} (hstage : stage = .value ∨ stage = .firstItem)
    {fs : List Frame} {t : Token} (ht : t ≠ .closeList) :
    step (stage, fs) t = beginValue fs t := by
  obtain rfl | rfl := hstage
  · rfl
  · rw [step]
    intro items fs' h _
    exact ht h

theorem EndsNumber.cons {c : Char} (hc : c = ',' ∨ c = ']' ∨ c = '}' ∨ c = '\n')
    (l : List Char) : EndsNumber (c :: l) := by
  intro c' h
  cases h
  obtain rfl | rfl | rfl | rfl := hc <;> decide

theorem EndsNumber.newline {c : Char} (hc : c = ',' ∨ c = ']' ∨ c = '}' ∨ c = '\n')
    (layout : Layout) (l : List Char) : EndsNumber (layout.newline (c :: l)) := by
  cases layout with
  | compact => exact .cons hc l
  | indented level => exact .cons (by decide) _

theorem endsNumber_writeItems (layout : Layout) (rest : List Char) (items : List Datum) :
    EndsNumber (writeItems layout rest items) := by
  cases items with
  | nil => exact .newline (by decide) layout rest
  | cons d items => exact .cons (by decide) _

theorem endsNumber_writeMembers (layout : Layout) (rest : List Char)
    (members : List (String × Datum)) : EndsNumber (writeMembers layout rest members) := by
  cases members with
  | nil => exact .newline (by decide) layout rest
  | cons member members => exact .cons (by decide) _

/-- Whether the machine reads a value from its text, in every layout and wherever a value may
begin. -/
def Readable (d : Datum) : Prop :=
  ∀ (layout : Layout) {stage : Stage} {fs : List Frame} {rest : List Char} {m' : Machine},
    stage = .value ∨ stage = .firstItem → EndsNumber rest → Reads (.done d, fs) rest m' →
      Reads (stage, fs) (write layout rest d) m'

namespace Reads

variable {layout : Layout} {fs : List Frame} {rest : List Char} {m' : Machine}

theorem items (layout : Layout) {items : List Datum} (hitems : ∀ d ∈ items, Readable d)
    (before : List Datum) (d : Datum)
    (h : Reads (.done (.list (before.reverse ++ d :: items)), fs) rest m') :
    Reads (.done d, .list before :: fs) (writeItems layout rest items) m' := by
  induction items generalizing before d with
  | nil =>
    rw [← List.reverse_cons] at h
    exact newline (.token rfl (Nat.lt_succ_self _) rfl h)
  | cons e items ih =>
    have he := hitems e List.mem_cons_self
    rw [List.append_cons, ← List.reverse_cons] at h
    have hrest := ih (fun d hd => hitems d (List.mem_cons_of_mem e hd)) (d :: before) e h
    refine .token rfl (Nat.lt_succ_self _) rfl (newline ?_)
    exact he layout.deeper (.inl rfl) (endsNumber_writeItems layout rest items) hrest

theorem member {m : Machine} {name : String} {d : Datum} {fs : List Frame} {rest : List Char}
    (hm : step m (.text name) = some (.colon, fs)) (hd : Readable d) (hends : EndsNumber rest)
    (h : Reads (.done d, fs) rest m') :
    Reads m (Json.quoted name (layout.colon (write layout.deeper rest d))) m' :=
  quoted hm (colon (hd layout.deeper (.inl rfl) hends h))

theorem members (layout : Layout) {members : List (String × Datum)}
    (hmembers : ∀ m ∈ members, Readable m.2) (before : List (String × Datum)) (name : String)
    (d : Datum)
    (h : Reads (.done (.record (before.reverse ++ (name, d) :: members)), fs) rest m') :
    Reads (.done d, .table true before name :: fs) (writeMembers layout rest members) m' := by
  induction members generalizing before name d with
  | nil =>
    rw [← List.reverse_cons] at h
    exact newline (.token rfl (Nat.lt_succ_self _) rfl h)
  | cons next members ih =>
    have hnext := hmembers next List.mem_cons_self
    rw [List.append_cons, ← List.reverse_cons] at h
    have hrest := ih (fun m hm => hmembers m (List.mem_cons_of_mem next hm))
      ((name, d) :: before) next.1 next.2 h
    refine .token rfl (Nat.lt_succ_self _) rfl (newline ?_)
    exact member rfl hnext (endsNumber_writeMembers layout rest members) hrest

end Reads

theorem readable_of_isJson {d : Datum} (hd : d.IsJson) : Readable d := by
  -- The items of a list are read one after the other, each by its own hypothesis of the induction.
  induction hd with
  | null =>
    intro layout stage fs rest m' hstage hends h
    exact .token rfl (by simp [write]; omega) (step_of_begin hstage (by decide)) h
  | flag b =>
    intro layout stage fs rest m' hstage hends h
    cases b with
    | false => exact .token rfl (by simp [write]; omega) (step_of_begin hstage (by decide)) h
    | true => exact .token rfl (by simp [write]; omega) (step_of_begin hstage (by decide)) h
  | whole n =>
    intro layout stage fs rest m' hstage hends h
    rw [write]
    exact .token (first?_number n hends) (length_lt_number n rest)
      (step_of_begin hstage (by rintro ⟨⟩)) h
  | text s =>
    intro layout stage fs rest m' hstage hends h
    rw [write]
    exact .quoted (step_of_begin hstage (by rintro ⟨⟩)) h
  | @list items hitems ih =>
    intro layout stage fs rest m' hstage hends h
    cases items with
    | nil =>
      exact .token rfl (by simp [write]) (step_of_begin hstage (by decide))
        (.token rfl (Nat.lt_succ_self _) rfl h)
    | cons d items =>
      have hd := ih d List.mem_cons_self
      have hrest := Reads.items layout (fun d' hd' => ih d' (List.mem_cons_of_mem d hd')) [] d h
      rw [write]
      refine .token rfl (Nat.lt_succ_self _) (step_of_begin hstage (by decide)) (.newline ?_)
      exact hd layout.deeper (.inr rfl) (endsNumber_writeItems layout rest items) hrest
  | @record members hmembers ih =>
    intro layout stage fs rest m' hstage hends h
    cases members with
    | nil =>
      exact .token rfl (by simp [Datum.record, write]) (step_of_begin hstage (by decide))
        (.token rfl (Nat.lt_succ_self _) rfl h)
    | cons member members =>
      have hmember := ih member List.mem_cons_self
      have hrest := Reads.members layout
        (fun m hm => ih m (List.mem_cons_of_mem member hm)) [] member.1 member.2 h
      rw [Datum.record, write]
      refine .token rfl (Nat.lt_succ_self _) (step_of_begin hstage (by decide)) (.newline ?_)
      exact .member rfl hmember (endsNumber_writeMembers layout rest members) hrest

/-- Whatever JSON can say is read back from its text. -/
theorem read?_write {d : Datum} (hd : d.IsJson) (layout : Layout) :
    read? (write layout [] d) = some d :=
  read?_of_reads (readable_of_isJson hd layout (.inl rfl) .nil (.nil _))

theorem read?_pretty {d : Datum} (hd : d.IsJson) : read? (pretty d).toList = some d := by
  rw [pretty, String.toList_ofList]
  exact read?_write hd (.indented 0)

end Json

end Linewatch
