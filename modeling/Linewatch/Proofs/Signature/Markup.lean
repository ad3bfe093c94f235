import Linewatch.Proofs.Signature.Found

namespace Linewatch.Markup

open Pattern

variable {after value rest before line : List Char}

def quotes : List Char := ['"', '\'', '`']

def writers : List String := ["document.write", "document.writeln"]

def sinks : List String := [".innerHTML", ".outerHTML"]

def Writes (line : List Char) : Prop :=
  ∃ before, ∃ w ∈ writers, ∃ after, line = before ++ w.toList ++ after ∧
    (Text.trimLeft after).head? = some '('

/-- What is assigned or added to the property whose name stands before a text. -/
def assigned? (after : List Char) : Option (List Char) :=
  match Text.trimLeft after with
  | '=' :: rest | '+' :: '=' :: rest => some (Text.trimLeft rest)
  | _ => none

/-- Values that are more than an empty literal. What is left of a comparison is not a value. -/
inductive IsContent : List Char → Prop
  | bare {c : Char} {rest : List Char} (hq : c ∉ quotes) (hs : c ≠ ';') (he : c ≠ '=') :
    IsContent (c :: rest)
  | quoted {q c : Char} {rest : List Char} (hq : q ∈ quotes) (hc : c ≠ q) :
    IsContent (q :: c :: rest)
  | joined {q : Char} {rest : List Char} (hq : q ∈ quotes)
    (hp : (Text.trimLeft rest).head? = some '+') : IsContent (q :: q :: rest)

/-- Whether a line puts content into the markup of an element. -/
def Assigns (line : List Char) : Prop :=
  ∃ before, ∃ sink ∈ sinks, ∃ after, line = before ++ sink.toList ++ after ∧
    ∃ value, assigned? after = some value ∧ IsContent value

def Compares (after : List Char) : Prop := ['=', '='] <+: Text.trimLeft after

def Clears (after : List Char) : Prop :=
  ∃ q ∈ quotes, ∃ rest, assigned? after = some (q :: q :: rest) ∧
    (Text.trimLeft rest).head? ≠ some '+'

theorem assigned?_eq_some_iff : assigned? after = some value ↔
    ∃ rest, (Text.trimLeft after = '=' :: rest ∨ Text.trimLeft after = '+' :: '=' :: rest) ∧
      Text.trimLeft rest = value := by
  rw [assigned?]
  split
  next rest h => simp [h]
  next rest h => simp [h]
  next he hp =>
    simp only [reduceCtorEq, false_iff]
    rintro ⟨rest, h | h, -⟩
    · exact he rest h
    · exact hp rest h

theorem not_isContent_of_compares (hc : Compares after) (ha : assigned? after = some value) :
    ¬ IsContent value := by
  obtain ⟨rest, hrest⟩ := hc
  have hvalue : value = '=' :: rest := by
    rw [assigned?, ← hrest] at ha
    exact (Option.some.inj ha).symm
  subst hvalue
  rintro (⟨-, -, he⟩ | ⟨hq, -⟩ | ⟨hq, -⟩)
  · exact he rfl
  · exact absurd hq (by decide)
  · exact absurd hq (by decide)

theorem not_isContent_of_clears (hc : Clears after) (ha : assigned? after = some value) :
    ¬ IsContent value := by
  obtain ⟨q, hq, rest, hr, hp⟩ := hc
  obtain rfl : value = q :: q :: rest := Option.some.inj (ha.symm.trans hr)
  rintro (⟨hn, -, -⟩ | ⟨-, hn⟩ | ⟨-, hn⟩)
  · exact hn hq
  · exact hn rfl
  · exact hp hn

def bare : CharClass :=
  .compl (.union (.union (.union (.union (.union (.char '"') (.char '\'')) (.char '`')) .blank)
    (.char ';')) (.char '='))

def literal (q : Char) : Pattern := .catAll [char q, .one (.compl (.char q))]

def emptyLiteral (q : Char) : String := String.ofList [q, q]

def content : Pattern :=
  .altAll (.one bare :: quotes.map literal ++
    [.catAll [oneOf (quotes.map emptyLiteral), blanks, char '+']])

def call : Pattern :=
  .catAll (spelled "document.write" ++ [optional (oneOf ["ln"]), blanks, char '('])

def assignment : Pattern :=
  .catAll (char '.' :: oneOf ["inner", "outer"] :: spelled "HTML" ++
    [blanks, optional (char '+'), char '=', blanks, content])

set_option maxRecDepth 2000 in
theorem ofText?_xss :
    Pattern.ofText? Signature.xss.regex.toList = some (.altAll [call, assignment]) :=
  Signature.ofText?_of_eq rfl (by decide +kernel)

theorem contains_bare {c : Char} : bare.contains c = true ↔
    Text.isBlank c = false ∧ c ∉ quotes ∧ c ≠ ';' ∧ c ≠ '=' := by
  simp only [bare, CharClass.contains, CharClass.contains_char, quotes]
  grind

theorem begins_literal {q : Char} : (literal q).Begins before rest ↔
    ∃ c tail, rest = q :: c :: tail ∧ c ≠ q := by
  have hother : ∀ c, (CharClass.compl (.char q)).contains c = true ↔ c ≠ q := by
    intro c
    simp [CharClass.contains, CharClass.contains_char]
  rw [literal, begins_char]
  simp only [begins_catAll_singleton, begins_one, hother]
  constructor
  · rintro ⟨_, rfl, c, tail, rfl, hc⟩
    exact ⟨c, tail, rfl, hc⟩
  · rintro ⟨c, tail, rfl, hc⟩
    exact ⟨_, rfl, c, tail, rfl, hc⟩

theorem begins_content (hb : ∀ c tail, rest = c :: tail → Text.isBlank c = false) :
    content.Begins before rest ↔ IsContent rest := by
  have hplus {before rest : List Char} : (catAll [blanks, char '+']).Begins before rest ↔
      (Text.trimLeft rest).head? = some '+' := begins_blanks_char (by decide)
  simp only [content, begins_altAll, List.cons_append, List.mem_cons, List.mem_append, List.mem_map,
    List.not_mem_nil, or_false, or_and_right, exists_or, exists_eq_left, exists_exists_and_eq_and,
    begins_one, begins_literal, begins_oneOf, hplus, emptyLiteral, String.toList_ofList]
  constructor
  · rintro (⟨c, tail, rfl, hc⟩ | ⟨q, hq, c, tail, rfl, hc⟩ | ⟨q, hq, tail, rfl, hp⟩)
    · obtain ⟨-, hq, hs, he⟩ := contains_bare.mp hc
      exact .bare hq hs he
    · exact .quoted hq hc
    · exact .joined hq hp
  · rintro (⟨hq, hs, he⟩ | ⟨hq, hc⟩ | ⟨hq, hp⟩)
    · exact .inl ⟨_, _, rfl, contains_bare.mpr ⟨hb _ _ rfl, hq, hs, he⟩⟩
    · exact .inr (.inl ⟨_, hq, _, _, rfl, hc⟩)
    · exact .inr (.inr ⟨_, hq, _, rfl, hp⟩)

theorem begins_value :
    (catAll [blanks, content]).Begins before rest ↔ IsContent (Text.trimLeft rest) := by
  rw [begins_blanks, begins_catAll_singleton, begins_content]
  · exact fun _ _ => Text.isBlank_of_trimLeft_eq_cons
  · intro _ _ c h
    obtain ⟨_, _, ⟨⟩, hink⟩ := Begins.exists_ink (by decide) h
    exact hink

theorem begins_setting :
    (catAll [blanks, optional (char '+'), char '=', blanks, content]).Begins before after ↔
      ∃ value, assigned? after = some value ∧ IsContent value := by
  have hsign {before rest : List Char} :
      (catAll [optional (char '+'), char '=', blanks, content]).Begins before rest ↔
        ∃ tail, (rest = '=' :: tail ∨ rest = '+' :: '=' :: tail) ∧
          IsContent (Text.trimLeft tail) := by
    simp only [begins_optional, begins_char, begins_value]
    constructor
    · rintro (⟨tail, rfl, h⟩ | ⟨_, rfl, tail, rfl, h⟩)
      · exact ⟨tail, .inl rfl, h⟩
      · exact ⟨tail, .inr rfl, h⟩
    · rintro ⟨tail, rfl | rfl, h⟩
      · exact .inl ⟨tail, rfl, h⟩
      · exact .inr ⟨_, rfl, tail, rfl, h⟩
  rw [begins_blanks]
  · simp only [hsign, assigned?_eq_some_iff]
    constructor
    · rintro ⟨tail, ht, h⟩
      exact ⟨_, ⟨tail, ht, rfl⟩, h⟩
    · rintro ⟨_, ⟨tail, ht, rfl⟩, h⟩
      exact ⟨tail, ht, h⟩
  · intro _ _ c h
    obtain ⟨tail, h | h, -⟩ := hsign.mp h
    · obtain ⟨rfl, -⟩ := List.cons.inj h
      decide
    · obtain ⟨rfl, -⟩ := List.cons.inj h
      decide

theorem begins_call : call.Begins before rest ↔
    ∃ w ∈ writers, ∃ after, rest = w.toList ++ after ∧ (Text.trimLeft after).head? = some '(' := by
  have hln : "document.writeln".toList = "document.write".toList ++ "ln".toList := rfl
  simp only [call, writers, begins_spelled, begins_optional, begins_oneOf, begins_parenthesis,
    List.mem_cons, List.not_mem_nil, or_false, exists_eq_or_imp, exists_eq_left, hln,
    List.append_assoc]
  constructor
  · rintro ⟨_, rfl, h | ⟨after, rfl, h⟩⟩
    · exact .inl ⟨_, rfl, h⟩
    · exact .inr ⟨after, rfl, h⟩
  · rintro (⟨after, rfl, h⟩ | ⟨after, rfl, h⟩)
    · exact ⟨after, rfl, .inl h⟩
    · exact ⟨_, rfl, .inr ⟨after, rfl, h⟩⟩

theorem begins_assignment : assignment.Begins before rest ↔
    ∃ sink ∈ sinks, ∃ after, rest = sink.toList ++ after ∧
      ∃ value, assigned? after = some value ∧ IsContent value := by
  have hsinks : sinks = ["inner", "outer"].map fun side => "." ++ side ++ "HTML" := rfl
  have hdot : ".".toList = ['.'] := rfl
  rw [assignment, List.cons_append, begins_char]
  simp only [begins_oneOf, List.cons_append, begins_spelled, begins_setting, hsinks, List.mem_map,
    exists_exists_and_eq_and, String.toList_append, hdot, List.append_assoc, List.nil_append]
  constructor
  · rintro ⟨_, rfl, side, hside, _, rfl, after, rfl, h⟩
    exact ⟨side, hside, after, rfl, h⟩
  · rintro ⟨side, hside, after, rfl, h⟩
    exact ⟨_, rfl, side, hside, _, rfl, after, rfl, h⟩

theorem begins_pattern :
    (∃ before rest, line = before ++ rest ∧ (altAll [call, assignment]).Begins before rest) ↔
      Writes line ∨ Assigns line := by
  simp only [begins_altAll, List.mem_cons, List.not_mem_nil, or_false, exists_eq_or_imp,
    exists_eq_left, begins_call, begins_assignment]
  constructor
  · rintro ⟨before, _, rfl, ⟨w, hw, after, rfl, h⟩ | ⟨sink, hs, after, rfl, h⟩⟩
    · exact .inl ⟨before, w, hw, after, (List.append_assoc _ _ _).symm, h⟩
    · exact .inr ⟨before, sink, hs, after, (List.append_assoc _ _ _).symm, h⟩
  · rintro (⟨before, w, hw, after, rfl, h⟩ | ⟨before, sink, hs, after, rfl, h⟩)
    · exact ⟨before, _, List.append_assoc _ _ _, .inl ⟨w, hw, after, rfl, h⟩⟩
    · exact ⟨before, _, List.append_assoc _ _ _, .inr ⟨sink, hs, after, rfl, h⟩⟩

theorem Writes.mentions (h : Writes line) : "document.write".toList <:+: line := by
  obtain ⟨before, w, hw, after, rfl, -⟩ := h
  have hstart : ∀ w ∈ writers, "document.write".toList <+: w.toList := by decide
  exact (hstart w hw).isInfix.trans ⟨before, after, rfl⟩

/-- The rule for markup that is not escaped finds something in a line exactly if there is a call there
that writes to the document, or an assignment of more than an empty literal. Comparisons and
assignments of empty literals are no findings. -/
theorem found_iff_writes_or_assigns : ∃ rule, Registry.builtin.get? .vulnerability "xss" = some rule ∧
    ∀ line : List Char,
      ((rule.find? line.toArray).isSome = true ↔ Writes line ∨ Assigns line) ∧
      (¬ "document.write".toList <:+: line →
        (∀ before after, ∀ sink ∈ sinks, line = before ++ sink.toList ++ after →
          Compares after ∨ Clears after) → rule.find? line.toArray = none) := by
  obtain ⟨rule, hrule, hfound⟩ :=
    Registry.exists_get?_builtin (by simp [Signature.all]) ofText?_xss (.inl (by decide))
  simp only [begins_pattern] at hfound
  refine ⟨rule, hrule, fun line => ⟨hfound line, ?_⟩⟩
  intro hw hs
  rw [← Option.not_isSome_iff_eq_none, hfound]
  rintro (h | ⟨before, sink, hsink, after, hline, value, ha, hvalue⟩)
  · exact hw h.mentions
  · obtain hc | hc := hs before after sink hsink hline
    · exact not_isContent_of_compares hc ha hvalue
    · exact not_isContent_of_clears hc ha hvalue

theorem found_of_comparison_and_literals :
    ∃ rule, Registry.builtin.get? .vulnerability "xss" = some rule ∧
      rule.find? "if (a.innerHTML === b) c.outerHTML = '';".toList.toArray = none ∧
      (rule.find? "a.innerHTML += '' + b".toList.toArray).isSome = true := by
  obtain ⟨rule, hrule, h⟩ := found_iff_writes_or_assigns
  have hmentions : ∀ tail ∈ "if (a.innerHTML === b) c.outerHTML = '';".toList.tails,
      ∀ sink ∈ sinks, sink.toList <+: tail → tail.drop sink.toList.length ∈
        [" === b) c.outerHTML = '';".toList, " = '';".toList] := by decide +kernel
  refine ⟨rule, hrule, (h _).2 (by decide +kernel) ?_, (h _).1.mpr (.inr ?_)⟩
  · intro before after sink hsink hline
    have htail : sink.toList ++ after ∈ "if (a.innerHTML === b) c.outerHTML = '';".toList.tails := by
      rw [hline, List.mem_tails, List.append_assoc]
      exact List.suffix_append _ _
    have hafter := hmentions _ htail sink hsink (List.prefix_append _ _)
    rw [List.drop_left, List.mem_pair] at hafter
    obtain rfl | rfl := hafter
    · exact .inl ⟨"= b) c.outerHTML = '';".toList, rfl⟩
    · exact .inr ⟨'\'', by decide, [';'], rfl, by decide⟩
  · exact ⟨['a'], ".innerHTML", by decide, " += '' + b".toList, rfl, _, rfl,
      .joined (q := '\'') (by decide) rfl⟩

end Linewatch.Markup
