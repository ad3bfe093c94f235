import Linewatch.Proofs.Signature.Found

namespace Linewatch.Spawning

open Pattern

variable {before rest line : List Char}

def names : List String :=
  ["exec", "execSync", "execFile", "execFileSync", "spawn", "spawnSync", "fork"]

/-- Whether what stands after a text is neither a member of something nor the end of a longer name. -/
def Bare (before : List Char) : Prop :=
  ∀ c ∈ before.getLast?, c ≠ '.' ∧ c ≠ '$' ∧ Unicode.isWord c = false

def Calls (line : List Char) : Prop :=
  ∃ before, ∃ name ∈ names, ∃ after, line = before ++ name.toList ++ after ∧
    (Text.trimLeft after).head? = some '(' ∧ Bare before

def outer : CharClass := .compl (.union (.union (.char '.') .word) (.char '$'))

def call : List Pattern := [oneOf names, blanks, char '(']

def bareCall : Pattern := .catAll (.alt (.look .textStart) (.one outer) :: call)

def member : Pattern :=
  .catAll ([.look (.word .boundary false)] ++ spelled "child_process" ++
    [char '.', .rep (.one .word) 1 none true, blanks, char '('])

def quote : Pattern := .one (.union (.char '"') (.char '\''))

def loading : Pattern :=
  .catAll (.look (.word .boundary false) :: spelled "require" ++ [blanks, char '(', blanks, quote] ++
    spelled "child_process" ++ [quote, blanks, char ')'])

set_option maxRecDepth 2000 in
theorem ofText?_commandInjection : Pattern.ofText? Signature.commandInjection.regex.toList =
    some (.altAll [bareCall, member, loading]) :=
  Signature.ofText?_of_eq rfl (by decide +kernel)

theorem contains_outer {c : Char} : outer.contains c = true ↔
    c ≠ '.' ∧ c ≠ '$' ∧ Unicode.isWord c = false := by
  simp only [outer, CharClass.contains, CharClass.contains_char]
  grind

theorem bare_iff : Bare before ↔ before.getLast?.all (outer.contains ·) = true := by
  simp only [Bare, Option.all_eq_true, Option.mem_def, contains_outer]

instance : DecidablePred Bare := fun _ => decidable_of_iff _ bare_iff.symm

theorem bare_nil : Bare [] := bare_iff.mpr rfl

theorem bare_concat {l : List Char} {c : Char} : Bare (l ++ [c]) ↔ outer.contains c = true := by
  rw [bare_iff, List.getLast?_concat, Option.all_some]

theorem begins_call : (catAll call).Begins before rest ↔
    ∃ name ∈ names, ∃ after, rest = name.toList ++ after ∧
      (Text.trimLeft after).head? = some '(' := by
  simp only [call, begins_oneOf, begins_parenthesis]

/-- A match has the character before the name in it, unless the name is at the beginning. -/
theorem begins_bareCall :
    (∃ before rest, line = before ++ rest ∧ bareCall.Begins before rest) ↔ Calls line := by
  simp only [bareCall, begins_catAll_cons, fits_alt, fits_look, fits_one, begins_call]
  constructor
  · rintro ⟨before, _, rfl, front, _, rfl, hfront, name, hname, after, rfl, hparen⟩
    refine ⟨before ++ front, name, hname, after, by simp only [List.append_assoc], hparen, ?_⟩
    obtain ⟨rfl, h⟩ | ⟨c, rfl, hc⟩ := hfront
    · obtain rfl : before = [] := by simpa [Anchor.holds] using h
      exact bare_nil
    · exact bare_concat.mpr hc
  · rintro ⟨before, name, hname, after, rfl, hparen, hbare⟩
    obtain rfl | ⟨before, c, rfl⟩ := List.eq_nil_or_concat' before
    · exact ⟨[], _, rfl, [], _, rfl, .inl ⟨rfl, rfl⟩, name, hname, after, rfl, hparen⟩
    · refine ⟨before, _, ?_, [c], _, rfl, .inr ⟨c, rfl, bare_concat.mp hbare⟩, name, hname, after,
        rfl, hparen⟩
      simp only [List.append_assoc]

theorem begins_pattern (hline : ¬ "child_process".toList <:+: line) :
    (∃ before rest, line = before ++ rest ∧
      (altAll [bareCall, member, loading]).Begins before rest) ↔ Calls line := by
  rw [← begins_bareCall]
  refine exists_congr fun before => exists_congr fun rest => and_congr_right fun h => ?_
  have hrest : ¬ "child_process".toList <:+: rest := fun hw =>
    hline (h ▸ hw.trans (List.suffix_append _ _).isInfix)
  have hmember : ¬ member.Begins before rest := fun hm => hrest hm.infix_of_spelled
  have hloading : ¬ loading.Begins before rest := fun hl => hrest hl.infix_of_spelled
  simp only [begins_altAll, List.mem_cons, List.not_mem_nil, or_false, exists_eq_or_imp,
    exists_eq_left, hmember, hloading]

theorem not_calls (h : ∀ k ≤ line.length, ∀ name ∈ names, name.toList <+: line.drop k →
    ¬ Bare (line.take k)) : ¬ Calls line := by
  rintro ⟨before, name, hname, after, rfl, -, hbare⟩
  rw [List.append_assoc] at h
  refine h before.length ?_ name hname ?_ ?_
  · rw [List.length_append]
    exact Nat.le_add_right _ _
  · rw [List.drop_left]
    exact List.prefix_append _ _
  · rwa [List.take_left]

/-- In a line without a mention of the module, the rule for processes finds something exactly if one
of the functions is called by its bare name. Methods of the same names are no findings. -/
theorem found_iff_calls :
    ∃ rule, Registry.builtin.get? .vulnerability "commandInjection" = some rule ∧
      ∀ line : List Char, ¬ "child_process".toList <:+: line →
        ((rule.find? line.toArray).isSome = true ↔ Calls line) := by
  obtain ⟨rule, hrule, hfound⟩ := Registry.exists_get?_builtin (by simp [Signature.all])
    ofText?_commandInjection (.inr (by decide))
  refine ⟨rule, hrule, fun line hline => ?_⟩
  rw [hfound, begins_pattern hline]

theorem found_of_methods :
    ∃ rule, Registry.builtin.get? .vulnerability "commandInjection" = some rule ∧
      (rule.find? "re.exec(x), $exec(y), my_spawn (z)".toList.toArray).isSome = false ∧
      (rule.find? "re.exec(x), exec (y)".toList.toArray).isSome = true := by
  obtain ⟨rule, hrule, h⟩ := found_iff_calls
  refine ⟨rule, hrule, ?_, (h _ (by decide +kernel)).mpr ?_⟩
  · rw [← Bool.not_eq_true, h _ (by decide +kernel)]
    exact not_calls (by decide +kernel)
  · exact ⟨"re.exec(x), ".toList, "exec", by decide, " (y)".toList, rfl, by decide, by decide +kernel⟩

end Linewatch.Spawning
