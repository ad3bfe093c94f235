import Linewatch.Proofs.Scan.Indent
import Linewatch.Proofs.Scan.Rules

namespace Linewatch

def Signature.openedLiteral : String := "\\.(?:inner|outer)HTML\\s*\\+?=\\s*(?:\"|'|`)"

/-- Whether a text ends with an assignment of a string that has only been opened. -/
def EndsInOpenedLiteral (code : List Char) : Prop :=
  ∃ p i, Pattern.ofText? Signature.openedLiteral.toList = some p ∧
    p.Matches code.toArray i code.length

namespace Rule

variable {r : Rule}

/-- What a rule finds in a line it finds in the line without the white space around it, unless a match
takes the first of the white space at its end. -/
theorem isSome_find?_trim (hindent : r.pattern.ignoresIndent = true)
    (htrailing : r.pattern.ignoresTrailing = true) {line : List Char}
    (h : (r.find? line.toArray).isSome = true) :
    (r.find? (Text.trim line).toArray).isSome = true ∨ Text.trimLeft line ≠ Text.trim line ∧
      ∃ i, r.pattern.blankStem.Matches (Text.trim line).toArray i (Text.trim line).length := by
  rw [← isSome_find?_trimLeft hindent] at h
  obtain ⟨after, heq, hafter⟩ := Text.exists_trimLeft_eq_append line
  have hblank : ∀ c ∈ after.toArray, Text.isBlank c = true := by simpa using hafter
  have hall : after.toArray.all Text.isBlank = true :=
    Array.all_eq_true_iff_forall_mem.mpr hblank
  rw [heq, ← List.append_toArray, isSome_find?_iff, Array.all_append, hall, Bool.and_true] at h
  obtain hcode | ⟨hne, hstem⟩ := Pattern.occurs_append_right hblank htrailing h.2
  · exact .inl (isSome_find?_iff.mpr ⟨h.1, hcode⟩)
  · refine .inr ⟨fun hsame => hne ?_, hstem⟩
    rw [heq, List.append_right_eq_self] at hsame
    rw [hsame]
    rfl

end Rule

/-- Whether the matches of a pattern that depend on white space after them are assignments of a string
that has only been opened, by the rule for them. -/
def Signature.endsInCode (s : Signature) (p : Pattern) : Bool :=
  p.ignoresIndent && p.ignoresTrailing &&
    (p.blankStem = .never || s.catalog = .vulnerability && s.name = "xss" &&
      Pattern.ofText? openedLiteral.toList = some p.blankStem)

set_option maxRecDepth 2000 in
theorem Signature.endsInCode_of_mem_all :
    ∀ s ∈ all, (Pattern.ofText? s.regex.toList).any s.endsInCode = true := by
  simp only [all, List.forall_mem_cons]
  refine ⟨?_, ?_, ?_, ?_, ?_, ?_, ?_, ?_, ?_, ?_, by simp⟩
  all_goals exact any_of_eq rfl (by decide +kernel)

theorem mem_scanText {s : Signature} {t line : List Char} {number : Nat} (hs : s ∈ Signature.all)
    (hn : 1 ≤ number) (hl : (Text.lines t)[number - 1]? = some line)
    (hf : (s.rule.toOption.any fun rule => (rule.find? line.toArray).isSome) = true) :
    ∃ rule, s.rule = .ok rule ∧ Finding.ofMatch s.catalog rule line number ∈ scanText t :=
  Registry.holds_builtin.mem_map_ofHit hs hn hl hf

/-- The reported code gives the finding again, on line one, but for an assignment of a string that has
only been opened when the line ends. The white space after the quote, which the code lacks, counts as
the first character of the string. -/
theorem scanText_code {t : List Char} {f : Finding} (hf : f ∈ scanText t) :
    { f with line := 1 } ∈ scanText f.code.toList ∨
      f.catalog = .vulnerability ∧ f.rule = "xss" ∧ EndsInOpenedLiteral f.code.toList ∧
        ∃ line, (Text.lines t)[f.line - 1]? = some line ∧ Text.trimLeft line ≠ f.code.toList := by
  obtain ⟨c, rule, line, number, hr, hle, hl, hfind, rfl⟩ := Registry.mem_map_ofHit_iff.mp hf
  have hcode : (Finding.ofMatch c rule line number).code.toList = Text.trim line :=
    String.toList_ofList
  have hcheck := Registry.of_mem_rulesFor_builtin (f := Signature.endsInCode)
    Signature.endsInCode_of_mem_all hr
  simp only [Signature.endsInCode, Bool.and_eq_true, Bool.or_eq_true, decide_eq_true_eq] at hcheck
  obtain ⟨⟨hindent, htrailing⟩, hstem⟩ := hcheck
  rw [hcode]
  obtain hfind' | ⟨hne, i, hm⟩ := Rule.isSome_find?_trim hindent htrailing hfind
  · left
    have hne : Text.trim line ≠ [] := by
      intro hnil
      rw [hnil] at hfind'
      obtain ⟨c, hc, -⟩ := Rule.exists_not_blank_of_find? hfind'
      cases hc
    have hnewline : '\n' ∉ Text.trim line := fun h =>
      Text.newline_notMem_of_mem_lines (List.mem_of_getElem? hl) (Text.mem_of_mem_trim h)
    refine Registry.mem_map_ofHit_iff.mpr
      ⟨c, rule, Text.trim line, 1, hr, Nat.le_refl 1, ?_, hfind', ?_⟩
    · rw [Text.lines_of_notMem hne hnewline]
      rfl
    · rw [Finding.ofMatch, (Text.isTrimmed_trim line).trim_eq]
      rfl
  · right
    -- Of all built-in rules only one has matches that end in white space.
    obtain hnever | ⟨⟨hc, hname⟩, hopened⟩ := hstem
    · rw [hnever] at hm
      exact absurd hm Pattern.not_matches_never
    · exact ⟨hc, hname, ⟨_, i, hopened, hm⟩, line, hl, hne⟩

theorem scanText_code_of_call : ∃ f ∈ scanText "a = 1\n\teval(a) \r".toList,
    { f with line := 1 } ∈ scanText f.code.toList ∨
      f.catalog = .vulnerability ∧ f.rule = "xss" ∧ EndsInOpenedLiteral f.code.toList ∧
        ∃ line, (Text.lines "a = 1\n\teval(a) \r".toList)[f.line - 1]? = some line ∧
          Text.trimLeft line ≠ f.code.toList := by
  have hl : (Text.lines "a = 1\n\teval(a) \r".toList)[2 - 1]? = some "\teval(a) \r".toList := by
    decide +kernel
  obtain ⟨rule, -, hm⟩ := mem_scanText (s := .evaluation) (by simp [Signature.all])
    (by decide) hl (by decide +kernel)
  exact ⟨_, hm, scanText_code hm⟩

/-- The space that opens the string here is not part of the code, in which nothing is found. -/
theorem opened_literal_not_found_again : ∃ f ∈ scanText "e.innerHTML=\" ".toList,
    f.catalog = .vulnerability ∧ f.rule = "xss" ∧ f.code = "e.innerHTML=\"" ∧ f.line = 1 ∧
      ∀ g ∈ scanText f.code.toList, g.catalog = f.catalog → g.rule ≠ f.rule := by
  have hl : (Text.lines "e.innerHTML=\" ".toList)[1 - 1]? =
      some "e.innerHTML=\" ".toList := by
    decide +kernel
  have hnone : (Signature.xss.rule.toOption.all fun rule =>
      (rule.find? "e.innerHTML=\"".toList.toArray).isNone) = true := by
    decide +kernel
  obtain ⟨rule, hrule, hm⟩ := mem_scanText (s := .xss) (by simp [Signature.all]) (by decide) hl
    (by decide +kernel)
  have hname : rule.name = "xss" := congrArg Signature.name (Signature.signature_of_rule hrule)
  have hmem : rule ∈ Registry.builtin.rulesFor .vulnerability :=
    Registry.mem_rulesFor_builtin (s := .xss) (by simp [Signature.all]) hrule
  have htrim : Text.trim "e.innerHTML=\" ".toList = "e.innerHTML=\"".toList := by
    decide +kernel
  have hcode : (Finding.ofMatch .vulnerability rule "e.innerHTML=\" ".toList 1).code =
      "e.innerHTML=\"" := by
    rw [Finding.ofMatch, htrim, String.ofList_toList]
  refine ⟨_, hm, rfl, hname, hcode, rfl, fun g hg hc hr => ?_⟩
  rw [show Signature.xss.catalog = .vulnerability from rfl, hcode] at hg
  obtain ⟨c, rule', line, number, hr', -, hl', hfind, rfl⟩ := Registry.mem_map_ofHit_iff.mp hg
  have hsame : rule' = rule := by
    obtain rfl : c = .vulnerability := hc
    have hget : Registry.builtin.get? .vulnerability rule'.name = some rule' :=
      Registry.get?_name hr'
    rw [show rule'.name = rule.name from hr, Registry.get?_name hmem] at hget
    exact (Option.some.inj hget).symm
  have hlines : Text.lines "e.innerHTML=\"".toList = ["e.innerHTML=\"".toList] := by
    decide +kernel
  rw [hlines] at hl'
  have hline : line = "e.innerHTML=\"".toList :=
    List.mem_singleton.mp (List.mem_of_getElem? hl')
  rw [hsame, hline] at hfind
  rw [hrule] at hnone
  exact absurd hfind (by rw [Option.isNone_iff_eq_none.mp hnone]; exact Bool.false_ne_true)

end Linewatch
