import Linewatch.Proofs.Signature
import Linewatch.Proofs.Pattern.Fits
import Linewatch.Proofs.Scan.Indent

namespace Linewatch

variable {line : List Char} {s : Signature} {p : Pattern}

namespace Pattern

theorem Occurs.exists_ink (hp : p.beginsInInk = true ∨ p.endsInInk = true)
    (h : p.Occurs line.toArray) : ∃ c ∈ line, Text.isBlank c = false := by
  obtain ⟨i, j, -, h⟩ := h
  obtain hp | hp := hp
  · obtain ⟨c, hc, hink⟩ := Matches.begins hp h
    exact ⟨c, List.mem_of_getElem? (List.getElem?_toArray ▸ hc), hink⟩
  · obtain ⟨k, c, -, hc, hink⟩ := Matches.ends hp h
    exact ⟨c, List.mem_of_getElem? (List.getElem?_toArray ▸ hc), hink⟩

end Pattern

/-- A rule does not look at blank lines, where a pattern with ink at one end has no match anyway. -/
theorem Rule.isSome_find?_iff_begins {r : Rule}
    (hp : r.pattern.beginsInInk = true ∨ r.pattern.endsInInk = true) :
    (r.find? line.toArray).isSome = true ↔
      ∃ before rest, line = before ++ rest ∧ r.pattern.Begins before rest := by
  rw [isSome_find?_iff, Pattern.occurs_iff_begins]
  refine and_iff_right_of_imp fun h => ?_
  obtain ⟨c, hc, hink⟩ := Pattern.Occurs.exists_ink hp (Pattern.occurs_iff_begins.mpr h)
  refine Bool.eq_false_iff.mpr fun hall => ?_
  rw [Array.all_eq_true_iff_forall_mem.mp hall c (List.mem_toArray.mpr hc)] at hink
  cases hink

theorem Rule.isSome_find?_iff_fits {r : Rule}
    (hp : r.pattern.beginsInInk = true ∨ r.pattern.endsInInk = true) :
    (r.find? line.toArray).isSome = true ↔
      ∃ before body after, line = before ++ body ++ after ∧ r.pattern.Fits before body after := by
  rw [isSome_find?_iff_begins hp]
  constructor
  · rintro ⟨before, _, rfl, body, after, rfl, h⟩
    exact ⟨before, body, after, (List.append_assoc _ _ _).symm, h⟩
  · rintro ⟨before, body, after, rfl, h⟩
    exact ⟨before, _, List.append_assoc _ _ _, body, after, rfl, h⟩

def Span.ofText (before body : List Char) : Span :=
  ⟨(String.ofList before).utf8ByteSize, (String.ofList (before ++ body)).utf8ByteSize⟩

theorem Span.ofText_eq (before body after : List Char) :
    ofText before body = ⟨byteOffset (before ++ body ++ after).toArray before.length,
      byteOffset (before ++ body ++ after).toArray (before ++ body).length⟩ := by
  rw [ofText, byteOffset_eq, byteOffset_eq, List.take_left, List.append_assoc, List.take_left]

theorem Span.stop_le_start_iff {before body after front word rest : List Char}
    (heq : before ++ body ++ after = front ++ word ++ rest) :
    (ofText before body).stop ≤ (ofText front word).start ↔
      (before ++ body).length ≤ front.length := by
  rw [ofText_eq before body after, ofText_eq front word rest, heq, byteOffset_le_iff]
  · rw [← heq]
    simp
  · simp

theorem Rule.exists_fits_of_find? {r : Rule} {sp : Span} (h : r.find? line.toArray = some sp) :
    ∃ before body after, line = before ++ body ++ after ∧ r.pattern.Fits before body after ∧
      (∀ front rest, line = front ++ rest → r.pattern.Begins front rest →
        before.length ≤ front.length) ∧
      sp = .ofText before body := by
  rw [find?, r.program_eq] at h
  split at h
  next => cases h
  next =>
    simp only [Option.map_eq_some_iff, Pattern.find?_program_eq_some_iff] at h
    obtain ⟨s, ⟨hstart, hleast, hprefers⟩, rfl⟩ := h
    rw [List.size_toArray] at hstart
    obtain ⟨before, body, after, rfl, hbefore, hbody, hfits⟩ :=
      hprefers.matches.exists_fits hstart
    refine ⟨before, body, after, rfl, hfits, ?_, ?_⟩
    · rintro front _ hline ⟨x, y, rfl, hx⟩
      rw [Pattern.Fits, List.append_assoc, ← hline] at hx
      exact hbefore.trans_le (hleast _ _ hx)
    · rw [Span.ofText_eq before body after, hbefore, hbody]
      rfl

set_option maxRecDepth 2000 in
/-- No built-in rule can repeat nothing, so that its ways are compared as they are. -/
theorem Registry.progresses_builtin {c : Catalog} {rule : Rule} (hr : rule ∈ builtin.rulesFor c)
    (chars : Array Char) : rule.pattern.Progresses chars := by
  refine Pattern.progresses_of_roundsTakeSome ?_
  refine of_mem_rulesFor_builtin (f := fun _ => Pattern.roundsTakeSome) ?_ hr
  simp only [Signature.all, List.forall_mem_cons]
  refine ⟨?_, ?_, ?_, ?_, ?_, ?_, ?_, ?_, ?_, ?_, by simp⟩
  all_goals exact Signature.any_of_eq rfl (by decide +kernel)

theorem Signature.ofText?_of_eq {l : List Char} (h : s.regex = String.ofList l)
    (hl : Pattern.ofText? l = some p) : Pattern.ofText? s.regex.toList = some p := by
  rw [h, String.toList_ofList]
  exact hl

theorem Registry.exists_builtin_of_pattern (hs : s ∈ Signature.all)
    (hp : Pattern.ofText? s.regex.toList = some p) :
    ∃ rule, builtin.get? s.catalog s.name = some rule ∧ rule.pattern = p := by
  obtain ⟨rule, hr, hsig⟩ := Signature.rule_of_compiles (Option.isSome_iff_exists.mpr ⟨p, hp⟩)
  have hname : rule.name = s.name := congrArg Signature.name hsig
  have hregex : rule.regex = s.regex := congrArg Signature.regex hsig
  have hpattern := rule.ofText_regex
  rw [hregex, hp] at hpattern
  exact ⟨rule, hname ▸ get?_name (mem_rulesFor_builtin hs hr), (Option.some.inj hpattern).symm⟩

theorem Registry.exists_get?_builtin (hs : s ∈ Signature.all)
    (hp : Pattern.ofText? s.regex.toList = some p)
    (hink : p.beginsInInk = true ∨ p.endsInInk = true) :
    ∃ rule, builtin.get? s.catalog s.name = some rule ∧ ∀ line : List Char,
      (rule.find? line.toArray).isSome = true ↔
        ∃ before rest, line = before ++ rest ∧ p.Begins before rest := by
  obtain ⟨rule, hrule, rfl⟩ := exists_builtin_of_pattern hs hp
  exact ⟨rule, hrule, fun line => Rule.isSome_find?_iff_begins hink⟩

end Linewatch
