import Linewatch.Proofs.Scan.Hits
import Linewatch.Proofs.Signature.Assignment

namespace Linewatch

namespace Credential

open Pattern

variable {before body after : List Char} {c : Char} {names : List String}

def passwordNames : List String := ["password", "passwd", "pwd"]

def password : Pattern :=
  .catAll [oneOfAnyCase passwordNames, optional (mark ['"', '\'']), blanks, mark signs, blanks,
    mark quotes, .rep (.one (.compl (.folded (.listed quotes)))) 8 none true, mark quotes]

set_option maxRecDepth 2000 in
theorem ofText?_password : Pattern.ofText? Signature.password.regex.toList = some password :=
  Signature.ofText?_of_eq rfl (by decide +kernel)

/-- What the pattern for passwords matches, whatever stands around it. -/
inductive IsExposure : List Char → Prop
  | mk {w : String} {name mark left right value : List Char} {sign quote stop : Char}
      (hw : w ∈ passwordNames) (hname : IsAnyCase w name)
      (hmark : mark = [] ∨ ∃ c ∈ ['"', '\''], mark = [c])
      (hleft : ∀ c ∈ left, Text.isBlank c = true) (hsign : sign ∈ signs)
      (hright : ∀ c ∈ right, Text.isBlank c = true) (hquote : quote ∈ quotes)
      (hlength : 8 ≤ value.length) (hvalue : ∀ c ∈ value, c ∉ quotes) (hstop : stop ∈ quotes) :
    IsExposure (name ++ mark ++ left ++ sign :: right ++ quote :: (value ++ [stop]))

theorem fits_password : password.Fits before body after ↔ IsExposure body := by
  have hmarks : ['"', '\''].any Unicode.mayBeCase = false := by decide
  have hother : ∀ c, (CharClass.compl (.folded (.listed quotes))).contains c = true ↔ c ∉ quotes := by
    intro c
    rw [CharClass.contains, Bool.not_eq_true', ← Bool.not_eq_true,
      CharClass.contains_folded_listed mayBeCase_quotes]
  simp only [password, fits_catAll_cons, fits_catAll_nil, fits_oneOfAnyCase, fits_optional,
    fits_mark mayBeCase_signs, fits_mark mayBeCase_quotes, fits_mark hmarks, fits_blanks, fits_rep_one, hother]
  constructor
  · rintro ⟨name, _, rfl, ⟨w, hw, hname⟩, mark, _, rfl, hmark, left, _, rfl, hleft, _, _, rfl,
      ⟨sign, hsign, rfl⟩, right, _, rfl, hright, _, _, rfl, ⟨quote, hquote, rfl⟩, value, _, rfl,
      ⟨hlength, -, hvalue⟩, _, _, rfl, ⟨stop, hstop, rfl⟩, rfl⟩
    have h := IsExposure.mk hw hname hmark hleft hsign hright hquote hlength hvalue hstop
    simpa using h
  · rintro (@⟨w, name, mark, left, right, value, sign, quote, stop, hw, hname, hmark, hleft, hsign,
      hright, hquote, hlength, hvalue, hstop⟩)
    refine ⟨name, mark ++ (left ++ ([sign] ++ (right ++ ([quote] ++ (value ++ ([stop] ++ [])))))),
      by simp, ⟨w, hw, hname⟩, mark, _, rfl, hmark, left, _, rfl, hleft, [sign], _, rfl,
      ⟨sign, hsign, rfl⟩, right, _, rfl, hright, [quote], _, rfl, ⟨quote, hquote, rfl⟩, value, _, rfl,
      ⟨hlength, by simp, hvalue⟩, [stop], [], rfl, ⟨stop, hstop, rfl⟩, rfl⟩

theorem passwordNames_wellFormed : ∀ w ∈ passwordNames, isSmall w = true ∧ w.toList ≠ [] ∧
    (w.toList.flatMap fun d => d :: Unicode.caseVariants d).any delimiters.contains = false := by
  decide +kernel

theorem notMem_delimiters_of_isAnyCase {w : String} {name : List Char} (hw : w ∈ passwordNames)
    (h : IsAnyCase w name) : ∀ c ∈ name, c ∉ delimiters := by
  intro c hc
  obtain ⟨d, hd, hcase⟩ := h.exists_mem hc
  exact Text.notMem_of_any (passwordNames_wellFormed w hw).2.2 (List.mem_flatMap.mpr ⟨d, hd, hcase⟩)

theorem ne_nil_of_isAnyCase {w : String} {name : List Char} (hw : w ∈ passwordNames)
    (h : IsAnyCase w name) : name ≠ [] := by
  rintro rfl
  exact (passwordNames_wellFormed w hw).2.1 (List.forall₂_nil_right_iff.mp h)

theorem Assignment.isAnyCase (a : Assignment passwordNames) :
    ∃ w ∈ passwordNames, IsAnyCase w a.name := by
  obtain ⟨w, hw, h⟩ := a.isName
  exact ⟨w, hw, isAnyCase_of_toLower (passwordNames_wellFormed w hw).1 h⟩

theorem notMem_quotes_front {name left right : List Char} {sign : Char}
    (hname : ∀ c ∈ name, c ∉ delimiters) (hleft : ∀ c ∈ left, Text.isBlank c = true)
    (hsign : sign ∈ signs) (hright : ∀ c ∈ right, Text.isBlank c = true) :
    ∀ c ∈ name ++ left ++ sign :: right, c ∉ quotes := by
  intro c hc
  rw [List.mem_append, List.mem_append, List.mem_cons] at hc
  obtain (hc | hc) | rfl | hc := hc
  · exact fun hq => hname c hc (List.mem_append_right _ hq)
  · exact notMem_quotes_of_isBlank (hleft c hc)
  · exact notMem_quotes_of_mem_signs hsign
  · exact notMem_quotes_of_isBlank (hright c hc)

theorem Assignment.notMem_quotes_front (a : Assignment passwordNames) :
    ∀ c ∈ a.front, c ∉ quotes := by
  obtain ⟨w, hw, h⟩ := a.isAnyCase
  exact Credential.notMem_quotes_front (notMem_delimiters_of_isAnyCase hw h) a.isBlank_left a.isSign
    a.isBlank_right

/-- The part of a value before the first quotation mark of any kind. -/
def unquoted (value : List Char) : List Char := value.takeWhile fun c => decide (c ∉ quotes)

theorem notMem_quotes_of_mem_unquoted {value : List Char} (h : c ∈ unquoted value) : c ∉ quotes :=
  of_decide_eq_true (List.mem_takeWhile_imp (p := fun c => decide (c ∉ quotes)) h)

theorem unquoted_eq_self {value : List Char} (h : ∀ c ∈ value, c ∉ quotes) :
    unquoted value = value :=
  List.takeWhile_eq_self_iff.mpr fun c hc => decide_eq_true (h c hc)

theorem exists_stop (value : List Char) (hc : c ∈ quotes) :
    ∃ stop ∈ quotes, ∃ rest, value ++ [c] = unquoted value ++ stop :: rest := by
  induction value with
  | nil => exact ⟨c, hc, [], rfl⟩
  | cons d value ih =>
    by_cases hd : d ∈ quotes
    · exact ⟨d, hd, value ++ [c], by simp [unquoted, hd]⟩
    · obtain ⟨stop, hstop, rest, h⟩ := ih
      exact ⟨stop, hstop, rest, by simpa [unquoted, hd] using h⟩

theorem append_cons_inj_of_quote {x y z t : List Char} {c d : Char} (hx : ∀ e ∈ x, e ∉ quotes)
    (hy : ∀ e ∈ y, e ∉ quotes) (hc : c ∈ quotes) (hd : d ∈ quotes)
    (h : x ++ c :: z = y ++ d :: t) : x = y ∧ c = d ∧ z = t :=
  Text.append_cons_inj_of_first (p := fun e => decide (e ∉ quotes)) (by simpa using hx)
    (by simpa using hy) (by simpa using hc) (by simpa using hd) h

theorem Assignment.front_ne_append (a : Assignment names) {w : String} {name : List Char}
    (hw : w ∈ passwordNames) (hname : IsAnyCase w name) : a.front ≠ before ++ name := by
  intro heq
  obtain ⟨l, c, hc, hfront⟩ := a.exists_front_eq
  obtain rfl | ⟨n, d, rfl⟩ := List.eq_nil_or_concat' name
  · exact ne_nil_of_isAnyCase hw hname rfl
  · have hlast := congrArg List.getLast? (hfront.symm.trans heq)
    rw [← List.append_assoc, List.getLast?_concat, List.getLast?_concat, Option.some.injEq] at hlast
    exact notMem_delimiters_of_isAnyCase hw hname d (by simp) (hlast ▸ hc)

/-- A match that begins in front of the value of an assignment has all of the value in it up to the
second quotation mark, since the first one of the match is that of the value. -/
theorem IsExposure.le_length_unquoted {a : Assignment passwordNames} {x : List Char}
    (h : IsExposure body) (hfront : a.front = before ++ x)
    (heq : body ++ after = x ++ a.quote :: (a.value ++ [a.quote])) :
    8 ≤ (unquoted a.value).length := by
  obtain @⟨w, name, mark, left, right, value, sign, quote, stop, hw, hname, hmark, hleft, hsign,
    hright, hquote, hlength, hvalue, hstop⟩ := h
  have hplain := notMem_delimiters_of_isAnyCase hw hname
  have hx : ∀ c ∈ x, c ∉ quotes := fun c hc =>
    a.notMem_quotes_front c (hfront ▸ List.mem_append_right _ hc)
  obtain rfl | ⟨m, hm, rfl⟩ := hmark
  · have hfirst : name ++ left ++ sign :: right ++ quote :: (value ++ stop :: after) =
        x ++ a.quote :: (a.value ++ [a.quote]) := by simpa using heq
    obtain ⟨-, -, hrest⟩ := append_cons_inj_of_quote
      (notMem_quotes_front hplain hleft hsign hright) hx hquote a.isQuote hfirst
    obtain ⟨stop', hstop', rest, hsecond⟩ := exists_stop a.value a.isQuote
    obtain ⟨hall, -⟩ := append_cons_inj_of_quote hvalue (fun c => notMem_quotes_of_mem_unquoted)
      hstop hstop' (hrest.trans hsecond)
    rwa [← hall]
  · -- The name would reach up to the mark.
    have hmarks : ['"', '\''] ⊆ quotes := by simp [quotes]
    have hfirst : name ++ m :: (left ++ sign :: (right ++ quote :: (value ++ stop :: after))) =
        x ++ a.quote :: (a.value ++ [a.quote]) := by simpa using heq
    obtain ⟨rfl, -⟩ := append_cons_inj_of_quote
      (fun c hc hq => hplain c hc (List.mem_append_right _ hq)) hx (hmarks hm) a.isQuote hfirst
    exact absurd hfront (a.front_ne_append hw hname)

theorem IsExposure.le_length_unquoted_or_infix {a : Assignment passwordNames}
    (h : IsExposure body) (hline : body <:+: a.line) :
    8 ≤ (unquoted a.value).length ∨ body <:+: a.value ++ [a.quote] := by
  obtain ⟨before, after, heq⟩ := hline
  rw [List.append_assoc, Assignment.line, List.append_eq_append_iff] at heq
  obtain ⟨x, hfront, hbody⟩ | ⟨x, rfl, hrest⟩ := heq
  · exact .inl (h.le_length_unquoted hfront hbody)
  · cases x with
    | nil =>
      exact .inl (h.le_length_unquoted (List.append_nil _).symm hrest.symm)
    | cons c x =>
      rw [List.cons_append, List.cons.injEq] at hrest
      exact .inr ⟨x, after, by rw [List.append_assoc, hrest.2]⟩

theorem Assignment.exists_exposure (a : Assignment passwordNames)
    (h : 8 ≤ (unquoted a.value).length) : ∃ body, IsExposure body ∧ body <:+: a.line := by
  obtain ⟨w, hw, hname⟩ := a.isAnyCase
  obtain ⟨stop, hstop, rest, hvalue⟩ := exists_stop a.value a.isQuote
  refine ⟨_, .mk hw hname (.inl rfl) a.isBlank_left a.isSign a.isBlank_right a.isQuote h
    (fun c => notMem_quotes_of_mem_unquoted) hstop, [], rest, ?_⟩
  rw [line, hvalue, front]
  simp

theorem isSome_iff_exposure {r : Rule} (hr : r.pattern = password) (text : List Char) :
    (r.find? text.toArray).isSome = true ↔ ∃ body, IsExposure body ∧ body <:+: text := by
  have hink : password.endsInInk = true := by decide +kernel
  rw [Rule.isSome_find?_iff_fits (.inr (hr ▸ hink)), hr]
  simp only [fits_password]
  constructor
  · rintro ⟨before, body, after, rfl, h⟩
    exact ⟨body, h, before, after, rfl⟩
  · rintro ⟨body, h, before, after, rfl⟩
    exact ⟨before, body, after, rfl, h⟩

/-- What the rule for passwords finds in an assignment is the value up to the first quotation mark in
it, of whatever kind, or else something that begins in the value. -/
theorem isSome_iff_unquoted {r : Rule} (hr : r.pattern = password) (a : Assignment passwordNames) :
    (r.find? a.line.toArray).isSome = true ↔ 8 ≤ (unquoted a.value).length ∨
      (r.find? (a.value ++ [a.quote]).toArray).isSome = true := by
  rw [isSome_iff_exposure hr, isSome_iff_exposure hr]
  constructor
  · rintro ⟨body, h, hline⟩
    exact (h.le_length_unquoted_or_infix hline).imp_right fun hvalue => ⟨body, h, hvalue⟩
  · rintro (h | ⟨body, h, hvalue⟩)
    · exact a.exists_exposure h
    · exact ⟨body, h, hvalue.trans ⟨a.front ++ [a.quote], [], by simp [Assignment.line]⟩⟩

theorem IsExposure.two_le_countP (h : IsExposure body) :
    2 ≤ body.countP fun c => decide (c ∈ quotes) := by
  obtain ⟨-, -, -, -, -, -, hquote, -, -, hstop⟩ := h
  simp only [List.countP_append, List.countP_cons, List.countP_nil, decide_eq_true hquote,
    decide_eq_true hstop, if_true]
  omega

/-- Nothing begins in a value without quotation marks: a match has two of them. -/
theorem isSome_iff_length {r : Rule} (hr : r.pattern = password) (a : Assignment passwordNames)
    (hvalue : ∀ c ∈ a.value, c ∉ quotes) :
    (r.find? a.line.toArray).isSome = true ↔ 8 ≤ a.value.length := by
  rw [isSome_iff_unquoted hr, unquoted_eq_self hvalue, isSome_iff_exposure hr]
  refine or_iff_left ?_
  rintro ⟨body, h, hrun⟩
  have hnone : a.value.countP (fun c => decide (c ∈ quotes)) = 0 :=
    List.countP_eq_zero.mpr fun c hc => by simpa using hvalue c hc
  have hcount : body.countP (fun c => decide (c ∈ quotes)) ≤ 1 := by
    refine hrun.sublist.countP_le.trans ?_
    rw [List.countP_append, hnone, Nat.zero_add]
    exact List.countP_le_length
  exact absurd (h.two_le_countP.trans hcount) (by decide)

/-- Whether the scan of a text reports a password in it. -/
def Reports (text : List Char) : Prop :=
  ∃ f ∈ scanText text, f.catalog = .sensitive ∧ f.rule = "password" ∧ f.severity = .critical

theorem reports_iff {r : Rule} {text : List Char}
    (hr : Registry.builtin.get? .sensitive "password" = some r) (hne : text ≠ [])
    (hline : '\n' ∉ text) : Reports text ↔ (r.find? text.toArray).isSome = true := by
  simp only [Reports, scanText, Registry.mem_map_ofHit_iff, Text.lines_of_notMem hne hline]
  obtain ⟨hmem, hname⟩ := Registry.get?_eq_some_iff.mp hr
  constructor
  · rintro ⟨_, ⟨c, rule, line, number, hrule, -, hl, hfind, rfl⟩, rfl, hrulename, -⟩
    obtain rfl : line = text := List.mem_singleton.mp (List.mem_of_getElem? hl)
    have hsame := Registry.get?_name hrule
    rw [show rule.name = "password" from hrulename] at hsame
    obtain rfl : r = rule := Option.some.inj (hr.symm.trans hsame)
    exact hfind
  · intro hfind
    exact ⟨_, ⟨.sensitive, r, text, 1, hmem, Nat.le_refl 1, rfl, hfind, rfl⟩, rfl, hname, rfl⟩

theorem Assignment.notMem_newline (a : Assignment names) (h : '\n' ∉ a.line) :
    '\n' ∉ a.value ++ [a.quote] := by
  intro hm
  exact h (List.mem_append_right _ (List.mem_cons_of_mem _ hm))

theorem Assignment.reports_iff_or (a : Assignment passwordNames) (hline : '\n' ∉ a.line) :
    Reports a.line ↔ 8 ≤ (unquoted a.value).length ∨ Reports (a.value ++ [a.quote]) := by
  obtain ⟨r, hr, hpattern⟩ :=
    Registry.exists_builtin_of_pattern (by simp [Signature.all]) ofText?_password
  rw [reports_iff hr (by simp [line]) hline, reports_iff hr (by simp) (a.notMem_newline hline),
    isSome_iff_unquoted hpattern]

theorem IsExposure.exists_sign (h : IsExposure body) : ∃ c ∈ body, c ∈ signs := by
  obtain ⟨-, -, -, -, hsign, -⟩ := h
  exact ⟨_, by simp, hsign⟩

theorem Assignment.not_reports_value (a : Assignment passwordNames) (hline : '\n' ∉ a.line)
    (hvalue : ∀ c ∈ a.value, c ∉ signs) : ¬ Reports (a.value ++ [a.quote]) := by
  obtain ⟨r, hr, hpattern⟩ :=
    Registry.exists_builtin_of_pattern (by simp [Signature.all]) ofText?_password
  rw [reports_iff hr (by simp) (a.notMem_newline hline), isSome_iff_exposure hpattern]
  rintro ⟨body, h, hrun⟩
  obtain ⟨c, hc, hsign⟩ := h.exists_sign
  obtain hc | hc := List.mem_append.mp (hrun.subset hc)
  · exact hvalue c hc hsign
  · rw [List.mem_singleton.mp hc] at hsign
    exact notMem_quotes_of_mem_signs hsign a.isQuote

/-- The scan of an assignment reports a password exactly if the value has at least eight characters
before the first quotation mark in it, of whatever kind, or if it reports one in the value itself, for
which something has to be assigned there. A longer value with a mark of another kind among its first
eight characters is missed. -/
theorem reports_iff_unquoted (a : Assignment passwordNames) (hline : '\n' ∉ a.line) :
    (Reports a.line ↔ 8 ≤ (unquoted a.value).length ∨ Reports (a.value ++ [a.quote])) ∧
      ((∀ c ∈ a.value, c ∉ signs) → (Reports a.line ↔ 8 ≤ (unquoted a.value).length)) := by
  refine ⟨a.reports_iff_or hline, fun hvalue => ?_⟩
  rw [a.reports_iff_or hline]
  exact or_iff_left (a.not_reports_value hline hvalue)

theorem isName_password :
    ∃ w ∈ passwordNames, "password".toList.map Char.toLower = w.toList :=
  ⟨"password", by decide, by decide⟩

theorem reports_iff_unquoted_apostrophe :
    Reports "password = \"12345678'9\"".toList ∧ ¬ Reports "password = \"1234567'89\"".toList := by
  have hlong := reports_iff_unquoted (.ofText _ isName_password "12345678'9") (by decide +kernel)
  have hshort := reports_iff_unquoted (.ofText _ isName_password "1234567'89") (by decide +kernel)
  constructor
  · exact hlong.1.mpr (.inl (by decide))
  · intro h
    exact absurd ((hshort.2 fun _ => Text.notMem_of_any (by decide)).mp h) (by decide)

def mixed : Assignment passwordNames := .ofText _ isName_password "don't-tell-anyone"

theorem mixed_not_reported : mixed.line = "password = \"don't-tell-anyone\"".toList ∧
    '\n' ∉ mixed.line ∧ mixed.quote ∉ mixed.value ∧ 8 ≤ mixed.value.length ∧
      ¬ Reports mixed.line := by
  have hnewline : '\n' ∉ mixed.line := by decide +kernel
  have hvalue : ¬ Reports (mixed.value ++ [mixed.quote]) :=
    mixed.not_reports_value hnewline fun _ => Text.notMem_of_any (by decide)
  refine ⟨by decide +kernel, hnewline, by decide, by decide, ?_⟩
  rw [mixed.reports_iff_or hnewline, or_iff_left hvalue]
  decide

end Credential

end Linewatch
