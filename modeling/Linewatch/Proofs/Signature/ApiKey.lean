import Linewatch.Proofs.Signature.Password

namespace Linewatch

namespace Credential

open Pattern

variable {before body after : List Char} {c : Char}

def compounds : List (String × String) :=
  [("api", "key"), ("access", "token"), ("auth", "token"), ("secret", "key"), ("client", "secret")]

def apiNames : List String :=
  (compounds.flatMap fun (a, b) => ["", "_", "-"].map (a ++ · ++ b)) ++ ["token", "secret"]

def tokenClass : CharClass :=
  .folded (.union (.union (.union (.union (.range 'A' 'Z') (.range 'a' 'z')) (.range '0' '9'))
    (.char '_')) (.char '-'))

def idClass : CharClass :=
  .folded (.union (.union (.union (.range 'A' 'Z') (.range 'a' 'z')) (.range '0' '9')) (.char '_'))

def compound (words : String × String) : Pattern :=
  .catAll (spelledAnyCase words.1 ++ optional (mark ['_', '-']) :: spelledAnyCase words.2)

def apiName : Pattern :=
  .altAll (compounds.map compound ++ ["token", "secret"].map fun w => .catAll (spelledAnyCase w))

def assigned : List Pattern :=
  [apiName, optional (mark ['"', '\'']), blanks, mark signs, blanks, optional (mark quotes)]

def token : Pattern := .catAll (assigned ++ [.rep (.one tokenClass) 20 none true])

def prefixed : Pattern :=
  .catAll ([.look (.word .boundary false), oneOfAnyCase ["sk", "pk"], char '_'] ++
    [.rep (.one idClass) 24 none true])

def apiKey : Pattern := .altAll [token, prefixed]

set_option maxRecDepth 2000 in
theorem ofText?_apiKey : Pattern.ofText? Signature.apiKey.regex.toList = some apiKey :=
  Signature.ofText?_of_eq rfl (by decide +kernel)

def keepsOff (cls : CharClass) : Bool := delimiters.all fun c => !cls.contains c

theorem notMem_delimiters_of_keepsOff {cls : CharClass} (h : keepsOff cls = true)
    (hc : cls.contains c = true) : c ∉ delimiters := by
  intro hd
  have hnot := List.all_eq_true.mp h c hd
  rw [hc] at hnot
  cases hnot

/-- Whatever the pattern for keys matches ends with a run of at least 20 characters of a token. -/
theorem exists_run_of_fits (h : apiKey.Fits before body after) :
    ∃ w, w <:+ body ∧ 20 ≤ w.length ∧ ∀ c ∈ w, c ∉ delimiters := by
  rw [apiKey, fits_altAll] at h
  simp only [List.mem_cons, List.not_mem_nil, or_false, exists_eq_or_imp, exists_eq_left] at h
  have hclasses : keepsOff tokenClass = true ∧ keepsOff idClass = true := by decide +kernel
  obtain h | h := h
  · obtain ⟨w, hw, hlength, hclass⟩ := Fits.exists_suffix_of_rep h
    exact ⟨w, hw, hlength, fun c hc => notMem_delimiters_of_keepsOff hclasses.1 (hclass c hc)⟩
  · obtain ⟨w, hw, hlength, hclass⟩ := Fits.exists_suffix_of_rep h
    exact ⟨w, hw, Nat.le_trans (by decide) hlength,
      fun c hc => notMem_delimiters_of_keepsOff hclasses.2 (hclass c hc)⟩

theorem length_run_le {w x y : List Char} (h : w <:+: x ++ y) (hw : ∀ c ∈ w, c ∉ delimiters)
    (hy : ∀ c ∈ y, c ∈ delimiters) : w.length ≤ x.length := by
  have hall : w.filter (fun c => decide (c ∉ delimiters)) = w :=
    List.filter_eq_self.mpr fun c hc => decide_eq_true (hw c hc)
  have hnone : y.filter (fun c => decide (c ∉ delimiters)) = [] :=
    List.filter_eq_nil_iff.mpr fun c hc => by simpa using hy c hc
  calc w.length = (w.filter fun c => decide (c ∉ delimiters)).length := by rw [hall]
    _ ≤ ((x ++ y).filter fun c => decide (c ∉ delimiters)).length :=
      (h.sublist.filter _).length_le
    _ ≤ x.length := by
      rw [List.filter_append, hnone, List.append_nil]
      exact List.length_filter_le _ _

theorem apiNames_length : ∀ w ∈ apiNames, w.toList.length < 20 := by decide +kernel

theorem Assignment.length_run_le_of_line (a : Assignment apiNames) {w : List Char}
    (h : w <:+: a.line) (hw : ∀ c ∈ w, c ∉ delimiters) :
    w.length < 20 ∨ w.length ≤ a.value.length := by
  have hquote := mem_delimiters_of_mem_quotes a.isQuote
  have hsign := mem_delimiters_of_mem_signs a.isSign
  obtain h | h := Text.infix_of_notMem h fun hm => hw _ hm hquote
  · obtain h | h := Text.infix_of_notMem h fun hm => hw _ hm hsign
    · obtain ⟨n, hn, hname⟩ := a.isName
      have hlength : a.name.length = n.toList.length := by rw [← hname, List.length_map]
      have hle := length_run_le h hw fun c hc => mem_delimiters_of_isBlank (a.isBlank_left c hc)
      exact .inl (hle.trans_lt (hlength ▸ apiNames_length n hn))
    · have hle := length_run_le (x := []) h hw fun c hc =>
        mem_delimiters_of_isBlank (a.isBlank_right c hc)
      exact .inl (hle.trans_lt (by decide))
  · exact .inr (length_run_le h hw (by simpa using hquote))

theorem apiWords_small :
    (∀ words ∈ compounds, isSmall words.1 = true ∧ isSmall words.2 = true) ∧
      ∀ w ∈ ["token", "secret"], isSmall w = true := by
  decide +kernel

theorem fits_join {j : String} {join : List Char} (hj : j ∈ ["", "_", "-"])
    (h : join.map Char.toLower = j.toList) :
    (optional (mark ['_', '-'])).Fits before join after := by
  have hjoins : ∀ j ∈ ["", "_", "-"],
      (j.toList.all fun c => c.toLower == c && c.toUpper == c) = true ∧
        j.toList ∈ [[], ['_'], ['-']] := by decide
  obtain ⟨hsame, hshape⟩ := hjoins j hj
  simp only [List.all_eq_true, Bool.and_eq_true, beq_iff_eq] at hsame
  rw [fits_optional, fits_mark (by decide), Text.eq_of_map_toLower_eq hsame h]
  simpa using hshape

theorem fits_apiName {name : List Char} (h : ∃ w ∈ apiNames, name.map Char.toLower = w.toList) :
    apiName.Fits before name after := by
  obtain ⟨w, hw, hname⟩ := h
  rw [apiName, fits_altAll]
  obtain hw | hw := List.mem_append.mp hw
  · simp only [List.mem_flatMap, List.mem_map] at hw
    obtain ⟨words, hwords, j, hj, rfl⟩ := hw
    rw [String.toList_append, String.toList_append, List.map_eq_append_iff] at hname
    obtain ⟨_, second, rfl, hfront, hsecond⟩ := hname
    obtain ⟨first, join, rfl, hfirst, hjoin⟩ := List.map_eq_append_iff.mp hfront
    obtain ⟨hsmall, hsmall'⟩ := apiWords_small.1 words hwords
    refine ⟨_, List.mem_append_left _ (List.mem_map_of_mem hwords), ?_⟩
    rw [List.append_assoc, compound, fits_catAll_append]
    refine ⟨first, join ++ second, rfl, ?_, ?_⟩
    · exact fits_spelledAnyCase.mpr (isAnyCase_of_toLower hsmall hfirst)
    · rw [fits_catAll_cons]
      exact ⟨join, second, rfl, fits_join hj hjoin,
        fits_spelledAnyCase.mpr (isAnyCase_of_toLower hsmall' hsecond)⟩
  · refine ⟨_, List.mem_append_right _ (List.mem_map_of_mem hw), ?_⟩
    exact fits_spelledAnyCase.mpr (isAnyCase_of_toLower (apiWords_small.2 w hw) hname)

def isTokenChar (c : Char) : Bool := Unicode.isAsciiWord c || c == '-'

theorem contains_tokenClass (h : isTokenChar c = true) : tokenClass.contains c = true := by
  simp only [isTokenChar, Unicode.isAsciiWord, Bool.or_eq_true, Bool.and_eq_true,
    decide_eq_true_eq, beq_iff_eq] at h
  simp only [tokenClass, CharClass.contains, CharClass.contains_char, Bool.or_eq_true,
    Bool.and_eq_true, decide_eq_true_eq]
  exact .inl (h.imp_left (Or.imp_left (Or.imp_left Or.symm)))

theorem Assignment.fits_assigned (a : Assignment apiNames) :
    (catAll assigned).Fits before (a.front ++ [a.quote]) after := by
  simp only [assigned, fits_catAll_cons, fits_catAll_nil, fits_optional, fits_mark mayBeCase_signs,
    fits_mark mayBeCase_quotes, fits_blanks]
  exact ⟨a.name, [] ++ (a.left ++ ([a.sign] ++ (a.right ++ ([a.quote] ++ [])))),
    by simp [front], fits_apiName a.isName, [], _, rfl, .inl rfl, a.left, _, rfl, a.isBlank_left,
    [a.sign], _, rfl, ⟨a.sign, a.isSign, rfl⟩, a.right, _, rfl, a.isBlank_right, [a.quote], [], rfl,
    .inr ⟨a.quote, a.isQuote, rfl⟩, rfl⟩

theorem Assignment.fits_apiKey (a : Assignment apiNames)
    (hvalue : ∀ c ∈ a.value, isTokenChar c = true) (hlength : 20 ≤ a.value.length) :
    apiKey.Fits [] (a.front ++ [a.quote] ++ a.value) [a.quote] := by
  rw [apiKey, fits_altAll]
  refine ⟨token, List.mem_cons_self, fits_catAll_append.mpr ⟨_, a.value, rfl, a.fits_assigned, ?_⟩⟩
  rw [fits_catAll_singleton, fits_rep_one]
  exact ⟨hlength, by simp, fun c hc => contains_tokenClass (hvalue c hc)⟩

theorem isSome_iff_token_length {r : Rule} (hr : r.pattern = apiKey) (a : Assignment apiNames)
    (hvalue : ∀ c ∈ a.value, isTokenChar c = true) :
    (r.find? a.line.toArray).isSome = true ↔ 20 ≤ a.value.length := by
  have hink : apiKey.endsInInk = true := by decide +kernel
  rw [Rule.isSome_find?_iff_fits (.inr (hr ▸ hink)), hr]
  constructor
  · rintro ⟨before, body, after, hline, h⟩
    obtain ⟨w, hw, hlength, hclass⟩ := exists_run_of_fits h
    have hrun : w <:+: a.line := hw.isInfix.trans ⟨before, after, hline.symm⟩
    obtain hlt | hle := a.length_run_le_of_line hrun hclass
    · exact absurd hlength (Nat.not_le_of_lt hlt)
    · exact hlength.trans hle
  · intro hlength
    exact ⟨[], _, _, by simp [Assignment.line], a.fits_apiKey hvalue hlength⟩

/-- The rules for passwords and for keys find something in an assignment exactly if the value is long
enough. -/
theorem found_iff_long_enough :
    (∃ rule, Registry.builtin.get? .sensitive "password" = some rule ∧
      ∀ a : Assignment passwordNames, (∀ c ∈ a.value, c ∉ quotes) →
        ((rule.find? a.line.toArray).isSome = true ↔ 8 ≤ a.value.length)) ∧
    ∃ rule, Registry.builtin.get? .sensitive "apiKey" = some rule ∧
      ∀ a : Assignment apiNames, (∀ c ∈ a.value, isTokenChar c = true) →
        ((rule.find? a.line.toArray).isSome = true ↔ 20 ≤ a.value.length) := by
  obtain ⟨passwordRule, hpassword, hpasswordPattern⟩ :=
    Registry.exists_builtin_of_pattern (by simp [Signature.all]) ofText?_password
  obtain ⟨keyRule, hkey, hkeyPattern⟩ :=
    Registry.exists_builtin_of_pattern (by simp [Signature.all]) ofText?_apiKey
  exact ⟨⟨passwordRule, hpassword, fun a => isSome_iff_length hpasswordPattern a⟩,
    keyRule, hkey, fun a => isSome_iff_token_length hkeyPattern a⟩

theorem isName_authToken :
    ∃ w ∈ apiNames, "auth-TOKEN".toList.map Char.toLower = w.toList :=
  ⟨"auth-token", by decide, by decide⟩

theorem found_and_too_short :
    (∃ rule, Registry.builtin.get? .sensitive "password" = some rule ∧
      (rule.find? "password = \"pässword\"".toList.toArray).isSome = true ∧
      (rule.find? "password = \"pässwor\"".toList.toArray).isSome = false) ∧
    ∃ rule, Registry.builtin.get? .sensitive "apiKey" = some rule ∧
      (rule.find? "auth-TOKEN = \"sk_45678901234567890\"".toList.toArray).isSome = true ∧
      (rule.find? "auth-TOKEN = \"sk_4567890123456789\"".toList.toArray).isSome = false := by
  obtain ⟨⟨password, hpassword, hfound⟩, key, hkey, hfound'⟩ := found_iff_long_enough
  refine ⟨⟨password, hpassword, ?_, ?_⟩, key, hkey, ?_, ?_⟩
  · exact (hfound (.ofText _ isName_password "pässword") fun _ =>
      Text.notMem_of_any (by decide)).mpr (by decide)
  · refine Bool.eq_false_iff.mpr fun h => ?_
    exact absurd ((hfound (.ofText _ isName_password "pässwor") fun _ =>
      Text.notMem_of_any (by decide)).mp h) (by decide)
  · exact (hfound' (.ofText _ isName_authToken "sk_45678901234567890")
      (List.all_eq_true.mp (by decide))).mpr (by decide)
  · refine Bool.eq_false_iff.mpr fun h => ?_
    exact absurd ((hfound' (.ofText _ isName_authToken "sk_4567890123456789")
      (List.all_eq_true.mp (by decide))).mp h) (by decide)

end Credential

end Linewatch
