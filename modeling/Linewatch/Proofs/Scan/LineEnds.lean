import Linewatch.Proofs.Scan.Hits
import Linewatch.Proofs.Text.Newline

namespace Linewatch

namespace Text

inductive LineEnd where
  | newline
  | returnNewline

def LineEnd.chars : LineEnd → List Char
  | newline => ['\n']
  | returnNewline => ['\r', '\n']

/-- Whether nothing in the content of a line could be taken for a part of its end. -/
def IsContent (content : List Char) : Prop := '\n' ∉ content ∧ content.getLast? ≠ some '\r'

instance (content : List Char) : Decidable (IsContent content) := inferInstanceAs (Decidable (_ ∧ _))

/-- Whether a text is made of lines with the given contents, each with an end of its own choice, and
the last one possibly with none. -/
inductive MadeOf : List (List Char) → List Char → Prop
  | nil : MadeOf [] []
  | unended (content : List Char) : MadeOf [content] content
  | ended (content : List Char) (e : LineEnd) {contents : List (List Char)} {text : List Char}
      (h : MadeOf contents text) : MadeOf (content :: contents) (content ++ (e.chars ++ text))

variable {content text : List Char} {contents : List (List Char)}

theorem pieces_concat_newline {body : List Char} (h : '\n' ∉ body) :
    pieces (body ++ ['\n']) = [body ++ ['\n']] := by
  induction body with
  | nil => rfl
  | cons c body ih =>
    rw [List.mem_cons, not_or] at h
    rw [List.cons_append, pieces_cons, ih h.2, addToPieces, if_neg (Ne.symm h.1)]

theorem lineOfPiece_ended (h : IsContent content) (e : LineEnd) :
    lineOfPiece (content ++ e.chars) = content := by
  unfold lineOfPiece
  rw [List.reverse_append]
  cases e with
  | newline =>
    split
    next rest hr =>
      have hcontent : content.reverse = '\r' :: rest := by simpa [LineEnd.chars] using hr
      exact absurd (by simpa using congrArg List.head? hcontent) h.2
    next rest _ hr =>
      have hcontent : content.reverse = rest := by simpa [LineEnd.chars] using hr
      rw [← hcontent, List.reverse_reverse]
    next _ hno => exact absurd rfl (hno content.reverse)
  | returnNewline => exact List.reverse_reverse content

theorem lines_ended (h : IsContent content) (e : LineEnd) (text : List Char) :
    lines (content ++ (e.chars ++ text)) = content :: lines text := by
  obtain ⟨body, hb, he⟩ : ∃ body, '\n' ∉ body ∧ content ++ e.chars = body ++ ['\n'] := by
    cases e with
    | newline => exact ⟨content, h.1, rfl⟩
    | returnNewline => exact ⟨content ++ ['\r'], by simpa using h.1, by simp [LineEnd.chars]⟩
  have hline := lineOfPiece_ended h e
  rw [he] at hline
  rw [← List.append_assoc, he, List.append_assoc, List.singleton_append, lines_append_newline, lines,
    pieces_concat_newline hb, List.map_singleton, hline, List.singleton_append]

theorem lines_unended (h : IsContent content) :
    [content] = lines content ∨ [content] = lines content ++ [[]] := by
  by_cases hn : content = []
  · rw [hn]
    exact .inr rfl
  · exact .inl (lines_of_notMem hn h.1).symm

/-- The lines of a text are its contents, but for an empty one at the end that nothing ends. -/
theorem MadeOf.eq_lines (h : MadeOf contents text) (hc : ∀ content ∈ contents, IsContent content) :
    contents = lines text ∨ contents = lines text ++ [[]] := by
  induction h with
  | nil => exact .inl rfl
  | unended content => exact lines_unended (hc content List.mem_cons_self)
  | ended content e _ ih =>
    obtain ⟨hcontent, hrest⟩ := List.forall_mem_cons.mp hc
    rw [lines_ended hcontent, List.cons_append]
    exact (ih hrest).imp (congrArg _) (congrArg _)

end Text

namespace Registry

variable {r : Registry} {contents : List (List Char)} {text : List Char}

theorem hitsOnLine_nil (r : Registry) (number : Nat) : r.hitsOnLine [] number = [] := by
  rw [List.eq_nil_iff_forall_not_mem]
  intro h hh
  obtain ⟨-, rule, -, hf, -⟩ := mem_hitsOnLine_iff.mp hh
  obtain ⟨c, hc, -⟩ := Rule.exists_not_blank_of_find? hf
  cases hc

theorem hits_of_madeOf (h : Text.MadeOf contents text)
    (hc : ∀ content ∈ contents, Text.IsContent content) :
    r.hits text = (contents.zipIdx 1).flatMap fun p => r.hitsOnLine p.1 p.2 := by
  obtain hl | hl := h.eq_lines hc
  · rw [hl, hits]
  · rw [hl, List.zipIdx_append, List.flatMap_append, List.zipIdx_singleton, List.flatMap_singleton,
      hitsOnLine_nil, List.append_nil, hits]

/-- How lines end, and whether the last one does, has no part in what is found. The contents of the
lines are searched as they are, each under its number; only an empty one at the end may be none of the
lines of the text, and nothing is found in it. -/
theorem hits_with_any_line_ends (r : Registry) (h : Text.MadeOf contents text)
    (hc : ∀ content ∈ contents, Text.IsContent content) :
    (∀ text', Text.MadeOf contents text' → r.hits text' = r.hits text) ∧
    (∀ hit : Hit, hit ∈ r.hits text ↔ 1 ≤ hit.line ∧
      ∃ content rule, contents[hit.line - 1]? = some content ∧
        r.get? hit.catalog hit.rule = some rule ∧ (rule.find? content.toArray).isSome ∧
        hit.code = String.ofList (Text.trim content)) ∧
    (contents = Text.lines text ∨ contents = Text.lines text ++ [[]]) := by
  refine ⟨?_, ?_, h.eq_lines hc⟩
  · intro text' h'
    rw [hits_of_madeOf h hc, hits_of_madeOf h' hc]
  · intro hit
    rw [hits_of_madeOf h hc, mem_flatMap_hitsOnLine_iff]

theorem hits_at_end_of_line : ∃ r : Registry,
    r.hits "ab\n\r\na b\r\n".toList = r.hits "ab\r\n\na b".toList ∧
    ⟨"last", .vulnerability, 1, "ab"⟩ ∈ r.hits "ab\r\n\na b".toList ∧
    ⟨"last", .vulnerability, 3, "a b"⟩ ∈ r.hits "ab\r\n\na b".toList := by
  have hrule : ((Rule.compile "last" "b$" .low none).toOption.any fun rule =>
      rule.name = "last" ∧ (rule.find? "ab".toList.toArray).isSome ∧
        (rule.find? "a b".toList.toArray).isSome) = true := by
    decide +kernel
  obtain ⟨rule, -, hrule⟩ := (Option.any_eq_true _ _).mp hrule
  obtain ⟨hname, hone, hthree⟩ := of_decide_eq_true hrule
  obtain ⟨r, hget⟩ : ∃ r : Registry, r.get? .vulnerability "last" = some rule :=
    ⟨⟨⟨[rule], [(rule.name, 0)], Indexes.nil.push rfl⟩, .empty⟩,
      get?_eq_some_iff.mpr ⟨List.mem_singleton_self rule, hname⟩⟩
  have ht : Text.MadeOf ["ab".toList, [], "a b".toList] "ab\r\n\na b".toList :=
    .ended _ .returnNewline (.ended _ .newline (.unended _))
  have ht' : Text.MadeOf ["ab".toList, [], "a b".toList] "ab\n\r\na b\r\n".toList :=
    .ended _ .newline (.ended _ .returnNewline (.ended _ .returnNewline .nil))
  obtain ⟨hsame, hiff, -⟩ := hits_with_any_line_ends r ht (by decide)
  refine ⟨r, hsame _ ht', (hiff _).mpr ?_, (hiff _).mpr ?_⟩
  · exact ⟨by decide, "ab".toList, rule, rfl, hget, hone, by decide⟩
  · exact ⟨by decide, "a b".toList, rule, rfl, hget, hthree, by decide⟩

end Registry

end Linewatch
