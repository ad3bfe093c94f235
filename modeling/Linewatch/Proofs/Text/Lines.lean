import Linewatch.Text.Lines

namespace Linewatch.Text

theorem pieces_cons (c : Char) (text : List Char) :
    pieces (c :: text) = addToPieces c (pieces text) := rfl

theorem exists_of_mem_pieces {text piece : List Char} (h : piece ∈ pieces text) :
    ∃ body, '\n' ∉ body ∧ (piece = body ∨ piece = body ++ ['\n']) := by
  induction text generalizing piece with
  | nil => cases h
  | cons c text ih =>
    rw [pieces_cons] at h
    cases hp : pieces text with
    | nil =>
      rw [hp, addToPieces, List.mem_singleton] at h
      by_cases hc : c = '\n'
      · exact ⟨[], List.not_mem_nil, .inr (by simp [h, hc])⟩
      · exact ⟨[c], by simpa using Ne.symm hc, .inl h⟩
    | cons first rest =>
      rw [hp] at ih h
      by_cases hc : c = '\n'
      · rw [addToPieces, if_pos hc, List.mem_cons] at h
        cases h with
        | inl h => exact ⟨[], List.not_mem_nil, .inr (by simp [h, hc])⟩
        | inr h => exact ih h
      · rw [addToPieces, if_neg hc, List.mem_cons] at h
        cases h with
        | inl h =>
          obtain ⟨body, hb, hf⟩ := ih List.mem_cons_self
          refine ⟨c :: body, by simpa [hb] using Ne.symm hc, ?_⟩
          rw [h]
          exact hf.imp (congrArg _) (congrArg _)
        | inr h => exact ih (List.mem_cons_of_mem _ h)

theorem lineOfPiece_isPrefix (piece : List Char) : lineOfPiece piece <+: piece := by
  unfold lineOfPiece
  split
  next rest h => exact ⟨['\r', '\n'], by simpa using congrArg List.reverse h.symm⟩
  next rest _ h => exact ⟨['\n'], by simpa using congrArg List.reverse h.symm⟩
  next => exact List.prefix_rfl

theorem lineOfPiece_newline_isPrefix (body : List Char) : lineOfPiece (body ++ ['\n']) <+: body := by
  unfold lineOfPiece
  rw [List.reverse_append]
  split
  next rest h =>
    have hb : body.reverse = '\r' :: rest := by simpa using h
    exact ⟨['\r'], by simpa using congrArg List.reverse hb.symm⟩
  next rest _ h =>
    have hb : body.reverse = rest := by simpa using h
    exact ⟨[], by simpa using congrArg List.reverse hb.symm⟩
  next _ h => simp at h

theorem pieces_of_notMem {text : List Char} (hne : text ≠ []) (h : '\n' ∉ text) :
    pieces text = [text] := by
  induction text with
  | nil => exact absurd rfl hne
  | cons c text ih =>
    rw [List.mem_cons, not_or] at h
    rw [pieces_cons]
    by_cases ht : text = []
    · rw [ht]
      rfl
    · rw [ih ht h.2, addToPieces, if_neg (Ne.symm h.1)]

theorem lines_of_notMem {text : List Char} (hne : text ≠ []) (h : '\n' ∉ text) :
    lines text = [text] := by
  have hline : lineOfPiece text = text := by
    unfold lineOfPiece
    split
    next rest hr => exact absurd (List.mem_reverse.mp (hr ▸ List.mem_cons_self)) h
    next rest _ hr => exact absurd (List.mem_reverse.mp (hr ▸ List.mem_cons_self)) h
    next => rfl
  rw [lines, pieces_of_notMem hne h, List.map_singleton, hline]

theorem newline_notMem_of_mem_lines {text line : List Char} (h : line ∈ lines text) :
    '\n' ∉ line := by
  obtain ⟨piece, hp, rfl⟩ := List.mem_map.mp h
  obtain ⟨body, hb, he⟩ := exists_of_mem_pieces hp
  intro hn
  cases he with
  | inl he => exact hb (he ▸ (lineOfPiece_isPrefix piece).subset hn)
  | inr he =>
    subst he
    exact hb ((lineOfPiece_newline_isPrefix body).subset hn)

end Linewatch.Text
