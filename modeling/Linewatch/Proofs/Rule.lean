import Linewatch.Rule
import Linewatch.Proofs.Pattern.Search
import Linewatch.Proofs.Pattern.Layout

namespace Linewatch

variable {chars line : Array Char} {i j : Nat}

namespace Pattern

variable {p : Pattern}

theorem exists_runs_iff : (∃ w, p.program.Runs chars (0, i) w j) ↔ p.Matches chars i j := by
  have h := p.isWrittenOut_writtenOut
  rw [matches_iff_exists_way, ← Program.program_writtenOut]
  constructor
  · rintro ⟨w, hw⟩
    obtain ⟨v, hv, -⟩ := (Program.runs_program h).mp hw
    exact ⟨v, hv⟩
  · rintro ⟨v, hv⟩
    exact ⟨_, (Program.runs_program h).mpr ⟨v, hv, rfl⟩⟩

theorem find?_program_eq_some_iff {s : Span} : p.program.find? chars = some s ↔
    s.start ≤ chars.size ∧ (∀ i j, p.Matches chars i j → s.start ≤ i) ∧
      p.Prefers chars s.start s.stop := by
  rw [Program.find?_eq_some_iff, Program.isFirst_program]
  refine and_congr_right fun _ => and_congr_left fun _ => ?_
  constructor
  · intro h i j hm
    obtain ⟨w, hw⟩ := exists_runs_iff.mpr hm
    exact Nat.le_of_not_lt fun hlt => h i hlt w j hw
  · intro h i hlt w j hw
    exact Nat.not_le_of_lt hlt (h i j (exists_runs_iff.mp ⟨w, hw⟩))

theorem find?_program_eq_none_iff : p.program.find? chars = none ↔
    ¬ p.Occurs chars := by
  rw [Program.find?_eq_none_iff]
  constructor
  · rintro h ⟨i, j, hi, hm⟩
    obtain ⟨w, hw⟩ := exists_runs_iff.mpr hm
    exact h i hi w j hw
  · intro h i hi w j hw
    exact h ⟨i, j, hi, exists_runs_iff.mp ⟨w, hw⟩⟩

end Pattern

theorem foldl_utf8Size (l : List Char) (n : Nat) :
    l.foldl (fun n c => n + c.utf8Size) n = n + (String.ofList l).utf8ByteSize := by
  induction l generalizing n with
  | nil => simp
  | cons c l ih =>
    have hcons : String.ofList (c :: l) = String.singleton c ++ String.ofList l := by
      rw [String.singleton_eq_ofList, ← String.ofList_append, List.singleton_append]
    rw [List.foldl_cons, ih, hcons, String.utf8ByteSize_append, String.utf8ByteSize_singleton,
      Nat.add_assoc]

theorem byteOffset_eq (line : Array Char) (i : Nat) :
    byteOffset line i = (String.ofList (line.toList.take i)).utf8ByteSize := by
  rw [byteOffset, foldl_utf8Size, Nat.zero_add]

theorem byteOffset_lt_succ (h : i < line.size) : byteOffset line i < byteOffset line (i + 1) := by
  have hsucc : byteOffset line (i + 1) = byteOffset line i + line.toList[i].utf8Size := by
    simp [byteOffset, List.take_add_one, h]
  rw [hsucc]
  exact Nat.lt_add_of_pos_right (Char.utf8Size_pos _)

theorem byteOffset_lt (h : i < j) (hj : j ≤ line.size) : byteOffset line i < byteOffset line j := by
  obtain ⟨k, rfl⟩ := Nat.exists_eq_add_of_lt h
  induction k with
  | zero => exact byteOffset_lt_succ hj
  | succ k ih => exact (ih (by omega) (by omega)).trans (byteOffset_lt_succ hj)

theorem byteOffset_le_iff (hi : i ≤ line.size) (hj : j ≤ line.size) :
    byteOffset line i ≤ byteOffset line j ↔ i ≤ j := by
  constructor
  · intro h
    exact Nat.le_of_not_lt fun hlt => Nat.not_le_of_lt (byteOffset_lt hlt hi) h
  · intro h
    obtain rfl | hlt := Nat.eq_or_lt_of_le h
    · exact Nat.le_refl _
    · exact Nat.le_of_lt (byteOffset_lt hlt hj)

theorem byteOffset_le_size (line : Array Char) (i : Nat) :
    byteOffset line i ≤ (String.ofList line.toList).utf8ByteSize := by
  have hsplit : String.ofList line.toList =
      String.ofList (line.toList.take i) ++ String.ofList (line.toList.drop i) := by
    rw [← String.ofList_append, List.take_append_drop]
  rw [byteOffset_eq, hsplit, String.utf8ByteSize_append]
  exact Nat.le_add_right _ _

theorem isValid_byteOffset (line : Array Char) (i : Nat) :
    String.Pos.Raw.IsValid (String.ofList line.toList) ⟨byteOffset line i⟩ :=
  String.Pos.Raw.isValid_ofList.mpr ⟨i, byteOffset_eq line i⟩

namespace Rule

variable {r : Rule}

theorem find?_eq_none_iff : r.find? line = none ↔
    line.all Text.isBlank = true ∨ ¬ r.pattern.Occurs line := by
  rw [find?, r.program_eq]
  split
  next h => simp [h]
  next h =>
    rw [Option.map_eq_none_iff, Pattern.find?_program_eq_none_iff]
    simp only [h, false_or, Bool.false_eq_true]

/-- A rule finds nothing in a blank line. In any other line it finds a match if its pattern has one
there: it begins at the least offset in bytes of all matches, and of those that begin there it is the
one that the pattern prefers. It begins and ends between characters. -/
theorem finds_leftmost_preferred (r : Rule) (line : Array Char) :
    (r.find? line = none ↔ line.all Text.isBlank = true ∨ ¬ r.pattern.Occurs line) ∧
    ∀ sp, r.find? line = some sp ↔ line.all Text.isBlank = false ∧ ∃ s e,
      r.pattern.Matches line s e ∧
      (∀ i j, i ≤ line.size → r.pattern.Matches line i j →
        byteOffset line s ≤ byteOffset line i) ∧
      r.pattern.Prefers line s e ∧
      s ≤ e ∧ e ≤ line.size ∧ sp = ⟨byteOffset line s, byteOffset line e⟩ ∧
      sp.start ≤ sp.stop ∧ sp.stop ≤ (String.ofList line.toList).utf8ByteSize ∧
      String.Pos.Raw.IsValid (String.ofList line.toList) ⟨sp.start⟩ ∧
      String.Pos.Raw.IsValid (String.ofList line.toList) ⟨sp.stop⟩ := by
  refine ⟨find?_eq_none_iff, fun sp => ?_⟩
  have hblank : line.all Text.isBlank = true ∨ line.all Text.isBlank = false := by
    cases line.all Text.isBlank <;> simp
  obtain hblank | hblank := hblank
  · simp [find?, hblank]
  rw [find?, r.program_eq, hblank]
  simp only [Bool.false_eq_true, if_false, true_and, Option.map_eq_some_iff,
    Pattern.find?_program_eq_some_iff]
  constructor
  · rintro ⟨⟨s, e⟩, ⟨hs, hleast, hprefers⟩, rfl⟩
    have hm := hprefers.matches
    have he := hm.le_size hs
    refine ⟨s, e, hm, fun i j hi hm' => ?_, hprefers, hm.le, he, rfl, ?_,
      byteOffset_le_size _ _, isValid_byteOffset _ _, isValid_byteOffset _ _⟩
    · exact (byteOffset_le_iff hs hi).mpr (hleast i j hm')
    · exact (byteOffset_le_iff hs he).mpr hm.le
  · rintro ⟨s, e, hm, hleast, hprefers, hle, he, rfl, -⟩
    have hs := hle.trans he
    refine ⟨⟨s, e⟩, ⟨hs, fun i j hm' => ?_, hprefers⟩, rfl⟩
    obtain hi | hi := Nat.le_total i line.size
    · exact (byteOffset_le_iff hs hi).mp (hleast i j hi hm')
    · exact hs.trans hi

/-- A rule whose pattern makes progress finds the first of all ways through it from the least place.
-/
theorem find?_eq_some_iff_of_progresses (h : r.pattern.Progresses line) {sp : Span} :
    r.find? line = some sp ↔ line.all Text.isBlank = false ∧ ∃ s : Span,
      (s.start ≤ line.size ∧ (∀ i j, r.pattern.Matches line i j → s.start ≤ i) ∧
        ∃ w, Pattern.Way line r.pattern.writtenOut s.start w s.stop ∧
          ∀ v k, Pattern.Way line r.pattern.writtenOut s.start v k → w = v ∨ Choice.Before w v) ∧
      s.inBytes line = sp := by
  rw [find?, r.program_eq]
  split
  next hb => simp [hb]
  next hb =>
    simp only [hb, true_and, Option.map_eq_some_iff, Pattern.find?_program_eq_some_iff,
      Pattern.prefers_iff_of_progresses h]

end Rule

end Linewatch
