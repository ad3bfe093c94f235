import Linewatch.Settings.Load
import Linewatch.Settings.Starter
import Linewatch.Proofs.Text.Utf8

namespace Linewatch.Settings

/-- The characters of lines, each with a newline after it. They are given apart, for the kernel is
slow to take them out of the bytes of a string. -/
inductive Spells : List String → List Char → Prop
  | nil : Spells [] []
  | cons {line : String} {lines : List String} {chars text : List Char}
      (hl : line = String.ofList chars) (ht : Spells lines text) :
      Spells (line :: lines) (chars ++ '\n' :: text)

theorem Spells.toList_join {lines : List String} {text : List Char} (h : Spells lines text) :
    (String.join (lines.map (· ++ "\n"))).toList = text := by
  induction h with
  | nil => rfl
  | cons hl _ ih =>
    rw [String.toList_join] at *
    rw [List.map_cons, List.flatMap_cons, ih, hl]
    simp

theorem ofToml_of_toOption {text : List Char} {s : Settings}
    (h : (ofToml text).toOption = some s) : ofToml text = .ok s := by
  cases hs : ofToml text with
  | error fault => simp [hs, Except.toOption] at h
  | ok s' => simpa [hs, Except.toOption] using h

theorem ofToml_starter_of {text : List Char} {s : Settings} (ht : Spells starterLines text)
    (h : (ofToml text).toOption = some s) : ofToml starter.toList = .ok s := by
  rw [starter, ht.toList_join]
  exact ofToml_of_toOption h

theorem ofToml_starter : ofToml starter.toList = .ok {} := by
  apply ofToml_starter_of
  · rw [starterLines]
    repeat first | apply Spells.cons rfl | apply Spells.cons String.ofList_nil.symm
    exact .nil
  · decide +kernel

theorem load_encode (text : String) : load (some (Utf8.encode text)) = ofToml text.toList := by
  rw [load, Utf8.decode?_encode]

/-- A project that keeps what it starts from has the settings of one without any. -/
theorem load_starter : load (some (Utf8.encode starter)) = .ok {} :=
  (load_encode starter).trans ofToml_starter

end Linewatch.Settings
