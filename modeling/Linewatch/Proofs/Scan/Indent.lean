import Linewatch.Proofs.Rule
import Linewatch.Proofs.Signature
import Linewatch.Proofs.Pattern.Ink
import Linewatch.Proofs.Scan.Hits

namespace Linewatch

namespace Rule

variable {r : Rule} {line : Array Char}

theorem isSome_find?_iff :
    (r.find? line).isSome = true ↔ line.all Text.isBlank = false ∧ r.pattern.Occurs line := by
  rw [Option.isSome_iff_ne_none, Ne, find?_eq_none_iff, not_or, not_not, Bool.not_eq_true]

theorem isSome_find?_trimLeft (h : r.pattern.ignoresIndent = true) (line : List Char) :
    (r.find? (Text.trimLeft line).toArray).isSome = (r.find? line.toArray).isSome := by
  have hblank : ∀ c ∈ (line.takeWhile Text.isBlank).toArray, Text.isBlank c = true := by
    simpa using fun c => List.mem_takeWhile_imp
  have hline : line.toArray = (line.takeWhile Text.isBlank).toArray ++ (Text.trimLeft line).toArray := by
    rw [List.append_toArray, Text.trimLeft, List.takeWhile_append_dropWhile]
  have hall : (line.takeWhile Text.isBlank).toArray.all Text.isBlank = true :=
    Array.all_eq_true_iff_forall_mem.mpr hblank
  rw [Bool.eq_iff_iff, isSome_find?_iff, isSome_find?_iff, hline, Array.all_append, hall,
    Bool.true_and, Pattern.occurs_append_left hblank h]

end Rule

namespace Registry

variable {r : Registry}

def IgnoresIndent (r : Registry) : Prop :=
  ∀ c, ∀ rule ∈ r.rulesFor c, rule.pattern.ignoresIndent = true

theorem IgnoresIndent.hitsOnLine_trimLeft (h : r.IgnoresIndent) (line : List Char) (number : Nat) :
    r.hitsOnLine (Text.trimLeft line) number = r.hitsOnLine line number := by
  rw [hitsOnLine, hitsOnLine, Text.trim_trimLeft]
  refine List.flatMap_congr fun c _ => List.filterMap_congr fun rule hrule => ?_
  rw [Rule.isSome_find?_trimLeft (h c rule hrule)]

theorem IgnoresIndent.hits_eq (h : r.IgnoresIndent) (text : List Char) : r.hits text =
    (((Text.lines text).map Text.trimLeft).zipIdx 1).flatMap fun l => r.hitsOnLine l.1 l.2 := by
  rw [hits, List.zipIdx_map, List.flatMap_map]
  exact List.flatMap_congr fun l _ => (h.hitsOnLine_trimLeft l.1 l.2).symm

set_option maxRecDepth 2000 in
theorem ignoresIndent_builtin : builtin.IgnoresIndent := by
  intro c rule hr
  refine of_mem_rulesFor_builtin (f := fun _ => Pattern.ignoresIndent) ?_ hr
  simp only [Signature.all, List.forall_mem_cons]
  refine ⟨?_, ?_, ?_, ?_, ?_, ?_, ?_, ?_, ?_, ?_, by simp⟩
  all_goals exact Signature.any_of_eq rfl (by decide +kernel)

end Registry

/-- Texts that differ only in how their lines are indented give the same findings. -/
theorem scanText_reindented {t t' : List Char}
    (h : (Text.lines t).map Text.trimLeft = (Text.lines t').map Text.trimLeft) :
    scanText t = scanText t' := by
  rw [scanText, scanText, Registry.ignoresIndent_builtin.hits_eq t,
    Registry.ignoresIndent_builtin.hits_eq t', h]

theorem scanText_reindented_exec :
    scanText "  \u3000exec('ls')\n\tvar a = 1".toList = scanText "exec('ls')\n var a = 1".toList :=
  scanText_reindented (by decide +kernel)

end Linewatch
