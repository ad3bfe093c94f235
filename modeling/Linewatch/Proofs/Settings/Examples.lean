import Mathlib
import Linewatch.Proofs.Data.Toml.Lines
import Linewatch.Proofs.Settings.Names

namespace Linewatch.Settings

open Toml (Tells textOf)

inductive Example where
  | ignoredRules
  | overrides
  | maxLines
  | timeout
  | rules
deriving DecidableEq

namespace Example

def all : List Example := [ignoredRules, overrides, maxLines, timeout, rules]

def lines : Example → List String
  | ignoredRules => ["# ignore_rules = [\"unsafeRegex\"]"]
  | overrides => ["# [policy.overrides]", "# \"commandInjection\" = \"medium\""]
  | maxLines => ["# max_lines = 200000"]
  | timeout => ["# timeout_ms = 5000"]
  | rules => ["# [[rules]]", "# catalog = \"vulnerability\"", "# name = \"postMessage\"",
      "# pattern = '\\.postMessage\\s*\\([^,]*,\\s*[\"'']\\*[\"'']'", "# severity = \"medium\"",
      "# description = \"postMessage with a wildcard target origin\""]

def ofLine? (line : String) : Option Example := all.find? fun e => e.lines.contains line

end Example

variable (chosen : Example → Bool)

def uncomment (line : String) : String :=
  if (Example.ofLine? line).any chosen then String.ofList (line.toList.drop 2) else line

def starterWith : String := String.join ((starterLines.map (uncomment chosen)).map (· ++ "\n"))

/-- The default settings with those of the chosen examples that give no rules. -/
def settingsWith : Settings where
  policy := {
    ignoreRules := if chosen .ignoredRules then ["unsafeRegex"] else []
    overrides := if chosen .overrides then [("commandInjection", .medium)] else [] }
  limits := {
    maxLines := if chosen .maxLines then some 200000 else none
    timeout := if chosen .timeout then some 5000 else none }

theorem toList_starterWith :
    (starterWith chosen).toList = textOf (starterLines.map (uncomment chosen)) := by
  rw [starterWith, String.toList_join, List.flatMap_map, textOf]
  simp

section

variable {chosen} {line : String} {said : List Toml.Line} {e : Example}

theorem tells_kept (ho : Example.ofLine? line = none) (h : Tells [line] said) :
    Tells [uncomment chosen line] said := by
  rw [uncomment, ho]
  exact h

theorem tells_prose (ho : Example.ofLine? line = none) (hs : Toml.isSilent line.toList = true) :
    Tells [uncomment chosen line] [] :=
  tells_kept ho (Toml.tells_of_isSilent hs)

theorem tells_unchosen (ho : Example.ofLine? line = some e) (hc : chosen e = false)
    (hs : Toml.isSilent line.toList = true) : Tells [uncomment chosen line] [] := by
  rw [uncomment, ho, Option.any_some, hc]
  exact Toml.tells_of_isSilent hs

theorem tells_example (ho : Example.ofLine? line = some e) (hs : Toml.isSilent line.toList = true)
    (h : Tells [String.ofList (line.toList.drop 2)] said) :
    Tells [uncomment chosen line] (if chosen e then said else []) := by
  by_cases hc : chosen e = true
  · rw [if_pos hc, uncomment, ho, Option.any_some, if_pos hc]
    exact h
  · rw [if_neg hc]
    exact tells_unchosen ho (Bool.eq_false_iff.mpr hc) hs

end

def saidOfPolicy : List (List Toml.Line) := [
  [], [], [.header ⟨[], "policy"⟩], [], [.pair ⟨[], "fail_on"⟩ (.text "high")], [], [], [],
  if chosen .ignoredRules then [.pair ⟨[], "ignore_rules"⟩ (.list [.text "unsafeRegex"])] else [],
  [], [], [], if chosen .overrides then [.header ⟨["policy"], "overrides"⟩] else [],
  if chosen .overrides then [.pair ⟨[], "commandInjection"⟩ (.text "medium")] else [], []]

def saidOfLimits : List (List Toml.Line) := [
  [.header ⟨[], "limits"⟩], [],
  if chosen .maxLines then [.pair ⟨[], "max_lines"⟩ (.whole 200000)] else [], [],
  if chosen .timeout then [.pair ⟨[], "timeout_ms"⟩ (.whole 5000)] else [], []]

def saidOfRule : List (List Toml.Line) := [
  [], if chosen .rules then [.itemHeader ⟨[], "rules"⟩] else [],
  if chosen .rules then [.pair ⟨[], "catalog"⟩ (.text "vulnerability")] else [],
  if chosen .rules then [.pair ⟨[], "name"⟩ (.text "postMessage")] else []]

theorem tells_policy : Tells ((starterLines.take 15).map (uncomment chosen))
    (saidOfPolicy chosen).flatten := by
  apply Toml.tells_of_forall₂
  rw [List.forall₂_map_left_iff]
  refine .cons (tells_prose (by decide) (by decide)) <|
    .cons (tells_prose (by decide) (by decide)) <|
    .cons (tells_kept (by decide) ?header) <|
    .cons (tells_prose (by decide) (by decide)) <|
    .cons (tells_kept (by decide) ?failOn) <|
    .cons (tells_prose (by decide) (by decide)) <|
    .cons (tells_prose (by decide) (by decide)) <|
    .cons (tells_prose (by decide) (by decide)) <|
    .cons (tells_example (by decide) (by decide) ?ignored) <|
    .cons (tells_prose (by decide) (by decide)) <|
    .cons (tells_prose (by decide) (by decide)) <|
    .cons (tells_prose (by decide) (by decide)) <|
    .cons (tells_example (by decide) (by decide) ?overrides) <|
    .cons (tells_example (by decide) (by decide) ?override) <|
    .cons (tells_prose (by decide) (by decide)) .nil
  -- What is left are lines with a pair or a header: they are read whatever comes after them.
  all_goals
    intro fuel done rest
    cbv

theorem tells_limits : Tells (((starterLines.drop 15).take 6).map (uncomment chosen))
    (saidOfLimits chosen).flatten := by
  apply Toml.tells_of_forall₂
  rw [List.forall₂_map_left_iff]
  refine .cons (tells_kept (by decide) ?header) <|
    .cons (tells_prose (by decide) (by decide)) <|
    .cons (tells_example (by decide) (by decide) ?maxLines) <|
    .cons (tells_prose (by decide) (by decide)) <|
    .cons (tells_example (by decide) (by decide) ?timeout) <|
    .cons (tells_prose (by decide) (by decide)) .nil
  all_goals
    intro fuel done rest
    cbv

theorem tells_rule : Tells (((starterLines.drop 21).take 4).map (uncomment chosen))
    (saidOfRule chosen).flatten := by
  apply Toml.tells_of_forall₂
  rw [List.forall₂_map_left_iff]
  refine .cons (tells_prose (by decide) (by decide)) <|
    .cons (tells_example (by decide) (by decide) ?header) <|
    .cons (tells_example (by decide) (by decide) ?catalog) <|
    .cons (tells_example (by decide) (by decide) ?name) .nil
  all_goals
    intro fuel done rest
    cbv

def saidBeforePattern : List Toml.Line :=
  (saidOfPolicy chosen).flatten ++ ((saidOfLimits chosen).flatten ++ (saidOfRule chosen).flatten)

theorem tells_beforePattern :
    Tells ((starterLines.take 25).map (uncomment chosen)) (saidBeforePattern chosen) := by
  have hlines : starterLines.take 25 = starterLines.take 15 ++
      ((starterLines.drop 15).take 6 ++ (starterLines.drop 21).take 4) := rfl
  rw [hlines, List.map_append, List.map_append]
  exact (tells_policy chosen).append ((tells_limits chosen).append (tells_rule chosen))

theorem tells_fromPattern (h : chosen .rules = false) :
    Tells ((starterLines.drop 25).map (uncomment chosen)) [] := by
  have hlines : List.Forall₂ (fun line said => Tells [uncomment chosen line] said)
      (starterLines.drop 25) [[], [], []] :=
    .cons (tells_unchosen (by decide) h (by decide)) <|
    .cons (tells_unchosen (by decide) h (by decide)) <|
    .cons (tells_unchosen (by decide) h (by decide)) .nil
  exact Toml.tells_of_forall₂ (List.forall₂_map_left_iff.mpr hlines)

def patternLine : String := "pattern = '\\.postMessage\\s*\\([^,]*,\\s*[\"'']\\*[\"'']'"

/-- The pattern is no literal text: the first apostrophe in it ends it. -/
theorem fails_patternLine : Toml.Fails patternLine := by
  intro fuel done rest
  cases fuel with
  | zero => rfl
  | succ fuel => cbv

theorem withoutMark_starterWith : Toml.withoutMark (textOf (starterLines.map (uncomment chosen))) =
    textOf (starterLines.map (uncomment chosen)) := by
  have ho : Example.ofLine? "# sigscan configuration" = none := by decide
  have hfirst : uncomment chosen "# sigscan configuration" = "# sigscan configuration" := by
    rw [uncomment, ho]
    rfl
  have hchars : "# sigscan configuration".toList = '#' :: " sigscan configuration".toList := by
    decide
  rw [starterLines, List.map_cons, Toml.textOf_cons, hfirst, hchars]
  rfl

/-- The text is refused with the rule in force, whatever else is. -/
theorem read?_of_rule (h : chosen .rules = true) :
    Toml.read? (starterWith chosen).toList = none := by
  have ho : Example.ofLine? "# pattern = '\\.postMessage\\s*\\([^,]*,\\s*[\"'']\\*[\"'']'" =
      some .rules := by decide
  have hpattern : uncomment chosen "# pattern = '\\.postMessage\\s*\\([^,]*,\\s*[\"'']\\*[\"'']'" =
      patternLine := by
    rw [uncomment, ho, Option.any_some, if_pos h]
    decide
  have hlines : starterLines.map (uncomment chosen) =
      (starterLines.take 25).map (uncomment chosen) ++
        patternLine :: (starterLines.drop 26).map (uncomment chosen) := by
    rw [← hpattern, ← List.map_cons, ← List.map_append]
    rfl
  have hmark := withoutMark_starterWith chosen
  rw [toList_starterWith, hlines] at *
  exact Toml.read?_eq_none (tells_beforePattern chosen) fails_patternLine hmark

theorem read?_of_no_rule (h : chosen .rules = false) :
    Toml.read? (starterWith chosen).toList = Toml.ofLines? (saidBeforePattern chosen) := by
  have htells := (tells_beforePattern chosen).append (tells_fromPattern chosen h)
  rw [← List.map_append, List.take_append_drop, List.append_nil] at htells
  rw [toList_starterWith]
  exact Toml.read?_textOf htells (withoutMark_starterWith chosen)

theorem ofDatum?_said (h : chosen .rules = false) :
    (Toml.ofLines? (saidBeforePattern chosen)).bind (ofDatum? .toml) =
      some (settingsWith chosen) := by
  rw [saidBeforePattern, saidOfPolicy, saidOfLimits, saidOfRule, settingsWith, h]
  generalize chosen .ignoredRules = a, chosen .overrides = b, chosen .maxLines = c,
    chosen .timeout = d
  revert a b c d
  decide +kernel

theorem validate_settingsWith : (settingsWith chosen).policy.validate = .ok () := by
  rw [settingsWith]
  generalize chosen .ignoredRules = a, chosen .overrides = b
  cases a <;> cases b <;> rfl

theorem load_of_rule (h : chosen .rules = true) :
    load (some (Utf8.encode (starterWith chosen))) = .error .toml := by
  rw [load_encode, ofToml, read?_of_rule chosen h]
  rfl

theorem load_of_no_rule (h : chosen .rules = false) :
    load (some (Utf8.encode (starterWith chosen))) = .ok (settingsWith chosen) := by
  rw [load_encode, ofToml_eq_ok_iff, read?_of_no_rule chosen h]
  exact ⟨ofDatum?_said chosen h, validate_settingsWith chosen⟩

end Linewatch.Settings
