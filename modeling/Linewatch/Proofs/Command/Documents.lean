import Mathlib.Data.List.Sort
import Linewatch.Command.Documents
import Linewatch.Proofs.Files.Walk
import Linewatch.Proofs.Report.Batch

namespace Linewatch.Document

/-- What an argument contributes: the standard input, the accepted files of a directory in the order
of their paths, or one file. -/
inductive Gives (t : Tree) (stdin : List UInt8) : String → List Document → Prop
  | stdin : Gives t stdin "-" [⟨"<stdin>", stdin⟩]
  | directory {text : String} {root : Path} {files : List Path} {documents : List Document}
      (hn : text ≠ "-") (hr : t.directory? text = some root) (hs : files.Pairwise (· < ·))
      (hm : ∀ p, p ∈ files ↔ t.Accepts root p)
      (hd : List.Forall₂ (fun p d => d.source = Path.joined text (p.drop root.length) ∧
        t.get? p = some (.file d.content)) files documents) :
      Gives t stdin text documents
  | file {text : String} {content : List UInt8} (hn : text ≠ "-") (hr : t.directory? text = none)
      (hs : IsScannedName (nameAtEnd text)) (hf : t.find? text = some (.file content)) :
      Gives t stdin text [⟨text, content⟩]

/-- Why an argument contributes nothing. -/
inductive Refuses (t : Tree) : String → Fault → Prop
  | unsupported {text : String} (hn : text ≠ "-") (hr : t.directory? text = none)
      (hs : ¬ IsScannedName (nameAtEnd text)) : Refuses t text (.unsupportedInput text)
  | directory {text : String} {root p : Path} (hn : text ≠ "-") (hr : t.directory? text = some root)
      (hp : t.Accepts root p) (hu : ∀ content, t.get? p ≠ some (.file content)) : Refuses t text .io
  | file {text : String} (hn : text ≠ "-") (hr : t.directory? text = none)
      (hs : IsScannedName (nameAtEnd text)) (hu : ∀ content, t.find? text ≠ some (.file content)) :
      Refuses t text .io

/-- Whether an argument can be scanned: it is a hyphen, a directory of which all accepted files can
be read, or a file with an accepted suffix that can be read. -/
inductive Available (t : Tree) : String → Prop
  | stdin : Available t "-"
  | directory {text : String} {root : Path} (hr : t.directory? text = some root)
      (hf : ∀ p, t.Accepts root p → ∃ content, t.get? p = some (.file content)) : Available t text
  | file {text : String} {content : List UInt8} (hr : t.directory? text = none)
      (hs : IsScannedName (nameAtEnd text)) (hf : t.find? text = some (.file content)) :
      Available t text

variable {t : Tree} {stdin : List UInt8} {text source : String} {e : Option Entry}
  {documents : List Document} {fault : Fault}

theorem ofEntry_eq_ok_iff {d : Document} :
    ofEntry source e = .ok d ↔ d.source = source ∧ e = some (.file d.content) := by
  rcases e with _ | (content | _ | _)
  · simp [ofEntry]
  · constructor
    · rintro ⟨⟩
      exact ⟨rfl, rfl⟩
    · rintro ⟨rfl, ⟨⟩⟩
      rfl
  · simp [ofEntry]
  · simp [ofEntry]

theorem ofEntry_eq_error_iff :
    ofEntry source e = .error fault ↔ fault = .io ∧ ∀ content, e ≠ some (.file content) := by
  rcases e with _ | (content | _ | _) <;> simp [ofEntry, eq_comm]

def inputAfter (stdin : List UInt8) (earlier : List String) : List UInt8 :=
  if "-" ∈ earlier then [] else stdin

theorem inputAfter_cons (stdin : List UInt8) (text : String) (earlier : List String) :
    inputAfter stdin (text :: earlier) =
      inputAfter (if text = "-" then [] else stdin) earlier := by
  by_cases hn : text = "-"
  · simp [inputAfter, hn]
  · simp [inputAfter, hn, Ne.symm hn]

theorem map_ofEntry_eq_ok_iff : (ofEntry text e).map (fun d => [d]) = .ok documents ↔
    ∃ content, e = some (.file content) ∧ documents = [⟨text, content⟩] := by
  rcases e with _ | (content | _ | _) <;> simp [ofEntry, Except.map, eq_comm]

section

variable {walk : Walk}

theorem ofArgument_of_directory {root : Path} (hn : text ≠ "-")
    (hr : t.directory? text = some root) :
    ofArgument walk t stdin text = ofDirectory walk t text root := by
  simp [ofArgument, hn, hr]

theorem ofArgument_of_file (hn : text ≠ "-") (hr : t.directory? text = none)
    (hs : IsScannedName (nameAtEnd text)) :
    ofArgument walk t stdin text = (ofEntry text (t.find? text)).map fun d => [d] := by
  simp [ofArgument, hn, hr, hasScannedSuffix_iff.mpr hs]

theorem ofArgument_of_other (hn : text ≠ "-") (hr : t.directory? text = none)
    (hs : ¬ IsScannedName (nameAtEnd text)) :
    ofArgument walk t stdin text = .error (.unsupportedInput text) := by
  simp [ofArgument, hn, hr, hasScannedSuffix_iff, hs]

theorem ofArguments_cons_eq_ok_iff {rest : List String} :
    ofArguments walk t stdin (text :: rest) = .ok documents ↔
      ∃ first later, ofArgument walk t stdin text = .ok first ∧
        ofArguments walk t (if text = "-" then [] else stdin) rest = .ok later ∧
        documents = first ++ later := by
  rw [ofArguments]
  cases ofArgument walk t stdin text with
  | error fault => simp
  | ok first =>
    cases ofArguments walk t (if text = "-" then [] else stdin) rest with
    | error fault => simp [Except.map]
    | ok later => simp [Except.map, eq_comm]

theorem ofArguments_cons_eq_error_iff {rest : List String} :
    ofArguments walk t stdin (text :: rest) = .error fault ↔
      ofArgument walk t stdin text = .error fault ∨
      (∃ first, ofArgument walk t stdin text = .ok first) ∧
        ofArguments walk t (if text = "-" then [] else stdin) rest = .error fault := by
  rw [ofArguments]
  cases ofArgument walk t stdin text with
  | error f => simp
  | ok first => simp [map_eq_error_iff]

variable (hw : ∀ root, (walk root).Perm (t.visible root))
include hw

theorem mem_scannedFiles_walk {root p : Path} :
    p ∈ t.scannedFiles (walk root) ↔ t.Accepts root p := by
  rw [Tree.mem_scannedFiles_iff, (hw root).mem_iff, Tree.Accepts]

theorem exists_ofDirectory_iff (text : String) {root : Path} :
    (∃ documents, ofDirectory walk t text root = .ok documents) ↔
      ∀ p, t.Accepts root p → ∃ content, t.get? p = some (.file content) := by
  rw [ofDirectory, exists_mapM_eq_ok_iff]
  constructor
  · intro h p hp
    obtain ⟨d, hd⟩ := h p ((mem_scannedFiles_walk hw).mpr hp)
    exact ⟨d.content, (ofEntry_eq_ok_iff.mp hd).2⟩
  · intro h p hp
    obtain ⟨content, hc⟩ := h p ((mem_scannedFiles_walk hw).mp hp)
    exact ⟨⟨_, content⟩, ofEntry_eq_ok_iff.mpr ⟨rfl, hc⟩⟩

theorem ofDirectory_eq_error_iff {root : Path} : ofDirectory walk t text root = .error fault ↔
    fault = .io ∧ ∃ p, t.Accepts root p ∧ ∀ content, t.get? p ≠ some (.file content) := by
  constructor
  · intro h
    obtain ⟨p, hp, he⟩ := exists_of_mapM_eq_error h
    obtain ⟨hf, hu⟩ := ofEntry_eq_error_iff.mp he
    exact ⟨hf, p, (mem_scannedFiles_walk hw).mp hp, hu⟩
  · rintro ⟨rfl, p, hp, hu⟩
    cases h : ofDirectory walk t text root with
    | error f =>
      obtain ⟨q, -, he⟩ := exists_of_mapM_eq_error h
      rw [(ofEntry_eq_error_iff.mp he).1]
    | ok documents =>
      obtain ⟨content, hc⟩ := (exists_ofDirectory_iff hw text).mp ⟨documents, h⟩ p hp
      exact absurd hc (hu content)

theorem ofDirectory_eq_ok_iff {root : Path} : ofDirectory walk t text root = .ok documents ↔
    ∃ files : List Path, files.Pairwise (· < ·) ∧ (∀ p, p ∈ files ↔ t.Accepts root p) ∧
      List.Forall₂ (fun p d => d.source = Path.joined text (p.drop root.length) ∧
        t.get? p = some (.file d.content)) files documents := by
  have hs : (t.scannedFiles (walk root)).Pairwise (· < ·) :=
    Tree.pairwise_scannedFiles ((hw root).nodup_iff.mpr (t.nodup_visible root))
  rw [ofDirectory, mapM_eq_ok_iff]
  simp only [ofEntry_eq_ok_iff]
  constructor
  · intro h
    exact ⟨_, hs, fun _ => mem_scannedFiles_walk hw, h⟩
  · rintro ⟨files, hf, hm, h⟩
    have he : t.scannedFiles (walk root) = files :=
      hs.eq_of_mem_iff hf fun p => (mem_scannedFiles_walk hw).trans (hm p).symm
    rw [he]
    exact h

theorem ofArgument_of_gives (h : Gives t stdin text documents) :
    ofArgument walk t stdin text = .ok documents := by
  cases h with
  | stdin => rfl
  | directory hn hr hs hm hd =>
    rw [ofArgument_of_directory hn hr]
    exact (ofDirectory_eq_ok_iff hw).mpr ⟨_, hs, hm, hd⟩
  | file hn hr hs hf =>
    rw [ofArgument_of_file hn hr hs]
    exact map_ofEntry_eq_ok_iff.mpr ⟨_, hf, rfl⟩

theorem ofArgument_of_refuses (h : Refuses t text fault) :
    ofArgument walk t stdin text = .error fault := by
  cases h with
  | unsupported hn hr hs => exact ofArgument_of_other hn hr hs
  | directory hn hr hp hu =>
    rw [ofArgument_of_directory hn hr]
    exact (ofDirectory_eq_error_iff hw).mpr ⟨rfl, _, hp, hu⟩
  | file hn hr hs hu =>
    rw [ofArgument_of_file hn hr hs]
    exact map_eq_error_iff.mpr (ofEntry_eq_error_iff.mpr ⟨rfl, hu⟩)

theorem gives_of_ofArgument (h : ofArgument walk t stdin text = .ok documents) :
    Gives t stdin text documents := by
  by_cases hn : text = "-"
  · subst hn
    obtain rfl := Except.ok.inj h
    exact .stdin
  cases hr : t.directory? text with
  | some root =>
    rw [ofArgument_of_directory hn hr] at h
    obtain ⟨files, hs, hm, hd⟩ := (ofDirectory_eq_ok_iff hw).mp h
    exact .directory hn hr hs hm hd
  | none =>
    by_cases hs : IsScannedName (nameAtEnd text)
    · rw [ofArgument_of_file hn hr hs] at h
      obtain ⟨content, hf, rfl⟩ := map_ofEntry_eq_ok_iff.mp h
      exact .file hn hr hs hf
    · rw [ofArgument_of_other hn hr hs] at h
      cases h

theorem refuses_of_ofArgument (h : ofArgument walk t stdin text = .error fault) :
    Refuses t text fault := by
  by_cases hn : text = "-"
  · subst hn
    cases h
  cases hr : t.directory? text with
  | some root =>
    rw [ofArgument_of_directory hn hr] at h
    obtain ⟨rfl, p, hp, hu⟩ := (ofDirectory_eq_error_iff hw).mp h
    exact .directory hn hr hp hu
  | none =>
    by_cases hs : IsScannedName (nameAtEnd text)
    · rw [ofArgument_of_file hn hr hs, map_eq_error_iff] at h
      obtain ⟨rfl, hu⟩ := ofEntry_eq_error_iff.mp h
      exact .file hn hr hs hu
    · rw [ofArgument_of_other hn hr hs] at h
      obtain rfl := Except.error.inj h
      exact .unsupported hn hr hs

theorem ofArgument_eq_error_iff :
    ofArgument walk t stdin text = .error fault ↔ Refuses t text fault :=
  ⟨refuses_of_ofArgument hw, ofArgument_of_refuses hw⟩

theorem exists_ofArgument_iff (stdin : List UInt8) :
    (∃ documents, ofArgument walk t stdin text = .ok documents) ↔ Available t text := by
  constructor
  · rintro ⟨documents, h⟩
    cases gives_of_ofArgument hw h with
    | stdin => exact .stdin
    | directory hn hr hs hm hd =>
      refine .directory hr ((exists_ofDirectory_iff hw text).mp ⟨documents, ?_⟩)
      exact (ofDirectory_eq_ok_iff hw).mpr ⟨_, hs, hm, hd⟩
    | file hn hr hs hf => exact .file hr hs hf
  · intro h
    by_cases hn : text = "-"
    · exact ⟨_, if_pos hn⟩
    cases h with
    | stdin => exact absurd rfl hn
    | directory hr hf =>
      rw [ofArgument_of_directory hn hr]
      exact (exists_ofDirectory_iff hw text).mpr hf
    | file hr hs hf => exact ⟨_, ofArgument_of_gives hw (.file hn hr hs hf)⟩

theorem exists_ofArguments_iff (stdin : List UInt8) {args : List String} :
    (∃ documents, ofArguments walk t stdin args = .ok documents) ↔
      ∀ text ∈ args, Available t text := by
  induction args generalizing stdin with
  | nil => simp [ofArguments]
  | cons text rest ih =>
    rw [List.forall_mem_cons, ← exists_ofArgument_iff hw stdin,
      ← ih (if text = "-" then [] else stdin)]
    simp only [ofArguments_cons_eq_ok_iff]
    constructor
    · rintro ⟨_, first, later, hf, hl, -⟩
      exact ⟨⟨first, hf⟩, later, hl⟩
    · rintro ⟨⟨first, hf⟩, later, hl⟩
      exact ⟨_, first, later, hf, hl, rfl⟩

theorem ofArguments_eq_ok_iff {args : List String} :
    ofArguments walk t stdin args = .ok documents ↔
      ∃ parts : List (List Document), parts.length = args.length ∧ documents = parts.flatten ∧
        ∀ i text part, args[i]? = some text → parts[i]? = some part →
          Gives t (inputAfter stdin (args.take i)) text part := by
  -- The standard input is general, since the arguments after a hyphen find nothing left of it.
  induction args generalizing stdin documents with
  | nil => simp [ofArguments, eq_comm]
  | cons text rest ih =>
    rw [ofArguments_cons_eq_ok_iff]
    constructor
    · rintro ⟨first, later, hf, hl, rfl⟩
      obtain ⟨parts, hlen, rfl, hparts⟩ := ih.mp hl
      refine ⟨first :: parts, by simp [hlen], by simp, ?_⟩
      intro i u part hu hpart
      cases i with
      | zero =>
        obtain rfl := Option.some.inj hu
        obtain rfl := Option.some.inj hpart
        exact gives_of_ofArgument hw hf
      | succ i =>
        rw [List.take_succ_cons, inputAfter_cons]
        exact hparts i u part hu hpart
    · rintro ⟨parts, hlen, rfl, hparts⟩
      cases parts with
      | nil => cases hlen
      | cons first parts =>
        refine ⟨first, parts.flatten, ?_, ?_, by simp⟩
        · exact ofArgument_of_gives hw (hparts 0 text first rfl rfl)
        · refine ih.mpr ⟨parts, Nat.succ.inj hlen, rfl, ?_⟩
          intro i u part hu hpart
          have hg := hparts (i + 1) u part hu hpart
          rw [List.take_succ_cons, inputAfter_cons] at hg
          exact hg

theorem ofArguments_eq_error_iff {args : List String} :
    ofArguments walk t stdin args = .error fault ↔
      ∃ before text after, args = before ++ text :: after ∧ (∀ u ∈ before, Available t u) ∧
        Refuses t text fault := by
  induction args generalizing stdin with
  | nil => simp [ofArguments]
  | cons text rest ih =>
    rw [ofArguments_cons_eq_error_iff, ofArgument_eq_error_iff hw, exists_ofArgument_iff hw stdin, ih]
    constructor
    · rintro (h | ⟨ha, before, u, after, rfl, hb, hu⟩)
      · exact ⟨[], text, rest, rfl, by simp, h⟩
      · exact ⟨text :: before, u, after, rfl, List.forall_mem_cons.mpr ⟨ha, hb⟩, hu⟩
    · rintro ⟨before, u, after, he, hb, hu⟩
      cases before with
      | nil =>
        obtain ⟨rfl, rfl⟩ := List.cons.inj he
        exact .inl hu
      | cons v before =>
        obtain ⟨rfl, rfl⟩ := List.cons.inj he
        obtain ⟨hv, hb⟩ := List.forall_mem_cons.mp hb
        exact .inr ⟨hv, before, u, after, rfl, hb, hu⟩

/-- Walks that come upon the same paths lead to the same documents. -/
theorem ofArguments_eq_of_perm {other : Walk} (ho : ∀ root, (other root).Perm (t.visible root)) :
    ofArguments other t = ofArguments walk t := by
  have hdir : ofDirectory other t = ofDirectory walk t := by
    funext text root
    rw [ofDirectory, ofDirectory, Tree.scannedFiles_perm ((ho root).trans (hw root).symm)]
  have harg : ofArgument other t = ofArgument walk t := by
    funext stdin text
    rw [ofArgument, ofArgument, hdir]
  funext stdin args
  induction args generalizing stdin with
  | nil => rfl
  | cons text rest ih => rw [ofArguments, ofArguments, harg, ih]

omit hw in
theorem Refuses.eq_unsupportedInput_iff (h : Refuses t text fault) :
    fault = .unsupportedInput text ↔
      text ≠ "-" ∧ t.directory? text = none ∧ ¬ IsScannedName (nameAtEnd text) := by
  cases h with
  | unsupported hn hr hs => exact ⟨fun _ => ⟨hn, hr, hs⟩, fun _ => rfl⟩
  | directory hn hr => simp [hr]
  | file hn hr hs => simp [hs]

/-- The documents of a scan are determined by its arguments and the tree. They are those of the
arguments, one argument after the other, and the first argument that cannot be scanned decides the
fault. It makes no difference in which order walks come upon what is below a directory. -/
theorem collected_exactly (stdin : List UInt8) (args : List String) :
    ((∃ documents, ofArguments walk t stdin args = .ok documents) ↔
      ∀ text ∈ args, Available t text) ∧
    (∀ documents, ofArguments walk t stdin args = .ok documents ↔
      ∃ parts : List (List Document), parts.length = args.length ∧ documents = parts.flatten ∧
        ∀ i text part, args[i]? = some text → parts[i]? = some part →
          Gives t (inputAfter stdin (args.take i)) text part) ∧
    (∀ fault, ofArguments walk t stdin args = .error fault ↔
      ∃ before text after, args = before ++ text :: after ∧ (∀ u ∈ before, Available t u) ∧
        Refuses t text fault ∧ (fault = .unsupportedInput text ↔
          text ≠ "-" ∧ t.directory? text = none ∧ ¬ IsScannedName (nameAtEnd text))) ∧
    ∀ other : Walk, (∀ root, (other root).Perm (t.visible root)) →
      ofArguments other t stdin args = ofArguments walk t stdin args := by
  refine ⟨exists_ofArguments_iff hw stdin, fun _ => ofArguments_eq_ok_iff hw, ?_, ?_⟩
  · intro fault
    rw [ofArguments_eq_error_iff hw]
    constructor
    · rintro ⟨before, text, after, he, hb, hr⟩
      exact ⟨before, text, after, he, hb, hr, hr.eq_unsupportedInput_iff⟩
    · rintro ⟨before, text, after, he, hb, hr, -⟩
      exact ⟨before, text, after, he, hb, hr⟩
  · intro other ho
    rw [ofArguments_eq_of_perm hw ho]

end

def assorted : Tree :=
  .ofFiles [(["b.js"], [49]), (["A.TXT"], [50]), (["c.md"], [51]), (["d.js"], [52]),
    ([".gitignore"], Utf8.encode "d.js\n")] ["work"]

theorem collected_from_reversed_walk :
    ofArguments (fun root => (assorted.visible root).reverse) assorted [48] [".", "-", "b.js"] =
      .ok [⟨"./A.TXT", [50]⟩, ⟨"./b.js", [49]⟩, ⟨"<stdin>", [48]⟩, ⟨"b.js", [49]⟩] := by
  have hm : ∀ p, p ∈ [["work", "A.TXT"], ["work", "b.js"]] ↔ assorted.Accepts ["work"] p := by
    have hf : (assorted.visible ["work"]).filter
        (fun p => assorted.isFile p && hasScannedSuffix p.name) =
          [["work", "b.js"], ["work", "A.TXT"]] := by decide +kernel
    intro p
    have hp : p ∈ [["work", "A.TXT"], ["work", "b.js"]] ↔
        p ∈ [["work", "b.js"], ["work", "A.TXT"]] := List.mem_reverse.symm
    rw [hp, ← hf, List.mem_filter, Bool.and_eq_true, hasScannedSuffix_iff]
    rfl
  apply ((collected_exactly (fun root => List.reverse_perm _) _ _).2.1 _).mpr
  refine ⟨[[⟨"./A.TXT", [50]⟩, ⟨"./b.js", [49]⟩], [⟨"<stdin>", [48]⟩], [⟨"b.js", [49]⟩]],
    rfl, rfl, ?_⟩
  intro i text part ht hp
  rcases i with _ | _ | _ | i
  · obtain rfl := Option.some.inj ht
    obtain rfl := Option.some.inj hp
    refine .directory (by decide) (by decide +kernel) (by decide) hm ?_
    exact .cons (by decide +kernel) (.cons (by decide +kernel) .nil)
  · obtain rfl := Option.some.inj ht
    obtain rfl := Option.some.inj hp
    exact .stdin
  · obtain rfl := Option.some.inj ht
    obtain rfl := Option.some.inj hp
    have hn : IsScannedName (nameAtEnd "b.js") := hasScannedSuffix_iff.mp (by decide +kernel)
    exact .file (by decide) (by decide +kernel) hn (by decide +kernel)
  · cases ht

section

variable {p : Path} (hb : t.Bystander p) (content : List UInt8)
include hb

theorem ofDirectory_set (text : String) (root : Path) :
    ofDirectory (t.set p (.file content)).visible (t.set p (.file content)) text root =
      ofDirectory t.visible t text root := by
  rw [ofDirectory, ofDirectory, hb.scannedFiles_set]
  apply mapM_congr
  intro q hq
  rw [t.get?_set_of_ne _ (hb.ne_of_mem_visible (Tree.mem_scannedFiles_iff.mp hq).1)]

theorem ofArguments_set (stdin : List UInt8) (args : List String) :
    ofArguments (t.set p (.file content)).visible (t.set p (.file content)) stdin args =
      ofArguments t.visible t stdin args := by
  have harg : ∀ stdin text,
      ofArgument (t.set p (.file content)).visible (t.set p (.file content)) stdin text =
        ofArgument t.visible t stdin text := by
    intro stdin text
    rw [ofArgument, ofArgument, hb.directory?_set]
    cases hr : t.directory? text with
    | some root => simp only [ofDirectory_set hb]
    | none =>
      cases hs : hasScannedSuffix (nameAtEnd text) with
      | false => rfl
      | true => simp only [hb.find?_set content hr hs]
  induction args generalizing stdin with
  | nil => rfl
  | cons text rest ih => rw [ofArguments, ofArguments, harg, ih]

end

end Linewatch.Document
