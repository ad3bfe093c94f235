import Linewatch.Files.Walk
import Linewatch.Proofs.Files.Path
import Linewatch.Proofs.Files.Tree

namespace Linewatch.Tree

variable {t : Tree} {root p : Path} {l m : List Path}

def Accepts (t : Tree) (root p : Path) : Prop :=
  p ∈ t.visible root ∧ t.isFile p = true ∧ IsScannedName p.name

theorem nodup_visible (t : Tree) (root : Path) : (t.visible root).Nodup :=
  t.nodup.sublist (List.filter_sublist.map Prod.fst)

theorem mem_scannedFiles_iff :
    p ∈ t.scannedFiles l ↔ p ∈ l ∧ t.isFile p = true ∧ IsScannedName p.name := by
  rw [scannedFiles, List.mem_mergeSort, List.mem_filter, Bool.and_eq_true, hasScannedSuffix_iff]

theorem pairwise_scannedFiles (h : l.Nodup) : (t.scannedFiles l).Pairwise (· < ·) := by
  have hsorted := List.pairwise_mergeSort Path.mayPrecede_trans Path.mayPrecede_total
    (l.filter fun p => t.isFile p && hasScannedSuffix p.name)
  have hnodup : (t.scannedFiles l).Nodup := (List.mergeSort_perm _ _).nodup_iff.mpr (h.filter _)
  exact hsorted.imp₂ (fun _ _ => Path.lt_of_mayPrecede) hnodup

/-- It does not matter in which order a walk comes upon files. -/
theorem scannedFiles_perm (h : l.Perm m) : t.scannedFiles l = t.scannedFiles m := by
  have hsorted := fun l : List Path => List.pairwise_mergeSort Path.mayPrecede_trans
    Path.mayPrecede_total (l.filter fun p => t.isFile p && hasScannedSuffix p.name)
  have hperm : (t.scannedFiles l).Perm (t.scannedFiles m) :=
    ((List.mergeSort_perm _ _).trans (h.filter _)).trans (List.mergeSort_perm _ _).symm
  exact hperm.eq_of_pairwise (fun _ _ _ _ => Path.eq_of_mayPrecede) (hsorted l) (hsorted m)

/-- A place for a file that has no part in scans: nothing is there, and what would be there has the
name neither of a file to be scanned nor of an ignore file. -/
structure Bystander (t : Tree) (p : Path) : Prop where
  free : t.get? p = none
  notScanned : hasScannedSuffix p.name = false
  noIgnoreFile : ∀ source : IgnoreSource, p.getLast? ≠ source.path.getLast?

namespace Bystander

variable (hb : t.Bystander p)
include hb

theorem ne_nil : p ≠ [] := by
  rintro rfl
  cases hb.free

theorem not_isDirectory : t.isDirectory p = false := by
  rw [isDirectory, hb.free]
  rfl

theorem ne_of_mem_visible {q : Path} (hq : q ∈ t.visible root) : q ≠ p := by
  have hfree := hb.free
  rw [get?_of_ne_nil hb.ne_nil, List.lookup_eq_none_iff] at hfree
  obtain ⟨x, hx, rfl⟩ := List.mem_map.mp hq
  have hne := hfree x (List.mem_filter.mp hx).1
  exact fun he => bne_iff_ne.mp hne he.symm

variable (content : List UInt8)

theorem resolve?_set : (t.set p (.file content)).resolve? = t.resolve? :=
  Tree.resolve?_set hb.not_isDirectory (by simp)

theorem directory?_set : (t.set p (.file content)).directory? = t.directory? := by
  funext text
  rw [directory?, directory?, hb.resolve?_set, isDirectory_set hb.not_isDirectory (by simp)]

/-- A written path to a file to be scanned does not lead there. -/
theorem find?_set {text : String} (hd : t.directory? text = none)
    (hs : hasScannedSuffix (nameAtEnd text) = true) :
    (t.set p (.file content)).find? text = t.find? text := by
  rw [find?, find?, hb.resolve?_set]
  cases hq : t.resolve? text with
  | none => rfl
  | some q =>
    have hn : t.isDirectory q = false := by simpa [directory?, hq] using hd
    have hne : q ≠ p := by
      rintro rfl
      have hnot := hb.notScanned
      rw [Path.name, getLast?_of_resolve? hq hn, Option.getD_some, hs] at hnot
      cases hnot
    exact t.get?_set_of_ne _ hne

theorem read?_eq_none (source : IgnoreSource) : IgnoreFile.read? p content source = none := by
  rw [IgnoreFile.read?]
  apply if_neg
  intro hp
  have hne : source.path ≠ [] := by
    cases source <;> simp [IgnoreSource.path]
  apply hb.noIgnoreFile source
  rw [← hp, List.getLast?_append_of_ne_nil _ hne]

theorem ignoreFiles_set :
    IgnoreFiles.ofTree (t.set p (.file content)) = IgnoreFiles.ofTree t := by
  have hnew : IgnoreSource.all.filterMap (IgnoreFile.read? p content) = [] :=
    List.filterMap_eq_nil_iff.mpr fun source _ => hb.read?_eq_none content source
  rw [IgnoreFiles.ofTree, IgnoreFiles.ofTree, files, files, entries_set_of_new hb.ne_nil hb.free,
    List.filterMap_append, List.flatMap_append]
  simp [hnew]

theorem visible_set (root : Path) : (t.set p (.file content)).visible root = t.visible root ∨
    (t.set p (.file content)).visible root = t.visible root ++ [p] := by
  rw [visible, visible, hb.ignoreFiles_set, entries_set_of_new hb.ne_nil hb.free,
    List.filter_append, List.map_append, List.filter_singleton]
  dsimp only
  cases root.isPrefixOf p &&
    !(IgnoreFiles.ofTree t).hides root (Entry.file content == .directory) p with
  | false => exact .inl (List.append_nil _)
  | true => exact .inr rfl

theorem scannedFiles_set (root : Path) :
    (t.set p (.file content)).scannedFiles ((t.set p (.file content)).visible root) =
      t.scannedFiles (t.visible root) := by
  have hold : (t.visible root).filter (fun q =>
      (t.set p (.file content)).isFile q && hasScannedSuffix q.name) =
      (t.visible root).filter fun q => t.isFile q && hasScannedSuffix q.name := by
    apply List.filter_congr
    intro q hq
    rw [isFile, isFile, t.get?_set_of_ne _ (hb.ne_of_mem_visible hq)]
  have hnew : [p].filter (fun q =>
      (t.set p (.file content)).isFile q && hasScannedSuffix q.name) = [] := by
    simp [hb.notScanned]
  rw [scannedFiles, scannedFiles]
  obtain hv | hv := hb.visible_set content root
  · rw [hv, hold]
  · rw [hv, List.filter_append, hold, hnew, List.append_nil]

end Bystander

end Linewatch.Tree
