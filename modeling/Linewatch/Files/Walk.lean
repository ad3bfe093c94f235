import Linewatch.Files.Ignore

namespace Linewatch.Tree

/-- All that a walk of a directory may come upon: what lies below and is not passed over, and the
directory itself, which never is. There are no links in a tree, and ignore files outside of it, such
as those of the user or of directories above its root, are not known to it. -/
def visible (t : Tree) (root : Path) : List Path :=
  let ignoreFiles := IgnoreFiles.ofTree t
  let found := t.entries.filter fun (p, e) =>
    root.isPrefixOf p && !ignoreFiles.hides root (e == .directory) p
  found.map Prod.fst

def scannedFiles (t : Tree) (walked : List Path) : List Path :=
  (walked.filter fun p => t.isFile p && hasScannedSuffix p.name).mergeSort Path.mayPrecede

end Linewatch.Tree
