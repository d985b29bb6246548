import Hotplug.FileTree.Basic
/-!
# Changing a file tree

Writing files, links and directories, and removing them. A path of an edit is relative to a
directory and is followed through the links among its parents; parents that are missing are made.
-/

namespace Hotplug.FileTree

def empty : FileTree := ⟨[], []⟩

def put (t : FileTree) (p : Place) (e : Entry) : FileTree :=
  { t with entries := t.entries.filter (·.1 ≠ p) ++ [(p, e)] }

def prune (t : FileTree) (p : Place) : FileTree :=
  { t with entries := t.entries.filter (!p.isPrefixOf ·.1) }

def makeDirs (t : FileTree) : Place → List Name → Except FileError (FileTree × Place)
  | here, [] => .ok (t, here)
  | here, s :: rest =>
    if s = [] ∨ s = Path.dot then makeDirs t here rest
    else
      match t.walk .follow maxLinks here [s] with
      | .ok next =>
        if t.entry? next = some .dir then makeDirs t next rest else .error .notADirectory
      | .error .notFound => makeDirs (t.put (here ++ [s]) .dir) (here ++ [s]) rest
      | .error e => .error e

inductive Edit where
  | dir
  | file (contents : List UInt8)
  | link (target : Path)
  | remove
deriving Repr

/-- The tree after an edit at `p`, taken from the directory at `base`. An edit that cannot be made
changes nothing. -/
def edit (t : FileTree) (base : Place) (p : Path) (e : Edit) : FileTree :=
  let names := p.segments.filter fun s => s ≠ [] ∧ s ≠ Path.dot
  match e with
  | .dir => ((t.makeDirs base names).toOption.map (·.1)).getD t
  | .remove =>
    match names.getLast?, t.walk .follow maxLinks base names.dropLast with
    | some n, .ok parent => t.prune (parent ++ [n])
    | _, _ => t
  | .file contents => place names (.file contents)
  | .link target => place names (.link target)
where
  place (names : List Name) (e : Entry) : FileTree :=
    match names.getLast?, t.makeDirs base names.dropLast with
    | some n, .ok (t', parent) => (t'.prune (parent ++ [n])).put (parent ++ [n]) e
    | _, _ => t

end Hotplug.FileTree
