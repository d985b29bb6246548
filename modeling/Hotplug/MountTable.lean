import Hotplug.FileTree.Basic
import Hotplug.Text.Blank
import Hotplug.Text.Escape
/-!
# Mount tables

The text of a mount table, one mount a line, as the fields between white space: what is mounted,
where, and the type of the file system. Only mounts of devices below `/dev` are kept. Each line is
read on its own (`parse_append`).
-/

namespace Hotplug

structure Mount where
  device : Path
  point : Path
  fsType : String
deriving DecidableEq, Repr

namespace Mount

def deviceRoot : List Char := ['/', 'd', 'e', 'v', '/']

def ofLine? (line : List Char) : Option Mount :=
  match words line with
  | device :: point :: fsType :: _ =>
    if deviceRoot.isPrefixOf device then
      some ⟨⟨Utf8.encode (Escape.octal device)⟩, ⟨Utf8.encode (Escape.octal point)⟩,
        String.ofList fsType⟩
    else none
  | _ => none

def parse (table : String) : List Mount :=
  (lines table.toList).filterMap ofLine?

/-- The name of the block device: that of the device file, links followed if it exists. -/
def blockName? (m : Mount) (t : FileTree) : Option String :=
  ((t.canonical? m.device).getD m.device).fileName?.bind Utf8.toString?

theorem parse_append (a b : String) : parse (a ++ "\n" ++ b) = parse a ++ parse b := by
  simp [parse, String.toList_append, lines_append]

end Mount

end Hotplug
