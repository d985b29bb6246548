import Hotplug.FileTree.Basic
import Hotplug.Text.Blank
import Hotplug.Text.Escape
import Hotplug.Text.Number
/-!
# Block devices

What the system says of a block device: the attributes of its disk, and the names of the links that
lead to it. A partition without an attribute of its own has that of the disk it lies in.
-/

namespace Hotplug.BlockDevice

/-- The text of a small file without the white space around it, unless nothing is left. -/
def readTrimmed? (t : FileTree) (p : Path) : Option String :=
  match t.readText p with
  | .error _ => none
  | .ok text =>
    let value := trim text.toList
    if value = [] then none else some (String.ofList value)

def node (sysfs : Path) (block : String) : Path :=
  (sysfs.joinText "class/block").joinText block

/-- An attribute of a block device, or of its disk if the device is a partition without it. -/
def attribute? (t : FileTree) (sysfs : Path) (block key : String) : Option String :=
  let dir := node sysfs block
  match readTrimmed? t (dir.joinText key) with
  | some value => some value
  | none =>
    if t.pathExists (dir.joinText "partition") then
      readTrimmed? t ((dir.joinText "..").joinText key)
    else none

def isRemovable (t : FileTree) (sysfs : Path) (block : String) : Bool :=
  ((attribute? t sysfs block "removable").bind fun v => unsigned? v.toList) == some 1

def model? (t : FileTree) (sysfs : Path) (block : String) : Option String :=
  attribute? t sysfs block "device/model"

/-- The block device that a link in a directory leads to, by the last name of its target, and the
name of the link with its escapes undone. -/
def link? (t : FileTree) (dir : Path) (name : Name) : Option (String × String) := do
  let target ← t.readLink? (dir.join ⟨name⟩)
  let block ← target.fileName?.bind Utf8.toString?
  some (block, String.ofList (Escape.hex (Utf8.decodeLossy name)))

def links (t : FileTree) (dir : Path) : List (String × String) :=
  (t.list dir).filterMap (link? t dir)

/-- The name of the last link in a directory that leads to the block device. -/
def linkName? (t : FileTree) (dir : Path) (block : String) : Option String :=
  (links t dir).reverse.lookup block

def dcimPaths (point : Path) : List Path :=
  [point.joinText "DCIM", point.joinText "dcim"]

def hasDcim (t : FileTree) (point : Path) : Bool :=
  (dcimPaths point).any t.isDir

end Hotplug.BlockDevice
