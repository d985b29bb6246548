import Hotplug.Text.Utf8
/-!
# Paths

A path is the string of bytes it is spelled with. What it means is the list of its components:
repeated and trailing slashes vanish, and so does every `.` but a leading one, while `..` stays.
Containment, order and equality of places are those of the components; the spelling is what is
printed.
-/

namespace Hotplug

structure Path where
  bytes : List UInt8
deriving DecidableEq, Repr, Inhabited

/-- One step of a path. The order of the constructors is the order of components. -/
inductive Component where
  | root
  | here
  | up
  | name (bytes : List UInt8)
deriving DecidableEq, Repr

namespace Component

def rank : Component → Nat
  | .root => 0
  | .here => 1
  | .up => 2
  | .name _ => 3

def compare : Component → Component → Ordering
  | .name a, .name b => Ord.compare a b
  | a, b => Ord.compare a.rank b.rank

instance : Ord Component := ⟨compare⟩

end Component

namespace Path

def slash : UInt8 := 0x2F

def dot : List UInt8 := [0x2E]

def dotDot : List UInt8 := [0x2E, 0x2E]

def ofString (s : String) : Path :=
  ⟨Utf8.ofString s⟩

def empty : Path := ⟨[]⟩

def toStringLossy (p : Path) : String :=
  Utf8.toStringLossy p.bytes

def toString? (p : Path) : Option String :=
  Utf8.toString? p.bytes

/-- The pieces between slashes, empty ones included. -/
def segments (p : Path) : List (List UInt8) :=
  p.bytes.splitOn slash

def isAbsolute (p : Path) : Bool :=
  p.bytes.head? == some slash

/-- The component a segment stands for when something stands before it. -/
def component? (segment : List UInt8) : Option Component :=
  if segment = [] ∨ segment = dot then none
  else if segment = dotDot then some .up
  else some (.name segment)

/-- The first component, where it is not an ordinary one: the root, or a leading `.`. -/
def anchor (p : Path) : List Component :=
  if p.isAbsolute then [.root]
  else if p.segments.head? = some dot then [.here]
  else []

/-- What the path means. -/
def components (p : Path) : List Component :=
  p.anchor ++ p.segments.filterMap component?

def depth (p : Path) : Nat :=
  p.components.length

/-- Both spell the same place. -/
def Same (p q : Path) : Prop :=
  p.components = q.components

instance (p q : Path) : Decidable (Same p q) :=
  inferInstanceAs (Decidable (_ = _))

def compare (p q : Path) : Ordering :=
  Ord.compare p.components q.components

def startsWith (p base : Path) : Bool :=
  base.components.isPrefixOf p.components

def fileName? (p : Path) : Option (List UInt8) :=
  match p.components.getLast? with
  | some (.name n) => some n
  | _ => none

/-- The path `rest` seen from `p`: an absolute `rest` stands alone. -/
def join (p rest : Path) : Path :=
  if rest.isAbsolute then rest
  else if p.bytes = [] ∨ p.bytes.getLast? = some slash then ⟨p.bytes ++ rest.bytes⟩
  else ⟨p.bytes ++ slash :: rest.bytes⟩

def joinText (p : Path) (s : String) : Path :=
  p.join (ofString s)

/-- The segments left when the first `n` that stand for components have been passed. -/
def dropComponents : Nat → List (List UInt8) → List (List UInt8)
  | 0, ss => ss
  | _ + 1, [] => []
  | n + 1, s :: ss =>
    if (component? s).isSome then dropComponents n ss else dropComponents (n + 1) ss

def trimEnd (ss : List (List UInt8)) : List (List UInt8) :=
  (ss.reverse.dropWhile fun s => (component? s).isNone).reverse

def trimSegments (ss : List (List UInt8)) : List (List UInt8) :=
  trimEnd (ss.dropWhile fun s => (component? s).isNone)

def tidy (p : Path) : Path :=
  let rest := trimEnd p.segments.tail
  if p.isAbsolute then ⟨slash :: [slash].intercalate rest⟩
  else ⟨[slash].intercalate (p.segments.take 1 ++ rest)⟩

/-- What remains of `p` below `base`, in the spelling of `p`. Below an empty base that is all of
`p`, with its anchor. -/
def relativeTo? (p base : Path) : Option Path :=
  if base.bytes = [] then some p.tidy
  else if p.startsWith base then
    let passed := base.depth - base.anchor.length
    some ⟨[slash].intercalate (trimSegments (dropComponents passed p.segments))⟩
  else none

end Path

end Hotplug
