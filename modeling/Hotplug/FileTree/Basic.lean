import Hotplug.Path.Basic
/-!
# File trees

A file tree as one value: directories, files and symbolic links, each found under its place, the
list of names that lead to it from the root. `locate` resolves a path to a place, following links
on the way: a link is read relative to the directory that holds it, `..` is taken after links have
been followed, and at most forty links are followed for one path.

The length of a path is bounded as a whole, except by `canonical?`: it looks up the places on the
way one by one, so each of them has to be short enough, however the path is spelled.
-/

namespace Hotplug

inductive FileError where
  | notFound
  | notADirectory
  | isADirectory
  | nameTooLong
  | tooManyLinks
  /-- The path holds a NUL byte, which no file name can. -/
  | nulInPath
  /-- The contents are not UTF-8 text. -/
  | notText
  /-- A failure reported from outside, known by its text alone. -/
  | other (text : String)
deriving DecidableEq, Repr

abbrev Name := List UInt8

abbrev Place := List Name

inductive Entry where
  | dir
  | file (contents : List UInt8)
  | link (target : Path)
deriving DecidableEq, Repr

/-- The entries below the root, and the directory that relative paths start from. -/
structure FileTree where
  entries : List (Place × Entry)
  workingDir : Place
deriving DecidableEq, Repr, Inhabited

namespace FileTree

def maxLinks : Nat := 40

def maxName : Nat := 255

def maxPath : Nat := 4095

inductive Resolution where
  | follow
  /-- A link at the end of the path is not followed. -/
  | keepLast
  /-- Every entry on the way is looked up by the path of its place, a directory with a slash behind
  it. -/
  | stepwise
deriving DecidableEq, Repr

variable (t : FileTree)

/-- What a place holds. The working directory and those above it, the root among them, are always
there. -/
def entry? (p : Place) : Option Entry :=
  if p.isPrefixOf t.workingDir then some .dir else (t.entries.find? (·.1 = p)).map (·.2)

def pathOf (p : Place) : Path :=
  ⟨Path.slash :: [Path.slash].intercalate p⟩

/-- Passes the segments of a path one by one, starting in the directory at `here`. `follow` says
where a link leads whose directory, target and remaining segments are given. -/
def walkWith (follow : Place → Path → List Name → Except FileError Place) (r : Resolution) :
    Place → List Name → Except FileError Place
  | here, [] => .ok here
  | here, s :: rest =>
    if t.entry? here ≠ some .dir then .error .notADirectory
    else if r = .stepwise ∧ (pathOf here).bytes.length ≥ maxPath then .error .nameTooLong
    else if s = [] ∨ s = Path.dot then walkWith follow r here rest
    else if s = Path.dotDot then walkWith follow r here.dropLast rest
    else if s.length > maxName ∨
        r = .stepwise ∧ (pathOf (here ++ [s])).bytes.length > maxPath then .error .nameTooLong
    else
      match t.entry? (here ++ [s]) with
      | none => .error .notFound
      | some (.link target) =>
        if rest = [] ∧ r = .keepLast then .ok (here ++ [s]) else follow here target rest
      | some _ => walkWith follow r (here ++ [s]) rest

/-- Where the segments lead when at most `budget` links may be followed. -/
def walk (r : Resolution) : Nat → Place → List Name → Except FileError Place
  | 0 => t.walkWith (fun _ _ _ => .error .tooManyLinks) r
  | budget + 1 =>
    t.walkWith
      (fun here target rest =>
        walk r budget (if target.isAbsolute then [] else here) (target.segments ++ rest))
      r

def resolve (r : Resolution) (p : Path) : Except FileError Place :=
  if 0 ∈ p.bytes then .error .nulInPath
  else if p.bytes = [] then .error .notFound
  else if r ≠ .stepwise ∧ p.bytes.length > maxPath then .error .nameTooLong
  else t.walk r maxLinks (if p.isAbsolute then [] else t.workingDir) p.segments

def locate (p : Path) : Except FileError Place :=
  t.resolve .follow p

def entryAt? (p : Path) : Option Entry :=
  (t.locate p).toOption.bind t.entry?

def pathExists (p : Path) : Bool :=
  (t.locate p).toBool

def isDir (p : Path) : Bool :=
  t.entryAt? p == some .dir

def readBytes (p : Path) : Except FileError (List UInt8) :=
  match t.locate p with
  | .error e => .error e
  | .ok place =>
    match t.entry? place with
    | some (.file contents) => .ok contents
    | some .dir => .error .isADirectory
    | _ => .error .notFound

def readText (p : Path) : Except FileError String :=
  match t.readBytes p with
  | .error e => .error e
  | .ok bytes => ((Utf8.toString? bytes).map Except.ok).getD (.error .notText)

/-- The target of the link that a path leads to, itself not followed. -/
def readLink? (p : Path) : Option Path :=
  match (t.resolve .keepLast p).toOption.bind t.entry? with
  | some (.link target) => some target
  | _ => none

def children (p : Place) : List Name :=
  t.entries.filterMap fun e => if e.1.dropLast = p then e.1.getLast? else none

def list (p : Path) : List Name :=
  match t.locate p with
  | .ok place => if t.entry? place = some .dir then t.children place else []
  | .error _ => []

def canonical? (p : Path) : Option Path :=
  (t.resolve .stepwise p).toOption.map pathOf

end FileTree

end Hotplug
