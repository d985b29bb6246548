import Hotplug.Yaml.Token
/-!
# Documents of YAML

The tree of nodes that the tokens of a stream spell. A stream holds one document at most.

An alias stands for the number that its name had when the alias was met. The number of an anchor is
the count of names known before it, so a name that is given again can share its number with a later
one; the latest anchor with a number is the one that counts.
-/

namespace Hotplug.Yaml

structure Scalar where
  text : List Char
  style : Style
  tag : Option (List Char)
deriving DecidableEq, Repr

inductive Node where
  | scalar (s : Scalar)
  | sequence (items : List Node)
  | mapping (pairs : List (Node × Node))
  | alias (number : Nat)
deriving Repr

structure Document where
  root : Node
  /-- What the anchors stand for, the latest first: a scalar, or a collection that is not kept. -/
  anchored : List (Nat × Option Scalar)
deriving Repr

namespace Document

def scalar? (d : Document) : Node → Option Scalar
  | .scalar s => some s
  | .alias n => (d.anchored.lookup n).join
  | _ => none

end Document

structure Stream where
  tokens : List Token
  handles : List (List Char × List Char)
  /-- The numbers of the names given so far. -/
  names : List (List Char × Nat)
  anchored : List (Nat × Option Scalar)

abbrev Parse := StateT Stream Option

namespace Parse

def standardHandles : List (List Char × List Char) :=
  [("!".toList, "!".toList), ("!!".toList, "tag:yaml.org,2002:".toList)]

def peek : Parse (Option Token) := do
  return (← get).tokens.head?

def advance : Parse Unit :=
  modify fun s => { s with tokens := s.tokens.tail }

def onAny (ts : List Token) : Parse Bool := do
  return (← peek).any ts.contains

def accept (t : Token) : Parse Bool := do
  if (← peek) = some t then
    advance
    return true
  else return false

def expect (t : Token) : Parse Unit := do
  if !(← accept t) then failure

def register (name : Option (List Char)) (node : Option Scalar) : Parse Unit :=
  modify fun s =>
    match name with
    | none => s
    | some a =>
      let n := s.names.length
      { s with
        names := (a, n) :: s.names.filter (·.1 ≠ a)
        anchored := (n, node) :: s.anchored }

def resolve (handle suffix : List Char) : Parse (List Char) := do
  if handle = [] then return suffix
  else
    match (← get).handles.lookup handle with
    | some lead => return lead ++ suffix
    | none => failure

def anchor? : Parse (Option (List Char)) := do
  match (← peek) with
  | some (.anchor name) =>
    advance
    return some name
  | _ => return none

def tag? : Parse (Option (List Char)) := do
  match (← peek) with
  | some (.tag handle suffix) =>
    advance
    return some (← resolve handle suffix)
  | _ => return none

def properties : Parse (Option (List Char) × Option (List Char)) := do
  match (← anchor?) with
  | some name => return (some name, ← tag?)
  | none =>
    let tag ← tag?
    return (← if tag.isSome then anchor? else pure none, tag)

def blank (tag : Option (List Char)) : Scalar := ⟨[], .plain, tag⟩

def orBlank (ts : List Token) (p : Parse Node) : Parse Node := do
  if (← onAny ts) then return .scalar (blank none) else p

mutual

/-- A node. Collections in block style are read if `block` holds; an entry starts a sequence of its
own, without a mark, if `entries` holds. -/
def node (block entries : Bool) : Nat → Parse Node
  | 0 => failure
  | fuel + 1 => do
    match (← peek) with
    | some (.alias name) =>
      advance
      match (← get).names.lookup name with
      | some n => return .alias n
      | none => failure
    | _ =>
      let (name, tag) ← properties
      match (← peek) with
      | some (.scalar text style) =>
        advance
        register name (some ⟨text, style, tag⟩)
        return .scalar ⟨text, style, tag⟩
      | some .flowSequenceStart =>
        advance
        register name none
        return .sequence (← flowSequence true fuel)
      | some .flowMappingStart =>
        advance
        register name none
        return .mapping (← flowMapping true fuel)
      | t =>
        if entries && t = some .blockEntry then
          register name none
          return .sequence (← entriesHere fuel)
        else if block && t = some .blockSequenceStart then
          advance
          register name none
          return .sequence (← blockSequence fuel)
        else if block && t = some .blockMappingStart then
          advance
          register name none
          return .mapping (← blockMapping fuel)
        else if name.isSome || tag.isSome then
          register name (some (blank tag))
          return .scalar (blank tag)
        else failure

def blockSequence : Nat → Parse (List Node)
  | 0 => failure
  | fuel + 1 => do
    if (← accept .blockEntry) then
      let item ← orBlank [.blockEntry, .blockEnd] (node true false fuel)
      return item :: (← blockSequence fuel)
    else
      expect .blockEnd
      return []

/-- The items of a sequence in the block of the mapping around it. -/
def entriesHere : Nat → Parse (List Node)
  | 0 => failure
  | fuel + 1 => do
    if (← accept .blockEntry) then
      let item ← orBlank [.blockEntry, .key, .value, .blockEnd] (node true false fuel)
      return item :: (← entriesHere fuel)
    else return []

def blockMapping : Nat → Parse (List (Node × Node))
  | 0 => failure
  | fuel + 1 => do
    if (← accept .key) then
      let marks := [.key, .value, .blockEnd]
      let key ← orBlank marks (node true true fuel)
      let value ←
        if (← accept .value) then orBlank marks (node true true fuel)
        else pure (.scalar (blank none))
      return (key, value) :: (← blockMapping fuel)
    else
      expect .blockEnd
      return []

/-- The items of a sequence between brackets; an item with a key is a mapping of one pair. A mark
that stands where the key of such an item should be is passed over. -/
def flowSequence (first : Bool) : Nat → Parse (List Node)
  | 0 => failure
  | fuel + 1 => do
    if (← accept .flowSequenceEnd) then return []
    else
      if !first then expect .flowEntry
      if (← accept .flowSequenceEnd) then return []
      else if (← accept .key) then
        let key ←
          if (← onAny [.value, .flowEntry, .flowSequenceEnd]) then
            advance
            pure (.scalar (blank none))
          else node false false fuel
        let value ←
          if (← accept .value) then
            orBlank [.flowEntry, .flowSequenceEnd] (node false false fuel)
          else pure (.scalar (blank none))
        return .mapping [(key, value)] :: (← flowSequence false fuel)
      else
        let item ← node false false fuel
        return item :: (← flowSequence false fuel)

def flowMapping (first : Bool) : Nat → Parse (List (Node × Node))
  | 0 => failure
  | fuel + 1 => do
    if (← accept .flowMappingEnd) then return []
    else
      if !first then expect .flowEntry
      if (← accept .flowMappingEnd) then return []
      else if (← accept .key) then
        let key ← orBlank [.value, .flowEntry, .flowMappingEnd] (node false false fuel)
        let value ←
          if (← accept .value) then
            orBlank [.flowEntry, .flowMappingEnd] (node false false fuel)
          else pure (.scalar (blank none))
        return (key, value) :: (← flowMapping false fuel)
      else
        let key ← node false false fuel
        return (key, .scalar (blank none)) :: (← flowMapping false fuel)

end

def directives (versionSeen : Bool) (given : List (List Char × List Char)) : Nat → Parse Unit
  | 0 => failure
  | fuel + 1 => do
    match (← peek) with
    | some (.version major minor) =>
      if versionSeen || major ≠ 1 || (minor ≠ 1 && minor ≠ 2) then failure
      advance
      directives true given fuel
    | some (.tagHandle handle lead) =>
      if (given.lookup handle).isSome then failure
      advance
      directives versionSeen ((handle, lead) :: given) fuel
    | _ => modify fun s => { s with handles := given ++ standardHandles }

def passEnds : Nat → Parse Unit
  | 0 => failure
  | fuel + 1 => do
    if (← accept .documentEnd) then passEnds fuel

def opensDocument : Token → Bool
  | .version .. | .tagHandle .. | .documentStart => true
  | _ => false

def root (fuel : Nat) : Parse Node := do
  if (← peek).any opensDocument then
    directives false [] fuel
    expect .documentStart
    match (← peek) with
    | some t =>
      if opensDocument t || t = .documentEnd || t = .streamEnd then return .scalar (blank none)
      else node true false fuel
    | none => failure
  else node true false fuel

def stream (fuel : Nat) : Parse (Option Document) := do
  if (← accept .streamEnd) then return none
  else
    let root ← root fuel
    passEnds fuel
    expect .streamEnd
    return some ⟨root, (← get).anchored⟩

end Parse

/-- The document that tokens spell; the outer failure is that of the grammar. -/
def Document.ofTokens? (ts : List Token) : Option (Option Document) :=
  ((Parse.stream (2 * ts.length + 2)).run ⟨ts, Parse.standardHandles, [], []⟩).map (·.1)

end Hotplug.Yaml
