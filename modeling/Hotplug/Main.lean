import Hotplug.CommandLine.Outcome
import Hotplug.FileTree.Edit
import Hotplug.Registry.Survey
import Std.Time.DateTime.Timestamp
/-!
# The program

Reads the parts of the file system that an invocation depends on into a tree, and prints what the
invocation comes to. A watching program does so again at every interval.
-/

namespace Hotplug.Main

open CommandLine

def namesOf (path : String) : Place :=
  (Path.ofString path).segments.filter (· ≠ [])

def realPath? (p : Path) : IO (Option String) := do
  try
    return some (← IO.FS.realPath p.toStringLossy).toString
  catch _ => return none

/-- What the real file system holds at a place. Contents are read only where they are wanted, and
only from regular files. -/
def entryOf (contents : Bool) (path : String) : IO Entry := do
  let path ← IO.FS.realPath path
  if ← path.isDir then return .dir
  else if contents && (← path.metadata).type == .file then
    try
      return .file (← IO.FS.readBinFile path).toList
    catch _ => return .file []
  else return .file []

def putParents (t : FileTree) (place : Place) : FileTree :=
  ((List.range place.length).map place.take).foldl
    (fun t p => if (t.entry? p).isSome then t else t.put p .dir) t

/-- The tree with all that lies on the way from a directory along the segments of a path, and the
place they lead to. -/
def follow (contents : Bool) (t : FileTree) (here : Place) :
    List Name → IO (FileTree × Option Place)
  | [] => return (t, some here)
  | s :: rest => do
    if s = [] ∨ s = Path.dot then follow contents t here rest
    else if s = Path.dotDot then follow contents t here.dropLast rest
    else
      let place := here ++ [s]
      match ← realPath? (FileTree.pathOf place) with
      | none => return (t, none)
      | some path =>
        let real := namesOf path
        let t := if real = place then t else t.put place (.link (.ofString path))
        let t := putParents t real
        let wanted := contents && rest.isEmpty
        let t ← if wanted || (t.entry? real).isNone then
            pure (t.put real (← entryOf wanted path))
          else pure t
        follow contents t real rest

def add (contents : Bool) (t : FileTree) (p : Path) : IO (FileTree × Option Place) :=
  follow contents t (if p.isAbsolute then [] else t.workingDir) p.segments

def satisfy (t : FileTree) : Demand → IO FileTree
  | .entry p => return (← add false t p).1
  | .contents p => return (← add true t p).1
  | .entries p => do
    let (t, place?) ← add false t p
    match place? with
    | none => return t
    | some place =>
      try
        let dir ← IO.FS.realPath (FileTree.pathOf place).toStringLossy
        (← dir.readDir).foldlM
          (fun t e => return (← follow false t place [Utf8.ofString e.fileName]).1) t
      catch _ => return t

def survey (c : Config) (t : FileTree) : IO FileTree :=
  (Demand.stages c).foldlM (fun t stage => (stage t).foldlM satisfy t) t

def now : IO Instant := do
  let t ← Std.Time.Timestamp.now
  return ⟨t.toSecondsSinceUnixEpoch.val, (t.toNanosecondsSinceUnixEpoch.val % 1000000000).toNat⟩

def environment : IO Environment :=
  Setting.shared.foldlM (fun env s => do
    match s.envName? with
    | none => return env
    | some name =>
      match ← IO.getEnv name with
      | none => return env
      | some value => return (name, value) :: env) []

/-- The tree of an invocation, as far as it can be known. -/
def gather (i : Invocation) (start : FileTree) : IO FileTree := do
  let t ← match i.config with
    | none => pure start
    | some p => satisfy start (.contents p)
  match i.configuration t with
  | .error _ => return t
  | .ok c => i.probes.foldlM (fun t p => satisfy t (.entry p)) (← survey c t)

def fail (e : Error) : IO UInt32 := do
  IO.eprintln ("Error: " ++ e.debug)
  return (Outcome.failed e).code.toUInt32

/-- Takes a turn at every interval and prints a line for each event. -/
partial def watch (start : FileTree) (s : Watcher.Watch) (reader : Cursor) : IO UInt32 := do
  let s := s.take (.due (← survey s.watcher.registry.config start) (← now))
  match s.ended with
  | some (.error e) => fail e
  | some (.ok ()) => return 0
  | none =>
    let (lines, reader) := eventLines s.watcher reader
    match lines with
    | .error e => fail e
    | .ok lines =>
      lines.forM IO.println
      (← IO.getStdout).flush
      IO.sleep (min s.watcher.interval (2 ^ 32 - 1)).toUInt32
      watch start s.forget reader

def run (args : List String) : IO UInt32 := do
  let env ← environment
  let start : FileTree := ⟨[], namesOf (← IO.currentDir).toString⟩
  let t ← match Invocation.read env args with
    | .ok i => gather i start
    | .error _ => pure start
  let outcome := outcome env args t (← now)
  match outcome with
  | .printed text =>
    IO.print text
    return outcome.code.toUInt32
  | .failed e => fail e
  | .misused =>
    IO.eprint (helpText env .program)
    return outcome.code.toUInt32
  | .watching w reader => watch start w.start reader

end Hotplug.Main

def main (args : List String) : IO UInt32 :=
  Hotplug.Main.run args
