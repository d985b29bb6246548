import Hotplug.Config.Json
import Hotplug.Error
import Hotplug.Yaml.Lexer
import Hotplug.Yaml.Natural
/-!
# Configurations in YAML

A configuration file is a mapping from the names of fields to scalars. What it leaves out is that of
the default configuration, and an empty file leaves out everything.
-/

namespace Hotplug.Config

open Yaml (Document Node Scalar)

private def once? {α : Type} (old new : Option α) : Option (Option α) :=
  match old, new with
  | none, some a => some (some a)
  | _, _ => none

private def path? (d : Document) (n : Node) : Option Path :=
  (d.scalar? n).map fun s => .ofString (String.ofList s.text)

private def number? (d : Document) (n : Node) : Option Nat :=
  (d.scalar? n).bind (·.natural?)

private def pair? (d : Document) (g : Given) (p : Node × Node) : Option Given := do
  let key ← d.scalar? p.1
  match String.ofList key.text with
  | "mountsPath" => return { g with mountsPath := ← once? g.mountsPath (path? d p.2) }
  | "sysfsPath" => return { g with sysfsPath := ← once? g.sysfsPath (path? d p.2) }
  | "diskByUuidPath" => return { g with diskByUuidPath := ← once? g.diskByUuidPath (path? d p.2) }
  | "diskByLabelPath" =>
    return { g with diskByLabelPath := ← once? g.diskByLabelPath (path? d p.2) }
  | "pollIntervalSecs" =>
    return { g with pollIntervalSecs := ← once? g.pollIntervalSecs (number? d p.2) }
  | "eventChannelCapacity" =>
    return { g with eventChannelCapacity := ← once? g.eventChannelCapacity (number? d p.2) }
  | _ => return g

def given? (d : Document) : Option Given :=
  match d.root with
  | .mapping pairs => pairs.foldlM (pair? d) {}
  | .scalar s => if s.text = [] ∧ s.style = .plain then some {} else none
  | _ => none

/-- The configuration that a text spells, sound or not. -/
def parse? (text : String) : Option Config := do
  match (← Document.ofTokens? (← Yaml.tokens? text.toList)) with
  | none => return default
  | some d => return ofGiven (← given? d)

def ofYaml (text : String) : Except Error Config :=
  match parse? text with
  | none => .error .configText
  | some c => do
    c.validate
    return c

def load (t : FileTree) (path : Path) : Except Error Config :=
  match t.readText path with
  | .error cause => .error (.configuration (.unreadable path cause))
  | .ok text => ofYaml text

end Hotplug.Config
