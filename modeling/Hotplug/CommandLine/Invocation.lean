import Hotplug.CommandLine.Command
import Hotplug.Path.Basic
/-!
# From arguments to invocations

Arguments are looked at from left to right, and the first one that is wrong or asks for help
decides. Settings may stand before the command and behind it; the ones behind it count more, and
both count more than the environment.

The value of an option before the command that is an argument of its own is looked at when the next
option comes or all arguments behind the command are in order, so a request for help behind the
command is heard first.
-/

namespace Hotplug.CommandLine

inductive Request where
  | makeId (kind : DeviceKind) (uniqueId : String)
  | crack (id : String)
  | classify (id : String)
  | attached (ids : List String)
  | info (path : Path)
  | find (id : String)
  | list
  | watch
deriving DecidableEq, Repr

structure Invocation where
  config : Option Path
  mountsPath : Option Path
  pollInterval : Option Nat
  request : Request
deriving DecidableEq, Repr

inductive Topic where
  | program
  | command (c : Command)
  | help
deriving DecidableEq, Repr

inductive Stop where
  | misuse
  | help (topic : Topic)
  | version
deriving DecidableEq, Repr

inductive Argument where
  /-- Two dashes: no options follow. -/
  | escape
  | long (name : String) (value : Option String)
  | short (letter : Char)
  | word
deriving DecidableEq, Repr

/-- The form of an argument. A dash alone is a word. -/
def Argument.of (s : String) : Argument :=
  match s.toList with
  | ['-', '-'] => .escape
  | '-' :: '-' :: rest =>
    .long (String.ofList (rest.takeWhile (· ≠ '='))) <|
      match rest.dropWhile (· ≠ '=') with
      | [] => none
      | _ :: value => some (String.ofList value)
  | '-' :: letter :: _ => .short letter
  | _ => .word

/-- The arguments before a command, or those behind it. -/
abbrev Level := Option Command

namespace Level

def settings : Level → List Setting
  | none => Setting.shared
  | some c => c.settings

def topic : Level → Topic
  | none => .program
  | some c => .command c

def setting? (l : Level) (name : String) : Option Setting :=
  l.settings.find? (·.name = name)

def stop (l : Level) (name : String) : Stop :=
  if name = "help" then .help l.topic
  else if name = "version" && l.isNone then .version
  else .misuse

def letter (l : Level) : Char → Stop
  | 'h' => l.stop "help"
  | 'V' => l.stop "version"
  | _ => .misuse

end Level

structure Given where
  settings : List (Setting × String) := []
  /-- A setting whose value has not been looked at. -/
  waiting : Option (Setting × String) := none
  operands : List String := []
deriving Repr

namespace Given

/-- A setting, which may be given once. -/
def give (g : Given) (s : Setting) (value : String) : Except Stop Given :=
  if (g.settings.lookup s).isSome || !s.accepts value then .error .misuse
  else .ok { g with settings := (s, value) :: g.settings }

def settle (g : Given) : Except Stop Given :=
  match g.waiting with
  | none => .ok g
  | some (s, value) => { g with waiting := none }.give s value

def operand (c : Command) (g : Given) (v : String) : Except Stop Given :=
  if c.operand?.isNone || (!c.takesMany && g.operands ≠ []) || !c.accepts v then .error .misuse
  else .ok { g with operands := g.operands ++ [v] }

/-- Takes arguments in. Before the command this ends at the first word, which is left. -/
def take (l : Level) (g : Given) : List String → Except Stop (Given × List String)
  | [] => .ok (g, [])
  | a :: rest =>
    match Argument.of a with
    | .word =>
      match l with
      | none => .ok (g, a :: rest)
      | some c => do take l (← (← g.settle).operand c a) rest
    | .escape =>
      match l with
      | none => .error .misuse
      | some c => do return (← rest.foldlM (operand c) (← g.settle), [])
    | .short letter => do
      let _ ← g.settle
      .error (l.letter letter)
    | .long name value => do
      let g ← g.settle
      match l.setting? name, value with
      | none, none => .error (l.stop name)
      | none, some _ => .error .misuse
      | some s, some v =>
        if s.placeholder?.isNone then .error .misuse else take l (← g.give s v) rest
      | some s, none =>
        if s.placeholder?.isNone then take l (← g.give s Setting.switchedOn) rest
        else
          match rest with
          | v :: rest =>
            if Argument.of v = .word then take l { g with waiting := some (s, v) } rest
            else .error .misuse
          | [] => .error .misuse

def finish (l : Level) (env : Environment) (g : Given) : Except Stop Given := do
  let g ← g.settle
  let sound := l.settings.all fun s =>
    (g.settings.lookup s).isSome || (s.fromEnvironment? env).all s.accepts
  if sound then return g else .error .misuse

end Given

def Request.ofOperands? (c : Command) (kind : Option DeviceKind) (operands : List String) :
    Option Request :=
  match c, operands with
  | .makeId, [u] => kind.map (.makeId · u)
  | .crack, [id] => some (.crack id)
  | .classify, [id] => some (.classify id)
  | .attached, id :: ids => some (.attached (id :: ids))
  | .info, [path] => some (.info (.ofString path))
  | .find, [id] => some (.find id)
  | .list, [] => some .list
  | .watch, [] => some .watch
  | _, _ => none

def helpOn : List String → Stop
  | [] => .help .program
  | ["help"] => .help .help
  | [name] => ((Command.ofName? name).map fun c => Stop.help (.command c)).getD .misuse
  | _ => .misuse

def Invocation.read (env : Environment) (args : List String) : Except Stop Invocation := do
  let (outer, rest) ← Given.take none {} args
  match rest with
  | [] => .error .misuse
  | name :: rest =>
    if name = "help" then .error (helpOn rest)
    else
      match Command.ofName? name with
      | none => .error .misuse
      | some c =>
        let (inner, _) ← Given.take (some c) {} rest
        let inner ← inner.finish (some c) env
        let outer ← outer.finish none env
        let value (s : Setting) : Option String :=
          (inner.settings.lookup s).or ((outer.settings.lookup s).or (s.fromEnvironment? env))
        match Request.ofOperands? c ((value .kind).bind Setting.kind?) inner.operands with
        | none => .error .misuse
        | some request =>
          return {
            config := (value .config).map .ofString
            mountsPath := (value .mountsPath).map .ofString
            pollInterval := (value .pollInterval).bind Setting.seconds?
            request }

end Hotplug.CommandLine
