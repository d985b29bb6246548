import Hotplug.CommandLine.Invocation
import Hotplug.Text.ControlSequence
/-!
# Help

The texts about the program and its commands. Names and headings are in bold, but what is printed is
plain: the control sequences are taken out again, and with them those in the values of variables. A
sequence that a value leaves open reaches to the next name.
-/

namespace Hotplug.CommandLine

open ControlSequence (bold)

def packageName : String := "media-storage-util"

def packageVersion : String := "0.1.0"

def programName : String := "media-storage"

def versionText : String :=
  packageName ++ " " ++ packageVersion ++ "\n"

namespace Help

def summary : String :=
  "Removable media device identifiers, attachment checks and mount-table device registry"

def helpSummary : String :=
  "Print this message or the help of the given subcommand(s)"

def settingSummary : Setting → String
  | .config => "YAML configuration file"
  | .mountsPath => "Mount table to read (overrides config)"
  | .pollInterval => "Mount table refresh interval in seconds (overrides config)"
  | .logLevel => "Log level (trace, debug, info, warn, error)"
  | .logJson => "Output logs as JSON"
  | .kind => ""

def settingNotes (env : Environment) (s : Setting) : List String :=
  let origin := s.envName?.toList.map fun v =>
    "[env: " ++ v ++ "=" ++ (env.lookup v).getD "" ++ "]"
  origin ++
    match s with
    | .logLevel => ["[default: warn]"]
    | .kind => ["[possible values: " ++ ", ".intercalate (DeviceKind.all.map (·.tag)) ++ "]"]
    | _ => []

def indented (text : String) : String :=
  let lineStart := '\n' :: List.replicate 10 ' '
  String.ofList (lineStart ++ text.toList.flatMap fun c => if c = '\n' then lineStart else [c])

def entry (option text : String) : String :=
  "  " ++ option ++ indented text ++ "\n"

def spelling (s : Setting) : String :=
  bold ("--" ++ s.name) ++ ((s.placeholder?.map fun p => " <" ++ p ++ ">").getD "")

def settingEntry (env : Environment) (s : Setting) : String :=
  entry ("    " ++ spelling s)
    (" ".intercalate (([settingSummary s].filter (· ≠ "")) ++ settingNotes env s))

def helpEntry : String := entry (bold "-h" ++ ", " ++ bold "--help") "Print help"

def versionEntry : String := entry (bold "-V" ++ ", " ++ bold "--version") "Print version"

def row (width : Nat) (name text : String) : String :=
  "  " ++ bold name ++ String.ofList (List.replicate (width - name.length) ' ') ++ "  " ++ text ++
    "\n"

def usage (words : List String) : String :=
  bold "Usage:" ++ " " ++ " ".intercalate (bold programName :: words) ++ "\n"

def heading (text : String) : String :=
  "\n" ++ bold text ++ "\n"

def operandText (c : Command) : Option String :=
  c.operand?.map fun o => "<" ++ o ++ ">" ++ if c.takesMany then "..." else ""

def program (env : Environment) : String :=
  let names := Command.all.map fun c => (c.name, c.summary)
  let width := (names.map (·.1.length)).foldl max 0
  summary ++ "\n\n" ++ usage ["[OPTIONS]", "<COMMAND>"] ++ heading "Commands:" ++
    String.join ((names ++ [("help", helpSummary)]).map fun p => row width p.1 p.2) ++
    heading "Options:" ++ String.join (Setting.shared.map (settingEntry env)) ++ helpEntry ++
    versionEntry

def command (env : Environment) (c : Command) : String :=
  let operand := (operandText c).toList
  let required := if c = .makeId then [spelling .kind] else []
  c.summary ++ "\n\n" ++ usage (bold c.name :: "[OPTIONS]" :: required ++ operand) ++
    String.join (operand.map fun o => heading "Arguments:" ++ row o.length o "") ++
    heading "Options:" ++ String.join (c.settings.map (settingEntry env)) ++ helpEntry

def help : String :=
  let operand := "[COMMAND]..."
  helpSummary ++ "\n\n" ++ usage [bold "help", operand] ++ heading "Arguments:" ++
    row operand.length operand "Print help for the subcommand(s)"

end Help

def helpText (env : Environment) (topic : Topic) : String :=
  ControlSequence.shown <|
    match topic with
    | .program => Help.program env
    | .command c => Help.command env c
    | .help => Help.help

end Hotplug.CommandLine
