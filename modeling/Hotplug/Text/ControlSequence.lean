/-!
# Control sequences

Text for a terminal may hold control sequences, which say how text looks and are not shown
themselves. `shown` keeps what is to be read of such a text: no sequence, and of the control
characters only those that are white space.

White space is shown inside a sequence as well, and what stands behind it is shown as text. The
sequence goes on at the next control character that is not shown.
-/

namespace Hotplug.ControlSequence

inductive Part where
  | text
  | escape
  /-- An escape character and others that need one more behind them. -/
  | intermediate
  /-- A control sequence, which a letter ends. -/
  | control
  /-- A system command, which a bell ends. -/
  | command
  /-- A device control string, of which nothing has been read. -/
  | device
  /-- The parameters of a device control string. -/
  | deviceParameters
  /-- What stands between these parameters and the string. -/
  | deviceIntermediate
  | string
deriving DecidableEq, Repr

def isSpacing (c : Char) : Bool :=
  c = '\t' || c = '\n' || c = '\x0c' || c = '\r'

def endsString (c : Char) : Bool :=
  (String.utf8EncodeChar c).contains 0x9C

namespace Part

def shows (p : Part) (c : Char) : Bool :=
  match p with
  | .text => isSpacing c || (0x20 ≤ c.toNat && c ≠ '\x7f')
  | .escape | .intermediate | .control => isSpacing c
  | _ => false

def next (p : Part) (c : Char) : Part :=
  let n := c.toNat
  if c = '\x1b' then .escape
  else if c = '\x18' || c = '\x1a' then .text
  else if (p = .command && c = '\x07') || (p = .string && endsString c) then .text
  else if n < 0x20 || 0x7F ≤ n then p
  else
    match p with
    | .text | .command | .string => p
    | .escape =>
      match c with
      | '[' => .control
      | ']' => .command
      | 'P' => .device
      | 'X' | '^' | '_' => .string
      | _ => if n < 0x30 then .intermediate else .text
    | .intermediate => if n < 0x30 then p else .text
    | .control => if n < 0x40 then p else .text
    | .device =>
      if n < 0x30 then .deviceIntermediate else if n < 0x40 then .deviceParameters else .string
    | .deviceParameters =>
      if n < 0x30 then .deviceIntermediate else if n < 0x3C then p else .string
    | .deviceIntermediate => if n < 0x30 then p else .string

end Part

/-- What is shown from a part on. If `held` is set, text is being shown although the part has not
ended; a character outside ASCII ends it. -/
def shownFrom (held : Bool) (p : Part) : List Char → List Char
  | [] => []
  | c :: s =>
    if held && Part.text.shows c then
      c :: shownFrom true (if c.toNat < 0x80 then p else .text) s
    else if p.shows c then c :: shownFrom true (p.next c) s
    else shownFrom false (p.next c) s

def shown (s : String) : String :=
  String.ofList (shownFrom false .text s.toList)

def bold (s : String) : String :=
  "\x1b[1m" ++ s ++ "\x1b[0m"

end Hotplug.ControlSequence
