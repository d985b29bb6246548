/-!
# Writing JSON

Records of named scalars, on one line or spread over several with two spaces for each level.
-/

namespace Hotplug.Json

inductive Scalar where
  | text (s : String)
  | number (n : Nat)
  | flag (b : Bool)
deriving DecidableEq, Repr

abbrev Record := List (String × Scalar)

/-- What stands for one character inside a string: controls are escaped, with a letter where there
is one, and so are the quote and the backslash. -/
def escape (c : Char) : List Char :=
  match c with
  | '"' => ['\\', '"']
  | '\\' => ['\\', '\\']
  | '\x08' => ['\\', 'b']
  | '\x0c' => ['\\', 'f']
  | '\n' => ['\\', 'n']
  | '\r' => ['\\', 'r']
  | '\t' => ['\\', 't']
  | c =>
    if c.toNat < 0x20 then
      ['\\', 'u', '0', '0', (c.toNat / 16).digitChar, (c.toNat % 16).digitChar]
    else [c]

def quote (s : String) : List Char :=
  '"' :: s.toList.flatMap escape ++ ['"']

def Scalar.chars : Scalar → List Char
  | .text s => quote s
  | .number n => Nat.toDigits 10 n
  | .flag true => ['t', 'r', 'u', 'e']
  | .flag false => ['f', 'a', 'l', 's', 'e']

def compact (r : Record) : String :=
  String.ofList <|
    '\x7b' :: [','].intercalate (r.map fun f => quote f.1 ++ ':' :: f.2.chars) ++ ['\x7d']

def indent (level : Nat) : List Char :=
  '\n' :: List.replicate (2 * level) ' '

def spread (level : Nat) (opening closing : Char) (items : List (List Char)) : List Char :=
  if items = [] then [opening, closing]
  else
    opening :: [','].intercalate (items.map (indent (level + 1) ++ ·)) ++ indent level ++ [closing]

def prettyRecord (level : Nat) (r : Record) : List Char :=
  spread level '\x7b' '\x7d' (r.map fun f => quote f.1 ++ ':' :: ' ' :: f.2.chars)

def pretty (r : Record) : String :=
  String.ofList (prettyRecord 0 r)

def prettyList (rs : List Record) : String :=
  String.ofList (spread 0 '[' ']' (rs.map (prettyRecord 1)))

end Hotplug.Json
