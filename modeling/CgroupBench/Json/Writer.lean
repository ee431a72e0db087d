import CgroupBench.Json.Value

/-!
# Writing JSON

Text is written with the short escapes where there are any, and other control characters
as four hexadecimal digits; everything else stands for itself. A style says what stands
before each item and between a name and its value; empty arrays and objects have nothing
inside in any style.
-/
namespace CgroupBench.Json

def escape (c : Char) : List Char :=
  if c = '"' then ['\\', '"']
  else if c = '\\' then ['\\', '\\']
  else if c = '\n' then ['\\', 'n']
  else if c = '\r' then ['\\', 'r']
  else if c = '\t' then ['\\', 't']
  else if c = '\x08' then ['\\', 'b']
  else if c = '\x0c' then ['\\', 'f']
  else if c.toNat < 0x20 then
    ['\\', 'u', '0', '0', Nat.digitChar (c.toNat / 16), Nat.digitChar (c.toNat % 16)]
  else [c]

def quote (text : String) : List Char :=
  '"' :: text.toList.flatMap escape ++ ['"']

structure Style where
  /-- What stands before an item at this depth, and before the bracket that closes it. -/
  lineStart : Nat → List Char
  afterName : List Char

/-- Everything on one line, without blanks. -/
def compact : Style where
  lineStart _ := []
  afterName := [':']

/-- Each item on a line of its own, two blanks further in than what encloses it. -/
def indented : Style where
  lineStart depth := '\n' :: List.replicate (2 * depth) ' '
  afterName := [':', ' ']

/-- Items between brackets, each at the start of a line and with commas between them. -/
def enclose (style : Style) (depth : Nat) (opening closing : Char) (items : List (List Char)) :
    List Char :=
  if items.isEmpty then [opening, closing]
  else
    let lines := items.map (style.lineStart (depth + 1) ++ ·)
    opening :: [','].intercalate lines ++ style.lineStart depth ++ [closing]

mutual

def write (style : Style) (depth : Nat) : Json → List Char
  | .null => ['n', 'u', 'l', 'l']
  | .boolean true => ['t', 'r', 'u', 'e']
  | .boolean false => ['f', 'a', 'l', 's', 'e']
  | .number text => text.toList
  | .string value => quote value
  | .array items => enclose style depth '[' ']' (writeItems style (depth + 1) items)
  | .object members => enclose style depth '\x7b' '\x7d' (writeMembers style (depth + 1) members)

def writeItems (style : Style) (depth : Nat) : List Json → List (List Char)
  | [] => []
  | item :: rest => write style depth item :: writeItems style depth rest

def writeMembers (style : Style) (depth : Nat) : List (String × Json) → List (List Char)
  | [] => []
  | (name, value) :: rest =>
    (quote name ++ style.afterName ++ write style depth value) :: writeMembers style depth rest

end

def render (style : Style) (value : Json) : String :=
  .ofList (write style 0 value)

end CgroupBench.Json
