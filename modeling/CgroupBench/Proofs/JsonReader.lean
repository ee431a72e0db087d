import CgroupBench.Proofs.NumberForm

/-!
# Reading JSON

A reader for the whole of JSON, to say what a written text means. It goes from token to token, and
keeps what the arrays and objects that are open hold so far. Members keep their order, a name may
occur twice, and a number is kept as it is spelled. What the standard does not allow is refused:
other blanks, leading zeros, commas at an end, control characters in a string, and halves of a
surrogate pair.
-/
namespace CgroupBench.Json

/-! Strings. -/

def hexValue? (c : Char) : Option Nat :=
  if c.isDigit then some (c.toNat - '0'.toNat)
  else if 'a' ≤ c ∧ c ≤ 'f' then some (c.toNat - 'a'.toNat + 10)
  else if 'A' ≤ c ∧ c ≤ 'F' then some (c.toNat - 'A'.toNat + 10)
  else none

/-- Four hexadecimal digits, and the text after them. -/
def codeUnit? : List Char → Option (Nat × List Char)
  | a :: b :: c :: d :: rest =>
    ([a, b, c, d].mapM hexValue?).map fun digits => (digits.foldl (16 * · + ·) 0, rest)
  | _ => none

/-- The second half of a surrogate pair, and the text after it. -/
def lowSurrogate? : List Char → Option (Nat × List Char)
  | '\\' :: 'u' :: text =>
    (codeUnit? text).filter fun (unit, _) => 0xDC00 ≤ unit && unit < 0xE000
  | _ => none

/-- The character that one code unit stands for, or two that are a surrogate pair. -/
def unicode? (text : List Char) : Option (Char × List Char) :=
  (codeUnit? text).bind fun (unit, rest) =>
    if unit < 0xD800 ∨ 0xE000 ≤ unit then some (.ofNat unit, rest)
    else if 0xDC00 ≤ unit then none
    else
      (lowSurrogate? rest).map fun (low, rest) =>
        (.ofNat (0x10000 + (unit - 0xD800) * 0x400 + (low - 0xDC00)), rest)

def shortEscape? : Char → Option Char
  | '"' => some '"'
  | '\\' => some '\\'
  | '/' => some '/'
  | 'b' => some '\x08'
  | 'f' => some '\x0c'
  | 'n' => some '\n'
  | 'r' => some '\r'
  | 't' => some '\t'
  | _ => none

/-- What a backslash makes of the text after it. -/
def escaped? : List Char → Option (Char × List Char)
  | [] => none
  | kind :: rest => if kind = 'u' then unicode? rest else (shortEscape? kind).map (·, rest)

/-- The character of a string that is spelled from here on, and the text after it. -/
def character? (c : Char) (rest : List Char) : Option (Char × List Char) :=
  if c = '\\' then escaped? rest
  else if c.toNat < 0x20 then none
  else some (c, rest)

@[grind →]
theorem codeUnit?_length_le {text rest : List Char} {unit : Nat}
    (reads : codeUnit? text = some (unit, rest)) : rest.length ≤ text.length := by
  unfold codeUnit? at reads
  split at reads
  · obtain ⟨_, -, same⟩ := Option.map_eq_some_iff.mp reads
    grind
  · cases reads

@[grind →]
theorem lowSurrogate?_length_le {text rest : List Char} {unit : Nat}
    (reads : lowSurrogate? text = some (unit, rest)) : rest.length ≤ text.length := by
  unfold lowSurrogate? at reads
  split at reads
  · have shorter := codeUnit?_length_le (Option.eq_some_of_filter_eq_some reads)
    grind
  · cases reads

@[grind →]
theorem unicode?_length_le {text rest : List Char} {c : Char}
    (reads : unicode? text = some (c, rest)) : rest.length ≤ text.length := by
  obtain ⟨⟨unit, behind⟩, first, reads⟩ := Option.bind_eq_some_iff.mp reads
  have shorter := codeUnit?_length_le first
  grind [Option.map_eq_some_iff]

@[grind →]
theorem character?_length_le {c d : Char} {text rest : List Char}
    (reads : character? c text = some (d, rest)) : rest.length ≤ text.length := by
  unfold character? escaped? at reads
  grind [Option.map_eq_some_iff]

/-- The characters up to the closing quote, and the text after it. -/
def characters? : List Char → Option (List Char × List Char)
  | [] => none
  | c :: text =>
    if c = '"' then some ([], text)
    else
      match _reads : character? c text with
      | none => none
      | some (d, rest) => (characters? rest).map fun (more, rest) => (d :: more, rest)
termination_by text => text.length
decreasing_by exact Nat.lt_succ_of_le (character?_length_le _reads)

@[grind →]
theorem characters?_length_le {text rest : List Char} {value : List Char}
    (reads : characters? text = some (value, rest)) : rest.length ≤ text.length := by
  fun_induction characters? text generalizing value with
  | case1 => cases reads
  | case2 => grind
  | case3 => cases reads
  | case4 => grind [Option.map_eq_some_iff]

/-! Tokens. -/

inductive Token where
  | openArray
  | closeArray
  | openObject
  | closeObject
  | comma
  | colon
  | null
  | boolean (value : Bool)
  | number (text : String)
  | string (value : String)
deriving DecidableEq, Repr

def blank (c : Char) : Bool :=
  [' ', '\t', '\n', '\r'].contains c

/-- A character of a word or a number, which go on as long as there are such characters. -/
def bare (c : Char) : Bool :=
  c.isAlpha || NumberPart.numeric c

def punctuation? : Char → Option Token
  | '[' => some .openArray
  | ']' => some .closeArray
  | '\x7b' => some .openObject
  | '\x7d' => some .closeObject
  | ',' => some .comma
  | ':' => some .colon
  | _ => none

def bareToken? (text : List Char) : Option Token :=
  if isNumber text then some (.number (.ofList text))
  else if text = ['n', 'u', 'l', 'l'] then some .null
  else if text = ['t', 'r', 'u', 'e'] then some (.boolean true)
  else if text = ['f', 'a', 'l', 's', 'e'] then some (.boolean false)
  else none

/-- The token that starts with this character, and the text after it. -/
def token? (c : Char) (text : List Char) : Option (Token × List Char) :=
  if c = '"' then (characters? text).map fun (value, rest) => (.string (.ofList value), rest)
  else if bare c then
    (bareToken? (c :: text.takeWhile bare)).map fun token => (token, text.dropWhile bare)
  else (punctuation? c).map (·, text)

theorem token?_length_le {c : Char} {text rest : List Char} {token : Token}
    (reads : token? c text = some (token, rest)) : rest.length ≤ text.length := by
  have shorter : (text.dropWhile bare).length ≤ text.length :=
    (List.dropWhile_sublist bare).length_le
  unfold token? at reads
  grind [Option.map_eq_some_iff]

/-! Values. -/

/-- An array or object that is open, with what it holds so far. -/
inductive Frame where
  | array (items : List Json)
  | object (members : List (String × Json)) (name : String)

/-- What has been read, and with it what may follow. -/
inductive Position where
  | item (frames : List Frame)
  | firstItem (frames : List Frame)
  | firstName (frames : List Frame)
  | nextName (members : List (String × Json)) (frames : List Frame)
  | colon (members : List (String × Json)) (name : String) (frames : List Frame)
  | afterItem (items : List Json) (frames : List Frame)
  | afterMember (members : List (String × Json)) (frames : List Frame)
  | done (value : Json)

namespace Position

/-- Puts a value that is complete into what is open around it. -/
def put (value : Json) : List Frame → Position
  | [] => .done value
  | .array items :: frames => .afterItem (items ++ [value]) frames
  | .object members name :: frames => .afterMember (members ++ [(name, value)]) frames

def begin? (frames : List Frame) : Token → Option Position
  | .null => some (put .null frames)
  | .boolean value => some (put (.boolean value) frames)
  | .number text => some (put (.number text) frames)
  | .string value => some (put (.string value) frames)
  | .openArray => some (.firstItem frames)
  | .openObject => some (.firstName frames)
  | _ => none

def step? : Position → Token → Option Position
  | .item frames, token => begin? frames token
  | .firstItem frames, .closeArray => some (put (.array []) frames)
  | .firstItem frames, token => begin? (.array [] :: frames) token
  | .firstName frames, .closeObject => some (put (.object []) frames)
  | .firstName frames, .string name => some (.colon [] name frames)
  | .nextName members frames, .string name => some (.colon members name frames)
  | .colon members name frames, .colon => some (.item (.object members name :: frames))
  | .afterItem items frames, .comma => some (.item (.array items :: frames))
  | .afterItem items frames, .closeArray => some (put (.array items) frames)
  | .afterMember members frames, .comma => some (.nextName members frames)
  | .afterMember members frames, .closeObject => some (put (.object members) frames)
  | _, _ => none

def run? (position : Position) : List Char → Option Position
  | [] => some position
  | c :: text =>
    if blank c then position.run? text
    else
      match _reads : token? c text with
      | none => none
      | some (token, rest) => (position.step? token).bind (·.run? rest)
termination_by text => text.length
decreasing_by
  · exact Nat.lt_succ_self _
  · exact Nat.lt_succ_of_le (token?_length_le _reads)

def value? : Position → Option Json
  | .done value => some value
  | _ => none

end Position

def read? (text : String) : Option Json :=
  ((Position.item []).run? text.toList).bind Position.value?

end CgroupBench.Json
