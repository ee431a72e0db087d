/-!
# UTF-8

Bytes are read as a sequence of characters and malformed pieces. A malformed piece is as
long as it could still have become a character, so a single wrong byte never swallows
what follows it. Strict reading accepts no such piece; lossy reading puts the
replacement character for each.
-/
namespace CgroupBench.Text.Utf8

/-- The range of one further byte of a character. -/
structure Range where
  least : Nat := 0x80
  greatest : Nat := 0xBF
deriving DecidableEq, Repr

def Range.holds (range : Range) (byte : Nat) : Bool :=
  range.least ≤ byte && byte ≤ range.greatest

/-- The payload of a first byte and the bytes that it calls for. -/
def lead? (byte : Nat) : Option (Nat × List Range) :=
  if byte < 0x80 then some (byte, [])
  else if byte < 0xC2 then none
  else if byte < 0xE0 then some (byte - 0xC0, [{}])
  else if byte = 0xE0 then some (0, [{ least := 0xA0 }, {}])
  else if byte = 0xED then some (0xD, [{ greatest := 0x9F }, {}])
  else if byte < 0xF0 then some (byte - 0xE0, [{}, {}])
  else if byte = 0xF0 then some (0, [{ least := 0x90 }, {}, {}])
  else if byte < 0xF4 then some (byte - 0xF0, [{}, {}, {}])
  else if byte = 0xF4 then some (4, [{ greatest := 0x8F }, {}, {}])
  else none

/-- Takes the further bytes of a character, and stops before the first that is none. -/
def complete (payload : Nat) : List Range → List UInt8 → Option Char × List UInt8
  | [], bytes => (some (Char.ofNat payload), bytes)
  | _ :: _, [] => (none, [])
  | range :: ranges, byte :: rest =>
    if range.holds byte.toNat then complete (64 * payload + byte.toNat % 64) ranges rest
    else (none, byte :: rest)

theorem complete_length_le (payload : Nat) (ranges : List Range) (bytes : List UInt8) :
    (complete payload ranges bytes).2.length ≤ bytes.length := by
  induction ranges generalizing payload bytes with
  | nil => simp [complete]
  | cons range ranges ih =>
    cases bytes with
    | nil => simp [complete]
    | cons byte rest =>
      simp only [complete]
      split
      · exact Nat.le_succ_of_le (ih _ rest)
      · exact Nat.le_refl _

/-- The first character or malformed piece, and the bytes after it. -/
def next (byte : UInt8) (rest : List UInt8) : Option Char × List UInt8 :=
  match lead? byte.toNat with
  | some (payload, ranges) => complete payload ranges rest
  | none => (none, rest)

theorem next_length_le (byte : UInt8) (rest : List UInt8) :
    (next byte rest).2.length ≤ rest.length := by
  unfold next
  split
  · exact complete_length_le ..
  · exact Nat.le_refl _

/-- The characters in order, with nothing in the place of a malformed piece. -/
def pieces : List UInt8 → List (Option Char)
  | [] => []
  | byte :: rest => (next byte rest).1 :: pieces (next byte rest).2
termination_by bytes => bytes.length
decreasing_by exact Nat.lt_succ_of_le (next_length_le byte rest)

def decode? (bytes : List UInt8) : Option String :=
  ((pieces bytes).mapM id).map .ofList

def replacement : Char := '\ufffd'

def decodeLossy (bytes : List UInt8) : String :=
  .ofList ((pieces bytes).map (·.getD replacement))

def encode (text : String) : List UInt8 :=
  text.toUTF8.toList

end CgroupBench.Text.Utf8
