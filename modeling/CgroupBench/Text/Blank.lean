/-!
# Blanks

The characters with the Unicode property White_Space, and text without the blanks at its
two ends or cut at them. The information separators U+001C to U+001F and the zero-width space are not
blanks.
-/
namespace CgroupBench.Text

def isBlank (c : Char) : Bool :=
  let n := c.toNat
  (0x09 ≤ n && n ≤ 0x0D) || n == 0x20 || n == 0x85 || n == 0xA0 || n == 0x1680 ||
    (0x2000 ≤ n && n ≤ 0x200A) || n == 0x2028 || n == 0x2029 || n == 0x202F ||
    n == 0x205F || n == 0x3000

/-- A text is cut where the first character stands that is not of the kind. -/
theorem span_append {kind : Char → Bool} {front back : List Char}
    (all : ∀ c ∈ front, kind c = true) (ends : ∀ c ∈ back.head?, kind c = false) :
    (front ++ back).takeWhile kind = front ∧ (front ++ back).dropWhile kind = back := by
  rw [List.takeWhile_append_of_pos all, List.dropWhile_append_of_pos all]
  cases back with
  | nil => simp
  | cons c rest =>
    have ends : kind c = false := ends c rfl
    simp [ends]

def trimStart (text : List Char) : List Char :=
  text.dropWhile isBlank

def trimEnd (text : List Char) : List Char :=
  (trimStart text.reverse).reverse

def trim (text : String) : String :=
  .ofList (trimEnd (trimStart text.toList))

/-- The pieces between blanks. -/
def words (text : String) : List String :=
  ((text.toList.splitOnP isBlank).filter (· ≠ [])).map .ofList

end CgroupBench.Text
