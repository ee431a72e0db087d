import CgroupBench.Text.Blank

/-!
# Bounded tails

The end of a text, without blanks around it, that fits into a number of bytes. Text that
had to be shortened starts with three dots, and is never cut inside a character: from where
the limit would cut it, the cut moves on byte by byte to the next boundary.
-/
namespace CgroupBench.Text

/-- A character of the text starts at the byte offset, or the text ends there. -/
abbrev IsBoundary (text : String) (offset : Nat) : Prop :=
  String.Pos.Raw.IsValid text ⟨offset⟩

theorem lt_of_not_isBoundary {text : String} {offset : Nat} (within : offset ≤ text.utf8ByteSize)
    (inside : ¬ IsBoundary text offset) : offset < text.utf8ByteSize := by
  refine Nat.lt_of_le_of_ne within fun ended => inside ?_
  subst ended
  exact String.Pos.Raw.isValid_rawEndPos

/-- How many steps of one byte are made from the offset until a boundary is found. -/
def stepsToBoundary (text : String) (offset : Nat) (within : offset ≤ text.utf8ByteSize) : Nat :=
  if inside : ¬ IsBoundary text offset then
    stepsToBoundary text (offset + 1) (lt_of_not_isBoundary within inside) + 1
  else 0
termination_by text.utf8ByteSize - offset
decreasing_by exact Nat.sub_succ_lt_self _ _ (lt_of_not_isBoundary within inside)

theorem isBoundary_stepsToBoundary (text : String) (offset : Nat)
    (within : offset ≤ text.utf8ByteSize) :
    IsBoundary text (offset + stepsToBoundary text offset within) := by
  fun_induction stepsToBoundary text offset within with
  | case1 offset within inside ih => rwa [Nat.add_assoc, Nat.add_comm 1] at ih
  | case2 offset within reached => exact Decidable.not_not.mp reached

/-- The boundary that is found from where no more bytes are left than the limit. -/
def cut (limit : Nat) (text : String) : text.Pos :=
  ⟨_, isBoundary_stepsToBoundary text (text.utf8ByteSize - limit) (Nat.sub_le ..)⟩

def tail (limit : Nat) (text : String) : String :=
  let trimmed := trim text
  if trimmed.utf8ByteSize ≤ limit then trimmed
  else "..." ++ (trimmed.sliceFrom (cut limit trimmed)).copy

end CgroupBench.Text
