import CgroupBench.Json.Value
import Mathlib.Data.List.Basic

/-!
# The form of a number in JSON

A number has an optional sign, an integer without leading zeros, an optional fraction and an
optional exponent. Whether a text has that form is found by reading it from the left, and only the
part that was read last has to be remembered. Natural numbers are written in that form, and so are
floats, with and without an exponent and whatever the bounds between the two are.
-/
namespace CgroupBench

namespace Json

/-- The part of a number that was read last. -/
inductive NumberPart where
  | start
  | sign
  | zero
  | whole
  | point
  | fraction
  | mark
  | markSign
  | exponent
deriving DecidableEq, Repr

namespace NumberPart

def afterDigit? (c : Char) : NumberPart → Option NumberPart
  | start | sign => some (if c = '0' then zero else whole)
  | zero => none
  | whole => some whole
  | point | fraction => some fraction
  | mark | markSign | exponent => some exponent

def afterPoint? : NumberPart → Option NumberPart
  | zero | whole => some point
  | _ => none

def afterMark? : NumberPart → Option NumberPart
  | zero | whole | fraction => some mark
  | _ => none

def afterPlus? : NumberPart → Option NumberPart
  | mark => some markSign
  | _ => none

def afterMinus? : NumberPart → Option NumberPart
  | start => some sign
  | mark => some markSign
  | _ => none

def next? (part : NumberPart) (c : Char) : Option NumberPart :=
  if c.isDigit then part.afterDigit? c
  else if c = '.' then part.afterPoint?
  else if c = 'e' ∨ c = 'E' then part.afterMark?
  else if c = '+' then part.afterPlus?
  else if c = '-' then part.afterMinus?
  else none

/-- The part that is read last when a text goes on after this part. -/
def after? (part : NumberPart) (text : List Char) : Option NumberPart :=
  text.foldlM next? part

/-- A number may end after this part. -/
def mayEnd : NumberPart → Bool
  | zero | whole | fraction | exponent => true
  | start | sign | point | mark | markSign => false

variable {part : NumberPart} {c : Char} {text : List Char}

theorem after?_cons (part : NumberPart) (c : Char) (text : List Char) :
    part.after? (c :: text) = (part.next? c).bind (·.after? text) := rfl

theorem after?_append (part : NumberPart) (text more : List Char) :
    part.after? (text ++ more) = (part.after? text).bind (·.after? more) :=
  List.foldlM_append

theorem next?_digit (digit : c.isDigit) : part.next? c = part.afterDigit? c :=
  if_pos digit

/-- Digits may follow this part, and do not end it. -/
theorem after?_digits (same : ∀ c, part.afterDigit? c = some part)
    (digits : ∀ c ∈ text, c.isDigit) : part.after? text = some part := by
  induction text with
  | nil => rfl
  | cons c rest ih =>
    obtain ⟨digit, digits⟩ := List.forall_mem_cons.mp digits
    rw [after?_cons, next?_digit digit, same]
    exact ih digits

/-- At least one digit has to follow this part. -/
theorem after?_digits_of_ne_nil {later : NumberPart} (begins : ∀ c, part.afterDigit? c = some later)
    (same : ∀ c, later.afterDigit? c = some later) (nonempty : text ≠ [])
    (digits : ∀ c ∈ text, c.isDigit) : part.after? text = some later := by
  obtain ⟨c, rest, rfl⟩ := List.exists_cons_of_ne_nil nonempty
  obtain ⟨digit, digits⟩ := List.forall_mem_cons.mp digits
  rw [after?_cons, next?_digit digit, begins]
  exact after?_digits same digits

theorem after?_fraction (nonempty : text ≠ []) (digits : ∀ c ∈ text, c.isDigit) :
    point.after? text = some fraction :=
  after?_digits_of_ne_nil (fun _ => rfl) (fun _ => rfl) nonempty digits

/-- An integer may start here. -/
def leads (part : NumberPart) : Bool :=
  part = start ∨ part = sign

theorem after?_zero (leads : part.leads) : part.after? ['0'] = some zero := by
  rcases of_decide_eq_true leads with rfl | rfl <;> rfl

theorem after?_whole (leads : part.leads) (first : c ≠ '0') (digits : ∀ d ∈ c :: text, d.isDigit) :
    part.after? (c :: text) = some whole := by
  obtain ⟨digit, digits⟩ := List.forall_mem_cons.mp digits
  have begins : part.next? c = some whole := by
    rw [next?_digit digit]
    rcases of_decide_eq_true leads with rfl | rfl <;> exact congrArg some (if_neg first)
  rw [after?_cons, begins]
  exact after?_digits (fun _ => rfl) digits

/-- This text completes a number of which this part was read last. -/
def completes (part : NumberPart) (text : List Char) : Bool :=
  (part.after? text).any (·.mayEnd)

theorem completes_append {later : NumberPart} (reads : part.after? text = some later)
    (more : List Char) : part.completes (text ++ more) = later.completes more := by
  rw [completes, after?_append, reads]
  rfl

theorem completes_of_after? (last : NumberPart) (reads : part.after? text = some last)
    (ends : last.mayEnd) : part.completes text := by
  rw [completes, reads]
  exact ends

theorem completes_point {reached : NumberPart} (known : reached = zero ∨ reached = whole)
    (nonempty : text ≠ []) (digits : ∀ c ∈ text, c.isDigit) : reached.completes ('.' :: text) := by
  refine completes_of_after? fraction ?_ rfl
  rcases known with rfl | rfl <;> exact after?_fraction nonempty digits

/-- A character that stands in some number. -/
def numeric (c : Char) : Bool :=
  c.isDigit || ['.', 'e', 'E', '+', '-'].contains c

theorem numeric_of_next? {later : NumberPart} (reads : part.next? c = some later) : numeric c := by
  unfold next? at reads
  simp only [numeric, Bool.or_eq_true, List.contains_cons, beq_iff_eq]
  grind

theorem numeric_of_after? {last : NumberPart} (reads : part.after? text = some last) :
    ∀ c ∈ text, numeric c := by
  induction text generalizing part with
  | nil => simp
  | cons c rest ih =>
    rw [after?_cons] at reads
    obtain ⟨later, next, reads⟩ := Option.bind_eq_some_iff.mp reads
    exact List.forall_mem_cons.mpr ⟨numeric_of_next? next, ih reads⟩

end NumberPart

def isNumber (text : List Char) : Bool :=
  NumberPart.start.completes text

theorem numeric_of_isNumber {text : List Char} (number : isNumber text) :
    ∀ c ∈ text, NumberPart.numeric c := by
  cases reads : NumberPart.start.after? text with
  | none => simp [isNumber, NumberPart.completes, reads] at number
  | some last => exact NumberPart.numeric_of_after? reads

theorem ne_nil_of_isNumber {text : List Char} (number : isNumber text) : text ≠ [] := by
  rintro rfl
  cases number

end Json

/-! Natural numbers. -/

namespace Decimal

theorem toDigits_isDigit (n : Nat) : ∀ c ∈ Nat.toDigits 10 n, c.isDigit :=
  fun _ mem => Nat.isDigit_of_mem_toDigits (by decide) (by decide) mem

theorem digitChar_ne_zero : ∀ n < 10, n ≠ 0 → Nat.digitChar n ≠ '0' := by
  decide

/-- A positive number does not begin with a zero. -/
theorem exists_toDigits_eq_cons {n : Nat} (positive : n ≠ 0) :
    ∃ first rest, Nat.toDigits 10 n = first :: rest ∧ first ≠ '0' := by
  induction n using Nat.strongRecOn with
  | ind n ih =>
    by_cases small : n < 10
    · exact ⟨n.digitChar, [], Nat.toDigits_of_lt_base small, digitChar_ne_zero n small positive⟩
    · have large : 10 ≤ n := Nat.le_of_not_lt small
      obtain ⟨first, rest, digits, nonzero⟩ := ih (n / 10) (by omega) (by omega)
      refine ⟨first, rest ++ [(n % 10).digitChar], ?_, nonzero⟩
      rw [Nat.toDigits_of_base_le (by decide) large, digits]
      rfl

end Decimal

namespace Json

open NumberPart Decimal

theorem isNumber_toDigits (n : Nat) : isNumber (Nat.toDigits 10 n) := by
  by_cases zero : n = 0
  · subst zero
    decide
  · obtain ⟨first, rest, digits, nonzero⟩ := exists_toDigits_eq_cons zero
    have every := toDigits_isDigit n
    rw [digits] at every ⊢
    exact completes_of_after? whole (after?_whole rfl nonzero every) rfl

end Json

/-! Floats. -/

namespace Decimal

open Json NumberPart

theorem Scaled.strip_of_digits_eq_zero (number : Scaled) (zero : number.strip.digits = 0) :
    number.strip = ⟨0, 0⟩ := by
  fun_induction Scaled.strip number with
  | case1 => rfl
  | case2 number _ _ ih => exact ih zero
  | case3 number nonzero => exact absurd zero nonzero

theorem zeros_isDigit (count : Nat) : ∀ c ∈ zeros count, c.isDigit := by
  intro c mem
  rw [List.eq_of_mem_replicate mem]
  rfl

variable {part : NumberPart}

/-- Digits of a positive number with a power of ten are laid out as a number. -/
theorem completes_positional (leads : part.leads) {first : Char} {rest : List Char}
    (nonzero : first ≠ '0') (digits : ∀ c ∈ first :: rest, c.isDigit) (exponent : Int) :
    part.completes (positional (first :: rest) exponent) := by
  simp only [positional]
  split
  · -- zeros behind the digits
    have whole : part.after? (first :: rest ++ zeros exponent.toNat) = some .whole := by
      refine after?_whole leads nonzero ?_
      exact List.forall_mem_append.mpr ⟨digits, zeros_isDigit _⟩
    rw [completes_append whole]
    rfl
  split
  · -- the point within the digits
    next negative inside =>
    obtain ⟨before, count⟩ : ∃ before, ((first :: rest).length + exponent).toNat = before + 1 :=
      Nat.exists_eq_succ_of_ne_zero (by omega)
    rw [count]
    have whole : part.after? (first :: rest.take before) = some .whole :=
      after?_whole leads nonzero fun c mem => digits c (List.mem_of_mem_take (i := before + 1) mem)
    rw [List.take_succ_cons, completes_append whole]
    refine completes_point (.inr rfl) ?_ fun c mem => digits c (List.mem_of_mem_drop mem)
    rw [ne_eq, List.drop_eq_nil_iff]
    omega
  · -- zeros between the point and the digits
    rw [List.cons_append, ← List.singleton_append, completes_append (after?_zero leads)]
    refine completes_point (.inl rfl) (by simp) ?_
    exact List.forall_mem_append.mpr ⟨zeros_isDigit _, digits⟩

theorem completes_scientific {mantissa : List Char} {reached : NumberPart}
    (mantissaReads : part.after? mantissa = some reached) (marks : reached.afterMark? = some .mark)
    (power : Int) :
    part.completes (mantissa ++ 'e' :: (if power < 0 then '-' else '+') ::
      Nat.toDigits 10 power.natAbs) := by
  rw [completes_append mantissaReads]
  refine completes_of_after? .exponent ?_ rfl
  have markReads : reached.next? 'e' = some .mark := marks
  have signReads : next? .mark (if power < 0 then '-' else '+') = some .markSign := by
    split <;> rfl
  rw [after?_cons, markReads, Option.bind_some, after?_cons, signReads]
  exact after?_digits_of_ne_nil (fun _ => rfl) (fun _ => rfl) Nat.toDigits_ne_nil
    (toDigits_isDigit _)

/-- The shortest digits are laid out as a number, wherever the bounds are. -/
theorem completes_layout (part : NumberPart) (leads : part.leads) (number : Scaled) (bounds : Bounds) :
    part.completes (number.strip.layout bounds) := by
  simp only [Scaled.layout]
  by_cases zero : number.strip.digits = 0
  · rw [number.strip_of_digits_eq_zero zero]
    split
    · exact (completes_append (after?_zero leads) ['.', '0']).trans rfl
    · exact completes_scientific (after?_zero leads) rfl _
  obtain ⟨first, rest, written, nonzero⟩ := exists_toDigits_eq_cons zero
  have digits := toDigits_isDigit number.strip.digits
  rw [written] at digits ⊢
  split
  · exact completes_positional leads nonzero digits _
  cases rest with
  | nil => exact completes_scientific (after?_whole leads nonzero digits) rfl _
  | cons second rest =>
    have whole : part.after? [first] = some .whole :=
      after?_whole leads nonzero fun c mem => digits c (List.mem_append_left _ mem)
    have fraction : part.after? ([first] ++ '.' :: second :: rest) = some .fraction := by
      rw [after?_append, whole]
      exact after?_fraction (by simp) fun c mem => digits c (.tail _ mem)
    exact completes_scientific fraction rfl _

theorem isNumber_layout (value : Finite) (bounds : Bounds) :
    isNumber (value.layout bounds).toList := by
  rw [Finite.layout, String.toList_ofList]
  split
  · exact completes_layout .sign rfl _ bounds
  · exact completes_layout .start rfl _ bounds

end Decimal
end CgroupBench
