import CgroupBench.Size
import Mathlib.Algebra.Group.Nat.Defs
import Mathlib.Data.List.Basic
import Mathlib.Data.List.TakeWhile
import Mathlib.Tactic.Common

/-!
# The form of a size

A text is read as a size if and only if it has the form of one and the size is small enough. The
form is blanks, digits, blanks, perhaps a unit, and blanks. The pattern by which a text is cut admits
every decimal digit and, for the letter k, the Kelvin sign; a digit that is not ASCII is refused
afterwards. So for texts without that sign the form can be said in ASCII letters and digits. The
number may have any length: what is too large is refused and never wraps.
-/
namespace CgroupBench

namespace Text

theorem toNat_toLower (c : Char) :
    c.toLower.toNat = if 65 ≤ c.toNat ∧ c.toNat ≤ 90 then c.toNat + 32 else c.toNat := by
  by_cases upper : c.val ≥ 'A'.val ∧ c.val ≤ 'Z'.val
  · have range : 65 ≤ c.toNat ∧ c.toNat ≤ 90 := by
      simpa [UInt32.le_iff_toNat_le] using upper
    have small : c.toNat + 32 < 2 ^ 32 := by omega
    have lower : c.toLower.val = c.val + 32 := congrArg Char.val (dif_pos upper)
    rw [if_pos range]
    exact (congrArg UInt32.toNat lower).trans (Nat.mod_eq_of_lt small)
  · have range : ¬ (65 ≤ c.toNat ∧ c.toNat ≤ 90) := by
      simpa [UInt32.le_iff_toNat_le] using upper
    rw [if_neg range]
    exact congrArg Char.toNat (dif_neg upper)

/-- No digit lies in a range that the runs of digits lie on either side of. -/
theorem isDecimal_eq_false {c : Char} (ranges : List (Nat × Nat))
    (apart : ∀ range ∈ ranges, ∀ start ∈ decimalZeros, start + 10 ≤ range.1 ∨ range.2 < start)
    (within : ∃ range ∈ ranges, range.1 ≤ c.toNat ∧ c.toNat ≤ range.2) : isDecimal c = false := by
  obtain ⟨range, listed, bounds⟩ := within
  rw [isDecimal, List.any_eq_false]
  intro start mem
  have apart := apart range listed start mem
  simp only [Bool.and_eq_true, decide_eq_true_eq]
  omega

theorem isDecimal_of_isBlank {c : Char} (blank : isBlank c = true) : isDecimal c = false := by
  refine isDecimal_eq_false [(0x09, 0x0D), (0x20, 0x20), (0x85, 0x85), (0xA0, 0xA0),
    (0x1680, 0x1680), (0x2000, 0x200A), (0x2028, 0x2029), (0x202F, 0x202F), (0x205F, 0x205F),
    (0x3000, 0x3000)] (by decide) ?_
  simp only [isBlank, Bool.or_eq_true, Bool.and_eq_true, decide_eq_true_eq, beq_iff_eq] at blank
  simp only [List.mem_cons, List.not_mem_nil, or_false, exists_eq_or_imp, exists_eq_left]
  omega

/-- A letter is neither a blank nor a digit. -/
theorem letter_apart {c : Char} (letter : 97 ≤ c.toLower.toNat ∧ c.toLower.toNat ≤ 122) :
    isBlank c = false ∧ isDecimal c = false := by
  have cases : 65 ≤ c.toNat ∧ c.toNat ≤ 90 ∨ 97 ≤ c.toNat ∧ c.toNat ≤ 122 := by
    rw [toNat_toLower] at letter
    split at letter <;> omega
  constructor
  · rw [← Bool.not_eq_true, isBlank]
    simp only [Bool.or_eq_true, Bool.and_eq_true, decide_eq_true_eq, beq_iff_eq]
    omega
  · refine isDecimal_eq_false [(65, 90), (97, 122)] (by decide) ?_
    simpa using cases

end Text

namespace Size

/-- How the units are spelled in the pattern, with the powers of two that they stand for. -/
inductive Spells : List Char → Nat → Prop where
  | none : Spells [] 0
  | byte {b : Char} : b.toLower = 'b' → Spells [b] 0
  | letter {c : Char} : isUnitLetter c = true → Spells [c] (power c)
  | short {c b : Char} : isUnitLetter c = true → b.toLower = 'b' → Spells [c, b] (power c)
  | long {c i b : Char} : isUnitLetter c = true → i.toLower = 'i' → b.toLower = 'b' →
      Spells [c, i, b] (power c)

/-- The text has the form of a size with these digits and a unit of this power of two. Which
characters are digits, and how units are written, is left open. -/
structure Form (isDigit : Char → Bool) (names : List Char → Nat → Prop)
    (text digits : List Char) (power : Nat) : Prop where
  some : digits ≠ []
  all : ∀ c ∈ digits, isDigit c = true
  split : ∃ before between unit after, text = before ++ digits ++ between ++ unit ++ after ∧
    (∀ c ∈ before ++ between ++ after, Text.isBlank c = true) ∧ names unit power

variable {unit after : List Char} {power' : Nat}

theorem isUnitLetter_apart {c : Char} (letter : isUnitLetter c = true) :
    Text.isBlank c = false ∧ Text.isDecimal c = false := by
  simp only [isUnitLetter, List.mem_cons, List.not_mem_nil, or_false, Bool.or_eq_true,
    decide_eq_true_eq, beq_iff_eq] at letter
  rcases letter with (k | m | g | t) | rfl
  · exact Text.letter_apart (by rw [k]; decide)
  · exact Text.letter_apart (by rw [m]; decide)
  · exact Text.letter_apart (by rw [g]; decide)
  · exact Text.letter_apart (by rw [t]; decide)
  · decide

/-- A unit begins with what is neither a blank nor a digit. -/
theorem Spells.head (h : Spells unit power') :
    ∀ c ∈ unit.head?, Text.isBlank c = false ∧ Text.isDecimal c = false := by
  intro c first
  cases h with
  | none => cases first
  | byte same =>
    obtain rfl := Option.some.inj first
    exact Text.letter_apart (by rw [same]; decide)
  | letter letter | short letter _ | long letter _ _ =>
    obtain rfl := Option.some.inj first
    exact isUnitLetter_apart letter

theorem toLower_ne_of_isBlank {c lower : Char} (blank : Text.isBlank c = true)
    (letter : 97 ≤ lower.toNat ∧ lower.toNat ≤ 122) : c.toLower ≠ lower := by
  rintro rfl
  rw [(Text.letter_apart letter).1] at blank
  cases blank

theorem dropUnitEnd_blank (blank : ∀ c ∈ after, Text.isBlank c = true) :
    dropUnitEnd after = after := by
  cases after with
  | nil => rfl
  | cons c rest =>
    have first := blank c (.head _)
    have noB : c.toLower ≠ 'b' := toLower_ne_of_isBlank first (by decide)
    have noI : c.toLower ≠ 'i' := toLower_ne_of_isBlank first (by decide)
    cases rest with
    | nil => exact if_neg noB
    | cons d more => exact (if_neg noB).trans (if_neg fun same => noI same.1)

/-- A unit is cut off as a whole where only blanks follow it. -/
theorem Spells.splitUnit_append (h : Spells unit power') (some : unit ≠ [])
    (blank : ∀ c ∈ after, Text.isBlank c = true) : splitUnit (unit ++ after) = (power', after) := by
  have stays := dropUnitEnd_blank blank
  cases h with
  | none => exact absurd rfl some
  | @byte b same =>
    have other : ¬ isUnitLetter b = true := by
      simp only [isUnitLetter, same]
      rintro sign
      obtain rfl : b = kelvinSign := by simpa using sign
      exact absurd same (by decide)
    exact (if_neg other).trans (if_pos same)
  | @letter c letter =>
    exact (if_pos letter).trans (congrArg (power c, ·) stays)
  | @short c b letter same =>
    exact (if_pos letter).trans (congrArg (power c, ·) (by cases after <;> exact if_pos same))
  | @long c i b letter same end' =>
    have other : i.toLower ≠ 'b' := by rw [same]; decide
    exact (if_pos letter).trans (congrArg (power c, ·) ((if_neg other).trans (if_pos ⟨same, end'⟩)))

theorem dropUnitEnd_split {c : Char} (letter : isUnitLetter c = true) (text : List Char) :
    ∃ ending, text = ending ++ dropUnitEnd text ∧ Spells (c :: ending) (power c) := by
  match text with
  | [] => exact ⟨[], rfl, .letter letter⟩
  | [d] =>
    by_cases b : d.toLower = 'b'
    · exact ⟨[d], congrArg (d :: ·) (if_pos b).symm, .short letter b⟩
    · exact ⟨[], (if_neg b).symm, .letter letter⟩
  | d :: e :: more =>
    by_cases b : d.toLower = 'b'
    · exact ⟨[d], congrArg (d :: ·) (if_pos b).symm, .short letter b⟩
    by_cases ib : d.toLower = 'i' ∧ e.toLower = 'b'
    · refine ⟨[d, e], congrArg (d :: e :: ·) ?_, .long letter ib.1 ib.2⟩
      exact ((if_neg b).trans (if_pos ib)).symm
    · exact ⟨[], ((if_neg b).trans (if_neg ib)).symm, .letter letter⟩

/-- What is cut off is a unit. -/
theorem splitUnit_split (text : List Char) :
    ∃ unit, text = unit ++ (splitUnit text).2 ∧ Spells unit (splitUnit text).1 := by
  cases text with
  | nil => exact ⟨[], rfl, .none⟩
  | cons c rest =>
    rw [splitUnit]
    by_cases letter : isUnitLetter c = true
    · obtain ⟨ending, split, unit⟩ := dropUnitEnd_split letter rest
      rw [if_pos letter]
      exact ⟨c :: ending, congrArg (c :: ·) split, unit⟩
    · rw [if_neg letter]
      by_cases b : c.toLower = 'b'
      · rw [if_pos b]
        exact ⟨[c], rfl, .byte b⟩
      · rw [if_neg b]
        exact ⟨[], rfl, .none⟩

theorem all_isBlank {text : List Char} :
    (∀ c ∈ text, Text.isBlank c = true) ↔ Text.trimStart text = [] :=
  List.dropWhile_eq_nil_iff.symm

/-- What the cut finds has the form of the pattern. -/
theorem form_of_split? {text digits : List Char} {power : Nat}
    (found : split? text = some (digits, power)) : Form Text.isDecimal Spells text digits power := by
  let start := Text.trimStart text
  let rest := start.dropWhile Text.isDecimal
  obtain ⟨unit, cut, names⟩ := splitUnit_split (Text.trimStart rest)
  have whole : (if start.takeWhile Text.isDecimal ≠ [] ∧
      Text.trimStart (splitUnit (Text.trimStart rest)).2 = [] then
        some (start.takeWhile Text.isDecimal, (splitUnit (Text.trimStart rest)).1)
      else none) = some (digits, power) := found
  split at whole
  case isFalse => cases whole
  case isTrue accepted =>
    obtain ⟨rfl, rfl⟩ := Prod.mk.inj (Option.some.inj whole)
    refine ⟨accepted.1, fun c mem => List.mem_takeWhile_imp mem, ?_⟩
    refine ⟨text.takeWhile Text.isBlank, rest.takeWhile Text.isBlank, unit,
      (splitUnit (Text.trimStart rest)).2, ?_, ?_, names⟩
    · have tail : rest = rest.takeWhile Text.isBlank ++ Text.trimStart rest :=
        List.takeWhile_append_dropWhile.symm
      calc text = text.takeWhile Text.isBlank ++ start :=
            List.takeWhile_append_dropWhile.symm
        _ = text.takeWhile Text.isBlank ++ (start.takeWhile Text.isDecimal ++ rest) :=
            congrArg _ List.takeWhile_append_dropWhile.symm
        _ = text.takeWhile Text.isBlank ++ (start.takeWhile Text.isDecimal ++
            (rest.takeWhile Text.isBlank ++ (unit ++ (splitUnit (Text.trimStart rest)).2))) := by
            rw [← cut, ← tail]
        _ = _ := by
            simp only [List.append_assoc]
    · intro c mem
      rw [List.mem_append, List.mem_append] at mem
      rcases mem with (first | second) | third
      · exact List.mem_takeWhile_imp first
      · exact List.mem_takeWhile_imp second
      · exact all_isBlank.2 accepted.2 c third

/-- Behind the digits the unit is found, if there is one, and nothing but blanks is left. -/
theorem Spells.splitUnit_trimStart {unit between after : List Char} {power : Nat}
    (h : Spells unit power) (blankBetween : ∀ c ∈ between, Text.isBlank c = true)
    (blankAfter : ∀ c ∈ after, Text.isBlank c = true) :
    ∃ left, splitUnit (Text.trimStart (between ++ (unit ++ after))) = (power, left) ∧
      Text.trimStart left = [] := by
  by_cases bare : unit = []
  · subst bare
    obtain rfl : power = 0 := by cases h; rfl
    have blank : Text.trimStart (between ++ after) = [] :=
      all_isBlank.1 (List.forall_mem_append.2 ⟨blankBetween, blankAfter⟩)
    exact ⟨[], by rw [List.nil_append, blank]; rfl, rfl⟩
  · have ends : ∀ c ∈ (unit ++ after).head?, Text.isBlank c = false := by
      rw [List.head?_append_of_ne_nil _ bare]
      exact fun c first => (h.head c first).1
    have cut : Text.trimStart (between ++ (unit ++ after)) = unit ++ after :=
      (Text.span_append blankBetween ends).2
    exact ⟨after, by rw [cut, h.splitUnit_append bare blankAfter], all_isBlank.1 blankAfter⟩

/-- Behind the digits there is no digit: a blank follows, a unit, or nothing. -/
theorem Spells.head_after {unit between after : List Char} {power : Nat}
    (h : Spells unit power) (blankBetween : ∀ c ∈ between, Text.isBlank c = true)
    (blankAfter : ∀ c ∈ after, Text.isBlank c = true) :
    ∀ c ∈ (between ++ (unit ++ after)).head?, Text.isDecimal c = false := by
  intro c first
  rw [List.head?_append, List.head?_append, Option.mem_def, Option.or_eq_some_iff,
    Option.or_eq_some_iff] at first
  rcases first with first | ⟨-, first | ⟨-, first⟩⟩
  · exact Text.isDecimal_of_isBlank (blankBetween c (List.mem_of_mem_head? first))
  · exact (h.head c first).2
  · exact Text.isDecimal_of_isBlank (blankAfter c (List.mem_of_mem_head? first))

/-- Every text of the form of the pattern is cut so. -/
theorem split?_of_form {text digits : List Char} {power : Nat}
    (form : Form Text.isDecimal Spells text digits power) : split? text = some (digits, power) := by
  obtain ⟨some, all, before, between, unit, after, rfl, blank, names⟩ := form
  obtain ⟨⟨blankBefore, blankBetween⟩, blankAfter⟩ :
      ((∀ c ∈ before, Text.isBlank c = true) ∧ ∀ c ∈ between, Text.isBlank c = true) ∧
        ∀ c ∈ after, Text.isBlank c = true := by
    simpa only [List.forall_mem_append] using blank
  have first : ∀ c ∈ (digits ++ (between ++ (unit ++ after))).head?, Text.isBlank c = false := by
    rw [List.head?_append_of_ne_nil _ some]
    intro c first
    by_contra blank
    have digit := all c (List.mem_of_mem_head? first)
    rw [Text.isDecimal_of_isBlank (Bool.of_not_eq_false blank)] at digit
    cases digit
  have start : Text.trimStart (before ++ (digits ++ (between ++ (unit ++ after)))) =
      digits ++ (between ++ (unit ++ after)) :=
    (Text.span_append blankBefore first).2
  have span := Text.span_append all (names.head_after blankBetween blankAfter)
  obtain ⟨left, found, none⟩ := names.splitUnit_trimStart blankBetween blankAfter
  simp only [split?, List.append_assoc, start, span, found, none]
  exact if_pos ⟨some, trivial⟩

/-- The cut finds the digits and the unit of every text that has the form of the pattern, and of no
other text. -/
theorem split?_eq_some {text digits : List Char} {power : Nat} :
    split? text = some (digits, power) ↔ Form Text.isDecimal Spells text digits power :=
  ⟨form_of_split?, split?_of_form⟩

theorem le_ofDigitChars (soFar : Nat) (digits : List Char) :
    soFar ≤ Nat.ofDigitChars 10 digits soFar := by
  induction digits generalizing soFar with
  | nil => exact Nat.le_refl _
  | cons c rest ih =>
    rw [Nat.ofDigitChars_cons]
    calc soFar ≤ 10 * soFar + (c.toNat - '0'.toNat) := by omega
      _ ≤ _ := ih _

/-- The reading gives the number if it is below the limit, however many digits it is written with:
what has been read only grows, so that stopping early refuses nothing else. -/
theorem readNumber_eq_ok {digits : List Char} {soFar n : Nat} (small : soFar < limit) :
    readNumber soFar digits = .ok n ↔
      (∀ c ∈ digits, c.isDigit = true) ∧ Nat.ofDigitChars 10 digits soFar = n ∧ n < limit := by
  induction digits generalizing soFar with
  | nil =>
    simp only [readNumber, Except.ok.injEq, List.not_mem_nil, false_implies, implies_true,
      true_and, Nat.ofDigitChars_nil]
    constructor
    · rintro rfl
      exact ⟨rfl, small⟩
    · exact And.left
  | cons c rest ih =>
    rw [readNumber, Text.digitValue?, Nat.ofDigitChars_cons, List.forall_mem_cons]
    by_cases digit : c.isDigit = true
    · rw [if_pos digit]
      dsimp only
      split
      case isTrue fits =>
        rw [ih fits]
        simp only [digit, true_and]
      case isFalse large =>
        refine ⟨nofun, fun ⟨_, value, bound⟩ => absurd ?_ large⟩
        calc 10 * soFar + (c.toNat - '0'.toNat)
            ≤ Nat.ofDigitChars 10 rest (10 * soFar + (c.toNat - '0'.toNat)) := le_ofDigitChars ..
          _ < limit := value ▸ bound
    · rw [if_neg digit]
      exact ⟨nofun, fun ⟨⟨holds, _⟩, _⟩ => absurd holds digit⟩

/-- The units as they are written in ASCII letters of either case. -/
def Names (unit : List Char) (power : Nat) : Prop :=
  unit.map Char.toLower ∈ [[], ['b']] ∧ power = 0 ∨
    ∃ letter, (letter, power) ∈ [('k', 10), ('m', 20), ('g', 30), ('t', 40)] ∧
      unit.map Char.toLower ∈ [[letter], [letter, 'b'], [letter, 'i', 'b']]

theorem power_mem {c : Char} (letter : c.toLower ∈ ['k', 'm', 'g', 't']) :
    (c.toLower, power c) ∈ [('k', 10), ('m', 20), ('g', 30), ('t', 40)] := by
  simp only [List.mem_cons, List.not_mem_nil, or_false] at letter
  rcases letter with same | same | same | same <;> rw [power, same] <;> decide

theorem eq_power {c : Char} {power' : Nat}
    (named : (c.toLower, power') ∈ [('k', 10), ('m', 20), ('g', 30), ('t', 40)]) :
    isUnitLetter c = true ∧ power' = power c := by
  simp only [List.mem_cons, List.not_mem_nil, or_false, Prod.mk.injEq] at named
  rcases named with ⟨same, rfl⟩ | ⟨same, rfl⟩ | ⟨same, rfl⟩ | ⟨same, rfl⟩ <;>
    exact ⟨by rw [isUnitLetter, same]; rfl, by rw [power, same]; rfl⟩

/-- Without the Kelvin sign, the units of the pattern are those of ASCII letters. -/
theorem spells_iff_names {unit : List Char} {power' : Nat} (unmarked : kelvinSign ∉ unit) :
    Spells unit power' ↔ Names unit power' := by
  have ascii : ∀ c ∈ unit, isUnitLetter c = true → c.toLower ∈ ['k', 'm', 'g', 't'] := by
    intro c mem letter
    rw [isUnitLetter, Bool.or_eq_true, decide_eq_true_eq, beq_iff_eq] at letter
    exact letter.resolve_right fun sign => unmarked (sign ▸ mem)
  constructor
  · intro h
    cases h with
    | none => exact .inl ⟨.head _, rfl⟩
    | @byte b same => exact .inl ⟨by simp [same], rfl⟩
    | @letter c letter =>
      exact .inr ⟨c.toLower, power_mem (ascii c (.head _) letter), by simp⟩
    | @short c b letter same =>
      exact .inr ⟨c.toLower, power_mem (ascii c (.head _) letter), by simp [same]⟩
    | @long c i b letter same end' =>
      exact .inr ⟨c.toLower, power_mem (ascii c (.head _) letter), by simp [same, end']⟩
  · rintro (⟨spelled, rfl⟩ | ⟨letter, named, spelled⟩)
    · simp only [List.mem_cons, List.not_mem_nil, or_false, List.map_eq_nil_iff,
        List.map_eq_singleton_iff] at spelled
      rcases spelled with rfl | ⟨b, rfl, same⟩
      · exact .none
      · exact .byte same
    · simp only [List.mem_cons, List.not_mem_nil, or_false, List.map_eq_cons_iff,
        List.map_eq_nil_iff] at spelled
      rcases spelled with ⟨c, _, rfl, rfl, rfl⟩ | ⟨c, _, rfl, rfl, b, _, rfl, same, rfl⟩ |
        ⟨c, _, rfl, rfl, i, _, rfl, same, b, _, rfl, end', rfl⟩
      · obtain ⟨letter, rfl⟩ := eq_power named
        exact .letter letter
      · obtain ⟨letter, rfl⟩ := eq_power named
        exact .short letter same
      · obtain ⟨letter, rfl⟩ := eq_power named
        exact .long letter same end'

/-- The text is a number in ASCII digits and a unit, if any, in ASCII letters, with blanks around
both, and says this many bytes. -/
def Says (text : List Char) (bytes : Nat) : Prop :=
  ∃ digits power, Form Char.isDigit Names text digits power ∧
    bytes = Nat.ofDigitChars 10 digits 0 * 2 ^ power

theorem form_iff {text digits : List Char} {power : Nat} (unmarked : kelvinSign ∉ text) :
    Form Text.isDecimal Spells text digits power ∧ (∀ c ∈ digits, c.isDigit = true) ↔
      Form Char.isDigit Names text digits power := by
  constructor
  · rintro ⟨⟨some, -, before, between, unit, after, rfl, blank, names⟩, ascii⟩
    refine ⟨some, ascii, before, between, unit, after, rfl, blank, (spells_iff_names ?_).1 names⟩
    exact fun mem => unmarked (by simp [mem])
  · rintro ⟨some, ascii, before, between, unit, after, rfl, blank, names⟩
    refine ⟨⟨some, fun c mem => Text.isDecimal_of_isDigit (ascii c mem), before, between, unit,
      after, rfl, blank, (spells_iff_names ?_).2 names⟩, ascii⟩
    exact fun mem => unmarked (by simp [mem])

/-- The product is compared with the limit before it becomes a size, so that no size is wrapped. -/
theorem parse_eq_ok {text : String} {size : UInt64} :
    parse text = .ok size ↔ ∃ digits power, split? text.toList = some (digits, power) ∧
      (∀ c ∈ digits, c.isDigit = true) ∧
      size.toNat = Nat.ofDigitChars 10 digits 0 * 2 ^ power := by
  rw [parse]
  constructor
  · intro accepted
    split at accepted
    case h_1 => cases accepted
    case h_2 digits power cut =>
    split at accepted
    case h_1 => cases accepted
    case h_2 number read =>
    split at accepted
    case isFalse => cases accepted
    case isTrue fits =>
      obtain ⟨ascii, rfl, -⟩ := (readNumber_eq_ok (by decide)).1 read
      obtain rfl := Except.ok.inj accepted
      exact ⟨digits, power, cut, ascii, UInt64.toNat_ofNat_of_lt' fits⟩
  · rintro ⟨digits, power, cut, ascii, value⟩
    have fits : Nat.ofDigitChars 10 digits 0 * scale power < limit := value ▸ size.toNat_lt
    have read : readNumber 0 digits = .ok (Nat.ofDigitChars 10 digits 0) :=
      (readNumber_eq_ok (by decide)).2 ⟨ascii, rfl,
        (Nat.le_mul_of_pos_right _ (Nat.two_pow_pos power)).trans_lt fits⟩
    simp only [cut, read]
    rw [if_pos fits]
    exact congrArg _ (UInt64.toNat.inj ((UInt64.toNat_ofNat_of_lt' fits).trans value.symm))

/-- A text is read as a size exactly if it says that many bytes. A text that says nothing, or
more than a size can hold, is refused. -/
theorem parse_reads_exactly (text : String) (unmarked : kelvinSign ∉ text.toList) :
    (∀ size, parse text = .ok size ↔ Says text.toList size.toNat) ∧
      ((∀ bytes, Says text.toList bytes → 2 ^ 64 ≤ bytes) → ∃ error, parse text = .error error) := by
  have accepts : ∀ size, parse text = .ok size ↔ Says text.toList size.toNat := by
    intro size
    simp only [parse_eq_ok, Says, split?_eq_some, ← form_iff unmarked, and_assoc]
  refine ⟨accepts, fun none => ?_⟩
  cases read : parse text with
  | error error => exact ⟨error, rfl⟩
  | ok size => exact absurd (none _ ((accepts size).1 read)) (Nat.not_le.2 size.toNat_lt)

theorem parse_two_gibibytes :
    kelvinSign ∉ " 2 GiB ".toList ∧ parse " 2 GiB " = .ok 2147483648 := by
  have unmarked : kelvinSign ∉ " 2 GiB ".toList := by decide +kernel
  have form : Form Char.isDigit Names " 2 GiB ".toList ['2'] 30 := by
    refine ⟨by decide, List.forall_mem_singleton.2 rfl, [' '], [' '], ['G', 'i', 'B'], [' '], rfl,
      ?_, .inr ⟨'g', by decide, by decide⟩⟩
    simp only [List.forall_mem_append, List.forall_mem_singleton]
    decide
  exact ⟨unmarked, ((parse_reads_exactly " 2 GiB " unmarked).1 _).2 ⟨['2'], 30, form, by decide⟩⟩

end Size
end CgroupBench
