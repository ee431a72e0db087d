import CgroupBench.Proofs.CaseFolding
import CgroupBench.Proofs.SizeForm

/-!
# Sizes up to case

Texts that are equal up to case are accepted or refused alike, and they are read as the same size
as long as none of them has the Kelvin sign. The pattern folds this sign to the letter k, but only
ASCII letters name their units afterwards: the sign multiplies by the largest unit. So an accepted
text with the sign says 2³⁰ times what it says with a plain k.
-/
namespace CgroupBench.Size

/-- The texts are equal once all case is folded. -/
def SameUpToCase (first second : List Char) : Prop :=
  first.map Text.foldCase = second.map Text.foldCase

/-- There are only blanks and digits, which have no case. -/
def Uncased (part : List Char) : Prop :=
  ∀ c ∈ part, Text.isBlank c = true ∨ Text.isDecimal c = true

/-- The first text has the sign and the second one has not, and the second one is a size above zero. -/
def Strays (marked plain : String) : Prop :=
  kelvinSign ∈ marked.toList ∧ kelvinSign ∉ plain.toList ∧
    ∃ size, parse plain = .ok size ∧ size ≠ 0

/-! ## Characters up to case -/

theorem foldCase_kelvinSign : Text.foldCase kelvinSign = 'k' := by
  decide +kernel

theorem foldCase_eq_iff {c letter : Char} (ascii : letter.toNat < 128) (other : letter ≠ 's') :
    Text.foldCase c = letter ↔ c.toLower = letter ∨ letter = 'k' ∧ c = kelvinSign := by
  constructor
  · rintro rfl
    rcases Text.of_foldCase_ascii ascii with low | rfl | rfl
    · exact .inl (Text.foldCase_of_ascii low).symm
    · exact absurd (by decide +kernel) other
    · exact .inr ⟨foldCase_kelvinSign, rfl⟩
  · rintro (rfl | ⟨rfl, rfl⟩)
    · have low : c.toNat < 128 := by
        rw [Text.toNat_toLower] at ascii
        split at ascii <;> omega
      exact Text.foldCase_of_ascii low
    · exact foldCase_kelvinSign

theorem plain_letter {letter : Char} (listed : letter ∈ ['k', 'm', 'g', 't', 'b', 'i']) :
    letter.toNat < 128 ∧ letter ≠ 's' ∧ letter.toLower = letter := by
  simp only [List.mem_cons, List.not_mem_nil, or_false] at listed
  rcases listed with rfl | rfl | rfl | rfl | rfl | rfl <;> decide

/-- Of the letters of the pattern, only k has the sign beside its two cases. -/
theorem toLower_eq_iff {c letter : Char} (listed : letter ∈ ['k', 'm', 'g', 't', 'b', 'i'])
    (other : letter ≠ 'k') : c.toLower = letter ↔ Text.foldCase c = letter := by
  obtain ⟨ascii, notS, -⟩ := plain_letter listed
  rw [foldCase_eq_iff ascii notS]
  exact ⟨.inl, fun same => same.resolve_right fun sign => other sign.1⟩

/-- The pattern asks for a letter up to case. -/
theorem isUnitLetter_iff {c : Char} :
    isUnitLetter c = true ↔ Text.foldCase c ∈ ['k', 'm', 'g', 't'] := by
  have k : Text.foldCase c = 'k' ↔ c.toLower = 'k' ∨ c = kelvinSign := by
    rw [foldCase_eq_iff (by decide) (by decide)]
    simp
  have m : c.toLower = 'm' ↔ Text.foldCase c = 'm' := toLower_eq_iff (by decide) (by decide)
  have g : c.toLower = 'g' ↔ Text.foldCase c = 'g' := toLower_eq_iff (by decide) (by decide)
  have t : c.toLower = 't' ↔ Text.foldCase c = 't' := toLower_eq_iff (by decide) (by decide)
  simp only [isUnitLetter, List.mem_cons, List.not_mem_nil, or_false, Bool.or_eq_true,
    decide_eq_true_eq, beq_iff_eq, k, m, g, t]
  exact or_right_comm

/-- A unit letter has the power of what it is folded to, but for the sign. -/
theorem power_eq {c : Char} (letter : isUnitLetter c = true) :
    power c = if c = kelvinSign then 40 else power (Text.foldCase c) := by
  by_cases sign : c = kelvinSign
  · subst sign
    decide
  · have lower : c.toLower ∈ ['k', 'm', 'g', 't'] := by
      simpa [isUnitLetter, sign] using letter
    obtain ⟨ascii, notS, idle⟩ := plain_letter (List.mem_append_left ['b', 'i'] lower)
    have folded : Text.foldCase c = c.toLower := (foldCase_eq_iff ascii notS).2 (.inl rfl)
    rw [if_neg sign, folded, power, power, idle]

/-- The letters behind a unit letter are the same up to case, and never the sign. -/
theorem ending_upToCase {c d letter : Char} (listed : letter ∈ ['b', 'i'])
    (spelled : c.toLower = letter) (same : Text.foldCase d = Text.foldCase c) :
    d.toLower = letter ∧ kelvinSign ≠ d := by
  have known : letter ∈ ['k', 'm', 'g', 't', 'b', 'i'] :=
    List.mem_append_right ['k', 'm', 'g', 't'] listed
  have apart : letter ≠ 'k' ∧ kelvinSign.toLower ≠ letter := by
    simp only [List.mem_cons, List.not_mem_nil, or_false] at listed
    rcases listed with rfl | rfl <;> decide
  have lower : d.toLower = letter := by
    rwa [toLower_eq_iff known apart.1, same, ← toLower_eq_iff known apart.1]
  refine ⟨lower, ?_⟩
  rintro rfl
  exact apart.2 lower

/-! ## Texts up to case -/

/-- Blanks and digits are equal up to case only to themselves. -/
theorem Uncased.eq_of_same {part other : List Char} (uncased : Uncased part)
    (same : SameUpToCase other part) : other = part := by
  induction part generalizing other with
  | nil => exact List.map_eq_nil_iff.1 same
  | cons c rest ih =>
    obtain ⟨d, more, rfl, first, later⟩ := List.map_eq_cons_iff.1 same
    have kept : d = c := by
      rcases uncased c (.head _) with blank | digit
      · rw [Text.foldCase_blank (.inl blank)] at first
        rw [← first, Text.foldCase_blank (.inr (first ▸ blank))]
      · rw [Text.foldCase_decimal (.inl digit)] at first
        rw [← first, Text.foldCase_decimal (.inr (first ▸ digit))]
    rw [kept, ih (fun c mem => uncased c (.tail _ mem)) later]

theorem Uncased.unmarked {part : List Char} (uncased : Uncased part) : kelvinSign ∉ part := by
  intro mem
  exact absurd (uncased _ mem) (by decide)

/-- The power of a unit that begins with a letter is told by the letter up to case, but for the
sign. -/
theorem spells_letter {c d : Char} {ending : List Char} (letter : isUnitLetter c = true)
    (same : Text.foldCase d = Text.foldCase c) (unmarked : kelvinSign ∉ ending)
    (spells : isUnitLetter d = true → Spells (d :: ending) (power d)) :
    Spells (d :: ending) (if kelvinSign ∈ d :: ending then 40 else power (Text.foldCase c)) ∧
      (kelvinSign ∈ d :: ending → power (Text.foldCase c) = 10) := by
  have letter' : isUnitLetter d = true := by
    rwa [isUnitLetter_iff, same, ← isUnitLetter_iff]
  have marked : kelvinSign ∈ d :: ending ↔ d = kelvinSign := by
    rw [List.mem_cons, or_iff_left unmarked, eq_comm]
  simp only [marked]
  constructor
  · rw [← same, ← power_eq letter']
    exact spells letter'
  · rintro rfl
    rw [← same, foldCase_kelvinSign]
    decide

/-- How a unit is spelled up to case decides what its spellings stand for, but for the sign. -/
theorem Spells.upToCase {unit : List Char} {power' : Nat} (h : Spells unit power') :
    ∃ plain, ∀ other, SameUpToCase other unit →
      Spells other (if kelvinSign ∈ other then 40 else plain) ∧
        (kelvinSign ∈ other → plain = 10) := by
  cases h with
  | none =>
    refine ⟨0, fun other same => ?_⟩
    obtain rfl := List.map_eq_nil_iff.1 same
    exact ⟨.none, nofun⟩
  | @byte b spelled =>
    refine ⟨0, fun other same => ?_⟩
    obtain ⟨b', rfl, first⟩ := List.map_eq_singleton_iff.1 same
    obtain ⟨lower, plain⟩ := ending_upToCase (by decide) spelled first
    have unmarked : kelvinSign ∉ [b'] := by simp [plain]
    rw [if_neg unmarked]
    exact ⟨.byte lower, fun mem => absurd mem unmarked⟩
  | @letter c letter =>
    refine ⟨power (Text.foldCase c), fun other same => ?_⟩
    obtain ⟨d, rfl, first⟩ := List.map_eq_singleton_iff.1 same
    exact spells_letter letter first nofun .letter
  | @short c b letter spelled =>
    refine ⟨power (Text.foldCase c), fun other same => ?_⟩
    obtain ⟨d, _, rfl, first, same⟩ := List.map_eq_cons_iff.1 same
    obtain ⟨b', rfl, second⟩ := List.map_eq_singleton_iff.1 same
    obtain ⟨lower, plain⟩ := ending_upToCase (by decide) spelled second
    exact spells_letter letter first (by simp [plain]) fun letter' => .short letter' lower
  | @long c i b letter middle spelled =>
    refine ⟨power (Text.foldCase c), fun other same => ?_⟩
    obtain ⟨d, _, rfl, first, same⟩ := List.map_eq_cons_iff.1 same
    obtain ⟨i', _, rfl, second, same⟩ := List.map_eq_cons_iff.1 same
    obtain ⟨b', rfl, third⟩ := List.map_eq_singleton_iff.1 same
    obtain ⟨lower, plain⟩ := ending_upToCase (by decide) middle second
    obtain ⟨lower', plain'⟩ := ending_upToCase (by decide) spelled third
    exact spells_letter letter first (by simp [plain, plain'])
      fun letter' => .long letter' lower lower'

/-- Texts that are equal up to case have the same digits and, but for the sign, the same unit. -/
theorem Form.upToCase {text digits : List Char} {power' : Nat}
    (form : Form Text.isDecimal Spells text digits power') :
    ∃ plain, ∀ other, SameUpToCase other text →
      Form Text.isDecimal Spells other digits (if kelvinSign ∈ other then 40 else plain) ∧
        (kelvinSign ∈ other → plain = 10) := by
  obtain ⟨some, all, before, between, unit, after, rfl, blank, spells⟩ := form
  obtain ⟨plain, spellings⟩ := spells.upToCase
  refine ⟨plain, fun other same => ?_⟩
  unfold SameUpToCase at same
  simp only [List.map_append, List.append_assoc] at same
  obtain ⟨before', other, rfl, first, same⟩ := List.map_eq_append_iff.1 same
  obtain ⟨digits', other, rfl, second, same⟩ := List.map_eq_append_iff.1 same
  obtain ⟨between', other, rfl, third, same⟩ := List.map_eq_append_iff.1 same
  obtain ⟨unit', after', rfl, fourth, fifth⟩ := List.map_eq_append_iff.1 same
  have blanks := blank
  simp only [List.forall_mem_append] at blanks
  have front : Uncased before := fun c mem => .inl (blanks.1.1 c mem)
  have number : Uncased digits := fun c mem => .inr (all c mem)
  have middle : Uncased between := fun c mem => .inl (blanks.1.2 c mem)
  have back : Uncased after := fun c mem => .inl (blanks.2 c mem)
  obtain rfl := front.eq_of_same first
  obtain rfl := number.eq_of_same second
  obtain rfl := middle.eq_of_same third
  obtain rfl := back.eq_of_same fifth
  simp only [List.mem_append, front.unmarked, number.unmarked, middle.unmarked, back.unmarked,
    false_or, or_false]
  obtain ⟨spelled, sign⟩ := spellings unit' fourth
  refine ⟨⟨some, all, before', between', unit', after', ?_, blank, spelled⟩, sign⟩
  simp only [List.append_assoc]

/-- Texts that are equal up to case are cut alike, but for the sign. -/
theorem split?_upToCase (text : List Char) :
    (∀ other, SameUpToCase other text → split? other = none) ∨
      ∃ digits plain, ∀ other, SameUpToCase other text →
        split? other = some (digits, if kelvinSign ∈ other then 40 else plain) ∧
          (kelvinSign ∈ other → plain = 10) := by
  by_cases none : ∀ other, SameUpToCase other text → split? other = none
  · exact .inl none
  · push Not at none
    -- one text that is cut tells the form of all of them
    obtain ⟨some, same, found⟩ := none
    obtain ⟨⟨digits, power⟩, cut⟩ := Option.ne_none_iff_exists'.1 found
    obtain ⟨plain, forms⟩ := (split?_eq_some.1 cut).upToCase
    refine .inr ⟨digits, plain, fun other same' => ?_⟩
    obtain ⟨form, sign⟩ := forms other (same'.trans same.symm)
    exact ⟨split?_eq_some.2 form, sign⟩

/-! ## Sizes up to case -/

theorem parse_of_split? {text : String} {digits : List Char} {power : Nat}
    (cut : split? text.toList = some (digits, power)) (size : UInt64) :
    parse text = .ok size ↔ (∀ c ∈ digits, c.isDigit = true) ∧
      size.toNat = Nat.ofDigitChars 10 digits 0 * 2 ^ power := by
  rw [parse_eq_ok, cut]
  grind

theorem parse_of_split?_none {text : String} (none : split? text.toList = none) (size : UInt64) :
    parse text ≠ .ok size := by
  intro read
  obtain ⟨digits, power, cut, -⟩ := parse_eq_ok.1 read
  rw [none] at cut
  cases cut

theorem toOption_eq_iff {α ε : Type} {first second : Except ε α} :
    first.toOption = second.toOption ↔ ∀ value, first = .ok value ↔ second = .ok value := by
  cases first <;> cases second <;> simp [Except.toOption]

section

variable {first second : String} (same : SameUpToCase first.toList second.toList)
include same

/-- With the sign in both or in neither, the texts are read alike. -/
theorem parse_alike (alike : kelvinSign ∈ first.toList ↔ kelvinSign ∈ second.toList) :
    (parse first).toOption = (parse second).toOption := by
  rw [toOption_eq_iff]
  intro size
  rcases split?_upToCase second.toList with none | ⟨digits, plain, cut⟩
  · have refused := parse_of_split?_none (none _ same) size
    have refused' := parse_of_split?_none (none _ rfl) size
    exact iff_of_false refused refused'
  · rw [parse_of_split? (cut _ same).1, parse_of_split? (cut _ rfl).1]
    simp only [alike]

/-- With the sign in the first text only, this says 2³⁰ times as much as the other. -/
theorem parse_marked (marked : kelvinSign ∈ first.toList) (unmarked : kelvinSign ∉ second.toList)
    (size : UInt64) :
    parse first = .ok size ↔ ∃ less, parse second = .ok less ∧ size.toNat = less.toNat * 2 ^ 30 := by
  rcases split?_upToCase second.toList with none | ⟨digits, plain, cut⟩
  · have refused := parse_of_split?_none (none _ same) size
    have refused' := parse_of_split?_none (none _ rfl)
    refine iff_of_false refused ?_
    rintro ⟨less, read, -⟩
    exact refused' less read
  · obtain ⟨cutFirst, sign⟩ := cut _ same
    obtain ⟨cutSecond, -⟩ := cut _ rfl
    rw [if_pos marked] at cutFirst
    rw [if_neg unmarked, sign marked] at cutSecond
    simp only [parse_of_split? cutFirst, parse_of_split? cutSecond]
    constructor
    · rintro ⟨ascii, value⟩
      -- what fits with the power of the sign fits with that of k
      have fits : Nat.ofDigitChars 10 digits 0 * 2 ^ 10 < UInt64.size := by
        have bound := size.toNat_lt
        unfold UInt64.size
        omega
      have less := UInt64.toNat_ofNat_of_lt' fits
      exact ⟨_, ⟨ascii, less⟩, by rw [less, value]; omega⟩
    · rintro ⟨less, ⟨ascii, value⟩, more⟩
      exact ⟨ascii, by rw [more, value, Nat.mul_assoc, ← Nat.pow_add]⟩

end

/-- Then the two texts differ as sizes exactly if the other one is a size above zero. -/
theorem parse_marked_eq_iff {first second : String}
    (same : SameUpToCase first.toList second.toList) (marked : kelvinSign ∈ first.toList)
    (unmarked : kelvinSign ∉ second.toList) :
    (parse first).toOption = (parse second).toOption ↔ ¬ Strays first second := by
  have more := parse_marked same marked unmarked
  rw [toOption_eq_iff]
  constructor
  · rintro alike ⟨-, -, size, read, some⟩
    obtain ⟨less, read', value⟩ := (more size).1 ((alike size).2 read)
    obtain rfl : less = size := Except.ok.inj (read'.symm.trans read)
    exact some (UInt64.toNat.inj (by show less.toNat = 0; omega))
  · intro straight size
    have zero : ∀ less, parse second = .ok less → less = 0 := by
      intro less read
      by_contra some
      exact straight ⟨marked, unmarked, less, read, some⟩
    rw [more]
    constructor
    · rintro ⟨less, read, value⟩
      obtain rfl := zero less read
      obtain rfl : size = 0 := UInt64.toNat.inj value
      exact read
    · intro read
      obtain rfl := zero size read
      exact ⟨0, read, rfl⟩

theorem power_named_iff {c : Char} (letter : isUnitLetter c = true) :
    (Text.foldCase c, power c) ∈ [('k', 10), ('m', 20), ('g', 30), ('t', 40)] ↔
      c ≠ kelvinSign := by
  rw [power_eq letter]
  split
  next sign =>
    rw [sign, foldCase_kelvinSign]
    decide
  next plain =>
    refine iff_of_true ?_ plain
    have named := isUnitLetter_iff.1 letter
    simp only [List.mem_cons, List.not_mem_nil, or_false] at named
    rcases named with same | same | same | same <;> rw [same] <;> decide

/-- Texts that are equal up to case are read alike, unless one of them has the Kelvin sign where the
other has a plain k: that one says 2³⁰ times as much. The sign is the one letter of the pattern that
does not have the power of the letter it is folded to. -/
theorem parse_upToCase (first second : String)
    (same : SameUpToCase first.toList second.toList) :
    ((parse first).toOption = (parse second).toOption ↔
        ¬ Strays first second ∧ ¬ Strays second first) ∧
      (kelvinSign ∈ first.toList → kelvinSign ∉ second.toList → ∀ size, parse first = .ok size ↔
        ∃ less, parse second = .ok less ∧ size.toNat = less.toNat * 2 ^ 30) ∧
      ∀ c, isUnitLetter c = true → ((Text.foldCase c, power c) ∈
        [('k', 10), ('m', 20), ('g', 30), ('t', 40)] ↔ c ≠ kelvinSign) := by
  refine ⟨?_, parse_marked same, fun c => power_named_iff⟩
  -- only a text with the sign can stray, and only from one without it
  by_cases inFirst : kelvinSign ∈ first.toList <;> by_cases inSecond : kelvinSign ∈ second.toList
  · refine iff_of_true (parse_alike same (iff_of_true inFirst inSecond)) ⟨?_, ?_⟩
    · exact fun strays => strays.2.1 inSecond
    · exact fun strays => strays.2.1 inFirst
  · rw [parse_marked_eq_iff same inFirst inSecond]
    exact (and_iff_left fun strays => inSecond strays.1).symm
  · rw [eq_comm, parse_marked_eq_iff same.symm inSecond inFirst]
    exact (and_iff_right fun strays => inFirst strays.1).symm
  · refine iff_of_true (parse_alike same (iff_of_false inFirst inSecond)) ⟨?_, ?_⟩
    · exact fun strays => inFirst strays.1
    · exact fun strays => inSecond strays.1

theorem parse_upToCase_on_kibibytes :
    SameUpToCase "2 \u212aiB".toList "2 kib".toList ∧ parse "2 kib" = .ok 2048 ∧
      parse "2 \u212aiB" = .ok 2199023255552 := by
  have same : SameUpToCase "2 \u212aiB".toList "2 kib".toList := by
    unfold SameUpToCase
    decide +kernel
  have plain : parse "2 kib" = .ok 2048 := by decide +kernel
  have marked := (parse_upToCase _ _ same).2.1 (by decide +kernel) (by decide +kernel)
  exact ⟨same, plain, (marked 2199023255552).2 ⟨2048, plain, by decide⟩⟩

/-- The sign is taken for a k and multiplies by 2⁴⁰. -/
theorem kelvin_is_no_k :
    SameUpToCase "1\u212a".toList "1k".toList ∧ parse "1\u212a" = .ok 1099511627776 ∧
      parse "1k" = .ok 1024 := by
  unfold SameUpToCase
  decide +kernel

end CgroupBench.Size
