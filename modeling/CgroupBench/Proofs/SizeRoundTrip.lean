import CgroupBench.Proofs.SizeForm

/-!
# Sizes written and read back

A size is written as a number of bytes, as a whole number of the greatest unit that is not above
it, or as a quotient with two places. The first two are read back as the size that was written.
A quotient has a character in it that stands in no size, so it is refused and never read as some
other size. This holds of whatever float is written there; its rounding does not matter.
-/
namespace CgroupBench

namespace Size

/-- The greatest unit that is not above this many bytes stands for this power of two. -/
def GreatestUnit (power bytes : Nat) : Prop :=
  power ∈ [10, 20, 30, 40] ∧ 2 ^ power ≤ bytes ∧
    ∀ other ∈ [10, 20, 30, 40], 2 ^ other ≤ bytes → other ≤ power

theorem GreatestUnit.unique {power other bytes : Nat} (first : GreatestUnit power bytes)
    (second : GreatestUnit other bytes) : power = other :=
  le_antisymm (second.2.2 power first.1 first.2.1) (first.2.2 other second.1 second.2.1)

theorem GreatestUnit.least {power bytes : Nat} (greatest : GreatestUnit power bytes) :
    2 ^ 10 ≤ bytes := by
  obtain ⟨known, fits, -⟩ := greatest
  have atLeast : 10 ≤ power := by
    simp at known
    omega
  exact (Nat.pow_le_pow_right (by decide) atLeast).trans fits

/-- The first unit that fits is the greatest, since the units are listed from the greatest down. -/
theorem greatestUnit_of_find? {n power : Nat} {label : String}
    (found : (units.find? fun unit => scale unit.1 ≤ n) = some (power, label)) :
    (power, label) ∈ units ∧ GreatestUnit power n := by
  have descending : units.Pairwise fun greater less => less.1 < greater.1 := by decide
  have powers : units.map Prod.fst = [10, 20, 30, 40].reverse := rfl
  have listed : (power, label) ∈ units := List.mem_of_find?_eq_some found
  have known : power ∈ units.map Prod.fst := List.mem_map_of_mem listed
  obtain ⟨fits, greater, less, split, tooGreat⟩ := List.find?_eq_some_iff_append.1 found
  rw [powers, List.mem_reverse] at known
  refine ⟨listed, known, of_decide_eq_true fits, fun other mem fitsToo => ?_⟩
  rw [← List.mem_reverse, ← powers] at mem
  obtain ⟨unit, listed', rfl⟩ := List.mem_map.1 mem
  rw [split, List.mem_append, List.mem_cons] at listed'
  rw [split, List.pairwise_append, List.pairwise_cons] at descending
  rcases listed' with before | rfl | after
  · have absent : ¬ scale unit.1 ≤ n := by simpa using tooGreat unit before
    exact absurd fitsToo absent
  · exact le_refl _
  · exact (descending.2.1.1 unit after).le

theorem lt_of_find?_eq_none {n : Nat}
    (none : (units.find? fun unit => scale unit.1 ≤ n) = none) : n < 1024 := by
  have least : ¬ scale 10 ≤ n := by
    simpa using List.find?_eq_none.1 none (10, "KiB") (by decide)
  exact Nat.not_le.1 least

/-- The labels of the units are spelled as the pattern has it. -/
theorem spells_of_mem_units {power : Nat} {label : String} (listed : (power, label) ∈ units) :
    Spells label.toList power := by
  simp only [units, List.mem_cons, Prod.mk.injEq, List.not_mem_nil, or_false] at listed
  rcases listed with ⟨rfl, rfl⟩ | ⟨rfl, rfl⟩ | ⟨rfl, rfl⟩ | ⟨rfl, rfl⟩
  · exact .long (c := 'T') (by decide) (by decide) (by decide)
  · exact .long (c := 'G') (by decide) (by decide) (by decide)
  · exact .long (c := 'M') (by decide) (by decide) (by decide)
  · exact .long (c := 'K') (by decide) (by decide) (by decide)

/-- A number and its unit are read as what they say, if that is a size. -/
theorem parse_whole {text : String} {n power : Nat} {unit : List Char} (spells : Spells unit power)
    (written : text.toList = Nat.toDigits 10 n ++ ' ' :: unit) (size : UInt64) :
    parse text = .ok size ↔ size.toNat = n * 2 ^ power := by
  have digits : ∀ c ∈ Nat.toDigits 10 n, c.isDigit = true := fun c mem =>
    Nat.isDigit_of_mem_toDigits (by decide) (by decide) mem
  have form : Form Text.isDecimal Spells text.toList (Nat.toDigits 10 n) power := by
    refine ⟨Nat.toDigits_ne_nil, fun c mem => Text.isDecimal_of_isDigit (digits c mem),
      [], [' '], unit, [], ?_, List.forall_mem_singleton.2 rfl, spells⟩
    simp [written]
  have cut := split?_eq_some.2 form
  rw [parse_eq_ok]
  constructor
  · rintro ⟨digits', power', cut', -, value⟩
    rw [cut] at cut'
    obtain ⟨rfl, rfl⟩ := Prod.mk.inj (Option.some.inj cut')
    rw [value, Nat.ofDigitChars_ten_toDigits]
  · intro value
    exact ⟨_, _, cut, digits, by rw [value, Nat.ofDigitChars_ten_toDigits]⟩

/-- A size is made of blanks, digits, and the letters of its unit. -/
theorem Form.mem {text digits : List Char} {power : Nat}
    (form : Form Text.isDecimal Spells text digits power) {c : Char} (mem : c ∈ text) :
    Text.isBlank c = true ∨ Text.isDecimal c = true ∨ isUnitLetter c = true ∨
      c.toLower = 'i' ∨ c.toLower = 'b' := by
  obtain ⟨-, all, before, between, unit, after, rfl, blank, spells⟩ := form
  simp only [List.mem_append] at mem blank
  rcases mem with (((mem | mem) | mem) | mem) | mem
  · exact .inl (blank c (.inl (.inl mem)))
  · exact .inr (.inl (all c mem))
  · exact .inl (blank c (.inl (.inr mem)))
  · cases spells <;> simp only [List.mem_cons, List.not_mem_nil, or_false] at mem <;> grind
  · exact .inl (blank c (.inr mem))

/-- These stand in no size. -/
theorem parse_foreign {text : String} {c : Char} (foreign : c ∈ ['.', 'a', 'f'])
    (mem : c ∈ text.toList) : ∃ error, parse text = .error error := by
  cases read : parse text with
  | error error => exact ⟨error, rfl⟩
  | ok size =>
    obtain ⟨digits, power, cut, -⟩ := parse_eq_ok.1 read
    have known := (split?_eq_some.1 cut).mem mem
    simp only [List.mem_cons, List.not_mem_nil, or_false] at foreign
    rcases foreign with rfl | rfl | rfl
    · exact absurd known (by decide)
    · exact absurd known (by decide)
    · exact absurd known (by decide)

end Size

/-- A float with places has a point in it, or it is no number. -/
theorem Decimal.toPlaces_foreign (value : Float) (places : Nat) (some : places ≠ 0) :
    ∃ c ∈ ['.', 'a', 'f'], c ∈ (toPlaces value places).toList := by
  have pointed : ∀ count, '.' ∈ (withPoint places count).toList := by
    intro count
    simp [withPoint, some]
  unfold toPlaces
  cases Reading.ofFloat value with
  | notANumber => exact ⟨'a', by decide, by simp⟩
  | infinite negative => exact ⟨'f', by decide, by cases negative <;> simp⟩
  | finite value =>
    refine ⟨'.', by decide, ?_⟩
    dsimp only [Finite.toPlaces]
    split
    · rw [String.toList_append, List.mem_append]
      exact .inr (pointed _)
    · exact pointed _

namespace Size

section Format

variable {size : UInt64} {power : Nat} {label : String}

theorem format_bytes (none : (units.find? fun unit => scale unit.1 ≤ size.toNat) = none) :
    (format size).toList = Nat.toDigits 10 size.toNat ++ [' ', 'B'] := by
  unfold format
  simp only [none]
  rw [String.toList_append]
  exact congrArg₂ (· ++ ·) Nat.toList_repr (by decide)

theorem format_whole
    (found : (units.find? fun unit => scale unit.1 ≤ size.toNat) = some (power, label))
    (whole : size.toNat % scale power = 0) :
    (format size).toList = Nat.toDigits 10 (size.toNat / scale power) ++ ' ' :: label.toList := by
  unfold format
  simp only [found, if_pos whole]
  rw [String.toList_append, String.toList_append, List.append_assoc]
  exact congrArg₂ (· ++ ·) Nat.toList_repr rfl

theorem format_quotient
    (found : (units.find? fun unit => scale unit.1 ≤ size.toNat) = some (power, label))
    (broken : size.toNat % scale power ≠ 0) :
    ∃ c ∈ ['.', 'a', 'f'], c ∈ (format size).toList := by
  unfold format
  simp only [found, if_neg broken]
  obtain ⟨c, foreign, mem⟩ := Decimal.toPlaces_foreign
    (size.toFloat / (UInt64.ofNat (scale power)).toFloat) 2 (by decide)
  refine ⟨c, foreign, ?_⟩
  simp only [String.toList_append, List.mem_append]
  exact .inl (.inl mem)

end Format

/-- What is written for a size is read as that size or refused. It is read if the size is less than
the least unit, or a whole number of the greatest unit that is not above it. -/
theorem parse_format (size : UInt64) :
    (parse (format size) = .ok size ∨ ∃ error, parse (format size) = .error error) ∧
      (parse (format size) = .ok size ↔ size.toNat < 1024 ∨
        ∃ power, GreatestUnit power size.toNat ∧ 2 ^ power ∣ size.toNat) := by
  cases found : units.find? fun unit => scale unit.1 ≤ size.toNat with
  | none =>
    have read : parse (format size) = .ok size :=
      (parse_whole (.byte (by decide)) (format_bytes found) size).2 (Nat.mul_one _).symm
    exact ⟨.inl read, fun _ => .inl (lt_of_find?_eq_none found), fun _ => read⟩
  | some unit =>
    obtain ⟨power, label⟩ := unit
    obtain ⟨listed, greatest⟩ := greatestUnit_of_find? found
    by_cases whole : size.toNat % scale power = 0
    · have divides : 2 ^ power ∣ size.toNat := Nat.dvd_of_mod_eq_zero whole
      have read : parse (format size) = .ok size :=
        (parse_whole (spells_of_mem_units listed) (format_whole found whole) size).2
          (Nat.div_mul_cancel divides).symm
      exact ⟨.inl read, fun _ => .inr ⟨power, greatest, divides⟩, fun _ => read⟩
    · obtain ⟨c, foreign, mem⟩ := format_quotient found whole
      obtain ⟨error, refused⟩ := parse_foreign foreign mem
      refine ⟨.inr ⟨error, refused⟩, fun read => ?_, fun holds => ?_⟩
      · rw [refused] at read
        cases read
      · have atLeast : 2 ^ 10 ≤ size.toNat := greatest.least
        rcases holds with small | ⟨other, greatest', divides⟩
        · omega
        · rw [greatest'.unique greatest] at divides
          exact absurd (Nat.mod_eq_zero_of_dvd divides) whole

end Size
end CgroupBench
