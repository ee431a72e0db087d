import CgroupBench.Proofs.ByteOrder

/-!
# Reading what was encoded

The bytes of a character are read back as that character, whatever stands behind them: the first
byte tells how many are to come and from which range the second has to be, and each of those holds
six more bits. So a text that was encoded is read back strictly, and lossy reading loses nothing of
it.
-/
namespace CgroupBench.Text.Utf8

theorem Range.holds_further {part : Nat} (bits : part < 64) : ({} : Range).holds (part + 128) := by
  rw [Range.holds, Bool.and_eq_true, decide_eq_true_eq, decide_eq_true_eq]
  exact ⟨Nat.le_add_left .., Nat.add_le_add_right (Nat.le_of_lt_succ bits) 128⟩

/-- A further byte adds its six bits to what was read of a character. -/
theorem complete_further {range : Range} {part : Nat} (bits : part < 64)
    (held : range.holds (part + 128)) (payload : Nat) (ranges : List Range) (rest : List UInt8) :
    complete payload (range :: ranges) (.ofNat (part + 128) :: rest) =
      complete (64 * payload + part) ranges rest := by
  have byte : (UInt8.ofNat (part + 128)).toNat = part + 128 := by
    rw [UInt8.toNat_ofNat']
    exact Nat.mod_eq_of_lt (by omega)
  have six : (part + 128) % 64 = part := by omega
  rw [complete, byte, if_pos held, six]

theorem lead?_one {payload : Nat} (small : payload < 128) : lead? payload = some (payload, []) :=
  if_pos small

theorem lead?_two {high : Nat} (long : 2 ≤ high) (short : high < 32) :
    lead? (high + 192) = some (high, [{}]) := by
  rw [lead?, if_neg (by omega), if_neg (by omega), if_pos (by omega), Nat.add_sub_cancel]

/-- The second byte of three leaves out what is written with two, and the surrogates. -/
theorem lead?_three (high second : Nat) (short : high < 16) (bits : second < 64)
    (long : high = 0 → 32 ≤ second) (scalar : high = 13 → second < 32) :
    ∃ range : Range, lead? (high + 224) = some (high, [range, {}]) ∧
      range.holds (second + 128) := by
  rw [lead?, if_neg (by omega), if_neg (by omega), if_neg (by omega)]
  by_cases lowest : high = 0
  · subst lowest
    have second := long rfl
    exact ⟨_, rfl, by simp [Range.holds]; omega⟩
  by_cases surrogate : high = 13
  · subst surrogate
    have second := scalar rfl
    exact ⟨_, rfl, by simp [Range.holds]; omega⟩
  rw [if_neg (by omega), if_neg (by omega), if_pos (by omega), Nat.add_sub_cancel]
  exact ⟨{}, rfl, Range.holds_further bits⟩

/-- The second byte of four leaves out what is written with three, and what is no character. -/
theorem lead?_four (high second : Nat) (short : high ≤ 4) (bits : second < 64)
    (long : high = 0 → 16 ≤ second) (scalar : high = 4 → second < 16) :
    ∃ range : Range, lead? (high + 240) = some (high, [range, {}, {}]) ∧
      range.holds (second + 128) := by
  rw [lead?, if_neg (by omega), if_neg (by omega), if_neg (by omega), if_neg (by omega),
    if_neg (by omega), if_neg (by omega)]
  by_cases lowest : high = 0
  · subst lowest
    have second := long rfl
    exact ⟨_, rfl, by simp [Range.holds]; omega⟩
  by_cases greatest : high = 4
  · subst greatest
    have second := scalar rfl
    exact ⟨_, rfl, by simp [Range.holds]; omega⟩
  rw [if_neg (by omega), if_pos (by omega), Nat.add_sub_cancel]
  exact ⟨{}, rfl, Range.holds_further bits⟩

theorem next_ofNat {lead : Nat} (byte : lead < 256) {payload : Nat} {ranges : List Range}
    (known : lead? lead = some (payload, ranges)) (rest : List UInt8) :
    next (.ofNat lead) rest = complete payload ranges rest := by
  have same : (UInt8.ofNat lead).toNat = lead := UInt8.toNat_ofNat' ▸ Nat.mod_eq_of_lt byte
  rw [next, same, known]

/-- The bytes of a character are read as that character, whatever follows them. -/
theorem pieces_utf8EncodeChar (c : Char) (rest : List UInt8) :
    pieces (String.utf8EncodeChar c ++ rest) = some c :: pieces rest := by
  obtain ⟨byte, further, written, read⟩ : ∃ byte further,
      String.utf8EncodeChar c = byte :: further ∧ next byte (further ++ rest) = (some c, rest) := by
    have scalar : c.val.toNat < 0xD800 ∨ 0xDFFF < c.val.toNat ∧ c.val.toNat < 0x110000 := c.valid
    have shown {payload : Nat} (same : payload = c.val.toNat) : Char.ofNat payload = c :=
      same ▸ Char.ofNat_toNat c
    rw [String.utf8EncodeChar.eq_1]
    split_ifs with one two three
    all_goals refine ⟨_, _, rfl, ?_⟩
    · rw [next_ofNat (by omega) (lead?_one (by omega)), complete, shown rfl]
      rfl
    · rw [next_ofNat (by omega) (lead?_two (by omega) (by omega)), List.singleton_append,
        complete_further (by omega) (Range.holds_further (by omega)), complete, shown (by omega)]
    · obtain ⟨range, lead, held⟩ := lead?_three (c.val.toNat / 4096 % 16)
        (c.val.toNat / 64 % 64) (by omega) (by omega) (by omega) (by omega)
      rw [next_ofNat (by omega) lead, List.cons_append, List.singleton_append,
        complete_further (by omega) held,
        complete_further (by omega) (Range.holds_further (by omega)), complete, shown (by omega)]
    · obtain ⟨range, lead, held⟩ := lead?_four (c.val.toNat / 262144 % 8)
        (c.val.toNat / 4096 % 64) (by omega) (by omega) (by omega) (by omega)
      rw [next_ofNat (by omega) lead, List.cons_append, List.cons_append, List.singleton_append,
        complete_further (by omega) held,
        complete_further (by omega) (Range.holds_further (by omega)),
        complete_further (by omega) (Range.holds_further (by omega)), complete, shown (by omega)]
  rw [written, List.cons_append, pieces, read]

theorem pieces_encode (text : String) : pieces (encode text) = text.toList.map some := by
  rw [encode_eq_flatMap]
  induction text.toList with
  | nil => rw [List.flatMap_nil, pieces, List.map_nil]
  | cons c rest ih => rw [List.flatMap_cons, pieces_utf8EncodeChar, ih, List.map_cons]

theorem decode?_encode (text : String) : decode? (encode text) = some text := by
  have whole : text.toList.mapM (fun c => pure c) = some text.toList :=
    (List.mapM_pure (f := id)).trans (congrArg some (List.map_id _))
  rw [decode?, pieces_encode, List.mapM_map]
  exact (congrArg (Option.map String.ofList) whole).trans (congrArg some String.ofList_toList)

theorem decodeLossy_encode (text : String) : decodeLossy (encode text) = text := by
  rw [decodeLossy, pieces_encode, List.map_map]
  exact (congrArg String.ofList (List.map_id text.toList)).trans String.ofList_toList

end CgroupBench.Text.Utf8
