import CgroupBench.Proofs.RepeatedPasses

/-!
# Shortened error texts

Of a long error text only the end is shown. It is cut at the first boundary from where no more is
left than the limit, and since a character has at most four bytes, that boundary is at most three
bytes further on. So the end is the longest that fits. Nothing is read into it: the dots in front
stand in none of the phrases which say that there was no such cgroup, so a deletion that counts as
done because of what is shown would also count as done because of the whole text.
-/
namespace CgroupBench

namespace Text

/-! ## The search for a boundary -/

theorem isBoundary_append (front back : String) :
    IsBoundary (front ++ back) front.utf8ByteSize :=
  String.Pos.Raw.isValid_iff_exists_append.mpr ⟨front, back, rfl, rfl⟩

theorem isBoundary_append_left {text : String} {offset : Nat} (reached : IsBoundary text offset)
    (front : String) : IsBoundary (front ++ text) (front.utf8ByteSize + offset) :=
  String.Pos.Raw.IsValid.append_left reached front

/-- A boundary is never more than three bytes ahead: those that are left of a character. -/
theorem exists_isBoundary (characters : List Char) {offset : Nat}
    (within : offset ≤ (String.ofList characters).utf8ByteSize) :
    ∃ steps ≤ 3, IsBoundary (String.ofList characters) (offset + steps) := by
  induction characters generalizing offset with
  | nil =>
    obtain rfl : offset = 0 := Nat.le_zero.mp within
    exact ⟨0, Nat.zero_le 3, String.Pos.Raw.isValid_zero⟩
  | cons c rest ih =>
    have size : (String.singleton c).utf8ByteSize = c.utf8Size := String.utf8ByteSize_singleton
    rw [String.ofList_cons] at within ⊢
    rw [String.utf8ByteSize_append, size] at within
    rcases Nat.lt_or_ge offset c.utf8Size with inside | passed
    · rcases Nat.eq_zero_or_pos offset with rfl | entered
      · exact ⟨0, Nat.zero_le 3, String.Pos.Raw.isValid_zero⟩
      · have most := c.utf8Size_le_four
        refine ⟨c.utf8Size - offset, by omega, ?_⟩
        rw [Nat.add_sub_cancel' (Nat.le_of_lt inside), ← size]
        exact isBoundary_append ..
    · obtain ⟨steps, few, reached⟩ := ih (Nat.sub_le_iff_le_add'.mpr within)
      refine ⟨steps, few, ?_⟩
      have moved := isBoundary_append_left reached (String.singleton c)
      rwa [size, ← Nat.add_assoc, Nat.add_sub_cancel' passed] at moved

/-- The search steps over no boundary. -/
theorem stepsToBoundary_le {text : String} {offset : Nat} (within : offset ≤ text.utf8ByteSize)
    {steps : Nat} (reached : IsBoundary text (offset + steps)) :
    stepsToBoundary text offset within ≤ steps := by
  induction steps generalizing offset with
  | zero =>
    rw [stepsToBoundary]
    exact Nat.le_of_eq (dif_neg (not_not_intro reached))
  | succ steps ih =>
    rw [stepsToBoundary]
    split
    case isTrue inside =>
      rw [Nat.add_comm steps, ← Nat.add_assoc] at reached
      exact Nat.succ_le_succ (ih _ reached)
    case isFalse => exact Nat.zero_le _

theorem stepsToBoundary_le_three (text : String) {offset : Nat}
    (within : offset ≤ text.utf8ByteSize) : stepsToBoundary text offset within ≤ 3 := by
  rw [← String.ofList_toList (s := text)] at within
  obtain ⟨steps, few, reached⟩ := exists_isBoundary text.toList within
  rw [String.ofList_toList] at reached
  exact Nat.le_trans (stepsToBoundary_le _ reached) few

/-! ## The end that is kept -/

/-- An end of a text that fits into the limit, and is as long as it can be. -/
structure KeepsEnd (limit : Nat) (text kept : String) : Prop where
  /-- It begins where a search for a boundary is over that began right at the limit. -/
  split : ∃ front, front ++ kept = text ∧ front.utf8ByteSize =
    text.utf8ByteSize - limit + stepsToBoundary text (text.utf8ByteSize - limit) (Nat.sub_le ..)
  searched : stepsToBoundary text (text.utf8ByteSize - limit) (Nat.sub_le ..) ≤ 3
  fits : kept.utf8ByteSize ≤ limit
  close : limit ≤ kept.utf8ByteSize + 3
  longest : ∀ front back, front ++ back = text → back.utf8ByteSize ≤ limit →
    ∃ between, between ++ back = kept

theorem cut_le {limit : Nat} {text : String} {place : text.Pos}
    (near : text.utf8ByteSize - limit ≤ place.offset.byteIdx) : cut limit text ≤ place := by
  have reached : IsBoundary text (text.utf8ByteSize - limit +
      (place.offset.byteIdx - (text.utf8ByteSize - limit))) := by
    rw [Nat.add_sub_cancel' near]
    exact place.isValid
  have few := Nat.add_le_add_left (stepsToBoundary_le (Nat.sub_le ..) reached)
    (text.utf8ByteSize - limit)
  rwa [Nat.add_sub_cancel' near] at few

/-- An end that fits begins at a boundary that the search cannot have passed. -/
theorem ends_cut {limit : Nat} (front : String) {back : String}
    (fits : back.utf8ByteSize ≤ limit) : ∃ between,
      between ++ back = ((front ++ back).sliceFrom (cut limit (front ++ back))).copy := by
  let place : (front ++ back).Pos := ⟨⟨front.utf8ByteSize⟩, isBoundary_append front back⟩
  have near : (front ++ back).utf8ByteSize - limit ≤ front.utf8ByteSize := by
    rw [String.utf8ByteSize_append]
    omega
  have before : cut limit (front ++ back) ≤ place := cut_le near
  have parted : place.Splits front back := .mk rfl rfl
  obtain ⟨between, -, kept⟩ :=
    ((cut limit (front ++ back)).splits.le_iff_exists_eq_append parted).mp before
  exact ⟨between, kept.symm⟩

theorem keepsEnd_cut {limit : Nat} {text : String} (exceeds : limit < text.utf8ByteSize) :
    KeepsEnd limit text (text.sliceFrom (cut limit text)).copy := by
  have parted := (cut limit text).splits
  generalize (text.sliceTo (cut limit text)).copy = front at parted
  generalize (text.sliceFrom (cut limit text)).copy = kept at parted
  have few := stepsToBoundary_le_three text (Nat.sub_le text.utf8ByteSize limit)
  have reached : front.utf8ByteSize = text.utf8ByteSize - limit +
      stepsToBoundary text (text.utf8ByteSize - limit) (Nat.sub_le ..) :=
    congrArg String.Pos.Raw.byteIdx parted.offset_eq_rawEndPos.symm
  have size : text.utf8ByteSize = front.utf8ByteSize + kept.utf8ByteSize := by
    rw [← String.utf8ByteSize_append, ← parted.eq_append]
  exact {
    split := ⟨front, parted.eq_append.symm, reached⟩
    searched := few
    fits := by omega
    close := by omega
    longest := by
      rintro earlier back rfl fits
      obtain ⟨between, ends⟩ := ends_cut earlier fits
      exact ⟨between, ends.trans parted.copy_sliceFrom_eq⟩ }

theorem tail_short {limit : Nat} {text : String} (fits : (trim text).utf8ByteSize ≤ limit) :
    tail limit text = trim text :=
  if_pos fits

theorem tail_long {limit : Nat} {text : String} (exceeds : limit < (trim text).utf8ByteSize) :
    ∃ kept, tail limit text = "..." ++ kept ∧ KeepsEnd limit (trim text) kept :=
  ⟨_, if_neg (Nat.not_le_of_lt exceeds), keepsEnd_cut exceeds⟩

-- A cut four bytes before the end would be inside the third character.
example : tail 4 " aé漢字\n" = "...字" := by decide +kernel

/-! ## Phrases in a shortened text -/

theorem trim_infix (text : String) : (trim text).toList <:+: text.toList := by
  rw [trim, String.toList_ofList, trimEnd, trimStart, trimStart]
  have ended := List.dropWhile_suffix isBlank (l := (text.toList.dropWhile isBlank).reverse)
  rw [← List.reverse_prefix, List.reverse_reverse] at ended
  exact ended.isInfix.trans (List.dropWhile_suffix isBlank).isInfix

/-- A phrase without a character is found behind any number of that character. -/
theorem infix_of_infix_replicate_append {c : Char} {count : Nat} {phrase text : List Char}
    (nonempty : phrase ≠ []) (apart : c ∉ phrase)
    (found : phrase <:+: List.replicate count c ++ text) : phrase <:+: text := by
  have outside : ∀ {part : List Char}, part ≠ [] → part ⊆ phrase →
      ¬ part ⊆ List.replicate count c := by
    intro part nonempty within same
    obtain ⟨d, mem⟩ := List.exists_mem_of_ne_nil part nonempty
    exact apart (List.eq_of_mem_replicate (same mem) ▸ within mem)
  rcases List.infix_append_iff_ne_nil.mp found with
    inFront | behind | ⟨first, last, begins, -, rfl, ends, -⟩
  · exact absurd inFront.subset (outside nonempty (List.Subset.refl phrase))
  · exact behind
  · exact absurd ends.subset (outside begins (List.subset_append_left first last))

end Text

namespace Cgroups

theorem saysAbsent_iff {stderr : String} : saysAbsent stderr = true ↔
    "no such file or directory".toList <:+: stderr.toList.map Char.toLower ∨
      "does not exist".toList <:+: stderr.toList.map Char.toLower := by
  rw [saysAbsent, Bool.or_eq_true, Text.occurs_iff, Text.occurs_iff]

theorem saysAbsent_of_infix {part whole : String} (within : part.toList <:+: whole.toList)
    (absent : saysAbsent part = true) : saysAbsent whole = true := by
  rw [saysAbsent_iff] at absent ⊢
  exact absent.imp (·.trans (within.map _)) (·.trans (within.map _))

theorem saysAbsent_of_dots {text : String} (absent : saysAbsent ("..." ++ text) = true) :
    saysAbsent text = true := by
  have dots : ("..." ++ text).toList.map Char.toLower =
      List.replicate 3 '.' ++ text.toList.map Char.toLower := by
    rw [String.toList_append, List.map_append]
    rfl
  rw [saysAbsent_iff, dots] at absent
  rw [saysAbsent_iff]
  exact absent.imp (Text.infix_of_infix_replicate_append (by decide) (by decide))
    (Text.infix_of_infix_replicate_append (by decide) (by decide))

theorem saysAbsent_of_tail {limit : Nat} {text : String}
    (absent : saysAbsent (Text.tail limit text) = true) : saysAbsent text = true := by
  refine saysAbsent_of_infix (Text.trim_infix text) ?_
  rcases Nat.lt_or_ge limit (Text.trim text).utf8ByteSize with exceeds | fits
  · obtain ⟨kept, shown, ends⟩ := Text.tail_long exceeds
    obtain ⟨front, whole, -⟩ := ends.split
    rw [shown] at absent
    refine saysAbsent_of_infix ⟨front.toList, [], ?_⟩ (saysAbsent_of_dots absent)
    rw [List.append_nil, ← String.toList_append, whole]
  · rwa [Text.tail_short fits] at absent

/-- A command whose failure is tolerated either worked or says in full that nothing was there. -/
theorem tolerated_accept {argv : List String} {output : Output}
    (tolerated : tolerateAbsent (Executor.accept argv output) = .ok ()) :
    output.code = some 0 ∨ saysAbsent output.stderr = true := by
  rw [Executor.accept] at tolerated
  split at tolerated
  case isTrue worked => exact .inl (Output.success_iff.mp worked)
  case isFalse =>
    rw [tolerateAbsent] at tolerated
    split at tolerated
    case isTrue absent => exact .inr (saysAbsent_of_tail absent)
    case isFalse => cases tolerated

variable {σ : Type} {answer : (request : Request) → StateM σ request.Answer}

theorem deleted_of_ok {executor : Executor} {variant : Variant} {state : σ}
    (deleted : ((executor.attend (delete variant)).run.run answer state).1 = some (.ok ())) :
    ∃ child, (answer (.launch (executor.elevate (deleteArgv variant)) "") state).1 =
        .ended child ∧
      (child.code = some 0 ∨ saysAbsent (Text.Utf8.decodeLossy child.stderr) = true) := by
  rcases asked : answer (.launch (executor.elevate (deleteArgv variant)) "") state with
    ⟨ended, next⟩
  have attended : executor.attend (delete variant) =
      executor.run (deleteArgv variant) >>= fun reply => pure (tolerateAbsent reply) :=
    executor.attend_ask (.run (deleteArgv variant)) fun reply => .finish (tolerateAbsent reply)
  rw [attended] at deleted
  -- The arguments are not empty, so the first thing asked for is the launch of the tool.
  change ((Program.ask (.launch (executor.elevate (deleteArgv variant)) "") _).run answer
    state).1 = _ at deleted
  rw [Program.run_ask asked] at deleted
  cases ended with
  | failed cause => cases deleted
  | interrupted => cases deleted
  | ended child => exact ⟨child, rfl, tolerated_accept (Option.some.inj deleted)⟩

end Cgroups

namespace Executor

/-- An error text is shown whole, without the blanks around it, if it has no more than 512 bytes,
and otherwise as its longest end that fits. On every system a deletion only counts as done if its
tool said so with code zero, or said in its whole error text that there was no such cgroup. -/
theorem error_shortened_safely {σ : Type} (answer : (request : Request) → StateM σ request.Answer)
    (executor : Executor) (variant : Variant) (state : σ) :
    (∀ text : String,
      let trimmed := Text.trim text
      let shown := Text.tail errorLimit text
      (trimmed.utf8ByteSize ≤ 512 → shown = trimmed) ∧
        (512 < trimmed.utf8ByteSize →
          ∃ kept, shown = "..." ++ kept ∧ Text.KeepsEnd 512 trimmed kept) ∧
        (Cgroups.saysAbsent shown = true → Cgroups.saysAbsent text = true)) ∧
      (((executor.attend (Cgroups.delete variant)).run.run answer state).1 = some (.ok ()) →
        ∃ child,
          (answer (.launch (executor.elevate (Cgroups.deleteArgv variant)) "") state).1 =
            .ended child ∧
          (child.code = some 0 ∨
            Cgroups.saysAbsent (Text.Utf8.decodeLossy child.stderr) = true)) :=
  ⟨fun _ => ⟨Text.tail_short, Text.tail_long, Cgroups.saysAbsent_of_tail⟩, Cgroups.deleted_of_ok⟩

end Executor
end CgroupBench
