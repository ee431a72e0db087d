import CgroupBench.Series
import Mathlib.Tactic.Common

/-!
# What the check before a series accepts

A record is accepted if it names a variant and a limit that is not zero, and if there is an
optimizer configuration for it where it needs one. A list of records is accepted if each of
them is and all have the same names in the same order. Everything else is blamed on the
configuration.
-/
namespace CgroupBench

section

variable {α β : Type} {check : Except Fault α} {next : α → Except Fault β}

theorem bind_eq_ok {value : β} :
    check >>= next = .ok value ↔ ∃ middle, check = .ok middle ∧ next middle = .ok value := by
  cases check with
  | error fault => simp [bind, Except.bind]
  | ok middle => simp [bind, Except.bind]

/-- Whatever is refused is the fault of the configuration. -/
def Blames (check : Except Fault α) : Prop :=
  ∀ fault, check = .error fault → fault.isConfiguration = true

theorem Blames.ok (value : α) : Blames (.ok value) :=
  fun _ refused => nomatch refused

theorem Blames.refused (reason : String) :
    Blames (.error (.configuration reason) : Except Fault α) :=
  fun _ refused => Except.error.inj refused ▸ rfl

theorem Blames.bind (first : Blames check) (rest : ∀ value, Blames (next value)) :
    Blames (check >>= next) := by
  cases check with
  | error fault =>
    intro other same
    obtain rfl : fault = other := Except.error.inj same
    exact first fault rfl
  | ok value => exact rest value

theorem Blames.ite {condition : Prop} [Decidable condition] {other : Except Fault α}
    (refused : Blames check) (accepted : Blames other) :
    Blames (if condition then check else other) := by
  split
  · exact refused
  · exact accepted

end

namespace Record

variable {record : Record} {name : String}

theorem int_eq_ok {value : UInt64} :
    record.int name = .ok value ↔ record.get? name = some (.int value) := by
  rw [int]
  rcases record.get? name with _ | _ | _ <;> simp [Value.int?]

theorem text_eq_ok {value : String} :
    record.text name = .ok value ↔ record.get? name = some (.text value) := by
  rw [text]
  rcases record.get? name with _ | _ | _ <;> simp [Value.text?]

theorem blames_int : Blames (record.int name) := by
  rw [int]
  split
  · exact .ok _
  · exact .refused _

theorem blames_text : Blames (record.text name) := by
  rw [text]
  split
  · exact .ok _
  · exact .refused _

end Record

theorem Variant.ofLabel_eq_ok {name : String} {variant : Variant} :
    ofLabel name = .ok variant ↔ name = variant.label := by
  constructor
  · intro known
    rw [ofLabel] at known
    cases found : all.find? (·.label == name) with
    | none => simp [found] at known
    | some other =>
      rw [found] at known
      obtain rfl := Except.ok.inj known
      have labelled := List.find?_some found
      exact (eq_of_beq labelled).symm
  · rintro rfl
    exact ofLabel_label variant

theorem Variant.blames_ofLabel {name : String} : Blames (ofLabel name) := by
  rw [ofLabel]
  split
  · exact .ok _
  · exact .refused _

namespace Target

variable {record : Record} {target : Target}

theorem ofRecord_eq_ok :
    ofRecord record = .ok target ↔
      record.get? Key.cgroupName = some (.text target.variant.label) ∧
        record.get? Key.cgroupSize = some (.int target.memoryLimit) ∧ target.memoryLimit ≠ 0 := by
  simp only [ofRecord, bind_eq_ok, Record.text_eq_ok, Record.int_eq_ok, Variant.ofLabel_eq_ok]
  constructor
  · rintro ⟨name, named, variant, rfl, limit, sized, checked⟩
    by_cases zero : limit = 0
    · rw [if_pos zero] at checked
      cases checked
    · rw [if_neg zero] at checked
      obtain rfl := Except.ok.inj checked
      exact ⟨named, sized, zero⟩
  · rintro ⟨named, sized, nonzero⟩
    exact ⟨_, named, _, rfl, _, sized, if_neg nonzero⟩

theorem blames_ofRecord : Blames (ofRecord record) := by
  refine Record.blames_text.bind fun name => ?_
  refine Variant.blames_ofLabel.bind fun variant => ?_
  refine Record.blames_int.bind fun limit => ?_
  exact .ite (.refused _) (.ok _)

end Target

namespace Runner

variable {optimizer : Optimizer} {record first : Record} {records : List Record}

theorem accept_eq_ok :
    accept optimizer record = .ok () ↔ ∃ target, Target.ofRecord record = .ok target ∧
      (target.variant.isOptimized = true → optimizer.descriptor ≠ none) := by
  have checked : ∀ target : Target,
      (if target.variant.isOptimized = true ∧ optimizer.descriptor = none then
        .error (.configuration s!"{target.variant.label} runs require an optimizer config")
      else .ok () : Except Fault Unit) = .ok () ↔
        (target.variant.isOptimized = true → optimizer.descriptor ≠ none) := by
    intro target
    rw [← not_and]
    split
    next undescribed => simp [undescribed]
    next described => simp [described]
  rw [accept, bind_eq_ok]
  exact exists_congr fun target => and_congr_right fun _ => checked target

theorem blames_accept : Blames (accept optimizer record) :=
  Target.blames_ofRecord.bind fun _ => .ite (.refused _) (.ok _)

theorem acceptAll_eq_ok :
    acceptAll optimizer first records = .ok () ↔
      ∀ record ∈ records, record.names = first.names ∧ accept optimizer record = .ok () := by
  induction records with
  | nil => simp [acceptAll]
  | cons record rest ih =>
    rw [List.forall_mem_cons, ← ih, acceptAll]
    by_cases same : record.names = first.names
    · rw [if_neg (not_not_intro same), bind_eq_ok]
      constructor
      · rintro ⟨_, accepted, others⟩
        exact ⟨⟨same, accepted⟩, others⟩
      · rintro ⟨⟨_, accepted⟩, others⟩
        exact ⟨(), accepted, others⟩
    · rw [if_pos same]
      constructor
      · intro accepted
        cases accepted
      · rintro ⟨⟨known, _⟩, _⟩
        exact absurd known same

theorem blames_acceptAll : Blames (acceptAll optimizer first records) := by
  induction records with
  | nil => exact .ok _
  | cons record rest ih =>
    have rest : Blames (accept optimizer record >>= fun _ => acceptAll optimizer first rest) :=
      blames_accept.bind fun _ => ih
    rw [acceptAll]
    split
    · exact Blames.bind (.refused _) fun _ => rest
    · exact rest

theorem preflight_eq_ok :
    preflight optimizer records = .ok () ↔
      records ≠ [] ∧ (∀ record ∈ records, ∀ other ∈ records, record.names = other.names) ∧
        ∀ record ∈ records, accept optimizer record = .ok () := by
  cases records with
  | nil => simp [preflight]
  | cons first rest =>
    rw [preflight, acceptAll_eq_ok]
    constructor
    · intro accepted
      refine ⟨List.cons_ne_nil _ _, ?_, fun record mem => (accepted record mem).2⟩
      intro record mem other listed
      exact (accepted record mem).1.trans (accepted other listed).1.symm
    · rintro ⟨-, same, accepted⟩ record mem
      exact ⟨same record mem first (.head _), accepted record mem⟩

theorem blames_preflight : Blames (preflight optimizer records) := by
  cases records with
  | nil => exact .refused _
  | cons first rest => exact blames_acceptAll

end Runner
end CgroupBench
