import CgroupBench.Proofs.Attendance

/-!
# Passes of a workload

A workload's command is launched again and again, one pass after another, until a pass does not
succeed or all of them have been made. What the passes before the last one printed is kept, so the
error of a pass that fails shows the end of everything that was complained about until then. The
system is any that answers requests, so the passes may end in any way and in any order.
-/
namespace CgroupBench

namespace Program

/-- A request with the answer to it. -/
abbrev Exchange : Type :=
  (request : Request) × request.Answer

variable {σ α β : Type} (answer : (request : Request) → StateM σ request.Answer)

/-- What a program asks of a system, and what it is answered. -/
def log : Program α → σ → List Exchange
  | .finish _, _ => []
  | .ask request next, state =>
    let (reply, state) := answer request state
    ⟨request, reply⟩ :: (next reply).log state

variable {answer} {request : Request} {reply : request.Answer} {state next : σ}

theorem log_ask (answered : answer request state = (reply, next))
    (rest : request.Answer → Program α) :
    (Program.ask request rest).log answer state =
      ⟨request, reply⟩ :: (rest reply).log answer next := by
  simp only [log, answered]

theorem run_ask (answered : answer request state = (reply, next))
    (rest : request.Answer → Program α) :
    (Program.ask request rest).run answer state = (rest reply).run answer next := by
  show (let out := answer request state; (rest out.1).run answer out.2) = _
  rw [answered]

theorem log_bind (answer : (request : Request) → StateM σ request.Answer) (first : Program α)
    (next : α → Program β) (state : σ) :
    (first >>= next).log answer state =
      first.log answer state ++
        (next (first.run answer state).1).log answer (first.run answer state).2 := by
  show (first.bind next).log answer state = _
  induction first generalizing state with
  | finish value => rfl
  | ask request rest ih => exact congrArg (_ :: ·) (ih _ _)

/-- The launches of a log, each with its arguments and its input, and with how it ended. -/
def launches (log : List Exchange) : List (List String × String × Launch) :=
  log.filterMap fun
    | ⟨.launch argv input, ended⟩ => some (argv, input, ended)
    | _ => none

theorem launches_append (first second : List Exchange) :
    launches (first ++ second) = launches first ++ launches second :=
  List.filterMap_append

end Program

/-- The child ended by itself and with code zero. -/
def Launch.Succeeded (launch : Launch) : Prop :=
  ∃ child, launch = .ended child ∧ child.code = some 0

theorem Output.success_iff {output : Output} : output.success ↔ output.code = some 0 :=
  beq_iff_eq

namespace Executor

/-- What these children printed, in order. -/
def printed (children : List Child) : String :=
  String.join (children.map fun child => Text.Utf8.decodeLossy child.stdout)

/-- What these children complained about, in order. -/
def complained (children : List Child) : String :=
  String.join (children.map fun child => Text.Utf8.decodeLossy child.stderr)

/-- The passes that are made of a command that may be run this often, by how they ended, and what
comes out. Nothing comes out of a pass that was interrupted. -/
inductive Repetition (argv : List String) (discardStdout : Bool) (repeats : Nat) :
    List Launch → Option (Except CallError Output) → Prop where
  | completed (children : List Child) (all : children.length = repeats)
      (zero : ∀ child ∈ children, child.code = some 0) :
      Repetition argv discardStdout repeats (children.map .ended) (some (.ok {
        code := some 0
        stdout := if discardStdout then "" else printed children
        stderr := complained children }))
  | exited (earlier : List Child) (last : Child) (within : earlier.length < repeats)
      (zero : ∀ child ∈ earlier, child.code = some 0) (nonzero : last.code ≠ some 0) :
      Repetition argv discardStdout repeats (earlier.map .ended ++ [.ended last])
        (some (.error (.exited (showArgv argv) last.code
          (Text.tail errorLimit (complained (earlier ++ [last]))))))
  | unlaunched (earlier : List Child) (cause : SystemError) (within : earlier.length < repeats)
      (zero : ∀ child ∈ earlier, child.code = some 0) :
      Repetition argv discardStdout repeats (earlier.map .ended ++ [.failed cause])
        (some (.error (.unlaunchable "cgexec" cause)))
  | interrupted (earlier : List Child) (within : earlier.length < repeats)
      (zero : ∀ child ∈ earlier, child.code = some 0) :
      Repetition argv discardStdout repeats (earlier.map .ended ++ [.interrupted]) none

/-- What the passes come to, as an output so far. -/
def collected (discardStdout : Bool) (children : List Child) : Output where
  code := (children.getLast?.map (·.code)).getD (some 0)
  stdout := if discardStdout then "" else printed children
  stderr := complained children

theorem collected_nil (discardStdout : Bool) : collected discardStdout [] = {} := by
  cases discardStdout <;> rfl

theorem append_collected (discardStdout : Bool) (children : List Child) (child : Child) :
    append discardStdout (collected discardStdout children) child.output =
      collected discardStdout (children ++ [child]) := by
  cases discardStdout <;> simp [append, collected, printed, complained, Child.output]

theorem collected_code {children : List Child} (zero : ∀ child ∈ children, child.code = some 0)
    (discardStdout : Bool) : (collected discardStdout children).code = some 0 := by
  show (children.getLast?.map (·.code)).getD (some 0) = some 0
  cases ended : children.getLast? with
  | none => rfl
  | some last => exact zero last (List.mem_of_getLast? ended)

/-- What a workload gives when its passes have ended so. -/
def settle (argv : List String) : Except SystemError Output → Except CallError Output
  | .error cause => .error (.unlaunchable "cgexec" cause)
  | .ok output => accept argv output

theorem settle_completed (argv : List String) {children : List Child}
    (zero : ∀ child ∈ children, child.code = some 0) (discardStdout : Bool) :
    settle argv (.ok (collected discardStdout children)) = .ok {
      code := some 0
      stdout := if discardStdout then "" else printed children
      stderr := complained children } := by
  have code := collected_code zero discardStdout
  rw [settle, accept, if_pos (Output.success_iff.mpr code), ← code]
  rfl

theorem settle_exited (argv : List String) (earlier : List Child) {last : Child}
    (nonzero : last.code ≠ some 0) (discardStdout : Bool) :
    settle argv (.ok (collected discardStdout (earlier ++ [last]))) =
      .error (.exited (showArgv argv) last.code
        (Text.tail errorLimit (complained (earlier ++ [last])))) := by
  have code : (collected discardStdout (earlier ++ [last])).code = last.code := by
    simp [collected]
  rw [settle, accept, if_neg (mt Output.success_iff.mp (code ▸ nonzero)), code]
  rfl

theorem passes_succ (argv : List String) (discardStdout : Bool) (count : Nat) (soFar : Output) :
    (passes argv discardStdout (count + 1) soFar).run = .ask (.launch argv "") fun
      | .failed cause => .finish (some (.error cause))
      | .interrupted => .finish none
      | .ended child =>
        if child.code = some 0 then
          (passes argv discardStdout count (append discardStdout soFar child.output)).run
        else .finish (some (.ok (append discardStdout soFar child.output))) := by
  show Program.ask _ _ = _
  congr
  funext ended
  cases ended with
  | failed cause => rfl
  | interrupted => rfl
  | ended child =>
    have whole : (append discardStdout soFar child.output).success ↔ child.code = some 0 :=
      Output.success_iff
    show OptionT.run (if (append discardStdout soFar child.output).success then _ else _) = _
    by_cases zero : child.code = some 0
    · rw [if_pos (whole.mpr zero)]
      exact (if_pos zero).symm
    · rw [if_neg (mt whole.mp zero)]
      exact (if_neg zero).symm

variable {σ : Type} (answer : (request : Request) → StateM σ request.Answer)

/-- On every system the passes that are left are made as they should be, whatever passes with code
zero came before them. -/
theorem passes_repeat (argv : List String) (discardStdout : Bool) (count : Nat)
    (earlier : List Child) (zero : ∀ child ∈ earlier, child.code = some 0) (state : σ) :
    ∃ later,
      Program.launches ((passes argv discardStdout count
        (collected discardStdout earlier)).run.log answer state) = later.map (argv, "", ·) ∧
      Repetition argv discardStdout (earlier.length + count) (earlier.map .ended ++ later)
        (((passes argv discardStdout count
          (collected discardStdout earlier)).run.run answer state).1.map (settle argv)) := by
  induction count generalizing earlier state with
  | zero =>
    refine ⟨[], rfl, ?_⟩
    show Repetition _ _ _ _ (some (settle argv (.ok (collected discardStdout earlier))))
    rw [settle_completed argv zero, List.append_nil]
    exact .completed earlier rfl zero
  | succ count ih =>
    have within : earlier.length < earlier.length + (count + 1) := by omega
    rcases asked : answer (.launch argv "") state with ⟨ended, next⟩
    rw [passes_succ, Program.log_ask asked, Program.run_ask asked]
    cases ended with
    | failed cause => exact ⟨[.failed cause], rfl, .unlaunched earlier cause within zero⟩
    | interrupted => exact ⟨[.interrupted], rfl, .interrupted earlier within zero⟩
    | ended child =>
      simp only [append_collected]
      by_cases done : child.code = some 0
      · have extended : ∀ pass ∈ earlier ++ [child], pass.code = some 0 :=
          List.forall_mem_append.mpr ⟨zero, List.forall_mem_singleton.mpr done⟩
        obtain ⟨later, launched, repetition⟩ := ih (earlier ++ [child]) extended next
        rw [if_pos done]
        refine ⟨.ended child :: later, congrArg (_ :: ·) launched, ?_⟩
        rw [List.length_append, List.length_singleton, Nat.add_assoc, Nat.add_comm 1,
          List.map_append, List.append_assoc] at repetition
        exact repetition
      · rw [if_neg done]
        refine ⟨[.ended child], rfl, ?_⟩
        show Repetition _ _ _ _ (some (settle argv (.ok (collected discardStdout _))))
        rw [settle_exited argv earlier done]
        exact .exited earlier child within zero done

/-- What is left of a workload when its passes have ended. -/
def conclusion (argv : List String) (started : Nat) :
    Option (Except SystemError Output) → Program (Option (Except CallError Timed))
  | none => .finish none
  | some (.error cause) => .finish (some (.error (.unlaunchable "cgexec" cause)))
  | some (.ok output) => .ask .clock fun ended =>
    .finish (some ((accept argv output).map (⟨·, .ofParts 0 (ended - started)⟩)))

theorem workload_run (scope : String) (invocation : Invocation) :
    (workload scope invocation).run =
      let argv := "cgexec" :: "-g" :: ("memory:" ++ scope) :: invocation.argv
      .ask .clock fun started =>
        (passes argv invocation.discardStdout invocation.repeats.toNat {}).run >>=
          conclusion argv started := by
  refine congrArg (Program.ask .clock) (funext fun started => ?_)
  refine congrArg (Program.bind (passes _ _ _ _).run) (funext fun ended => ?_)
  rcases ended with _ | cause | output <;> rfl

theorem launches_conclusion (argv : List String) (started : Nat)
    (ended : Option (Except SystemError Output)) (state : σ) :
    Program.launches ((conclusion argv started ended).log answer state) = [] := by
  rcases ended with _ | cause | output <;> rfl

theorem run_conclusion (argv : List String) (started : Nat)
    (ended : Option (Except SystemError Output)) (state : σ) :
    ((conclusion argv started ended).run answer state).1.map (Except.map (·.output)) =
      ended.map (settle argv) := by
  rcases ended with _ | cause | output
  · rfl
  · rfl
  · show some (Except.map _ (Except.map _ (accept argv output))) = some (accept argv output)
    cases accept argv output <;> rfl

theorem Repetition.ok_iff {argv : List String} {discardStdout : Bool} {repeats : Nat}
    {passes : List Launch} {result : Option (Except CallError Output)}
    (h : Repetition argv discardStdout repeats passes result) :
    (∃ output, result = some (.ok output)) ↔
      passes.length = repeats ∧ ∀ pass ∈ passes, pass.Succeeded := by
  cases h with
  | completed children all zero =>
    refine iff_of_true ⟨_, rfl⟩ ⟨(List.length_map _).trans all, ?_⟩
    intro pass mem
    obtain ⟨child, listed, rfl⟩ := List.mem_map.mp mem
    exact ⟨child, rfl, zero child listed⟩
  | exited earlier last within zero nonzero =>
    refine iff_of_false nofun fun ⟨_, all⟩ => ?_
    obtain ⟨child, same, done⟩ := all (.ended last) (List.mem_append_right _ (.head _))
    obtain rfl := Launch.ended.inj same
    exact nonzero done
  | unlaunched earlier cause within zero =>
    refine iff_of_false nofun fun ⟨_, all⟩ => ?_
    obtain ⟨child, same, -⟩ := all (.failed cause) (List.mem_append_right _ (.head _))
    cases same
  | interrupted earlier within zero =>
    refine iff_of_false nofun fun ⟨_, all⟩ => ?_
    obtain ⟨child, same, -⟩ := all .interrupted (List.mem_append_right _ (.head _))
    cases same

/-- On every system a workload launches its command pass after pass, up to the first that does not
end with code zero and at most as often as it is asked for. Its output is that of all passes
together if all of them succeeded. -/
theorem workload_repeats (scope : String) (invocation : Invocation) (state : σ) :
    let argv := "cgexec" :: "-g" :: ("memory:" ++ scope) :: invocation.argv
    let repeats := invocation.repeats.toNat
    let outcome := ((workload scope invocation).run.run answer state).1
    ∃ passes : List Launch,
      Program.launches ((workload scope invocation).run.log answer state) =
        passes.map (argv, "", ·) ∧
      Repetition argv invocation.discardStdout repeats passes
        (outcome.map (Except.map (·.output))) ∧
      ((∃ timed, outcome = some (.ok timed)) ↔
        passes.length = repeats ∧ ∀ pass ∈ passes, pass.Succeeded) := by
  intro argv repeats outcome
  rcases asked : answer .clock state with ⟨started, next⟩
  obtain ⟨passes, launched, repetition⟩ := passes_repeat answer argv invocation.discardStdout
    repeats [] (List.forall_mem_nil _) next
  rw [collected_nil] at launched repetition
  rw [List.length_nil, Nat.zero_add, List.map_nil, List.nil_append] at repetition
  have settled : outcome.map (Except.map (·.output)) =
      ((Executor.passes argv invocation.discardStdout repeats {}).run.run answer next).1.map
        (settle argv) := by
    show Option.map _ ((workload scope invocation).run.run answer state).1 = _
    rw [workload_run, Program.run_ask asked, Program.run_bind]
    exact run_conclusion answer argv started _ _
  rw [← settled] at repetition
  refine ⟨passes, ?_, repetition, ?_⟩
  · rw [workload_run, Program.log_ask asked, Program.log_bind]
    show Program.launches (_ ++ _) = _
    rw [Program.launches_append, launched, launches_conclusion, List.append_nil]
  · rw [← repetition.ok_iff]
    constructor
    · rintro ⟨timed, gave⟩
      exact ⟨timed.output, by rw [gave]; rfl⟩
    · rintro ⟨output, gave⟩
      obtain ⟨reply, gave, ok⟩ := Option.map_eq_some_iff.mp gave
      cases reply with
      | error cause => cases ok
      | ok timed => exact ⟨timed, gave⟩

end Executor
end CgroupBench
