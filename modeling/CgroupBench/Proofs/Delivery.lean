import CgroupBench.Cgroups
import CgroupBench.Proofs.Watch

/-!
# What a step delivers

A step ends with a value or with a fault, and not the same is known in both cases. A fault
skips all that follows, so one condition on faults is carried through a whole composition,
while the condition on values changes from one step to the next. An error of a call may be
excused; what counts as excused, and what fault the others become, is said where the call is
made.
-/
namespace CgroupBench

theorem Fault.severity_ofSetup {what : String} {cause : CallError} :
    (ofSetup what cause).severity = .fatal ↔ cause.isUnlaunchable = true := by
  cases cause <;> simp [ofSetup, CallError.isUnlaunchable, severity]

namespace Watch

variable {σ κ ρ τ α β : Type}

/-- Conditions on the two ways in which a step ends. -/
def Outcome (after : α → ρ → κ → σ → Prop) (broken : Fault → ρ → κ → σ → Prop) :
    Except Fault α × ρ → κ → σ → Prop
  | (.ok value, runner), account, state => after value runner account state
  | (.error fault, runner), account, state => broken fault runner account state

/-- Conditions on the replies to a call whose excused errors are as good as an answer. -/
def Reply (excused : CallError → Bool) (wrap : CallError → Fault) (after : κ → σ → Prop)
    (broken : Fault → κ → σ → Prop) : Except CallError α → κ → σ → Prop
  | .ok _, account, state => after account state
  | .error cause, account, state =>
    (excused cause = true → after account state) ∧
      (excused cause = false → broken (wrap cause) account state)

theorem Reply.either {excused : CallError → Bool} {wrap : CallError → Fault}
    {after : κ → σ → Prop} {broken : Fault → κ → σ → Prop} {account : κ} {state : σ}
    {reply : Except CallError α} (answered : after account state)
    (failed : ∀ fault, broken fault account state) :
    Reply excused wrap after broken reply account state := by
  cases reply with
  | ok _ => exact answered
  | error _ => exact ⟨fun _ => answered, fun _ => failed _⟩

/-- Conditions on the replies to a call that may be made again unless its tool is missing. -/
def Retry (wrap : CallError → Fault) (here there : κ → σ → Prop)
    (broken : Fault → κ → σ → Prop) : Except CallError α → κ → σ → Prop
  | .ok _, account, state => there account state
  | .error cause, account, state =>
    (cause.isUnlaunchable = false → here account state) ∧ broken (wrap cause) account state

/-- Conditions on the replies to one of several tries, of which some may be left. -/
def Tries (wrap : CallError → Fault) (retries : Nat) (here : Nat → κ → σ → Prop)
    (there : κ → σ → Prop) (broken : Fault → κ → σ → Prop) : Except CallError α → κ → σ → Prop
  | .ok _, account, state => there account state
  | .error cause, account, state =>
    (∀ fewer, retries = fewer + 1 → cause.isUnlaunchable = false → here fewer account state) ∧
      (retries = 0 ∨ cause.isUnlaunchable = true → broken (wrap cause) account state)

def Delivers (watch : Watch σ κ) (before : ρ → κ → σ → Prop) (step : Step ρ α)
    (after : α → ρ → κ → σ → Prop) (broken : Fault → ρ → κ → σ → Prop) : Prop :=
  ∀ runner account state, before runner account state →
    watch.Ensures (step runner) account state (Outcome after broken)

/-- A fault that is swallowed unless it is fatal. -/
def Tolerated (after : ρ → κ → σ → Prop) (broken : Fault → ρ → κ → σ → Prop) (fault : Fault)
    (runner : ρ) (account : κ) (state : σ) : Prop :=
  (fault.severity = .fatal → broken fault runner account state) ∧
    (fault.severity ≠ .fatal → after runner account state)

/-- The error of a set-up call that is excused unless its tool is missing. -/
theorem Tolerated.of_reply {what : String} {cause : CallError} {there : ρ → κ → σ → Prop}
    {broken : Fault → ρ → κ → σ → Prop} {runner : ρ} {account : κ} {state : σ}
    (h : Reply (fun cause => !cause.isUnlaunchable) (.ofSetup what) (there runner)
      (fun fault => broken fault runner) (.error cause : Except CallError α) account state) :
    Tolerated there broken (.ofSetup what cause) runner account state := by
  refine ⟨fun fatal => h.2 ?_, fun notFatal => h.1 ?_⟩
  · simpa using Fault.severity_ofSetup.mp fatal
  · simpa using mt Fault.severity_ofSetup.mpr notFatal

namespace Delivers

theorem plain {host : Host σ} {step : Step ρ α} :
    (Watch.plain host).Delivers (fun _ _ _ => True) step (fun _ _ _ _ => True)
      (fun _ _ _ _ => True) := by
  intro runner _ state _
  refine (Ensures.plain host _ state).mono ?_
  rintro ⟨fault | value, runner⟩ _ _ - <;> trivial

variable {watch : Watch σ κ} {before : ρ → κ → σ → Prop} {after : α → ρ → κ → σ → Prop}
  {broken : Fault → ρ → κ → σ → Prop}

theorem bind {first : Step ρ α} {next : α → Step ρ β} {middle : α → ρ → κ → σ → Prop}
    {after : β → ρ → κ → σ → Prop} (head : watch.Delivers before first middle broken)
    (rest : ∀ value, watch.Delivers (middle value) (next value) after broken) :
    watch.Delivers before (first >>= next) after broken := by
  intro runner account state start
  exact Ensures.step (head _ _ _ start) (fun value _ _ _ h => rest value _ _ _ h)
    (fun _ _ _ _ h => h)

theorem lift {wrap : CallError → Fault} {procedure : Procedure (Except CallError α)}
    {excused : CallError → Bool} {there : ρ → κ → σ → Prop} (never : ∀ cause, excused cause = false)
    (h : ∀ runner account state, before runner account state →
      watch.Ensures procedure account state
        (Reply excused wrap (there runner) fun fault => broken fault runner)) :
    watch.Delivers before (Step.lift wrap procedure) (fun _ => there) broken := by
  intro runner account state start
  refine (h _ _ _ start).andThen ?_
  rintro (cause | value) account state done
  · exact done.2 (never cause)
  · exact done

/-- A set-up call that is tolerated unless its tool is missing. -/
theorem tolerated {what : String} {procedure : Procedure (Except CallError α)}
    {there : ρ → κ → σ → Prop}
    (h : ∀ runner account state, before runner account state →
      watch.Ensures procedure account state
        (Reply (fun cause => !cause.isUnlaunchable) (.ofSetup what) (there runner)
          fun fault => broken fault runner)) :
    watch.Delivers before (Step.setup what procedure) (fun _ => there)
      (Tolerated there broken) := by
  intro runner account state start
  refine (h _ _ _ start).andThen ?_
  rintro (cause | value) account state done
  · exact .of_reply done
  · exact done

theorem bestEffort {step : Step ρ α} {there : ρ → κ → σ → Prop}
    (h : watch.Delivers before step (fun _ => there) (Tolerated there broken)) :
    watch.Delivers before (Step.bestEffort step) (fun _ => there) broken := by
  intro runner account state start
  refine (h _ _ _ start).andThen ?_
  rintro ⟨fault | value, runner⟩ account state done
  · show Outcome _ _ (if fault.severity = .fatal then .error fault else .ok (), runner) _ _
    by_cases fatal : fault.severity = .fatal
    · rw [if_pos fatal]
      exact done.1 fatal
    · rw [if_neg fatal]
      exact done.2 fatal
  · exact done

/-- A step on a part is judged with the rest of the state put around the part. -/
theorem onPart {part : ρ → τ} {replace : τ → ρ → ρ} {step : Step τ α}
    (whole : ∀ runner, replace (part runner) runner = runner)
    (h : ∀ runner, watch.Delivers (fun inner => before (replace inner runner)) step
      (fun value inner => after value (replace inner runner))
      (fun fault inner => broken fault (replace inner runner))) :
    watch.Delivers before (Step.onPart part replace step) after broken := by
  intro runner account state start
  have start' : before (replace (part runner) runner) account state := (whole runner).symm ▸ start
  refine (h runner _ _ _ start').andThen ?_
  rintro ⟨fault | value, inner⟩ account state done <;> exact done

end Delivers

/-- A command whose excused errors are turned into answers. -/
theorem Ensures.tolerate {watch : Watch σ κ} {account : κ} {state : σ} {argv : List String}
    {excused : CallError → Bool} {wrap : CallError → Fault} {after : κ → σ → Prop}
    {broken : Fault → κ → σ → Prop} {tolerate : Except CallError Output → Except CallError Unit}
    (h : watch.Ensures (.ask (.run argv) .finish) account state (Reply excused wrap after broken))
    (ok : ∀ output, tolerate (.ok output) = .ok ())
    (error : ∀ cause, tolerate (.error cause) = if excused cause then .ok () else .error cause) :
    watch.Ensures (do return tolerate (← Procedure.run argv)) account state
      (Reply (fun _ => false) wrap after broken) := by
  refine Ensures.bind (h.mono ?_)
  rintro (cause | output) account state h
  · show Reply _ _ _ _ (tolerate (.error cause)) _ _
    rw [error]
    cases known : excused cause with
    | true => exact h.1 known
    | false => exact ⟨nofun, fun _ => h.2 known⟩
  · show Reply _ _ _ _ (tolerate (.ok output)) _ _
    rw [ok]
    exact h

/-- A call that is tried again leads where its last try leads. What holds before a try may depend
on how many more there can be. -/
theorem Ensures.attempts {watch : Watch σ κ} {account : κ} {state : σ} {wrap : CallError → Fault}
    {here : Nat → κ → σ → Prop} {there : κ → σ → Prop} {broken : Fault → κ → σ → Prop}
    {call : Procedure (Except CallError α)}
    (h : ∀ retries account state, here retries account state →
      watch.Ensures call account state (Tries wrap retries here there broken))
    (retries : Nat) (now : here retries account state) :
    watch.Ensures (Cgroups.attempt call retries) account state
      (Reply (fun _ => false) wrap there broken) := by
  induction retries generalizing account state with
  | zero =>
    refine (h _ _ _ now).mono ?_
    rintro (cause | value) account state done
    · exact ⟨nofun, fun _ => done.2 (.inl rfl)⟩
    · exact done
  | succ retries ih =>
    refine (h _ _ _ now).andThen ?_
    rintro (cause | value) account state done
    · show watch.Ensures (if cause.isUnlaunchable then _ else _) _ _ _
      cases missing : cause.isUnlaunchable with
      | true => exact ⟨nofun, fun _ => done.2 (.inr missing)⟩
      | false => exact ih (done.1 retries rfl missing)
    · exact done

theorem Ensures.attempt {watch : Watch σ κ} {account : κ} {state : σ} {wrap : CallError → Fault}
    {here there : κ → σ → Prop} {broken : Fault → κ → σ → Prop}
    {call : Procedure (Except CallError α)}
    (h : ∀ account state, here account state →
      watch.Ensures call account state (Retry wrap here there broken))
    (retries : Nat) (now : here account state) :
    watch.Ensures (Cgroups.attempt call retries) account state
      (Reply (fun _ => false) wrap there broken) := by
  have tries : ∀ retries account state, here account state →
      watch.Ensures call account state (Tries wrap retries (fun _ => here) there broken) := by
    intro retries account state now
    refine (h _ _ now).mono ?_
    rintro (cause | value) account state done
    · exact ⟨fun _ _ launchable => done.1 launchable, fun _ => done.2⟩
    · exact done
  exact .attempts tries retries now

end Watch
end CgroupBench
