import CgroupBench.CommandLine.Restoration

/-!
# Attending to procedures

Where nobody handles a signal, a procedure made of two is attended to as the first and then the
second, so what stands in between may be anything that leaves the host alone. The restoration
prints there. Where nobody listens to that it is one procedure, and its status tells the result.
-/
namespace CgroupBench

namespace Program

variable {m : Type → Type} [Monad m] [LawfulMonad m] {α β : Type}

theorem run_bind (answer : (request : Request) → m request.Answer) (first : Program α)
    (next : α → Program β) :
    (first >>= next).run answer = first.run answer >>= fun value => (next value).run answer := by
  show (first.bind next).run answer = _
  induction first with
  | finish value =>
    show (next value).run answer = (pure value : m α) >>= _
    rw [LawfulMonad.pure_bind (m := m)]
  | ask request rest ih =>
    show (answer request >>= fun reply => ((rest reply).bind next).run answer) =
      (answer request >>= fun reply => (rest reply).run answer) >>= _
    rw [LawfulMonad.bind_assoc (m := m)]
    exact congrArg _ (funext ih)

/-- Runs a program that may be interrupted. -/
def runWhole (answer : (request : Request) → m request.Answer) (program : OptionT Program α) :
    OptionT m α :=
  OptionT.mk (program.run.run answer)

theorem runWhole_bind (answer : (request : Request) → m request.Answer)
    (first : OptionT Program α) (next : α → OptionT Program β) :
    runWhole answer (first >>= next) =
      runWhole answer first >>= fun value => runWhole answer (next value) := by
  show OptionT.mk ((first.run >>= _ : Program (Option β)).run answer) = OptionT.mk (_ >>= _)
  rw [run_bind]
  congr 2
  funext value
  cases value <;> rfl

theorem runWhole_lift (answer : (request : Request) → m request.Answer) (program : Program α) :
    runWhole answer (liftM program) = liftM (program.run answer) := by
  show OptionT.mk ((program >>= fun value => pure (some value) : Program (Option α)).run answer) = _
  rw [run_bind]
  rfl

end Program

/-- The same answers, but nobody listens to what is printed. -/
def Request.unheard {m : Type → Type} [Monad m] (answer : (request : Request) → m request.Answer) :
    (request : Request) → m request.Answer
  | .print _ | .complain _ => pure ()
  | request => answer request

namespace CommandLine

variable {m : Type → Type} [Monad m] [LawfulMonad m] {α : Type}

theorem run_send_unheard (answer : (request : Request) → m request.Answer) (line : String) :
    (Program.print line).run (Request.unheard answer) = pure () ∧
      (Program.complain line).run (Request.unheard answer) = pure () :=
  ⟨LawfulMonad.pure_bind (m := m) () _, LawfulMonad.pure_bind (m := m) () _⟩

theorem run_printAll_unheard (answer : (request : Request) → m request.Answer)
    (lines : List String) :
    (printAll lines).run (Request.unheard answer) = pure () ∧
      (complainAll lines).run (Request.unheard answer) = pure () := by
  induction lines with
  | nil => exact ⟨rfl, rfl⟩
  | cons line rest ih =>
    obtain ⟨printed, complained⟩ := run_send_unheard answer line
    constructor
    · show (Program.print line >>= fun _ => printAll rest : Program Unit).run _ = _
      rw [Program.run_bind, ih.1, printed, LawfulMonad.pure_bind (m := m)]
    · show (Program.complain line >>= fun _ => complainAll rest : Program Unit).run _ = _
      rw [Program.run_bind, ih.2, complained, LawfulMonad.pure_bind (m := m)]

end CommandLine

namespace Executor

variable {α β : Type} (executor : Executor)

/-- The pending reversals only tell what an interrupted procedure leaves. -/
theorem toOption_perform (procedure : Procedure α) (first second : Cleanup) :
    Except.toOption <$> executor.perform procedure first =
      Except.toOption <$> executor.perform procedure second := by
  induction procedure generalizing first second with
  | finish value => rfl
  | note note next ih => exact ih _ _
  | ask call next ih =>
    rw [perform, perform, map_bind, map_bind]
    congr 1
    funext reply
    cases reply with
    | none => rfl
    | some reply => exact ih reply first second

theorem attend_eq (procedure : Procedure α) (cleanup : Cleanup) :
    executor.attend procedure =
      OptionT.mk (Except.toOption <$> executor.perform procedure cleanup) := by
  rw [toOption_perform executor procedure cleanup {}, map_eq_pure_bind]
  show OptionT.mk ((executor.perform procedure {} >>= fun outcome => pure (some outcome)) >>= _) = _
  rw [LawfulMonad.bind_assoc (m := Program)]
  congr 2
  funext outcome
  cases outcome <;> rfl

theorem attend_finish (value : α) : executor.attend (.finish value) = pure value := rfl

theorem attend_note (note : Note) (next : Procedure α) :
    executor.attend (.note note next) = executor.attend next := by
  rw [attend_eq executor (.note note next) {}, attend_eq executor next (note.apply {})]
  rfl

theorem attend_ask (call : Call) (next : call.Reply → Procedure α) :
    executor.attend (.ask call next) =
      executor.answer call >>= fun reply => executor.attend (next reply) := by
  rw [attend_eq executor (.ask call next) {}, perform, map_bind]
  show OptionT.mk ((executor.answer call).run >>= _) = OptionT.mk ((executor.answer call).run >>= _)
  congr 2
  funext reply
  cases reply with
  | none => rfl
  | some reply => exact (attend_eq executor (next reply) {}).symm

theorem attend_bind (first : Procedure α) (next : α → Procedure β) :
    executor.attend (first >>= next) =
      executor.attend first >>= fun value => executor.attend (next value) := by
  show executor.attend (first.bind next) = _
  induction first with
  | finish value => rw [attend_finish, pure_bind]; rfl
  | note note rest ih => rw [Procedure.bind, attend_note, attend_note, ih]
  | ask call rest ih =>
    rw [Procedure.bind, attend_ask, attend_ask, bind_assoc]
    exact congrArg _ (funext ih)

end Executor

namespace CommandLine

variable {m : Type → Type} [Monad m] [LawfulMonad m]

/-- A file is read by one request, which no signal interrupts. -/
theorem runWhole_read (answer : (request : Request) → m request.Answer) (path : String) :
    Program.runWhole answer (Executor.read path) =
      Except.mapError (.access "read" path) <$> liftM ((Program.readText path).run answer) := by
  rw [← Program.runWhole_lift, map_eq_pure_bind]
  exact Program.runWhole_bind answer (liftM (Program.readText path)) _

theorem runWhole_attend_read (answer : (request : Request) → m request.Answer) (executor : Executor)
    (path : String) :
    Program.runWhole answer (executor.attend (Procedure.read path)) =
      Except.mapError (.access "read" path) <$> liftM ((Program.readText path).run answer) := by
  show Program.runWhole answer (executor.attend (.ask (.read path) .finish)) = _
  rw [Executor.attend_ask, ← runWhole_read]
  exact congrArg (Program.runWhole answer) (bind_pure (Executor.read path))

/-- What the restoration does to the host, without what it prints. -/
def recovery (tools : Tools) (keepSmtOff : Bool) :
    Procedure (Except Fault Unit × Machine) := do
  let found ← Machine.probe Machine.defaultSmtControl Machine.defaultDropCaches
  replay tools Reversal.outermost (restorer found keepSmtOff)

theorem attend_recovery (executor : Executor) (tools : Tools) (keepSmtOff : Bool) :
    executor.attend (recovery tools keepSmtOff) =
      executor.attend (Machine.probe Machine.defaultSmtControl Machine.defaultDropCaches) >>=
        fun found => executor.attend
          (replay tools Reversal.outermost (restorer found keepSmtOff)) :=
  executor.attend_bind _ _

/-- The command attends to the recovery. It ends with one if a fault is reported, and with zero
otherwise, after a last look at SMT. -/
theorem run_restoration (answer : (request : Request) → m request.Answer)
    (settings : RestoreSettings) :
    let executor : Executor := { elevated := settings.host.elevated }
    let recovery := recovery (settings.host.tools 3 none) settings.keepSmtOff
    let reread : m _ := (Program.readText Machine.defaultSmtControl).run (Request.unheard answer)
    Program.runWhole (Request.unheard answer) (restoration settings) =
      Program.runWhole (Request.unheard answer) (executor.attend recovery) >>= fun
        | (.error _, _) => pure (1 : Status)
        | (.ok (), _) => do
          let _ ← reread
          return (0 : Status) := by
  intro executor recovery reread
  show Program.runWhole _ (executor.attend (Machine.probe _ _) >>= _ : OptionT Program Status) = _
  rw [attend_recovery, Program.runWhole_bind, Program.runWhole_bind, bind_assoc]
  congr 1
  funext found
  show Program.runWhole _ (liftM (printAll _) >>= fun _ => executor.attend _ >>= _) = _
  rw [Program.runWhole_bind, Program.runWhole_lift, (run_printAll_unheard answer _).1,
    liftM_pure, pure_bind, Program.runWhole_bind]
  congr 1
  funext out
  obtain ⟨fault | _, machine⟩ := out
  · show Program.runWhole _ (liftM (complainAll _ >>= fun _ => pure 1 : Program Status)) = _
    rw [Program.runWhole_lift, Program.run_bind, (run_printAll_unheard answer _).2,
      LawfulMonad.pure_bind (m := m)]
    exact liftM_pure 1
  · show Program.runWhole _ (executor.attend _ >>= fun text =>
      liftM (printAll _) >>= fun _ => pure (0 : Status)) = _
    rw [Program.runWhole_bind, runWhole_attend_read, bind_map_left]
    congr 1
    funext reply
    rw [Program.runWhole_bind, Program.runWhole_lift, (run_printAll_unheard answer _).1,
      liftM_pure, pure_bind]
    rfl

end CommandLine
end CgroupBench
