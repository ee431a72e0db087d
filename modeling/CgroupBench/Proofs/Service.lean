import CgroupBench.Proofs.Attendance
import CgroupBench.Proofs.RepeatedPasses
import CgroupBench.Proofs.Scene
import CgroupBench.Proofs.Utf8RoundTrip
import CgroupBench.Simulation.HostSystem

/-!
# Hosts that are reached through a system

A procedure asks a host, and an executor asks a system in its place. If the system has for each
call the reply and the effect that the host has, then attending to a procedure comes to what its
execution comes to, and a signal never cuts it short.
-/
namespace CgroupBench

variable {σ α β : Type} {answer : (request : Request) → StateM σ request.Answer}

/-- What is not cut short hands its value on. -/
theorem run_bind_some (first : OptionT (StateM σ) α) {value : α} {state left : σ}
    (ended : first.run state = (some value, left)) (next : α → OptionT (StateM σ) β) :
    (first >>= next).run state = (next value).run left := by
  refine (congrFun (OptionT.run_bind (x := first) next) state).trans ?_
  show ((first.run state).1.elim (pure none) fun value => (next value).run : StateM σ (Option β))
    (first.run state).2 = _
  rw [ended]
  rfl

theorem Program.run_bind_some {first : OptionT Program α} {value : α} {state left : σ}
    (ended : first.run.run answer state = (some value, left)) (next : α → OptionT Program β) :
    (first >>= next).run.run answer state = (next value).run.run answer left :=
  (congrFun (Program.runWhole_bind answer first next) state).trans
    (CgroupBench.run_bind_some (runWhole answer first) ended _)

namespace Executor

/-- On the system a call comes to what the host answers, in every state. -/
def Relays (executor : Executor) (answer : (request : Request) → StateM σ request.Answer)
    (host : Host σ) (call : Call) : Prop :=
  ∀ state, (executor.answer call).run.run answer state =
    (some (host.answer state call).1, (host.answer state call).2)

variable {executor : Executor} {host : Host σ}

theorem attend_relayed {procedure : Procedure α} {state : σ}
    (relayed : ∀ entry ∈ Event.calls (procedure.execute host state).history,
      executor.Relays answer host entry.1) :
    (executor.attend procedure).run.run answer state =
      (some (procedure.execute host state).value, (procedure.execute host state).host) := by
  induction procedure generalizing state with
  | finish value => rfl
  | note note next ih =>
    rw [attend_note]
    exact ih relayed
  | ask call next ih =>
    obtain ⟨first, rest⟩ := List.forall_mem_cons.mp relayed
    rw [attend_ask, Program.run_bind_some (first state)]
    exact ih _ rest

theorem run_read (answer : (request : Request) → StateM σ request.Answer) (path : String)
    (state : σ) :
    let text := (Program.readText path).run answer state
    (read path).run.run answer state = (some (text.1.mapError (.access "read" path)), text.2) :=
  congrFun (CommandLine.runWhole_read answer path) state

end Executor

/-- What a restoration asks for is relayed: every reversal, and the look at SMT. -/
structure Serves (site : Site) (executor : Executor)
    (answer : (request : Request) → StateM σ request.Answer) (host : Host σ) : Prop where
  reversal : ∀ reversal : Reversal, executor.Relays answer host (reversal.call site)
  read : executor.Relays answer host (.read site.smtControl)

namespace CommandLine

variable {host : Host σ} {settings : RestoreSettings}

/-- The command does what the recovery does, and its status tells whether that succeeded. After a
success it looks at SMT once more. -/
theorem run_restoration_relayed {executor : Executor}
    (runner : executor = { elevated := settings.host.elevated }) {state : σ}
    (read : executor.Relays (Request.unheard answer) host (.read Machine.defaultSmtControl)) :
    let run := (recovery (settings.host.tools 3 none) settings.keepSmtOff).execute host state
    (∀ entry ∈ Event.calls run.history, executor.Relays (Request.unheard answer) host entry.1) →
      ∃ left, (restoration settings).run.run (Request.unheard answer) state =
          (some (if run.value.1.isOk then 0 else 1), left) ∧
        (left = run.host ∨ left = (host.answer run.host (.read Machine.defaultSmtControl)).2) := by
  intro run relayed
  subst runner
  have attended : (Executor.attend _ (recovery _ _)).run.run (Request.unheard answer) state =
      (some run.value, run.host) := Executor.attend_relayed relayed
  have command := (congrFun (run_restoration answer settings) state).trans
    (run_bind_some (Program.runWhole _ (Executor.attend _ _)) attended _)
  clear_value run
  obtain ⟨⟨_ | _, machine⟩, final, history⟩ := run
  · exact ⟨_, command, .inl rfl⟩
  · have looked := congrArg Prod.snd ((Executor.run_read _ _ final).symm.trans (read final))
    exact ⟨_, command, .inr looked⟩

end CommandLine

/-! The host in memory is reached through its system. -/

theorem Executor.run_ended {executor : Executor} {argv : List String} {child : Child}
    {state left : σ} (nonempty : argv ≠ [])
    (ended : answer (.launch (executor.elevate argv) "") state = (.ended child, left)) :
    (executor.run argv).run.run answer state = (some (accept argv child.output), left) := by
  rw [run, if_neg nonempty]
  exact Program.run_ask ended _

/-- A file is read as the text that is encoded in it. -/
theorem Program.run_readText_encoded {path text : String} {state left : σ}
    (read : answer (.readFile path) state = (.ok (Text.Utf8.encode text), left)) :
    (Program.readText path).run answer state = (.ok text, left) := by
  refine (Program.run_ask read _).trans ?_
  simp only [Program.bind, Text.Utf8.decode?_encode]
  rfl

namespace Simulation.HostState

/-- A reply that is shown whole: a success, or a refusal in few words. -/
inductive Told (argv : List String) : Except CallError Output → Prop where
  | done : Told argv (.ok {})
  | refused {stderr : String} (short : Text.tail Executor.errorLimit stderr = stderr) :
    Told argv (refuse argv stderr)

theorem Told.accept {argv : List String} {reply : Except CallError Output}
    (told : Told argv reply) :
    ∃ child, left reply = .ended child ∧ Executor.accept argv child.output = reply := by
  cases told with
  | done =>
    refine ⟨_, rfl, ?_⟩
    show Executor.accept argv ⟨some 0, Text.Utf8.decodeLossy (Text.Utf8.encode ""),
      Text.Utf8.decodeLossy (Text.Utf8.encode "")⟩ = _
    rw [Text.Utf8.decodeLossy_encode]
    rfl
  | @refused stderr short =>
    refine ⟨_, rfl, ?_⟩
    show Except.error (CallError.exited _ _ (Text.tail _ (Text.Utf8.decodeLossy _))) = _
    rw [Text.Utf8.decodeLossy_encode, short]
    rfl

theorem told_delete (variant : Variant) (state : HostState) :
    Told (Cgroups.deleteArgv variant) (state.run (Cgroups.deleteArgv variant)).1 := by
  rw [run_delete, deleteCgroup]
  split
  · exact .refused (by cases variant <;> decide +kernel)
  · split
    · exact .refused (by cases variant <;> decide +kernel)
    · exact .done

theorem told_stop (optimizer : Optimizer) (state : HostState) :
    Told optimizer.stopArgv (state.run optimizer.stopArgv).1 := by
  rw [run_stop, stopOptimizer]
  split
  · exact .done
  · exact .refused (by decide +kernel)

theorem launch_sudo {argv : List String} (plain : ∀ path, argv ≠ ["tee", path]) (input : String)
    (state : HostState) :
    state.launch ("sudo" :: argv) input = (left (state.run argv).1, (state.run argv).2) := by
  rw [launch]
  exact plain

theorem relays_run {argv : List String} (nonempty : argv ≠ [])
    (plain : ∀ path, argv ≠ ["tee", path])
    (told : ∀ state : HostState, Told argv (state.run argv).1) :
    Executor.Relays {} (Request.unheard system) host (.run argv) := by
  intro state
  obtain ⟨child, ended, accepted⟩ := (told state).accept
  have launched : system (.launch ("sudo" :: argv) "") state =
      (.ended child, (state.run argv).2) :=
    (launch_sudo plain "" state).trans (congrArg (·, _) ended)
  refine (Executor.run_ended nonempty launched).trans ?_
  rw [accepted]
  rfl

theorem relays_write {path : String} (plain : limitOwner? path = none) (text : String) :
    Executor.Relays {} (Request.unheard system) host (.write path text) := by
  intro state
  have written : state.write path text = (.ok (), (state.write path text).2) := by
    rw [scene_write plain]
  obtain ⟨child, ended, accepted⟩ := (Told.done : Told ["tee", path] _).accept
  have launched : Request.unheard system (.launch ["sudo", "tee", path] text) state =
      (.ended child, (state.write path text).2) := by
    show (left ((state.write path text).1.map _), _) = _
    rw [written]
    exact congrArg (·, _) ended
  refine (Program.run_ask launched _).trans ?_
  show (some ((Executor.accept ["tee", path] child.output).map _), _) =
    (some (state.write path text).1, _)
  rw [accepted, written]
  rfl

theorem relays_read (path : String) :
    Executor.Relays {} (Request.unheard system) host (.read path) := by
  intro state
  refine (Executor.run_read _ path state).trans ?_
  show _ = (some (state.read path), state)
  rw [HostState.read]
  cases found : state.files.lookup path with
  | none =>
    have missing : Request.unheard system (.readFile path) state =
        (.error (.described "no such file"), state) := by
      show state.serve (.readFile path) = _
      rw [serve, found]
    have unread : (Program.readText path).run (Request.unheard system) state =
        (.error (.described "no such file"), state) := Program.run_ask missing _
    rw [unread]
    rfl
  | some contents =>
    have present : Request.unheard system (.readFile path) state =
        (.ok (Text.Utf8.encode contents), state) := by
      show state.serve (.readFile path) = _
      rw [serve, found]
    rw [Program.run_readText_encoded present]
    rfl

/-- The system serves the host to those who restore it with elevated rights. -/
theorem serves : Serves {} {} (Request.unheard system) host where
  reversal reversal := by
    cases reversal with
    | enableSmt => exact relays_write rfl "on\n"
    | deleteCgroup variant =>
      exact relays_run (List.cons_ne_nil _ _) (by simp [Cgroups.deleteArgv]) (told_delete variant)
    | stopOptimizer =>
      exact relays_run (List.cons_ne_nil _ _) (by simp [Optimizer.stopArgv]) (told_stop _)
  read := relays_read _

end Simulation.HostState
end CgroupBench
