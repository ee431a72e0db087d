import CgroupBench.Proofs.FaultyHost
import CgroupBench.Proofs.TwoRuns

/-!
# Best-effort steps leave no trace

Two hosts give fixed answers. The first does all that is asked of it at best effort, the second
fails some of it, though never for a missing tool. The runs on both are the same but for two
calls: the page cache is not dropped where nothing was flushed, and SMT is not switched on again
where it was not switched off. What the machine remembers of its toggles may then differ, but it
is looked at only where SMT is switched, so it reaches neither the result nor the stages.
-/
namespace CgroupBench

variable {α β : Type}

namespace Site

def sync : Call := .run ["sync"]

def dropping (site : Site) : Call := .write site.dropCaches "3\n"

def swapOff : Call := .run ["swapoff", "-a"]

def smtOff (site : Site) : Call := .write site.smtControl "off\n"

def smtOn (site : Site) : Call := .write site.smtControl "on\n"

/-- The calls whose errors a run tolerates. -/
def bestEffort (site : Site) : List Call :=
  [sync, site.dropping, swapOff, site.smtOff]

section

variable {site : Site}

@[simp]
theorem run_mem_bestEffort {argv : List String} :
    .run argv ∈ site.bestEffort ↔ argv = ["sync"] ∨ argv = ["swapoff", "-a"] := by
  simp [bestEffort, sync, dropping, swapOff, smtOff]

@[simp]
theorem write_mem_bestEffort {path text : String} :
    .write path text ∈ site.bestEffort ↔
      path = site.dropCaches ∧ text = "3\n" ∨ path = site.smtControl ∧ text = "off\n" := by
  simp [bestEffort, sync, dropping, swapOff, smtOff]

@[simp]
theorem workload_notMem_bestEffort {scope : String} {invocation : Invocation} :
    .workload scope invocation ∉ site.bestEffort := by
  simp [bestEffort, sync, dropping, swapOff, smtOff]

theorem sync_mem_bestEffort : sync ∈ site.bestEffort :=
  .head _

theorem swapOff_mem_bestEffort : swapOff ∈ site.bestEffort := by
  simp [swapOff]

theorem smtOff_mem_bestEffort : site.smtOff ∈ site.bestEffort := by
  simp [smtOff]

end

end Site

namespace Answers

/-- The second host fails some of what is done at best effort, and differs in nothing else. -/
structure Hinders (answers : Answers) (site : Site) : Prop where
  restores : answers.first site.smtOn = .ok ()
  done {call : Call} : call ∈ site.bestEffort → ∃ answer, answers.first call = .ok answer
  other {call : Call} : call ∉ site.bestEffort → answers.second call = answers.first call
  hindered {call : Call} : call ∈ site.bestEffort → answers.second call = answers.first call ∨
    ∃ cause, answers.second call = .error cause ∧ cause.isUnlaunchable = false

/-- The call was made, and the second host fails it. -/
def fails (answers : Answers) (call : Call) (log : List Call) : Bool :=
  decide (call ∈ log) && !(answers.second call).isOk

variable {answers : Answers} {site : Site}

theorem fails_concat {call other : Call} {log : List Call}
    (harmless : other = call → (answers.second call).isOk = true) :
    answers.fails call (log ++ [other]) = answers.fails call log := by
  by_cases same : other = call
  · simp [fails, harmless same]
  · simp [fails, List.mem_append, Ne.symm same]

/-- What the second run leaves out because nothing was flushed. -/
def dropped (answers : Answers) (site : Site) (log : List Call) : List Call :=
  if answers.fails Site.sync log then [site.dropping] else []

/-- What the second run leaves out because SMT was not switched off. -/
def restored (answers : Answers) (site : Site) (log : List Call) : List Call :=
  if answers.fails site.smtOff log then [site.smtOn] else []

theorem fails_of_done {call : Call} {answer : call.Answer} {log : List Call}
    (done : answers.second call = .ok answer) : answers.fails call log = false := by
  simp [fails, done, Except.isOk, Except.toBool]

theorem fails_of_refused {call : Call} {cause : CallError} {log : List Call} (mem : call ∈ log)
    (refused : answers.second call = .error cause) : answers.fails call log = true := by
  simp [fails, mem, refused, Except.isOk, Except.toBool]

theorem fails_apart {call other : Call} {log : List Call} (apart : other ≠ call) :
    answers.fails call (log ++ [other]) = answers.fails call log :=
  fails_concat fun same => absurd same apart

namespace Hinders

variable (hinders : answers.Hinders site)
include hinders

theorem alike {call : Call} (apart : call ∉ site.bestEffort) : answers.Alike call :=
  (hinders.other apart).symm

theorem agree (apart : site.controls.Nodup) : answers.Agree site.tools where
  delete variant := hinders.alike (by simp [Cgroups.deleteArgv])
  create variant := hinders.alike (by simp [Cgroups.createArgv])
  limit variant text := hinders.alike (by
    simp [(site.dropCaches_ne_limitPath apart variant).symm,
      (site.smtControl_ne_limitPath apart variant).symm])
  start descriptor := hinders.alike (by simp [Optimizer.startArgv])
  stop := hinders.alike (by simp [Optimizer.stopArgv])
  launch scope invocation := hinders.alike (by simp)

theorem restores_second : answers.second site.smtOn = .ok () :=
  (hinders.other (by simp [Site.smtOn])).trans hinders.restores

/-- A call that is answered alike is not one that the second host fails. -/
theorem fails_alike {call other : Call} {log : List Call} (mem : call ∈ site.bestEffort)
    (alike : answers.Alike other) :
    answers.fails call (log ++ [other]) = answers.fails call log := by
  apply fails_concat
  rintro rfl
  obtain ⟨answer, done⟩ := hinders.done mem
  rw [← alike, done]
  rfl

theorem dropped_alike {call : Call} {log : List Call} (alike : answers.Alike call) :
    answers.dropped site (log ++ [call]) = answers.dropped site log := by
  rw [dropped, hinders.fails_alike Site.sync_mem_bestEffort alike, dropped]

theorem restored_alike {call : Call} {log : List Call} (alike : answers.Alike call) :
    answers.restored site (log ++ [call]) = answers.restored site log := by
  rw [restored, hinders.fails_alike Site.smtOff_mem_bestEffort alike, restored]

/-- The rule of a call whose error is tolerated. -/
theorem ask (call : Call) {next : call.Reply → Procedure α} {next' : call.Reply → Procedure β}
    {post : α → β → List Call → List Call → Prop} {one other : List Call}
    (mem : call ∈ site.bestEffort)
    (passed : ∀ answer, answers.second call = .ok answer →
      answers.Both (next (.ok answer)) (next' (.ok answer)) (one ++ [call]) (other ++ [call]) post)
    (failed : ∀ answer cause, answers.second call = .error cause → cause.isUnlaunchable = false →
      answers.Both (next (.ok answer)) (next' (.error cause)) (one ++ [call]) (other ++ [call])
        post) :
    answers.Both (.ask call next) (.ask call next') one other post := by
  obtain ⟨answer, done⟩ := hinders.done mem
  apply Both.ask call
  rcases hinders.hindered mem with same | ⟨cause, refused, launched⟩
  · rw [same, done]
    exact passed answer (same.trans done)
  · rw [done, refused]
    exact failed answer cause refused launched


end Hinders
end Answers

/-- The second account is the first without what was dropped and what was restored there. -/
def Thinned (dropped restored one other : List Call) : Prop :=
  ∃ opening middle ending, one = opening ++ dropped ++ middle ++ restored ++ ending ∧
    other = opening ++ middle ++ ending

namespace Thinned

variable {dropped one other : List Call}

theorem refl (log : List Call) : Thinned [] [] log log :=
  ⟨log, [], [], by simp, by simp⟩

theorem append {restored : List Call} (h : Thinned dropped restored one other)
    (more : List Call) : Thinned dropped restored (one ++ more) (other ++ more) := by
  obtain ⟨opening, middle, ending, rfl, rfl⟩ := h
  exact ⟨opening, middle, ending ++ more, by simp, by simp⟩

theorem drop (log : List Call) (call : Call) : Thinned [call] [] (log ++ [call]) log :=
  ⟨log, [], [], by simp, by simp⟩

theorem restore (h : Thinned dropped [] one other) (call : Call) :
    Thinned dropped [call] (one ++ [call]) other := by
  obtain ⟨opening, middle, ending, rfl, rfl⟩ := h
  exact ⟨opening, middle ++ ending, [], by simp, by simp⟩

end Thinned

namespace Runner

variable {runner : Runner}

/-- SMT that is off already is not switched off again. -/
theorem disableSmt_off (off : runner.machine.smtDisabled = true) :
    Step.bestEffort (onMachine Machine.disableSmt) runner = return (.ok (), runner) := by
  obtain ⟨owed, quiet⟩ := Machine.disableSmt_idle (.inr off)
  rw [Step.bestEffort, onMachine, Step.onPart, quiet]
  rfl

theorem disableSmt_on {path : String} (started : runner.machine.smtAtStart = .on)
    (on : runner.machine.smtDisabled = false) (control : runner.machine.smtControl = path) :
    Step.bestEffort (onMachine Machine.disableSmt) runner = (do
      match ← Procedure.write path "off\n" with
      | .ok () =>
        return (.ok (), { runner with machine := { runner.machine with smtDisabled := true } })
      | .error cause =>
        let fault := Fault.ofSetup "disable SMT" cause
        return (if fault.severity = .fatal then .error fault else .ok (), runner)) := by
  subst control
  rw [Step.bestEffort, onMachine, Step.onPart, Machine.disableSmt_due started on]
  refine congrArg (Procedure.ask _) (funext fun reply => ?_)
  cases reply <;> rfl

end Runner

namespace Answers

/-- The first machine owes an SMT restore that the second does not, having failed to switch SMT
off. The restore is among what is still to be reversed. -/
structure Ahead (answers : Answers) (site : Site) (todo : List Reversal)
    (machine machine' : Machine) (other : List Call) : Prop where
  off : machine.smtDisabled = true
  on : machine'.smtDisabled = false
  failed : answers.fails site.smtOff other = true
  owed : .enableSmt ∈ todo

/-- A run and what stands between it and the other one before they unwind. While the host is
prepared, neither has switched SMT off more than the other. -/
structure Gap (answers : Answers) (site : Site) (prepared : Bool) (left : Runner)
    (machine : Machine) (one other : List Call) : Prop extends left.WorksAt site where
  control : machine.smtControl = site.smtControl
  started : machine.smtAtStart = left.machine.smtAtStart
  log : Thinned (answers.dropped site other) [] one other
  smt : left.machine.smtDisabled = machine.smtDisabled ∧ answers.fails site.smtOff other = false ∨
    prepared = true ∧ answers.Ahead site left.cleanup.pending left.machine machine other

/-- The runners differ in their machines only. -/
def Abreast (answers : Answers) (site : Site) (prepared : Bool) (left right : Runner)
    (one other : List Call) : Prop :=
  ∃ machine, right = { left with machine } ∧ answers.Gap site prepared left machine one other

variable {answers : Answers} {site : Site} {prepared : Bool} {left right : Runner}
  {machine : Machine} {one other : List Call}

/-- A call that both made, and that counts as no new failure, leaves the gap as it is. -/
theorem Gap.later (gap : answers.Gap site prepared left machine one other) (call : Call)
    (flushing : answers.fails Site.sync (other ++ [call]) = answers.fails Site.sync other)
    (switching : answers.fails site.smtOff (other ++ [call]) = answers.fails site.smtOff other) :
    answers.Gap site prepared left machine (one ++ [call]) (other ++ [call]) where
  toWorksAt := gap.toWorksAt
  control := gap.control
  started := gap.started
  log := by
    rw [dropped, flushing]
    exact gap.log.append [call]
  smt := by
    rw [switching]
    exact gap.smt.imp_right fun ⟨done, ahead⟩ =>
      ⟨done, { ahead with failed := switching.trans ahead.failed }⟩

theorem Abreast.weaken (h : answers.Abreast site false left right one other) :
    answers.Abreast site prepared left right one other := by
  obtain ⟨machine, rfl, gap⟩ := h
  exact ⟨machine, rfl, { gap with smt := .inl (gap.smt.resolve_right (by simp)) }⟩

/-- As long as nobody has tried to switch SMT off, the machines agree on it. -/
theorem Gap.opening (works : left.WorksAt site) (control : machine.smtControl = site.smtControl)
    (started : machine.smtAtStart = left.machine.smtAtStart)
    (same : left.machine.smtDisabled = machine.smtDisabled) (untouched : site.smtOff ∉ other)
    (log : Thinned (answers.dropped site other) [] one other) :
    answers.Gap site prepared left machine one other :=
  { works with control, started, log, smt := .inl ⟨same, by simp [fails, untouched]⟩ }

/-- An error of a set-up call is tolerated unless its tool is missing. -/
theorem tolerated {what : String} {cause : CallError} (launched : cause.isUnlaunchable = false) :
    (if (Fault.ofSetup what cause).severity = .fatal then .error (Fault.ofSetup what cause)
      else .ok () : Except Fault Unit) = .ok () := by
  simp [Fault.ofSetup, launched, Fault.severity]

namespace Hinders

variable (hinders : answers.Hinders site)
include hinders

theorem steady : answers.Steady site.tools (answers.Abreast site prepared) where
  tools := by
    rintro left _ one other ⟨machine, rfl, gap⟩
    exact ⟨gap.tools, gap.tools⟩
  lasts := by
    rintro left _ call one other alike ⟨machine, rfl, gap⟩
    exact ⟨machine, rfl, gap.later call (hinders.fails_alike Site.sync_mem_bestEffort alike)
      (hinders.fails_alike Site.smtOff_mem_bestEffort alike)⟩
  register := by
    rintro left _ one other reversal ⟨machine, rfl, gap⟩
    refine ⟨machine, rfl, { gap with smt := ?_ }⟩
    exact gap.smt.imp_right fun ⟨done, ahead⟩ =>
      ⟨done, { ahead with owed := List.mem_append_left _ ahead.owed }⟩
  into := by
    rintro left _ one other stage ⟨machine, rfl, gap⟩
    exact ⟨machine, rfl, { gap with }⟩
  occupy := by
    rintro left _ one other boundary ⟨machine, rfl, gap⟩
    exact ⟨machine, rfl, { gap with }⟩

/-- Where nothing was flushed the page cache is not dropped. -/
theorem dropPageCache (works : left.WorksAt site) :
    answers.Both (Step.bestEffort (Runner.onMachine Machine.dropPageCache) left)
      (Step.bestEffort (Runner.onMachine Machine.dropPageCache) left) [] []
      (Level (answers.Abreast site false)) := by
  have dropping : .write left.machine.dropCaches "3\n" = site.dropping := by
    rw [Site.dropping, works.dropCaches]
  have mem : .write left.machine.dropCaches "3\n" ∈ site.bestEffort := by
    simp [works.dropCaches]
  apply hinders.ask Site.sync Site.sync_mem_bestEffort
  · intro _ flushed
    have log : Thinned (answers.dropped site [Site.sync, site.dropping]) []
        [Site.sync, site.dropping] [Site.sync, site.dropping] := by
      rw [dropped, fails_of_done flushed]
      exact .refl _
    rw [← dropping] at log
    apply hinders.ask _ mem
    · intro _ _
      exact .finish ⟨rfl, _, rfl, .opening { works with } works.smtControl rfl rfl
        (by simp [Site.sync, Site.smtOff]) log⟩
    · intro _ _ _ launched
      exact .finish ⟨(tolerated launched).symm, left.machine, rfl, .opening { works with }
        works.smtControl rfl rfl (by simp [Site.sync, Site.smtOff]) log⟩
  · intro _ _ refused launched
    have log : Thinned (answers.dropped site [Site.sync]) [] [Site.sync, site.dropping]
        [Site.sync] := by
      rw [dropped, fails_of_refused (.head _) refused]
      exact .drop [Site.sync] site.dropping
    rw [← dropping] at log
    -- From here the second run has come to the end of the step, and the first goes on alone.
    obtain ⟨_, done⟩ := hinders.done mem
    apply Both.askFirst (.write left.machine.dropCaches "3\n")
    rw [done]
    exact .finish ⟨(tolerated launched).symm, left.machine, rfl, .opening { works with }
      works.smtControl rfl rfl (by simp [Site.sync, Site.smtOff]) log⟩

theorem disableSwap : answers.Twin (answers.Abreast site false)
    (Step.bestEffort (Runner.onMachine Machine.disableSwap)) := by
  rintro left _ one other ⟨machine, rfl, gap⟩
  have gap := gap.later Site.swapOff (fails_apart (by decide))
    (fails_apart (by simp [Site.swapOff, Site.smtOff]))
  have smt := gap.smt.resolve_right (by simp)
  apply hinders.ask Site.swapOff Site.swapOff_mem_bestEffort
  · intro _ _
    exact .finish ⟨rfl, _, rfl, { gap with smt := .inl smt }⟩
  · intro _ _ _ launched
    exact .finish ⟨(tolerated launched).symm, machine, rfl, { gap with smt := .inl smt }⟩

/-- With a restore registered the first run may switch SMT off alone. -/
theorem disableSmt (started : left.machine.smtAtStart = .on)
    (registered : .enableSmt ∈ left.cleanup.pending)
    (h : answers.Abreast site false left right one other) :
    answers.Both (Step.bestEffort (Runner.onMachine Machine.disableSmt) left)
      (Step.bestEffort (Runner.onMachine Machine.disableSmt) right) one other
      (Level (answers.Abreast site true)) := by
  obtain ⟨machine, rfl, gap⟩ := h
  obtain ⟨same, settled⟩ := gap.smt.resolve_right (by simp)
  cases off : machine.smtDisabled with
  | true =>
    rw [Runner.disableSmt_off (same.trans off), Runner.disableSmt_off off]
    exact .finish ⟨rfl, machine, rfl, { gap with smt := .inl ⟨same, settled⟩ }⟩
  | false =>
    -- Both ask for it. Where the second is refused, the first is ahead until SMT is restored.
    rw [Runner.disableSmt_on started (same.trans off) gap.smtControl,
      Runner.disableSmt_on (gap.started.trans started) off gap.control]
    have flushing : answers.fails Site.sync (other ++ [site.smtOff]) =
        answers.fails Site.sync other := fails_apart (by simp [Site.smtOff, Site.sync])
    apply hinders.ask site.smtOff Site.smtOff_mem_bestEffort
    · intro _ went
      have gap := gap.later site.smtOff flushing ((fails_of_done went).trans settled.symm)
      exact .finish ⟨rfl, _, rfl, { gap with smt := .inl ⟨rfl, fails_of_done went⟩ }⟩
    · intro _ cause refused launched
      have failed : answers.fails site.smtOff (other ++ [site.smtOff]) = true :=
        fails_of_refused (List.mem_append_right _ (.head _)) refused
      refine .finish ⟨(tolerated launched).symm, machine, rfl, { gap with log := ?_, smt := ?_ }⟩
      · rw [dropped, flushing]
        exact gap.log.append [site.smtOff]
      · exact .inr ⟨rfl, rfl, off, failed, registered⟩

/-- SMT may be switched off in the first run alone; a restore is registered by then. -/
theorem quiesce (h : answers.Abreast site false left right one other) :
    answers.Both (Runner.quiesce left) (Runner.quiesce right) one other
      (Level (answers.Abreast site true)) := by
  obtain ⟨machine, rfl, gap⟩ := h
  obtain ⟨same, settled⟩ := gap.smt.resolve_right (by simp)
  show answers.Both ((if left.machine.smtAtStart = .on then _ else _ : Step Runner Unit) left)
    ((if machine.smtAtStart = .on then _ else _ : Step Runner Unit) { left with machine }) _ _ _
  rw [gap.started]
  by_cases started : left.machine.smtAtStart = .on
  · rw [if_pos started]
    apply Both.note
    exact hinders.disableSmt started (List.mem_append_right _ (.head _))
      ⟨machine, rfl, { gap with smt := .inl ⟨same, settled⟩ }⟩
  · rw [if_neg started]
    exact .finish ⟨rfl, machine, rfl, { gap with smt := .inl ⟨same, settled⟩ }⟩

variable (apart : site.controls.Nodup)
include apart

theorem makeReady (works : left.WorksAt site) (target : Target) :
    answers.Both (Runner.makeReady target left) (Runner.makeReady target left) [] []
      (Level (answers.Abreast site true)) := by
  apply (hinders.dropPageCache works).steps .weaken
  rintro _ left right one other h
  apply (hinders.disableSwap left right one other h).steps .weaken
  rintro _ left right one other h
  obtain ⟨mine, yours⟩ := hinders.steady.tools h
  have finishes : ∀ left right one other, answers.Abreast site false left right one other →
      answers.Both ((Runner.setUp target >>= fun _ => Runner.quiesce) left)
        ((Runner.setUp target >>= fun _ => Runner.quiesce) right) one other
        (Level (answers.Abreast site true)) := by
    intro left right one other h
    apply (hinders.steady.setUp (hinders.agree apart) target left right one other h).steps .weaken
    exact fun _ _ _ _ _ h => hinders.quiesce h
  show answers.Both ((if ¬ target.variant.isOptimized = true then _ else _ : Step Runner Unit) left)
    ((if ¬ target.variant.isOptimized = true then _ else _ : Step Runner Unit) right) _ _ _
  rw [mine, yours]
  split
  · apply (hinders.steady.ensureStopped (hinders.agree apart) left right one other h).steps .weaken
    exact fun _ => finishes
  · exact finishes left right one other h

/-- What comes before the first call is the same in both runs. -/
theorem prepare (works : left.WorksAt site) (workload : Workload) (record : Record) :
    answers.Both (Runner.prepare workload record left) (Runner.prepare workload record left) [] []
      (Level (answers.Abreast site true)) := by
  have alike : answers.Abreast site true left left [] [] :=
    ⟨left.machine, rfl, .opening works works.smtControl rfl rfl (by simp) (.refl [])⟩
  unfold Runner.prepare
  cases Target.ofRecord record with
  | error fault => exact .finish ⟨rfl, alike⟩
  | ok target =>
    cases workload.command record with
    | panicked => exact .finish ⟨rfl, alike⟩
    | error fault => exact .finish ⟨rfl, alike⟩
    | ok invocation =>
      apply (hinders.makeReady apart works target).steps id
      exact fun _ _ _ _ _ h => .finish ⟨rfl, h⟩

theorem attempt (works : left.WorksAt site) (workload : Workload) (record : Record) :
    answers.Both (Runner.attempt workload record left) (Runner.attempt workload record left) [] []
      (Level (answers.Abreast site true)) := by
  have begun : (({ left with stage := .idle, stages := [.idle] } : Runner).into .preparing).WorksAt
      site := { works with }
  apply Both.note
  apply Both.note
  apply (hinders.prepare apart begun workload record).steps id
  rintro (_ | ⟨variant, invocation⟩) left right one other h
  · exact .finish ⟨rfl, h⟩
  · exact hinders.steady.measure (hinders.agree apart) workload record variant invocation left right
      one other h

end Hinders

/-- The machines while these reversals are still to be carried out. -/
structure Settling (answers : Answers) (site : Site) (todo : List Reversal)
    (machine machine' : Machine) (one other : List Call) : Prop where
  control : machine.smtControl = site.smtControl
  control' : machine'.smtControl = site.smtControl
  smt : machine.smtDisabled = machine'.smtDisabled ∧
      Thinned (answers.dropped site other) (answers.restored site other) one other ∨
    answers.Ahead site todo machine machine' other ∧
      Thinned (answers.dropped site other) [] one other

/-- The runners differ in their machines only, and nothing of that matters any more. -/
def Parted (answers : Answers) (site : Site) (left right : Runner) (one other : List Call) : Prop :=
  (∃ machine, right = { left with machine }) ∧
    Thinned (answers.dropped site other) (answers.restored site other) one other

section

variable {machine' : Machine} {todo : List Reversal}

/-- A reversal other than that of SMT can be left to what follows. -/
theorem Settling.skip {reversal : Reversal} (apart : reversal ≠ .enableSmt)
    (h : answers.Settling site (reversal :: todo) machine machine' one other) :
    answers.Settling site todo machine machine' one other := by
  refine { h with smt := h.smt.imp_right fun ⟨ahead, log⟩ => ⟨{ ahead with owed := ?_ }, log⟩ }
  exact (List.mem_cons.mp ahead.owed).resolve_left apart.symm

namespace Hinders

variable (hinders : answers.Hinders site)
include hinders

theorem settling_lasts : answers.Lasts (answers.Settling site todo machine machine') := by
  intro call one other alike h
  refine { h with smt := ?_ }
  rw [hinders.dropped_alike alike, hinders.restored_alike alike]
  refine h.smt.imp (And.imp_right (·.append [call])) fun ⟨ahead, log⟩ =>
    ⟨{ ahead with failed := ?_ }, log.append [call]⟩
  rw [hinders.fails_alike Site.smtOff_mem_bestEffort alike]
  exact ahead.failed

/-- SMT comes back on in the first run alone if it was switched off there alone. -/
theorem enableSmt (h : answers.Settling site (.enableSmt :: todo) machine machine' one other) :
    answers.Both (Machine.enableSmt machine) (Machine.enableSmt machine') one other
      fun out out' one other =>
        out.1 = out'.1 ∧ answers.Settling site todo out.2 out'.2 one other := by
  rcases h.smt with ⟨same, log⟩ | ⟨ahead, log⟩
  · cases owing : machine'.smtDisabled with
    | false =>
      rw [Machine.enableSmt_settled (same.trans owing), Machine.enableSmt_settled owing]
      exact .finish ⟨rfl, { h with smt := .inl ⟨same, log⟩ }⟩
    | true =>
      rw [Machine.enableSmt_owing (same.trans owing), Machine.enableSmt_owing owing, h.control,
        h.control']
      have alike : answers.Alike site.smtOn := hinders.alike (by simp [Site.smtOn])
      apply Both.ask site.smtOn
      rw [hinders.restores, hinders.restores_second]
      refine .finish ⟨rfl, rfl, rfl, .inl ⟨rfl, ?_⟩⟩
      rw [hinders.dropped_alike alike, hinders.restored_alike alike]
      exact log.append [site.smtOn]
  · rw [Machine.enableSmt_owing ahead.off, Machine.enableSmt_settled ahead.on, h.control]
    apply Both.askFirst site.smtOn
    rw [hinders.restores]
    refine .finish ⟨rfl, rfl, h.control', .inl ⟨ahead.on.symm, ?_⟩⟩
    rw [restored, ahead.failed]
    exact log.restore site.smtOn

variable (apart : site.controls.Nodup)
include apart

theorem perform (reversal : Reversal)
    (h : answers.Settling site (reversal :: todo) machine machine' one other) :
    answers.Both (reversal.perform site.tools machine) (reversal.perform site.tools machine')
      one other fun out out' one other =>
        out.1 = out'.1 ∧ answers.Settling site todo out.2 out'.2 one other := by
  cases reversal with
  | enableSmt => exact hinders.enableSmt h
  | deleteCgroup variant =>
    apply (Same.delete hinders.settling_lasts ((hinders.agree apart).delete variant) one other
      (h.skip (by simp))).andThen
    rintro (cause | value) _ one other ⟨rfl, h⟩ <;> exact .finish ⟨rfl, h⟩
  | stopOptimizer =>
    apply (Same.detach hinders.settling_lasts (hinders.agree apart).stop one other
      (h.skip (by simp))).andThen
    rintro (cause | value) _ one other ⟨rfl, h⟩ <;> exact .finish ⟨rfl, h⟩

theorem performAll (h : answers.Settling site todo machine machine' one other) :
    answers.Both (Reversal.performAll site.tools todo machine)
      (Reversal.performAll site.tools todo machine') one other fun out out' one other =>
        out.1 = out'.1 ∧ answers.Settling site [] out.2 out'.2 one other := by
  induction todo generalizing machine machine' one other with
  | nil => exact .finish ⟨rfl, h⟩
  | cons reversal rest ih =>
    apply Both.note
    apply (hinders.perform apart reversal h).andThen
    rintro ⟨result, machine⟩ ⟨_, machine'⟩ one other ⟨rfl, performed⟩
    apply (ih performed).andThen
    rintro ⟨faults, machine⟩ ⟨_, machine'⟩ one other ⟨rfl, done⟩
    cases result with
    | ok _ => exact .finish ⟨rfl, done⟩
    | error fault => exact .finish ⟨rfl, done⟩

theorem tearDown (h : answers.Abreast site true left right one other) :
    answers.Both (Runner.tearDown left) (Runner.tearDown right) one other
      (Level (answers.Parted site)) := by
  obtain ⟨machine, rfl, gap⟩ := h
  have settling : answers.Settling site left.cleanup.pending.reverse left.machine machine one
      other := by
    refine ⟨gap.smtControl, gap.control, ?_⟩
    rcases gap.smt with ⟨same, settled⟩ | ⟨-, ahead⟩
    · refine .inl ⟨same, ?_⟩
      rw [restored, settled]
      exact gap.log
    · exact .inr ⟨{ ahead with owed := List.mem_reverse.mpr ahead.owed }, gap.log⟩
  have unwound := hinders.performAll apart settling
  rw [← gap.tools] at unwound
  refine .note (.bind (.finish (.bind (.bind ?_))))
  apply unwound.mono
  rintro ⟨faults, machine⟩ ⟨_, machine'⟩ one other ⟨rfl, done⟩
  -- With nothing left to reverse the first machine is not ahead any more.
  have log := (done.smt.resolve_right fun ⟨ahead, _⟩ => List.not_mem_nil ahead.owed).2
  exact .finish (.note (.finish ⟨rfl, ⟨machine', rfl⟩, log⟩))

/-- In the end the machines alone differ. SMT was restored in the first run only if that came to its
unwinding, which a run whose workload broke down does not. -/
theorem run (works : left.WorksAt site) (workload : Workload) (record : Record) :
    answers.Both (Runner.run workload record left) (Runner.run workload record left) [] []
      fun out out' one other => out.1 = out'.1 ∧ (∃ machine, out'.2 = { out.2 with machine }) ∧
        (out.1 ≠ .panicked →
          Thinned (answers.dropped site other) (answers.restored site other) one other) ∧
        (out.1 = .panicked → Thinned (answers.dropped site other) [] one other) := by
  rw [Runner.run_eq]
  apply (hinders.attempt apart works workload record).andThen
  rintro ⟨fault | _ | measurement, left⟩ ⟨_, right⟩ one other ⟨rfl, h⟩
  · show answers.Both (Runner.rollBack fault left) (Runner.rollBack fault right) _ _ _
    rw [Runner.rollBack_eq, Runner.rollBack_eq]
    apply Both.note
    apply (hinders.tearDown apart (hinders.steady.into .aborted h)).andThen
    rintro ⟨result, left⟩ ⟨_, right⟩ one other ⟨rfl, ⟨machine, rfl⟩, log⟩
    exact .finish ⟨rfl, ⟨machine, rfl⟩, fun _ => log,
      fun broke => nomatch RunEnd.ofPhases_eq_panicked.mp broke⟩
  · obtain ⟨machine, rfl, gap⟩ := h
    exact .finish ⟨rfl, ⟨machine, rfl⟩, fun returned => absurd rfl returned, fun _ => gap.log⟩
  · show answers.Both (Runner.conclude measurement left) (Runner.conclude measurement right) _ _ _
    rw [Runner.conclude_eq, Runner.conclude_eq]
    apply Both.note
    apply (hinders.tearDown apart (hinders.steady.into .tearingDown h)).andThen
    rintro ⟨result, left⟩ ⟨_, right⟩ one other ⟨rfl, ⟨machine, rfl⟩, log⟩
    exact .note (.finish ⟨rfl, ⟨machine, rfl⟩, fun _ => log,
      fun broke => nomatch RunEnd.ofPhases_eq_panicked.mp broke⟩)

end Hinders
end

/-- What the second host fails is what it is seen to fail. -/
theorem fails_asked {procedure : Procedure α} {call : Call} :
    let history := (procedure.execute (.fixed answers.second) ()).history
    answers.fails call (Event.asked history) = true ↔
      ∃ cause, .called call (.error cause) ∈ history := by
  intro history
  simp only [fails, Bool.and_eq_true, decide_eq_true_eq, Bool.not_eq_true', Event.mem_asked]
  constructor
  · rintro ⟨⟨reply, mem⟩, failed⟩
    rw [← Event.mem_fixed mem] at failed
    cases reply with
    | error cause => exact ⟨cause, mem⟩
    | ok answer => cases failed
  · rintro ⟨cause, mem⟩
    refine ⟨⟨_, mem⟩, ?_⟩
    rw [← Event.mem_fixed mem]
    rfl

end Answers

/-- What is done at best effort does not influence a run. Of two hosts that give fixed answers let
the first do all of it and the second fail some of it. The runs on them come to the same end
through the same stages. The calls of the second are those of the first without the dropping of
the page cache, exactly where the flush failed, and without the restore of SMT, exactly where SMT
could not be switched off and the workload did not break down before the unwinding. -/
theorem best_effort_without_influence {answers : Answers} (runner : Runner)
    (apart : runner.site.controls.Nodup) (hinders : answers.Hinders runner.site)
    (workload : Workload) (record : Record) :
    let one := (runner.run workload record).execute (.fixed answers.first) ()
    let other := (runner.run workload record).execute (.fixed answers.second) ()
    let failed call := ∃ cause, .called call (.error cause) ∈ other.history
    let restoring := failed runner.site.smtOff ∧ other.value.1 ≠ .panicked
    other.value.1 = one.value.1 ∧ other.value.2.stages = one.value.2.stages ∧
      (∃ machine, other.value.2 = { one.value.2 with machine }) ∧
      ∃ opening dropped middle restored ending,
        Event.asked one.history = opening ++ dropped ++ middle ++ restored ++ ending ∧
          Event.asked other.history = opening ++ middle ++ ending ∧
          (failed Site.sync → dropped = [runner.site.dropping]) ∧
          (¬ failed Site.sync → dropped = []) ∧
          (restoring → restored = [runner.site.smtOn]) ∧ (¬ restoring → restored = []) := by
  intro one other failed restoring
  obtain ⟨same, ⟨machine, parted⟩, returned, broke⟩ :=
    hinders.run apart runner.worksAt_site workload record
  have seen {call : Call} :
      answers.fails call (Event.asked other.history) = true ↔ failed call := Answers.fails_asked
  obtain ⟨restored, thinned, on, kept⟩ : ∃ restored,
      Thinned (answers.dropped runner.site (Event.asked other.history)) restored
        (Event.asked one.history) (Event.asked other.history) ∧
      (restoring → restored = [runner.site.smtOn]) ∧ (¬ restoring → restored = []) := by
    by_cases panicked : other.value.1 = .panicked
    · exact ⟨[], broke (same.trans panicked), fun ⟨_, back⟩ => absurd panicked back, fun _ => rfl⟩
    · refine ⟨_, returned fun first => panicked (same.symm.trans first), ?_, ?_⟩
      · rintro ⟨refused, -⟩
        exact if_pos (seen.mpr refused)
      · intro calm
        exact if_neg fun refused => calm ⟨seen.mp refused, panicked⟩
  obtain ⟨opening, middle, ending, first, second⟩ := thinned
  have stages : other.value.2.stages = one.value.2.stages :=
    (congrArg Runner.stages parted).trans rfl
  exact ⟨same.symm, stages, ⟨machine, parted⟩, opening, _, middle, restored, ending, first, second,
    fun refused => if_pos (seen.mpr refused), fun flushed => if_neg (mt seen.mp flushed), on, kept⟩

namespace Sample

/-- A host that does everything, and one that neither flushes nor switches SMT off. -/
def grudging : Answers where
  first
    | .run _ => .ok {}
    | .write _ _ => .ok ()
    | .read _ => .ok "on\n"
    | .workload _ _ => .ok ⟨{}, ⟨1, 0⟩⟩
  second
    | .run argv => if argv = ["sync"] then .error (.exited "sync" (some 1) "") else .ok {}
    | .write path text =>
      if path = site.smtControl ∧ text = "off\n" then .error (.access "write" path (.numbered 16))
      else .ok ()
    | .read _ => .ok "on\n"
    | .workload _ _ => .ok ⟨{}, ⟨1, 0⟩⟩

theorem grudging_hinders : grudging.Hinders site where
  restores := rfl
  done {call} mem := by cases call <;> exact ⟨_, rfl⟩
  other {call} apart := by
    cases call with
    | run argv =>
      have flush : argv ≠ ["sync"] := by
        rintro rfl
        simp at apart
      simp [grudging, flush]
    | write path text =>
      have quiet : ¬ (path = site.smtControl ∧ text = "off\n") := by
        rintro ⟨rfl, rfl⟩
        simp at apart
      simp [grudging, quiet]
    | read path => rfl
    | workload scope invocation => rfl
  hindered {call} mem := by
    cases call with
    | run argv =>
      simp only [grudging]
      split
      · exact .inr ⟨_, rfl, rfl⟩
      · exact .inl rfl
    | write path text =>
      simp only [grudging]
      split
      · exact .inr ⟨_, rfl, rfl⟩
      · exact .inl rfl
    | read path => exact .inl rfl
    | workload scope invocation => exact .inl rfl

def underGrudge : Execution Unit (RunEnd × Runner) :=
  ((site.fresh .abort .on).run workload (record .damon)).execute (.fixed grudging.second) ()

def underGoodwill : Execution Unit (RunEnd × Runner) :=
  ((site.fresh .abort .on).run workload (record .damon)).execute (.fixed grudging.first) ()

end Sample

/-- Both calls are left out, and the end is the same. -/
theorem best_effort_without_influence_under_grudge :
    Sample.underGrudge.value.1 = Sample.underGoodwill.value.1 ∧
      ∃ opening middle ending,
        Event.asked Sample.underGoodwill.history =
            opening ++ [Sample.site.dropping] ++ middle ++ [Sample.site.smtOn] ++ ending ∧
          Event.asked Sample.underGrudge.history = opening ++ middle ++ ending := by
  have apart : (Sample.site.fresh .abort .on).site.controls.Nodup := by decide +kernel
  have unflushed : ∃ cause, .called Site.sync (.error cause) ∈ Sample.underGrudge.history :=
    Answers.fails_asked.mp (by decide +kernel)
  have refused : ∃ cause,
      .called Sample.site.smtOff (.error cause) ∈ Sample.underGrudge.history :=
    Answers.fails_asked.mp (by decide +kernel)
  have returned : Sample.underGrudge.value.1 ≠ .panicked := by
    intro broke
    have measured : Sample.underGrudge.value.1.measurement?.isSome = true := by decide +kernel
    rw [broke] at measured
    cases measured
  obtain ⟨same, -, -, opening, _, middle, _, ending, one, other, flush, -, restore, -⟩ :=
    best_effort_without_influence (Sample.site.fresh .abort .on) apart Sample.grudging_hinders
      Sample.workload (Sample.record .damon)
  obtain rfl := flush unflushed
  obtain rfl := restore ⟨refused, returned⟩
  exact ⟨same, opening, middle, ending, one, other⟩

end CgroupBench
