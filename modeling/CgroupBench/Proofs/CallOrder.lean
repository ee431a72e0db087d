import CgroupBench.Proofs.Conduct
import CgroupBench.Proofs.FaultyHost
import CgroupBench.Proofs.Itinerary
import CgroupBench.Proofs.Preflight
import CgroupBench.Proofs.Unwinding

/-!
# The order of the calls of a run

The calls of a run are those of its itinerary, up to the first failure that is not excused, and
then those of the reversals that they call for, newest first. This holds on every host.
-/
namespace CgroupBench

/-- The first call writes what is dirty, and this is whether it succeeded. -/
def Opens (synced : Bool) (log : CallLog) : Prop :=
  ∃ reply rest, log = ⟨.run ["sync"], reply⟩ :: rest ∧
    (synced = true ↔ ∃ output, reply = .ok output)

theorem Opens.append {synced : Bool} {log : CallLog} (opens : Opens synced log) (later : CallLog) :
    Opens synced (log ++ later) := by
  obtain ⟨reply, rest, rfl, known⟩ := opens
  exact ⟨reply, rest ++ later, rfl, known⟩

/-- The calls of a run before it unwinds, and the reversals that they call for. -/
inductive Tours (site : Site) (workload : Workload) (record : Record) (smt : Smt) :
    CallLog → List Reversal → Prop where
  /-- A run without a command makes no call. -/
  | none {fault : Fault} : workload.command record = .error fault →
      Tours site workload record smt [] []
  | some {target : Target} {invocation : Invocation} {synced : Bool} {log : CallLog}
      {owed : List Reversal} : Target.ofRecord record = .ok target →
      workload.command record = .ok invocation → Opens synced log →
      Travels (itinerary site target smt invocation synced) log owed →
      Tours site workload record smt log owed

/-- The calls of a whole run: those along its itinerary, and then those of the reversals that they
call for, newest first and whatever the replies. -/
def Rounds (site : Site) (workload : Workload) (record : Record) (smt : Smt) (log : CallLog) :
    Prop :=
  ∃ prepared owed unwound, log = prepared ++ unwound ∧
    Tours site workload record smt prepared owed ∧
    unwound.map (·.1) = owed.reverse.map (·.call site)

/-- Whether a reversal makes its call: the restore of SMT makes none where none is owed. -/
def Reversal.owing (disabled : Bool) : Reversal → Bool
  | enableSmt => disabled
  | _ => true

theorem Reversal.filter_owing (disabled : Bool) {reversals : List Reversal}
    (none : .enableSmt ∉ reversals) : reversals.filter (·.owing disabled) = reversals := by
  refine List.filter_eq_self.mpr fun reversal mem => ?_
  cases reversal with
  | enableSmt => exact absurd mem none
  | _ => rfl

/-- A reversal that makes its call comes first. The restore of SMT comes only once, so what it
settles is of no account to the rest. -/
theorem Reversal.filter_owing_cons {reversal : Reversal} {todo : List Reversal}
    {machine machine' : Machine} (nodup : (reversal :: todo).Nodup)
    (due : reversal = .enableSmt → machine.smtDisabled = true)
    (settled : machine' = machine ∨ machine' = reversal.settle machine) :
    (reversal :: todo).filter (·.owing machine.smtDisabled) =
      reversal :: todo.filter (·.owing machine'.smtDisabled) := by
  have makes : reversal.owing machine.smtDisabled = true := by
    cases reversal with
    | enableSmt => exact due rfl
    | _ => rfl
  rw [List.filter_cons_of_pos makes]
  rcases settled with rfl | rfl
  · rfl
  · cases reversal with
    | enableSmt =>
      have none : .enableSmt ∉ todo := (List.nodup_cons.mp nodup).1
      rw [Reversal.filter_owing _ none, Reversal.filter_owing _ none]
    | _ => rfl

/-- The restore of SMT makes no call where none is owed. -/
theorem Reversal.filter_owing_settled {todo : List Reversal} {disabled : Bool}
    (settled : disabled = false) :
    (.enableSmt :: todo).filter (·.owing disabled) = todo.filter (·.owing disabled) := by
  rw [List.filter_cons_of_neg]
  rw [Reversal.owing, settled]
  exact Bool.false_ne_true

/-- What has to be reversed once the boundary is complete. -/
def Target.undoing (target : Target) : List Reversal :=
  .deleteCgroup target.variant :: if target.variant.isOptimized then [.stopOptimizer] else []

namespace Milestone

/-- What is registered at a milestone. -/
def registered (target : Target) (smt : Smt) : Milestone → List Reversal
  | begun | alone => []
  | claimed | cleared | created | limited => [.deleteCgroup target.variant]
  | pledged | attached => [.deleteCgroup target.variant, .stopOptimizer]
  | occupied => target.undoing
  | staked => target.undoing ++ [.enableSmt]
  | ready | launched => target.undoing ++ if smt = .on then [.enableSmt] else []

/-- What the calls made until a milestone call for. -/
def owed (target : Target) (disabled : Bool) : Milestone → List Reversal
  | begun | alone | claimed => []
  | cleared | created | limited | pledged => [.deleteCgroup target.variant]
  | attached => [.deleteCgroup target.variant, .stopOptimizer]
  | occupied | staked => target.undoing
  | ready | launched => target.undoing ++ if disabled then [.enableSmt] else []

/-- SMT is switched off last, and only where it was on. -/
def Quiet (smt : Smt) (disabled : Bool) : Milestone → Prop
  | staked => disabled = false ∧ smt = .on
  | ready | launched => disabled = true → smt = .on
  | _ => disabled = false

/-- From one milestone to the next by a call for which these have to be reversed. -/
structure Leads (target : Target) (smt : Smt) (here : Milestone) (made : List Reversal)
    (there : Milestone) : Prop where
  registered : there.registered target smt = here.registered target smt
  owed (disabled : Bool) : there.owed target disabled = here.owed target disabled ++ made
  quiet (disabled : Bool) : here.Quiet smt disabled → there.Quiet smt disabled
  /-- All that is registered has had its call. -/
  owing (disabled : Bool) : there.Quiet smt disabled →
    (there.registered target smt).filter (·.owing disabled) = there.owed target disabled

variable {site : Site} {target : Target} {smt : Smt} {invocation : Invocation}
  {benchmark what : String} {here there : Milestone} {call : Call}
  {excused : CallError → Bool} {wrap : CallError → Fault}

theorem nodup_registered (at' : Milestone) : (at'.registered target smt).Nodup := by
  by_cases on : smt = .on <;> cases optimized : target.variant.isOptimized <;>
    cases at' <;> simp [registered, Target.undoing, on, optimized]

theorem enableSmt_notMem_undoing : .enableSmt ∉ target.undoing := by
  cases optimized : target.variant.isOptimized <;> simp [Target.undoing, optimized]

theorem owing_launched {disabled : Bool} (quiet : launched.Quiet smt disabled) :
    (launched.registered target smt).filter (·.owing disabled) = launched.owed target disabled := by
  rw [registered, owed, List.filter_append, Reversal.filter_owing _ enableSmt_notMem_undoing]
  cases disabled with
  | false => by_cases on : smt = .on <;> simp [on, Reversal.owing]
  | true => simp [quiet rfl, Reversal.owing]

theorem Calls.leads
    (calls : Milestone.Calls site target benchmark invocation here call excused wrap there)
    (later : there ≠ .begun) :
    ∃ made, here.ahead site target smt invocation =
        { call, excuses := excused, made } :: there.ahead site target smt invocation ∧
      Leads target smt here made there := by
  cases calls with
  | sync | dropCaches | swapOff => exact absurd rfl later
  | stop baseline =>
    refine ⟨[], ?_, rfl, fun _ => rfl, fun _ => id, fun _ _ => rfl⟩
    rw [Milestone.ahead, Station.baselineOnly, baseline]
    rfl
  | clear => exact ⟨_, rfl, rfl, fun _ => rfl, fun _ => id, fun _ _ => rfl⟩
  | start described optimized =>
    refine ⟨[.stopOptimizer], ?_, rfl, fun _ => rfl, fun _ => id, fun _ _ => rfl⟩
    rw [Milestone.ahead, Station.fromLimit, Station.optimizedOnly, optimized, described]
    rfl
  | launch =>
    exact ⟨[], rfl, rfl, fun _ => (List.append_nil _).symm, fun _ => id, fun _ => owing_launched⟩

theorem Retries.leads (retries : Milestone.Retries site target here call what there) :
    here.ahead site target smt invocation =
        { call, retries := site.tools.cgroups.retries } ::
          there.ahead site target smt invocation ∧
      Leads target smt here [] there := by
  cases retries with
  | create => exact ⟨rfl, rfl, fun _ => rfl, fun _ => id, fun _ _ => rfl⟩
  | limit => exact ⟨rfl, rfl, fun _ => rfl, fun _ => id, fun _ _ => rfl⟩

/-- The calls that a run begins with lead nowhere else. -/
theorem Leads.begun (target : Target) (smt : Smt) : Leads target smt .begun [] .begun :=
  ⟨rfl, fun _ => rfl, fun _ => id, fun _ _ => rfl⟩

end Milestone

section

variable {σ : Type}

/-- A watch that keeps the calls and leaves the notes out. -/
def callWatch (host : Host σ) : Watch σ CallLog where
  host
  enter
    | log, .called call reply => log ++ [⟨call, reply⟩]
    | log, .noted _ => log
  point _ _ _ := True

theorem foldl_callWatch (host : Host σ) (log : CallLog) (history : List Event) :
    history.foldl (callWatch host).enter log = log ++ Event.calls history := by
  induction history generalizing log with
  | nil => exact (List.append_nil log).symm
  | cons event rest ih =>
    rw [List.foldl_cons, ih]
    cases event with
    | called call reply => exact List.append_assoc _ _ _
    | noted note => rfl

/-- What holds before the first call of a run. -/
structure Rests (site : Site) (smt : Smt) (runner : Runner) (log : CallLog) :
    Prop extends runner.WorksAt site where
  smtAtStart : runner.machine.smtAtStart = smt
  settled : runner.machine.smtDisabled = false
  pending : runner.cleanup.pending = []
  log : log = []

/-- What holds at a milestone of a run that met no fault, with these stations ahead. -/
structure Walks (site : Site) (target : Target) (smt : Smt) (invocation : Invocation)
    (ahead : List Station) (at' : Milestone) (runner : Runner) (log : CallLog) :
    Prop extends runner.WorksAt site where
  smtAtStart : runner.machine.smtAtStart = smt
  pending : runner.cleanup.pending = at'.registered target smt
  quiet : at'.Quiet smt runner.machine.smtDisabled
  reaches : ∃ synced, Opens synced log ∧ Reaches (itinerary site target smt invocation synced) log
    (at'.owed target runner.machine.smtDisabled) ahead

/-- What holds of a run until it unwinds, wherever a fault left it. -/
structure Strands (site : Site) (workload : Workload) (record : Record) (smt : Smt)
    (runner : Runner) (log : CallLog) : Prop extends runner.WorksAt site where
  nodup : runner.cleanup.pending.Nodup
  tours : Tours site workload record smt log
    (runner.cleanup.pending.filter (·.owing runner.machine.smtDisabled))

/-- What holds while the reversals `todo` are still to come. -/
structure Unwalks (site : Site) (workload : Workload) (record : Record) (smt : Smt)
    (todo : List Reversal) (runner : Runner) (log : CallLog) :
    Prop extends runner.WorksAt site where
  nodup : todo.Nodup
  tours : ∃ prepared owed unwound, log = prepared ++ unwound ∧
    Tours site workload record smt prepared owed ∧
    unwound.map (·.1) ++ (todo.filter (·.owing runner.machine.smtDisabled)).map (·.call site) =
      owed.reverse.map (·.call site)

variable {site : Site} {host : Host σ} {workload : Workload} {record : Record} {smt : Smt}
  {target : Target} {invocation : Invocation} {station : Station} {ahead : List Station}
  {here there : Milestone} {runner runner' : Runner} {log : CallLog}

namespace Walks

theorem pass (h : Walks site target smt invocation (station :: ahead) here runner log)
    (leads : Milestone.Leads target smt here station.made there) {reply : station.call.Reply}
    (passes : station.passes reply = true) (owed : station.owed reply = station.made) :
    Walks site target smt invocation ahead there runner (log ++ [⟨station.call, reply⟩]) where
  toWorksAt := h.toWorksAt
  smtAtStart := h.smtAtStart
  pending := h.pending.trans leads.registered.symm
  quiet := leads.quiet _ h.quiet
  reaches := by
    obtain ⟨synced, opens, reaches⟩ := h.reaches
    refine ⟨synced, opens.append _, ?_⟩
    rw [leads.owed, ← owed]
    exact reaches.pass passes

theorem again {retries : Nat} {cause : CallError}
    (h : Walks site target smt invocation (station :: ahead) here runner log)
    (left : station.retries = retries + 1) (launchable : cause.isUnlaunchable = false) :
    Walks site target smt invocation ({ station with retries } :: ahead) here runner
      (log ++ [⟨station.call, .error cause⟩]) where
  toWorksAt := h.toWorksAt
  smtAtStart := h.smtAtStart
  pending := h.pending
  quiet := h.quiet
  reaches := by
    obtain ⟨synced, opens, reaches⟩ := h.reaches
    exact ⟨synced, opens.append _, reaches.again left launchable⟩

theorem register {reversal : Reversal}
    (h : Walks site target smt invocation ahead here runner log)
    (registered : there.registered target smt = here.registered target smt ++ [reversal])
    (owed : there.owed target runner.machine.smtDisabled =
      here.owed target runner.machine.smtDisabled)
    (quiet : there.Quiet smt runner.machine.smtDisabled) :
    Walks site target smt invocation ahead there
      { runner with cleanup := runner.cleanup.register reversal } log where
  toWorksAt := { h.toWorksAt with }
  smtAtStart := h.smtAtStart
  pending := by
    rw [registered, ← h.pending]
    rfl
  quiet := quiet
  reaches := by
    rw [owed]
    exact h.reaches

/-- Another milestone that says the same, and another runner that differs in nothing of this. -/
theorem shift (h : Walks site target smt invocation ahead here runner log)
    (same : runner.Agrees runner')
    (registered : there.registered target smt = here.registered target smt)
    (owed : there.owed target runner.machine.smtDisabled =
      here.owed target runner.machine.smtDisabled)
    (quiet : there.Quiet smt runner.machine.smtDisabled) :
    Walks site target smt invocation ahead there runner' log where
  toWorksAt := h.toWorksAt.agrees same
  smtAtStart := same.smtAtStart.trans h.smtAtStart
  pending := by rw [same.cleanup, h.pending, registered]
  quiet := by
    rw [same.smtDisabled]
    exact quiet
  reaches := by
    rw [same.smtDisabled, owed]
    exact h.reaches

end Walks

section

variable (resolved : Target.ofRecord record = .ok target)
  (asked : workload.command record = .ok invocation)
include resolved asked

theorem Strands.of_travels {at' : Milestone} {owed : List Reversal} {synced : Bool}
    (works : runner.WorksAt site) (pending : runner.cleanup.pending = at'.registered target smt)
    (owes : (at'.registered target smt).filter (·.owing runner.machine.smtDisabled) = owed)
    (opens : Opens synced log)
    (travels : Travels (itinerary site target smt invocation synced) log owed) :
    Strands site workload record smt runner log where
  toWorksAt := works
  nodup := by
    rw [pending]
    exact Milestone.nodup_registered at'
  tours := by
    rw [pending, owes]
    exact .some resolved asked opens travels

theorem Walks.strands (h : Walks site target smt invocation [] .launched runner log) :
    Strands site workload record smt runner log := by
  obtain ⟨synced, opens, reaches⟩ := h.reaches
  exact .of_travels resolved asked h.toWorksAt h.pending (Milestone.owing_launched h.quiet) opens
    reaches.arrive

theorem Walks.cut (h : Walks site target smt invocation (station :: ahead) here runner log)
    (leads : Milestone.Leads target smt here station.made there) {cause : CallError}
    (excuses : station.excuses cause = false)
    (spent : station.retries = 0 ∨ cause.isUnlaunchable = true) :
    Strands site workload record smt runner (log ++ [⟨station.call, .error cause⟩]) := by
  obtain ⟨synced, opens, reaches⟩ := h.reaches
  have pending := h.pending.trans leads.registered.symm
  have owes := leads.owing _ (leads.quiet _ h.quiet)
  rw [leads.owed] at owes
  exact .of_travels resolved asked h.toWorksAt pending owes (opens.append _)
    (reaches.cut excuses spent)

/-- A call that is made once: it succeeds, or it is excused, or it ends the journey. -/
theorem Walks.ask (h : Walks site target smt invocation (station :: ahead) here runner log)
    (leads : Milestone.Leads target smt here station.made there) (once : station.retries = 0)
    (settled : station.succeeded = []) (wrap : CallError → Fault) (state : σ) :
    (callWatch host).Ensures (.ask station.call .finish) log state
      (Watch.Reply station.excuses wrap
        (fun log _ => Walks site target smt invocation ahead there runner log)
        fun _ log _ => Strands site workload record smt runner log) := by
  refine .ask fun reply _ _ => ⟨trivial, ?_⟩
  cases reply with
  | ok answer =>
    refine h.pass leads rfl ?_
    rw [Station.owed, settled, List.append_nil]
  | error cause =>
    exact ⟨fun passes => h.pass leads passes rfl,
      fun refused => h.cut resolved asked leads refused (.inl once)⟩

theorem call_passage (host : Host σ)
    (described : target.variant.isOptimized = true → site.tools.optimizer.descriptor ≠ none) :
    Passage site (callWatch host) workload target invocation
      (fun at' runner log _ => Walks site target smt invocation
        (at'.ahead site target smt invocation) at' runner log)
      (fun _ runner log _ => Strands site workload record smt runner log) where
  worksAt h := h.toWorksAt
  follows same h := h.shift same.toAgrees rfl rfl h.quiet
  passing _ h := ⟨trivial, h⟩
  skip {here there runner log _} skips h := by
    cases skips with
    | optimized optimized =>
      have route : Milestone.begun.ahead site target smt invocation =
          Milestone.alone.ahead site target smt invocation := by
        rw [Milestone.ahead, Station.baselineOnly, if_pos optimized]
        rfl
      rw [← route]
      exact h.shift ⟨rfl, rfl, rfl, rfl, rfl, rfl⟩ rfl rfl h.quiet
    | untouched off =>
      have settled : runner.machine.smtDisabled = false := h.quiet
      have off : smt ≠ .on := h.smtAtStart ▸ off
      have route : Milestone.occupied.ahead site target smt invocation =
          Milestone.ready.ahead site target smt invocation := by
        rw [Milestone.ahead, Station.toLaunch, Station.smtOnly, if_neg off]
        rfl
      rw [← route]
      refine h.shift ⟨rfl, rfl, rfl, rfl, rfl, rfl⟩ ?_ ?_ ?_
      · show target.undoing ++ (if smt = .on then [.enableSmt] else []) = target.undoing
        rw [if_neg off, List.append_nil]
      · rw [settled]
        exact List.append_nil _
      · rw [settled]
        exact fun disabled => absurd disabled Bool.false_ne_true
    | already disabled => exact absurd (h.quiet.1.symm.trans disabled) Bool.false_ne_true
  registered {here reversal there runner log _} registers on h := by
    refine ⟨trivial, ?_⟩
    cases registers with
    | deletion => exact h.register rfl rfl h.quiet
    | stop optimized => exact h.register rfl rfl h.quiet
    | restore => exact h.register rfl rfl ⟨h.quiet, h.smtAtStart.symm.trans (on rfl)⟩
  call {here call excused wrap there runner log _} calls later h := by
    obtain ⟨made, route, leads⟩ := calls.leads later
    rw [route] at h
    exact h.ask resolved asked leads rfl rfl wrap _
  retried {here call what there runner log _} retries h := by
    obtain ⟨route, leads⟩ := retries.leads
    rw [route] at h
    have tries : ∀ retries log state,
        Walks site target smt invocation
          ({ call, retries } :: there.ahead site target smt invocation) here runner log →
        (callWatch host).Ensures (.ask call .finish) log state
          (Watch.Tries (.ofSetup what) retries
            (fun retries log _ => Walks site target smt invocation
              ({ call, retries } :: there.ahead site target smt invocation) here runner log)
            (fun log _ => Walks site target smt invocation
              (there.ahead site target smt invocation) there runner log)
            fun _ log _ => Strands site workload record smt runner log) := by
      intro retries log state h
      refine .ask fun reply _ _ => ⟨trivial, ?_⟩
      cases reply with
      | ok answer => exact h.pass leads rfl rfl
      | error cause =>
        exact ⟨fun fewer left launchable => h.again left launchable,
          fun spent => h.cut resolved asked leads rfl spent⟩
    exact .attempts tries _ h
  undescribed optimized none _ := absurd none (described optimized)
  occupied {here runner log _} complete h := by
    refine ⟨trivial, ?_⟩
    cases complete with
    | bare baseline =>
      have route : Milestone.limited.ahead site target smt invocation =
          Milestone.occupied.ahead site target smt invocation := by
        rw [Milestone.ahead, Station.fromLimit, Station.optimizedOnly, baseline]
        rfl
      have whole : target.undoing = [.deleteCgroup target.variant] := by
        rw [Target.undoing, baseline]
        rfl
      rw [← route]
      exact h.shift (.occupied _ _) whole whole h.quiet
    | optimized optimized =>
      have whole : target.undoing = [.deleteCgroup target.variant, .stopOptimizer] := by
        rw [Target.undoing, optimized]
        rfl
      exact h.shift (.occupied _ _) whole whole h.quiet
  abandoned h := ⟨trivial, { h with toWorksAt := { h.toWorksAt with } }⟩
  smtOff {runner log _} _ h := by
    obtain ⟨settled, on⟩ : runner.machine.smtDisabled = false ∧ smt = .on := h.quiet
    obtain ⟨synced, opens, reaches⟩ := h.reaches
    have route : Milestone.staked.ahead site target smt invocation =
        .smtOff site :: Milestone.ready.ahead site target smt invocation := by
      rw [Milestone.ahead, Station.toLaunch, Station.smtOnly, if_pos on]
      rfl
    rw [route] at reaches
    have pending : runner.cleanup.pending = Milestone.launched.registered target smt := by
      show _ = target.undoing ++ (if smt = .on then [.enableSmt] else [])
      rw [if_pos on]
      exact h.pending
    refine .ask fun reply _ _ => ⟨trivial, ?_⟩
    cases reply with
    | ok _ =>
      exact ⟨{ h.toWorksAt with }, h.smtAtStart, pending, fun _ => on, synced, opens.append _,
        reaches.pass rfl⟩
    | error cause =>
      rw [settled] at reaches
      constructor
      · intro excused
        refine ⟨h.toWorksAt, h.smtAtStart, pending, fun _ => on, synced, opens.append _, ?_⟩
        rw [Runner.switchedOff, settled]
        exact reaches.pass excused
      · intro refused
        have owes : (Milestone.launched.registered target smt).filter
            (·.owing runner.machine.smtDisabled) = target.undoing ++ [] := by
          rw [Milestone.owing_launched fun _ => on, settled]
          rfl
        exact .of_travels resolved asked h.toWorksAt pending owes (opens.append _)
          (reaches.cut refused (.inl rfl))
  faulty _ h := h.strands resolved asked

theorem call_dropPageCache (host : Host σ) :
    (callWatch host).Delivers (fun runner log _ => Rests site smt runner log)
      (Step.bestEffort (Runner.onMachine Machine.dropPageCache))
      (fun _ runner log _ => Walks site target smt invocation
        (.swapOff :: Milestone.begun.ahead site target smt invocation) .begun runner log)
      (fun _ runner log _ => Strands site workload record smt runner log) := by
  have write : ∀ (runner : Runner) log (state : σ),
      Walks site target smt invocation
        (.dropCaches site :: .swapOff :: Milestone.begun.ahead site target smt invocation) .begun
        runner log →
      (callWatch host).Ensures (.ask (.write runner.machine.dropCaches "3\n") .finish) log state
        (Watch.Reply (fun cause => !cause.isUnlaunchable) (.ofSetup "drop page cache")
          (fun log _ => Walks site target smt invocation
            (.swapOff :: Milestone.begun.ahead site target smt invocation) .begun runner log)
          fun _ log _ => Strands site workload record smt runner log) := by
    intro runner log state h
    rw [h.dropCaches]
    exact h.ask resolved asked (.begun target smt) rfl rfl _ state
  refine Runner.delivers_dropPageCache (fun runner log state h => ?_) write
    fun same h => h.shift same.toAgrees rfl rfl h.quiet
  obtain rfl := h.log
  refine .ask fun reply _ _ => ⟨trivial, ?_⟩
  cases reply with
  | ok output =>
    have opens : Opens true [⟨.run ["sync"], .ok output⟩] :=
      ⟨_, [], rfl, fun _ => ⟨output, rfl⟩, fun _ => rfl⟩
    exact ⟨h.toWorksAt, h.smtAtStart, h.pending, h.settled, true, opens,
      (Reaches.refl _).pass rfl⟩
  | error cause =>
    have opens : Opens false [⟨.run ["sync"], .error cause⟩] :=
      ⟨_, [], rfl, nofun, nofun⟩
    constructor
    · intro excused
      exact ⟨h.toWorksAt, h.smtAtStart, h.pending, h.settled, false, opens,
        (Reaches.refl _).pass excused⟩
    · intro refused
      have pending : runner.cleanup.pending = Milestone.begun.registered target smt := h.pending
      have start := Reaches.refl (itinerary site target smt invocation false)
      exact .of_travels resolved asked h.toWorksAt pending rfl opens
        (start.cut refused (.inl rfl))

theorem call_disableSwap (host : Host σ) :
    (callWatch host).Delivers
      (fun runner log _ => Walks site target smt invocation
        (.swapOff :: Milestone.begun.ahead site target smt invocation) .begun runner log)
      (Step.bestEffort (Runner.onMachine Machine.disableSwap))
      (fun _ runner log _ => Walks site target smt invocation
        (Milestone.begun.ahead site target smt invocation) .begun runner log)
      (fun _ runner log _ => Strands site workload record smt runner log) :=
  Runner.delivers_disableSwap
    (fun _ _ state h => h.ask resolved asked (.begun target smt) rfl rfl _ state)
    fun same h => h.shift same.toAgrees rfl rfl h.quiet

end

/-- What is launched is what the workload answered for the record. -/
theorem call_prepare (host : Host σ) (resolved : Target.ofRecord record = .ok target)
    (described : target.variant.isOptimized = true → site.tools.optimizer.descriptor ≠ none) :
    (callWatch host).Delivers (fun runner log _ => Rests site smt runner log)
      (Runner.prepare workload record)
      (Runner.Prepared workload record (fun runner log _ => Rests site smt runner log)
        fun target runner log _ => ∀ invocation, workload.command record = .ok invocation →
          Walks site target smt invocation [.launch target invocation] .ready runner log)
      (fun _ runner log _ => Strands site workload record smt runner log) := by
  refine Runner.delivers_prepare ?_ ?_
  · rintro fault runner log state (unresolved | unasked) h
    · cases resolved.symm.trans unresolved
    · refine ⟨h.toWorksAt, ?_, ?_⟩
      · rw [h.pending]
        exact List.nodup_nil
      · rw [h.pending, h.log]
        exact .none unasked
  · intro other invocation same asked runner log state h
    obtain rfl : target = other := Except.ok.inj (resolved.symm.trans same)
    have ready := (call_passage resolved asked host described).makeReady
      (call_dropPageCache resolved asked host) (call_disableSwap resolved asked host) runner log
      state h
    refine ready.mono ?_
    rintro ⟨fault | _, runner⟩ log state h
    · exact h
    · intro invocation' asked'
      obtain rfl := Assignment.ok.inj (asked.symm.trans asked')
      exact h

theorem call_attempt (host : Host σ) (workload : Workload) (smt : Smt)
    (accepted : Runner.accept site.tools.optimizer record = .ok ()) :
    (callWatch host).Delivers (fun runner log _ => Rests site smt runner log)
      (Runner.attempt workload record)
      (Runner.Attempted workload record
        (fun _ runner log _ => Strands site workload record smt runner log)
        fun runner log _ => Rests site smt runner log ∨
          ∃ _ : Target, Strands site workload record smt runner log)
      (fun _ runner log _ => Strands site workload record smt runner log) := by
  obtain ⟨target, resolved, described⟩ := Runner.accept_eq_ok.mp accepted
  refine Runner.delivers_attempt (fun runner log state h => ?_)
    (call_prepare host resolved described) ?_
  · exact ⟨trivial, trivial, { h with toWorksAt := { h.toWorksAt with } }⟩
  · intro other invocation same asked runner log state h
    obtain rfl : target = other := Except.ok.inj (resolved.symm.trans same)
    have measured := (call_passage resolved asked host described).measure record runner log state
      (h invocation asked)
    refine measured.mono ?_
    rintro ⟨fault | measurement, runner⟩ log state h
    · exact h
    · exact ⟨fun _ some => ⟨(h.1 _ some).1, (h.1 _ some).2.strands resolved asked⟩,
        fun none => ⟨(h.2 none).1, (h.2 none).2.strands resolved asked⟩⟩

theorem Unwalks.call {todo : List Reversal} {reversal : Reversal} {machine : Machine}
    (h : Unwalks site workload record smt (reversal :: todo) runner log)
    (owing : reversal = .enableSmt → runner.machine.smtDisabled = true)
    (settled : machine = runner.machine ∨ machine = reversal.settle runner.machine)
    (reply : (reversal.call site).Reply) :
    Unwalks site workload record smt todo { runner with machine }
      (log ++ [⟨reversal.call site, reply⟩]) := by
  obtain ⟨prepared, owed, unwound, rfl, tours, calls⟩ := h.tours
  refine ⟨?_, h.nodup.of_cons, prepared, owed, unwound ++ [⟨reversal.call site, reply⟩], ?_, tours,
    ?_⟩
  · rcases settled with rfl | rfl
    · exact { h.toWorksAt with }
    · exact h.toWorksAt.settle reversal
  · exact List.append_assoc _ _ _
  · rw [← calls, Reversal.filter_owing_cons h.nodup owing settled, List.map_append,
      List.append_assoc]
    rfl

theorem call_unwinding (host : Host σ) (workload : Workload) (record : Record) (smt : Smt)
    (runner : Runner) :
    Unwinding site (callWatch host) (fun _ todo machine log _ =>
      Unwalks site workload record smt todo { runner with machine } log) where
  control h := h.smtControl
  call reversal owing h := by
    refine ⟨trivial, .ask fun reply _ _ => ⟨trivial, ?_⟩⟩
    exact .either (h.call owing (.inr rfl) reply) fun _ => h.call owing (.inl rfl) reply
  settled {faults todo machine log state} settled h := by
    refine ⟨trivial, h.toWorksAt, h.nodup.of_cons, ?_⟩
    obtain ⟨prepared, owed, unwound, rfl, tours, calls⟩ := h.tours
    refine ⟨prepared, owed, unwound, rfl, tours, ?_⟩
    rw [← calls, Reversal.filter_owing_settled settled]

theorem call_closes (host : Host σ) (workload : Workload) (record : Record) (smt : Smt) :
    Closes (callWatch host) (fun _ _ log _ => Rounds site workload record smt log)
      (fun runner log _ => Strands site workload record smt runner log) where
  enter _ _ h := ⟨trivial, { h with toWorksAt := { h.toWorksAt with } }⟩
  leave _ _ h := ⟨trivial, h⟩
  tearDown {runner log state} h := by
    refine Watch.Ensures.mono ((call_unwinding host workload record smt runner).tearDown
      (fun _ _ log _ => Rounds site workload record smt log) h.tools ?_ ?_) ?_
    · have nodup := (List.reverse_perm runner.cleanup.pending).nodup_iff.mpr h.nodup
      refine ⟨trivial, h.toWorksAt, nodup, log, _, [], ?_, h.tours, ?_⟩
      · exact (List.append_nil log).symm
      · rw [List.map_nil, List.nil_append, List.filter_reverse]
    · intro faults machine log state h
      obtain ⟨prepared, owed, unwound, rfl, tours, calls⟩ := h.tours
      rw [List.filter_nil, List.map_nil, List.append_nil] at calls
      exact ⟨trivial, prepared, owed, unwound, rfl, tours, calls⟩
    · rintro ⟨result, runner⟩ log state ⟨faults, -, h⟩
      exact h

end

/-- No reversal switches SMT off. -/
theorem Reversal.call_ne_smtOff (site : Site) (reversal : Reversal) :
    reversal.call site ≠ .write site.smtControl "off\n" := by
  intro same
  cases reversal with
  | enableSmt => exact absurd (Call.write.inj same).2 (by decide)
  | _ => exact absurd same Call.noConfusion

theorem Rounds.smtOff {site : Site} {workload : Workload} {record : Record} {smt : Smt}
    {log before after : CallLog} (rounds : Rounds site workload record smt log)
    (split : log = before ++ ⟨.write site.smtControl "off\n", .ok ()⟩ :: after) :
    ∃ target invocation launched restored rest, Target.ofRecord record = .ok target ∧
      workload.command record = .ok invocation ∧
      after = ⟨.workload target.variant.label invocation, launched⟩ ::
        ⟨.write site.smtControl "on\n", restored⟩ :: rest := by
  obtain ⟨prepared, owed, unwound, rfl, tours, calls⟩ := rounds
  have other : ∀ first second,
      unwound ≠ first ++ ⟨.write site.smtControl "off\n", .ok ()⟩ :: second := by
    rintro first second rfl
    have mem : Call.write site.smtControl "off\n" ∈ owed.reverse.map (·.call site) := by
      rw [← calls, List.map_append]
      exact List.mem_append_right _ (.head _)
    obtain ⟨reversal, -, same⟩ := List.mem_map.mp mem
    exact reversal.call_ne_smtOff site same
  obtain ⟨travelled, cut, rfl⟩ : ∃ travelled,
      prepared = before ++ ⟨.write site.smtControl "off\n", .ok ()⟩ :: travelled ∧
        after = travelled ++ unwound := by
    rcases split_append split with within | ⟨between, -, rest⟩
    · exact within
    · exact absurd rest (other between after)
  cases tours with
  | none _ => exact absurd cut (by simp)
  | @some target invocation synced _ owed resolved asked opens travels =>
    obtain ⟨behind, station, ahead, first, later, route, same, rest, owes⟩ :=
      travels.of_succeeded cut
    obtain ⟨rfl, rfl⟩ := itinerary_smtOff site target smt invocation route same
    obtain ⟨launched, rfl, rfl⟩ := rest.launched
    have newest : owed.reverse = .enableSmt :: first.reverse := by
      rw [owes]
      simp [Station.smtOff]
    rw [newest, List.map_cons] at calls
    cases unwound with
    | nil => cases calls
    | cons entry unwound =>
      obtain ⟨restore, restored⟩ := entry
      obtain ⟨rfl, -⟩ := List.cons.inj calls
      exact ⟨target, invocation, launched, restored, unwound, resolved, asked, rfl⟩

/-- The calls of a run are those of its itinerary up to a failure that is not excused, and then
the reversals that those call for. So nothing but the workload runs while SMT is switched off. -/
theorem run_call_order (host : Host σ) (runner : Runner) {workload : Workload}
    (calm : ¬ workload.Panics) {records : List Record}
    (accepted : Runner.preflight runner.tools.optimizer records = .ok ()) {record : Record}
    (mem : record ∈ records) (idle : runner.cleanup.pending = [])
    (settled : runner.machine.smtDisabled = false) (state : σ) :
    let log := Event.calls ((Runner.run workload record runner).execute host state).history
    Rounds runner.site workload record runner.machine.smtAtStart log ∧
      ∀ before after, log = before ++ ⟨.write runner.site.smtControl "off\n", .ok ()⟩ :: after →
        ∃ target invocation launched restored rest, Target.ofRecord record = .ok target ∧
          workload.command record = .ok invocation ∧
          after = ⟨.workload target.variant.label invocation, launched⟩ ::
            ⟨.write runner.site.smtControl "on\n", restored⟩ :: rest := by
  intro log
  have start : Rests runner.site runner.machine.smtAtStart runner [] :=
    ⟨runner.worksAt_site, rfl, settled, idle, rfl⟩
  have run : (callWatch host).Ensures (Runner.run workload record runner) [] state
      fun _ log _ => Rounds runner.site workload record runner.machine.smtAtStart log := by
    have approved : Runner.accept runner.site.tools.optimizer record = .ok () :=
      (Runner.preflight_eq_ok.mp accepted).2.2 record mem
    refine (Runner.ensures_run (call_attempt host workload _ approved)
      (call_closes host workload record _) (fun _ _ _ _ h => h) (fun _ _ _ _ h => h) start).mono ?_
    rintro ⟨ending, runner⟩ log state h
    cases ending with
    | completed _ | failed _ => exact h
    | fatal _ _ => exact h.elim id id
    | panicked => exact absurd h.2 calm
  have rounds := run.finished
  rw [foldl_callWatch, List.nil_append] at rounds
  exact ⟨rounds, fun _ _ split => rounds.smtOff split⟩

namespace Sample

/-- The cgroup cannot be created at once. -/
def hesitant : Schedule site where
  force time call :=
    if time = 4 ∧ call = .run (Cgroups.createArgv .damon) then
      some (.exited "cgcreate" (some 1) "")
    else none
  never_absent _ variant _ forced := by
    simp [Cgroups.deleteArgv, Cgroups.createArgv] at forced
  never_stopped _ _ forced := by
    simp [Optimizer.stopArgv, Cgroups.createArgv] at forced

/-- An optimized run that needs a second try. -/
def onHesitant : Execution (Nat × Footprint) (RunEnd × Runner) :=
  (Runner.run workload (record .damon) (site.fresh .abort .on)).execute hesitant.host (0, start)

end Sample

/-- The ninth call of the run switches SMT off. -/
theorem run_call_order_on_hesitant :
    let log := Event.calls Sample.onHesitant.history
    Rounds Sample.site Sample.workload (Sample.record .damon) .on log ∧
      ∃ launched restored rest, log.drop 9 =
        ⟨.workload "damon_test" { argv := ["sleep", "1"] }, launched⟩ ::
          ⟨.write Machine.defaultSmtControl "on\n", restored⟩ :: rest := by
  intro log
  have off : log = log.take 8 ++
      ⟨.write Machine.defaultSmtControl "off\n", .ok ()⟩ :: log.drop 9 :=
    (List.take_append_drop 8 _).symm.trans (congrArg _ rfl)
  have accepted :
      Runner.preflight Sample.site.tools.optimizer [Sample.record .damon] = .ok () := rfl
  obtain ⟨rounds, next⟩ := run_call_order Sample.hesitant.host (Sample.site.fresh .abort .on)
    Sample.workload_calm accepted (.head _) rfl rfl (0, Sample.start)
  obtain ⟨target, invocation, launched, restored, rest, resolved, asked, same⟩ := next _ _ off
  obtain rfl : target = ⟨.damon, 4096⟩ := (Except.ok.inj resolved).symm
  obtain rfl : invocation = { argv := ["sleep", "1"] } := (Assignment.ok.inj asked).symm
  exact ⟨rounds, launched, restored, rest, same⟩

end CgroupBench
