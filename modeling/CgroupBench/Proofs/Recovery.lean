import CgroupBench.Proofs.CallOrder
import CgroupBench.Proofs.OwedRestore
import CgroupBench.Proofs.Service
import Mathlib.Data.List.Nodup

/-!
# Recovering a host

The restoration looks whether SMT is off, and then tries every reversal that is due, once and in
order. What it makes of the host is what the attempts that succeeded make of it, and it reports a
failure if one of them failed for another reason than that there was nothing to reverse. Where
nothing fails and nothing is in the way, the host is recovered, and a recovered host stays as it
is. The command does the same on any system that serves the host, and its status tells whether a
failure was reported.
-/
namespace CgroupBench

/-- The reversals that are due after the control of SMT was read, in order. -/
def Reversal.due (reading : Except CallError String) (keepSmtOff : Bool) : List Reversal :=
  (if reading.toOption.bind Smt.ofText? = some .off ∧ ¬ keepSmtOff then [.enableSmt] else []) ++
    [.deleteCgroup .baseline, .deleteCgroup .damon, .stopOptimizer]

namespace Scene

/-- The scene that a restoration is to leave behind. -/
def recovered (site : Site) (keepSmtOff : Bool) (scene : Scene) : Scene where
  cgroup name := if name ∈ Variant.all.map Variant.label then none else scene.cgroup name
  busy := scene.busy
  file path :=
    if path = site.smtControl ∧ scene.smt site = some .off ∧ ¬ keepSmtOff then some "on\n"
    else scene.file path
  optimizer := false
  swap := scene.swap

variable {site : Site} {keepSmtOff : Bool} {scene : Scene}

theorem smt_recovered_on (off : scene.smt site = some .off) (restore : ¬ keepSmtOff) :
    (scene.recovered site keepSmtOff).smt site = some .on := by
  have file : (scene.recovered site keepSmtOff).file site.smtControl = some "on\n" :=
    if_pos ⟨rfl, off, restore⟩
  rw [smt, file]
  rfl

theorem smt_recovered_kept (kept : ¬ (scene.smt site = some .off ∧ ¬ keepSmtOff)) :
    (scene.recovered site keepSmtOff).smt site = scene.smt site := by
  have file : (scene.recovered site keepSmtOff).file site.smtControl = scene.file site.smtControl :=
    if_neg fun due => kept due.2
  rw [smt, file, smt]

theorem recovered_recovered (site : Site) (keepSmtOff : Bool) (scene : Scene) :
    (scene.recovered site keepSmtOff).recovered site keepSmtOff =
      scene.recovered site keepSmtOff := by
  have done : ¬ ((scene.recovered site keepSmtOff).smt site = some .off ∧ ¬ keepSmtOff) := by
    rintro ⟨off, restore⟩
    by_cases due : scene.smt site = some .off ∧ ¬ keepSmtOff
    · rw [smt_recovered_on due.1 due.2] at off
      cases off
    · rw [smt_recovered_kept due] at off
      exact due ⟨off, restore⟩
  refine Scene.ext (funext fun name => ?_) rfl (funext fun path => ?_) rfl rfl
  · show (if name ∈ Variant.all.map Variant.label then none
      else if name ∈ Variant.all.map Variant.label then none else scene.cgroup name) = _
    split <;> simp_all [recovered]
  · exact if_neg fun due => done due.2

/-- Without SMT, what is due leaves neither cgroup and no optimizer. -/
theorem foldl_undo_last (site : Site) (scene : Scene) :
    [.deleteCgroup .baseline, .deleteCgroup .damon, .stopOptimizer].foldl (Scene.undo site) scene =
      { scene with
        cgroup := fun name =>
          if name ∈ Variant.all.map Variant.label then none else scene.cgroup name
        optimizer := false } := by
  refine Scene.ext (funext fun name => ?_) rfl rfl rfl rfl
  show Function.update (Function.update scene.cgroup Variant.baseline.label none)
    Variant.damon.label none name = _
  simp only [Function.update_apply, Variant.all, List.map_cons, List.map_nil, List.mem_cons,
    List.not_mem_nil, or_false]
  by_cases baseline : name = Variant.baseline.label <;>
    by_cases damon : name = Variant.damon.label <;> simp [baseline, damon]

/-- What is due, once all of it is carried out, recovers the scene. -/
theorem foldl_undo_due {reading : Except CallError String}
    (read : reading.toOption.bind Smt.ofText? = scene.smt site) :
    (Reversal.due reading keepSmtOff).foldl (Scene.undo site) scene =
      scene.recovered site keepSmtOff := by
  rw [Reversal.due, read, List.foldl_append]
  by_cases due : scene.smt site = some .off ∧ ¬ keepSmtOff
  · rw [if_pos due, foldl_undo_last]
    refine Scene.ext rfl rfl (funext fun path => ?_) rfl rfl
    show Function.update scene.file site.smtControl (some "on\n") path = _
    rw [Function.update_apply, recovered]
    simp [due]
  · rw [if_neg due, foldl_undo_last]
    refine Scene.ext rfl rfl (funext fun path => ?_) rfl rfl
    exact (if_neg fun chosen => due chosen.2).symm

end Scene

section

variable {σ : Type} {site : Site} {host : Host σ} {see : σ → Scene} {start : Scene}
  {prior log : CallLog} {due todo : List Reversal} {attempts : List (Attempt site)}
  {faults : List Fault} {machine : Machine} {state : σ}

/-- What the attempts so far have made of a host. -/
structure Tried (site : Site) (host : Host σ) (see : σ → Scene) (start : Scene)
    (attempts : List (Attempt site)) (faults : List Fault) (state : σ) : Prop where
  reported : faults = attempts.filterMap Attempt.fault?
  scene : see state = attempts.foldl Scene.after start
  obliged : Obliges site host see →
    (∀ attempt ∈ attempts, start.Allows site attempt.reversal) →
      faults = [] ∧ see state = (attempts.map (·.reversal)).foldl (Scene.undo site) start

theorem Tried.nil (site : Site) (host : Host σ) (see : σ → Scene) (state : σ) :
    Tried site host see (see state) [] [] state :=
  ⟨rfl, rfl, fun _ _ => ⟨rfl, rfl⟩⟩

theorem Tried.snoc {reversal : Reversal} (heeds : Heeds site host see)
    (h : Tried site host see start attempts faults state) {reply : (reversal.call site).Reply}
    {state' : σ} (answer : host.answer state (reversal.call site) = (reply, state')) :
    Tried site host see start (attempts ++ [⟨reversal, reply⟩])
      (faults ++ (Attempt.fault? ⟨reversal, reply⟩).toList) state' := by
  have moved : see state' = (see state).after ⟨reversal, reply⟩ := by
    have law := heeds.reversal reversal state
    rw [answer] at law
    exact law
  refine ⟨?_, ?_, fun obliges allowed => ?_⟩
  · rw [List.filterMap_append, h.reported]
    cases failed : Attempt.fault? ⟨reversal, reply⟩ <;> simp [failed]
  · rw [List.foldl_append, moved, h.scene]
    rfl
  · obtain ⟨allowed, last⟩ := List.forall_mem_append.mp allowed
    obtain ⟨none, scene⟩ := h.obliged obliges allowed
    have allows : (see state).Allows site reversal := by
      rw [scene]
      exact (last _ (.head _)).foldl_undo _
    obtain ⟨clean, done⟩ := obliges.carriedOut allows (congrArg Prod.fst answer)
    refine ⟨?_, ?_⟩
    · rw [none, clean]
      rfl
    · rw [moved, done, scene, List.map_append, List.foldl_append]
      rfl

/-- What holds while the reversals `todo` are still to come: all that is due was tried, or is. -/
structure Recovering (site : Site) (host : Host σ) (see : σ → Scene) (start : Scene)
    (prior : CallLog) (due : List Reversal) (faults : List Fault) (todo : List Reversal)
    (machine : Machine) (log : CallLog) (state : σ) : Prop where
  control : machine.smtControl = site.smtControl
  nodup : todo.Nodup
  attempts : ∃ attempts, Tried site host see start attempts faults state ∧
    log = prior ++ attempts.map Attempt.logged ∧
    attempts.map (·.reversal) ++ todo.filter (·.owing machine.smtDisabled) = due

theorem Recovering.attempt {reversal : Reversal} (heeds : Heeds site host see)
    (h : Recovering site host see start prior due faults (reversal :: todo) machine log state)
    (owing : reversal = .enableSmt → machine.smtDisabled = true) {machine' : Machine}
    (settled : machine' = machine ∨ machine' = reversal.settle machine)
    {reply : (reversal.call site).Reply} {state' : σ}
    (answer : host.answer state (reversal.call site) = (reply, state')) :
    Recovering site host see start prior due
      (faults ++ (Attempt.fault? ⟨reversal, reply⟩).toList) todo machine'
      (log ++ [⟨reversal.call site, reply⟩]) state' := by
  obtain ⟨attempts, tried, rfl, rest⟩ := h.attempts
  refine ⟨?_, h.nodup.of_cons, attempts ++ [⟨reversal, reply⟩], tried.snoc heeds answer, ?_, ?_⟩
  · rcases settled with rfl | rfl
    · exact h.control
    · exact (reversal.smtControl_settle machine).trans h.control
  · rw [List.map_append, List.append_assoc]
    rfl
  · rw [← rest, Reversal.filter_owing_cons h.nodup owing settled, List.map_append,
      List.append_assoc]
    rfl

theorem recovering_unwinding (heeds : Heeds site host see) (start : Scene) (prior : CallLog)
    (due : List Reversal) :
    Unwinding site (callWatch host) (Recovering site host see start prior due) where
  control h := h.control
  call {faults todo machine log state} reversal owing h := by
    refine ⟨trivial, .ask fun reply state' answer => ⟨trivial, ?_⟩⟩
    have tried : ∀ machine', machine' = machine ∨ machine' = reversal.settle machine →
        Recovering site host see start prior due
          (faults ++ (Attempt.fault? ⟨reversal, reply⟩).toList) todo machine'
          (log ++ [⟨reversal.call site, reply⟩]) state' :=
      fun _ settled => h.attempt heeds owing settled answer
    cases reply with
    | ok _ =>
      have carriedOut := tried _ (.inr rfl)
      rw [Attempt.fault?_ok, Option.toList_none, List.append_nil] at carriedOut
      exact carriedOut
    | error cause =>
      rw [Attempt.fault?_error] at tried
      constructor
      · intro excused
        have tolerated := tried _ (.inr rfl)
        rw [if_pos excused, Option.toList_none, List.append_nil] at tolerated
        exact tolerated
      · intro refused
        have failed := tried _ (.inl rfl)
        rw [if_neg (Bool.eq_false_iff.mp refused), Option.toList_some] at failed
        exact failed
  settled {faults todo machine log state} settled h := by
    obtain ⟨attempts, tried, rfl, rest⟩ := h.attempts
    rw [Reversal.filter_owing_settled settled] at rest
    exact ⟨trivial, h.control, h.nodup.of_cons, attempts, tried, rfl, rest⟩

end

namespace CommandLine

theorem smtControl_restorer {found : Machine}
    (control : found.smtControl = Machine.defaultSmtControl) (keepSmtOff : Bool) :
    (restorer found keepSmtOff).smtControl = Machine.defaultSmtControl := by
  rw [restorer]
  split
  · rfl
  · exact control

/-- Of the outermost reversals the machine that restores carries out those that are due. -/
theorem filter_restorer {found : Machine} (settled : found.smtDisabled = false)
    {reading : Except CallError String} {keepSmtOff : Bool}
    (off : found.smtAtStart = .off ↔ reading.toOption.bind Smt.ofText? = some .off) :
    Reversal.outermost.reverse.filter (·.owing (restorer found keepSmtOff).smtDisabled) =
      Reversal.due reading keepSmtOff := by
  rw [restorer, Reversal.due]
  by_cases due : found.smtAtStart = .off ∧ ¬ keepSmtOff
  · rw [if_pos due, if_pos (due.imp_left off.mp)]
    rfl
  · rw [if_neg due, if_neg (mt (And.imp_left off.mpr) due), settled]
    rfl

end CommandLine

section

variable {σ : Type} {host : Host σ} {see : σ → Scene} {tools : Tools}

/-- What a restoration has come to: its calls, the scene it leaves and what it reports. -/
structure Recovers (tools : Tools) (host : Host σ) (see : σ → Scene) (start : Scene)
    (keepSmtOff : Bool) (reading : Except CallError String)
    (attempts : List (Attempt { tools })) (out : Except Fault Unit × Machine) (log : CallLog)
    (state : σ) : Prop where
  log : log = ⟨.read Machine.defaultSmtControl, reading⟩ :: attempts.map Attempt.logged
  due : attempts.map (·.reversal) = Reversal.due reading keepSmtOff
  tried : Tried { tools } host see start attempts (attempts.filterMap Attempt.fault?) state
  result : out.1 = verdict (attempts.filterMap Attempt.fault?)

/-- A machine is probed by one call, and owes nothing yet. -/
theorem ensures_found (host : Host σ) (smtControl dropCaches : String) (state : σ) :
    (callWatch host).Ensures (Machine.probe smtControl dropCaches) [] state
      fun found log state' => ∃ reading,
        host.answer state (.read smtControl) = (reading, state') ∧
          log = [⟨.read smtControl, reading⟩] ∧
          found.smtControl = smtControl ∧ found.smtDisabled = false ∧
          (found.smtAtStart = .off ↔ reading.toOption.bind Smt.ofText? = some .off) := by
  refine Watch.Ensures.bind (.ask fun reading _ answer => ⟨trivial, ?_⟩)
  refine ⟨reading, answer, rfl, rfl, rfl, ?_⟩
  cases reading with
  | error cause => exact ⟨nofun, nofun⟩
  | ok text =>
    show (Smt.ofText? text).getD .notImplemented = .off ↔ Smt.ofText? text = some .off
    cases Smt.ofText? text <;> simp

theorem ensures_recovery (heeds : Heeds { tools } host see) (keepSmtOff : Bool) (state : σ) :
    (callWatch host).Ensures (CommandLine.recovery tools keepSmtOff) [] state
      fun out log state' => ∃ reading attempts,
        (host.answer state (.read Machine.defaultSmtControl)).1 = reading ∧
          Recovers tools host see (see state) keepSmtOff reading attempts out log state' := by
  refine (ensures_found host Machine.defaultSmtControl Machine.defaultDropCaches state).andThen ?_
  rintro found log left ⟨reading, answer, rfl, control, settled, off⟩
  have unread : see left = see state := by
    have law := heeds.unread state
    rw [answer] at law
    exact law
  have start : Recovering { tools } host see (see state)
      [⟨.read Machine.defaultSmtControl, reading⟩] (Reversal.due reading keepSmtOff) []
      Reversal.outermost.reverse (CommandLine.restorer found keepSmtOff)
      [⟨.read Machine.defaultSmtControl, reading⟩] left := by
    refine ⟨CommandLine.smtControl_restorer control keepSmtOff, by decide, [], ?_, rfl, ?_⟩
    · rw [← unread]
      exact .nil ..
    · exact CommandLine.filter_restorer settled off
  refine ((recovering_unwinding heeds _ _ _).performAll _ start).andThen ?_
  rintro ⟨faults, machine⟩ log state' ⟨-, -, attempts, tried, rfl, rest⟩
  obtain rfl : faults = attempts.filterMap Attempt.fault? := tried.reported
  refine ⟨reading, attempts, congrArg Prod.fst answer, rfl, ?_, tried, rfl⟩
  exact (List.append_nil _).symm.trans rest

/-- Nothing is reported if, and only if, no attempt failed. -/
theorem verdict_filterMap_ok {site : Site} {attempts : List (Attempt site)} :
    verdict (attempts.filterMap Attempt.fault?) = .ok () ↔
      ∀ attempt ∈ attempts, attempt.fault? = none := by
  constructor
  · exact fun reported => List.filterMap_eq_nil_iff.mp (verdict_ok reported)
  · intro none
    rw [List.filterMap_eq_nil_iff.mpr none]
    rfl

namespace Recovers

variable {start : Scene} {keepSmtOff : Bool} {reading : Except CallError String}
  {attempts : List (Attempt { tools })} {out : Except Fault Unit × Machine} {log : CallLog}
  {state : σ}

/-- SMT is tried once, and if that failed then it is what is reported. -/
theorem smt (h : Recovers tools host see start keepSmtOff reading attempts out log state)
    {attempt : Attempt { tools }} (mem : attempt ∈ attempts)
    (restore : attempt.reversal = .enableSmt) {fault : Fault}
    (failed : attempt.fault? = some fault) : out.1 = .error fault := by
  have once : (attempts.map (·.reversal)).Nodup := by
    rw [h.due, Reversal.due]
    split <;> decide
  have listed : ∃ fault ∈ attempts.filterMap Attempt.fault?, fault.isSmtRestore = true :=
    ⟨fault, List.mem_filterMap.mpr ⟨attempt, mem, failed⟩,
      (Attempt.isSmtRestore_fault? failed).mpr restore⟩
  obtain ⟨first, reported, isSmt⟩ := verdict_isSmtRestore listed
  obtain ⟨other, mem', failed'⟩ := List.mem_filterMap.mp (verdict_error reported)
  have restore' := (Attempt.isSmtRestore_fault? failed').mp isSmt
  obtain rfl := List.inj_on_of_nodup_map once mem mem' (restore.trans restore'.symm)
  obtain rfl : fault = first := Option.some.inj (failed.symm.trans failed')
  exact h.result.trans reported

/-- Where nothing fails and no cgroup is busy, the scene is recovered. -/
theorem recovered (obliges : Obliges { tools } host see) {state₀ : σ}
    (h : Recovers tools host see (see state₀) keepSmtOff reading attempts out log state)
    (replied : (host.answer state₀ (.read Machine.defaultSmtControl)).1 = reading)
    (free : ∀ variant : Variant, (see state₀).busy variant.label = false) :
    out.1 = .ok () ∧ see state = (see state₀).recovered { tools } keepSmtOff := by
  have read : reading.toOption.bind Smt.ofText? = (see state₀).smt { tools } := by
    cases reading with
    | error cause => rw [Scene.smt, obliges.missing state₀ cause replied]; rfl
    | ok text => rw [Scene.smt, obliges.read state₀ text replied]; rfl
  have allowed : ∀ reversal ∈ Reversal.due reading keepSmtOff,
      (see state₀).Allows { tools } reversal := by
    intro reversal mem
    cases reversal with
    | enableSmt =>
      intro missing
      rw [Reversal.due, read, Scene.smt, missing] at mem
      simp at mem
    | deleteCgroup variant => exact free variant
    | stopOptimizer => trivial
  obtain ⟨none, scene⟩ := h.tried.obliged obliges fun attempt mem =>
    allowed _ (h.due ▸ List.mem_map_of_mem mem)
  rw [h.due, Scene.foldl_undo_due read] at scene
  refine ⟨?_, scene⟩
  rw [h.result, none]
  rfl

/-- A system that serves the host relays every call of a restoration. -/
theorem relayed (h : Recovers tools host see start keepSmtOff reading attempts out log state)
    {executor : Executor} {answer : (request : Request) → StateM σ request.Answer}
    (serves : Serves { tools } executor answer host) :
    ∀ entry ∈ log, executor.Relays answer host entry.1 := by
  rw [h.log, List.forall_mem_cons, List.forall_mem_map]
  exact ⟨serves.read, fun attempt _ => serves.reversal attempt.reversal⟩

end Recovers

theorem recovery_recovers (heeds : Heeds { tools } host see) (keepSmtOff : Bool) (state : σ) :
    let run := (CommandLine.recovery tools keepSmtOff).execute host state
    ∃ reading attempts, (host.answer state (.read Machine.defaultSmtControl)).1 = reading ∧
      Recovers tools host see (see state) keepSmtOff reading attempts run.value
        (Event.calls run.history) run.host := by
  have finished := (ensures_recovery heeds keepSmtOff state).finished
  rw [foldl_callWatch] at finished
  exact finished

theorem recovery_converges (obliges : Obliges { tools } host see) (keepSmtOff : Bool) {state : σ}
    (free : ∀ variant : Variant, (see state).busy variant.label = false) :
    let run := (CommandLine.recovery tools keepSmtOff).execute host state
    run.value.1 = .ok () ∧ see run.host = (see state).recovered { tools } keepSmtOff := by
  obtain ⟨reading, attempts, replied, recovers⟩ :=
    recovery_recovers obliges.toHeeds keepSmtOff state
  exact recovers.recovered obliges replied free

/-- Nothing is left to be done on a recovered host. -/
theorem recovery_again (obliges : Obliges { tools } host see) (keepSmtOff : Bool) {state left : σ}
    (free : ∀ variant : Variant, (see state).busy variant.label = false)
    (recovered : see left = (see state).recovered { tools } keepSmtOff) :
    let again := (CommandLine.recovery tools keepSmtOff).execute host left
    again.value.1 = .ok () ∧ see again.host = see left := by
  have stillFree : ∀ variant : Variant, (see left).busy variant.label = false := by
    rw [recovered]
    exact free
  obtain ⟨ok, scene⟩ := recovery_converges obliges keepSmtOff stillFree
  refine ⟨ok, scene.trans ?_⟩
  rw [recovered, Scene.recovered_recovered]

/-- On a system that serves the host, the command leaves the scene that the recovery leaves. -/
theorem restoration_recovers {settings : CommandLine.RestoreSettings}
    {answer : (request : Request) → StateM σ request.Answer}
    (heeds : Heeds { tools := settings.host.tools 3 none } host see)
    (serves : Serves { tools := settings.host.tools 3 none }
      { elevated := settings.host.elevated } (Request.unheard answer) host) (state : σ) :
    let run := (CommandLine.recovery (settings.host.tools 3 none) settings.keepSmtOff).execute
      host state
    ∃ left, (CommandLine.restoration settings).run.run (Request.unheard answer) state =
        (some (if run.value.1.isOk then 0 else 1), left) ∧ see left = see run.host := by
  intro run
  obtain ⟨_, _, -, recovers⟩ := recovery_recovers heeds settings.keepSmtOff state
  obtain ⟨left, restored, looked⟩ :=
    CommandLine.run_restoration_relayed rfl serves.read (recovers.relayed serves)
  refine ⟨left, restored, ?_⟩
  rcases looked with rfl | rfl
  · rfl
  · exact heeds.unread run.host

/-- The restoration converges. If nothing fails and neither cgroup is busy, it succeeds and leaves a
host without them, without a running optimizer and with SMT on where that was off and is not to be
kept so; all else is as before, and a second restoration changes nothing. Whatever fails, each
reversal that is due is tried once and in order, the host is changed by those that succeeded
only, and a failure is reported if, and only if, one of them failed, that of SMT before others. On
every system that serves the host the command leaves the same behind, and ends with one if a failure
is reported and with zero otherwise. -/
theorem restoration_converges (tools : Tools) (heeds : Heeds { tools } host see)
    (keepSmtOff : Bool) (state : σ) :
    let run := (CommandLine.recovery tools keepSmtOff).execute host state
    let again := (CommandLine.recovery tools keepSmtOff).execute host run.host
    (Obliges { tools } host see → (∀ variant : Variant, (see state).busy variant.label = false) →
      run.value.1 = .ok () ∧ see run.host = (see state).recovered { tools } keepSmtOff ∧
        again.value.1 = .ok () ∧ see again.host = see run.host) ∧
    (∃ reading, ∃ attempts : List (Attempt { tools }),
      Event.calls run.history =
          ⟨.read Machine.defaultSmtControl, reading⟩ :: attempts.map Attempt.logged ∧
        attempts.map (·.reversal) = Reversal.due reading keepSmtOff ∧
        see run.host = attempts.foldl Scene.after (see state) ∧
        (run.value.1 = .ok () ↔ ∀ attempt ∈ attempts, attempt.fault? = none) ∧
        (∀ fault, run.value.1 = .error fault → ∃ attempt ∈ attempts,
          attempt.fault? = some fault) ∧
        ∀ attempt ∈ attempts, attempt.reversal = .enableSmt → ∀ fault,
          attempt.fault? = some fault → run.value.1 = .error fault) ∧
    ∀ (settings : CommandLine.RestoreSettings)
      (answer : (request : Request) → StateM σ request.Answer),
      settings.host.tools 3 none = tools → settings.keepSmtOff = keepSmtOff →
      Serves { tools } { elevated := settings.host.elevated } (Request.unheard answer) host →
      let command := (CommandLine.restoration settings).run.run (Request.unheard answer)
      ∃ left, command state = (some (if run.value.1.isOk then 0 else 1), left) ∧
        see left = see run.host ∧
        (Obliges { tools } host see →
          (∀ variant : Variant, (see state).busy variant.label = false) →
          ∃ last, command left = (some 0, last) ∧ see last = see left) := by
  intro run again
  obtain ⟨reading, attempts, replied, once⟩ := recovery_recovers heeds keepSmtOff state
  refine ⟨fun obliges free => ?_, ⟨reading, attempts, once.log, once.due, once.tried.scene,
    ?_, ?_, ?_⟩, ?_⟩
  · obtain ⟨ok, scene⟩ := recovery_converges obliges keepSmtOff free
    exact ⟨ok, scene, recovery_again obliges keepSmtOff free scene⟩
  · rw [← verdict_filterMap_ok, ← once.result]
  · intro fault reported
    exact List.mem_filterMap.mp (verdict_error (once.result.symm.trans reported))
  · exact fun attempt mem restore fault failed => once.smt mem restore failed
  · rintro settings answer rfl rfl serves command
    obtain ⟨left, restored, same⟩ := restoration_recovers heeds serves state
    refine ⟨left, restored, same, fun obliges free => ?_⟩
    obtain ⟨-, scene⟩ := recovery_converges obliges settings.keepSmtOff free
    obtain ⟨ok, kept⟩ := recovery_again obliges settings.keepSmtOff free (same.trans scene)
    obtain ⟨last, restored', same'⟩ := restoration_recovers heeds serves left
    rw [ok] at restored'
    exact ⟨last, restored', same'.trans kept⟩

end

namespace Sample

/-- What a killed series left beside what others use. -/
def killed : Simulation.HostState where
  files := [(Machine.defaultSmtControl, "off\n"), ("/etc/hosts", "localhost")]
  cgroups := [("system", none), ("damon_test", some "4096\n"), ("baseline_test", none)]
  busy := ["system"]
  swap := false
  optimizer := true

/-- SMT cannot be switched on, and one of the cgroups cannot be deleted. -/
def refusals (_ : Nat) (call : Call) : Option CallError :=
  if call = .write Machine.defaultSmtControl "on\n" then
    some (.access "write" Machine.defaultSmtControl (.numbered 5))
  else if call = .run (Cgroups.deleteArgv .baseline) then
    some (.exited "cgdelete" (some 1) "Device or resource busy")
  else none

end Sample

theorem restoration_converges_on_killed :
    let host := Simulation.HostState.host
    let see := Simulation.HostState.scene
    let run := (CommandLine.recovery {} false).execute host Sample.killed
    let refused :=
      (CommandLine.recovery {} false).execute (host.faltering Sample.refusals) (0, Sample.killed)
    let command :=
      (CommandLine.restoration {}).run.run (Request.unheard Simulation.HostState.system)
    (run.value.1 = .ok () ∧ see run.host = (see Sample.killed).recovered {} false) ∧
      (∃ attempts : List (Attempt {}),
        see refused.host.2 = attempts.foldl Scene.after (see Sample.killed) ∧
          ∀ attempt ∈ attempts, attempt.reversal = .enableSmt → ∀ fault,
            attempt.fault? = some fault → refused.value.1 = .error fault) ∧
      ∃ left last, command Sample.killed = (some 0, left) ∧
        see left = (see Sample.killed).recovered {} false ∧
        command left = (some 0, last) ∧ see last = see left := by
  intro host see run refused command
  have obliges : Obliges {} host see := Simulation.HostState.obliges rfl
  have free : ∀ variant : Variant, (see Sample.killed).busy variant.label = false := by
    intro variant
    cases variant <;> rfl
  obtain ⟨converges, -, commanded⟩ :=
    restoration_converges {} obliges.toHeeds false Sample.killed
  obtain ⟨ok, recovered, -⟩ := converges obliges free
  obtain ⟨-, ⟨-, attempts, -, -, scene, -, -, smt⟩, -⟩ :=
    restoration_converges {} (obliges.toHeeds.faltering Sample.refusals) false (0, Sample.killed)
  obtain ⟨left, restored, same, again⟩ :=
    commanded {} Simulation.HostState.system rfl rfl Simulation.HostState.serves
  obtain ⟨last, restored', kept⟩ := again obliges free
  rw [ok] at restored
  exact ⟨⟨ok, recovered⟩, ⟨attempts, scene, smt⟩, left, last, restored, same.trans recovered,
    restored', kept⟩

/-- What is not refused is carried out, and the failure of SMT is reported. -/
example :
    let refused := (CommandLine.recovery {} false).execute
      (Simulation.HostState.host.faltering Sample.refusals) (0, Sample.killed)
    refused.value.1 = .error
        (.smtRestore (.access "write" Machine.defaultSmtControl (.numbered 5))) ∧
      refused.host.2 = { Sample.killed with
        cgroups := [("system", none), ("baseline_test", none)]
        optimizer := false } := by
  decide +kernel

end CgroupBench
