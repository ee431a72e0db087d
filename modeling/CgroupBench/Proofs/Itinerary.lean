import CgroupBench.Proofs.Course
import CgroupBench.Proofs.Ledger

/-!
# Itineraries

An itinerary lists the calls that a run means to make, in order. A call that fails is excused, or
made again, or it ends the journey. Every call says what has to be reversed once it was made, and
what besides once it succeeded. So the calls that were made along an itinerary, with their replies,
determine what has to be reversed after them, wherever the journey ended.
-/
namespace CgroupBench

/-- Calls with their replies, in order. -/
abbrev CallLog : Type :=
  List ((call : Call) × call.Reply)

structure Station where
  call : Call
  /-- How often the call is made again when it fails. -/
  retries : Nat := 0
  excuses : CallError → Bool := fun _ => false
  /-- What has to be reversed once the call was made, whatever the reply. -/
  made : List Reversal := []
  /-- What has to be reversed besides once the call succeeded. -/
  succeeded : List Reversal := []

namespace Station

def passes (station : Station) : station.call.Reply → Bool
  | .ok _ => true
  | .error cause => station.excuses cause

def owed (station : Station) : station.call.Reply → List Reversal
  | .ok _ => station.made ++ station.succeeded
  | .error _ => station.made

end Station

/-- The calls along an itinerary until they are all made or one of them ends the journey, and what
has to be reversed after them. A call is made at most once more than it has retries. -/
inductive Travels : List Station → CallLog → List Reversal → Prop where
  | arrived : Travels [] [] []
  | passed {station : Station} {ahead : List Station} {reply : station.call.Reply} {log : CallLog}
      {owed : List Reversal} : station.passes reply = true → Travels ahead log owed →
      Travels (station :: ahead) (⟨station.call, reply⟩ :: log) (station.owed reply ++ owed)
  /-- There is one try less afterwards. A missing tool is not tried again. -/
  | again {station : Station} {ahead : List Station} {cause : CallError} {retries : Nat}
      {log : CallLog} {owed : List Reversal} : station.retries = retries + 1 →
      cause.isUnlaunchable = false → Travels ({ station with retries } :: ahead) log owed →
      Travels (station :: ahead) (⟨station.call, .error cause⟩ :: log) owed
  | cut {station : Station} {ahead : List Station} {cause : CallError} :
      station.excuses cause = false → station.retries = 0 ∨ cause.isUnlaunchable = true →
      Travels (station :: ahead) [⟨station.call, .error cause⟩] station.made

/-- What came before a call that succeeded, and what came after it. -/
theorem Travels.of_succeeded {itinerary : List Station} {log before after : CallLog}
    {owed : List Reversal} {call : Call} {answer : call.Answer}
    (travels : Travels itinerary log owed)
    (split : log = before ++ ⟨call, .ok answer⟩ :: after) :
    ∃ behind station ahead first later, itinerary = behind ++ station :: ahead ∧
      station.call = call ∧ Travels ahead after later ∧
      owed = first ++ (station.made ++ station.succeeded) ++ later := by
  induction travels generalizing before with
  | arrived => exact absurd split (by simp)
  | @passed station ahead reply log owed passes rest ih =>
    cases before with
    | nil =>
      obtain ⟨same, rfl⟩ := List.cons.inj split
      cases same
      exact ⟨[], station, ahead, [], owed, rfl, rfl, rest, rfl⟩
    | cons entry before =>
      obtain ⟨behind, next, ahead, first, later, rfl, same, travels, rfl⟩ :=
        ih (List.cons.inj split).2
      refine ⟨station :: behind, next, ahead, station.owed reply ++ first, later, rfl, same,
        travels, ?_⟩
      simp only [List.append_assoc]
  | @again station ahead cause retries log owed left launchable rest ih =>
    cases before with
    | nil =>
      obtain ⟨failed, -⟩ := List.cons.inj split
      cases failed
    | cons entry before =>
      obtain ⟨behind, next, ahead', first, later, stations, same, travels, owes⟩ :=
        ih (List.cons.inj split).2
      -- The station with one try less stands for the station itself.
      cases behind with
      | nil =>
        obtain ⟨rfl, rfl⟩ := List.cons.inj stations
        exact ⟨[], station, _, first, later, rfl, same, travels, owes⟩
      | cons _ behind =>
        obtain ⟨-, rfl⟩ := List.cons.inj stations
        exact ⟨station :: behind, next, ahead', first, later, rfl, same, travels, owes⟩
  | @cut station ahead cause excuses spent =>
    cases before with
    | nil =>
      obtain ⟨failed, -⟩ := List.cons.inj split
      cases failed
    | cons entry before => exact absurd (List.cons.inj split).2 (by simp)

/-- Whatever is travelled from here on belongs to the same journey. -/
def Reaches (itinerary : List Station) (log : CallLog) (owed : List Reversal)
    (ahead : List Station) : Prop :=
  ∀ later owed', Travels ahead later owed' → Travels itinerary (log ++ later) (owed ++ owed')

namespace Reaches

variable {itinerary ahead : List Station} {station : Station} {log : CallLog}
  {owed : List Reversal} {cause : CallError}

theorem refl (itinerary : List Station) : Reaches itinerary [] [] itinerary :=
  fun _ _ travels => travels

theorem pass (h : Reaches itinerary log owed (station :: ahead)) {reply : station.call.Reply}
    (passes : station.passes reply = true) :
    Reaches itinerary (log ++ [⟨station.call, reply⟩]) (owed ++ station.owed reply) ahead := by
  intro later owed' travels
  rw [List.append_assoc, List.append_assoc]
  exact h _ _ (.passed passes travels)

theorem again (h : Reaches itinerary log owed (station :: ahead)) {retries : Nat}
    (left : station.retries = retries + 1) (launchable : cause.isUnlaunchable = false) :
    Reaches itinerary (log ++ [⟨station.call, .error cause⟩]) owed
      ({ station with retries } :: ahead) := by
  intro later owed' travels
  rw [List.append_assoc]
  exact h _ _ (.again left launchable travels)

theorem cut (h : Reaches itinerary log owed (station :: ahead))
    (excuses : station.excuses cause = false)
    (spent : station.retries = 0 ∨ cause.isUnlaunchable = true) :
    Travels itinerary (log ++ [⟨station.call, .error cause⟩]) (owed ++ station.made) :=
  h _ _ (.cut excuses spent)

theorem arrive (h : Reaches itinerary log owed []) : Travels itinerary log owed := by
  have travels := h _ _ .arrived
  rw [List.append_nil, List.append_nil] at travels
  exact travels

end Reaches

section

variable (site : Site) (target : Target) (smt : Smt) (invocation : Invocation)

namespace Station

def sync : Station where
  call := .run ["sync"]
  excuses cause := !cause.isUnlaunchable

def dropCaches : Station where
  call := .write site.dropCaches "3\n"
  excuses cause := !cause.isUnlaunchable

def swapOff : Station where
  call := .run ["swapoff", "-a"]
  excuses cause := !cause.isUnlaunchable

/-- No optimizer of an earlier run may be left beside a baseline run. -/
def stop : Station where
  call := .run site.tools.optimizer.stopArgv
  excuses := CallError.isExit

def clear : Station where
  call := .run (Cgroups.deleteArgv target.variant)
  excuses := CallError.saysAbsent
  made := [.deleteCgroup target.variant]

def create : Station where
  call := .run (Cgroups.createArgv target.variant)
  retries := site.tools.cgroups.retries

def limit : Station where
  call := .write (site.tools.cgroups.limitPath target.variant) s!"{target.memoryLimit.toNat}\n"
  retries := site.tools.cgroups.retries

def start (descriptor : String) : Station where
  call := .run (site.tools.optimizer.startArgv descriptor)
  made := [.stopOptimizer]

def smtOff : Station where
  call := .write site.smtControl "off\n"
  excuses cause := !cause.isUnlaunchable
  succeeded := [.enableSmt]

def launch : Station where
  call := .workload target.variant.label invocation

/-- The stations of a baseline run only. -/
def baselineOnly : List Station :=
  if target.variant.isOptimized then [] else [stop site]

/-- The stations of an optimized run only. -/
def optimizedOnly : List Station :=
  if target.variant.isOptimized then site.tools.optimizer.descriptor.toList.map (start site) else []

/-- Where SMT was not on at the start it is never touched. -/
def smtOnly : List Station :=
  if smt = .on then [smtOff site] else []

def toLaunch : List Station :=
  smtOnly site smt ++ [launch target invocation]

def fromLimit : List Station :=
  optimizedOnly site target ++ toLaunch site target smt invocation

end Station

open Station in
/-- The stations that are still ahead at a milestone. -/
def Milestone.ahead : Milestone → List Station
  | begun =>
    baselineOnly site target ++ clear target :: create site target :: limit site target ::
      fromLimit site target smt invocation
  | alone | claimed =>
    clear target :: create site target :: limit site target ::
      fromLimit site target smt invocation
  | cleared => create site target :: limit site target :: fromLimit site target smt invocation
  | created => limit site target :: fromLimit site target smt invocation
  | limited | pledged => fromLimit site target smt invocation
  | attached | occupied | staked => toLaunch site target smt invocation
  | ready => [launch target invocation]
  | launched => []

/-- The itinerary of a run. The page cache is dropped only if what is dirty could be written. -/
def itinerary (synced : Bool) : List Station :=
  .sync :: (if synced then [.dropCaches site] else []) ++ .swapOff ::
    Milestone.begun.ahead site target smt invocation

/-- No station before the last ones of a run switches SMT off. -/
theorem itinerary_eq (synced : Bool) :
    ∃ early, itinerary site target smt invocation synced =
        early ++ Station.toLaunch site target smt invocation ∧
      ∀ station ∈ early, station.call ≠ .write site.smtControl "off\n" := by
  refine ⟨.sync :: (if synced then [.dropCaches site] else []) ++ .swapOff ::
    (Station.baselineOnly site target ++ .clear target :: .create site target ::
      .limit site target :: Station.optimizedOnly site target), ?_, ?_⟩
  · simp [itinerary, Milestone.ahead, Station.fromLimit]
  · have limit : s!"{target.memoryLimit.toNat}\n" ≠ "off\n" :=
      numberLine_ne _ 'o' (by decide) (by decide) (by decide)
    intro station mem same
    simp only [Station.baselineOnly, Station.optimizedOnly, List.cons_append, List.mem_cons,
      List.mem_append, List.mem_ite_nil_right, List.mem_ite_nil_left, List.not_mem_nil, or_false,
      Bool.not_eq_true, List.mem_map, Option.mem_toList] at mem
    rcases mem with rfl | ⟨-, rfl⟩ | rfl | ⟨-, rfl⟩ | rfl | rfl | rfl | ⟨-, descriptor, -, rfl⟩
    all_goals first
      | exact absurd same Call.noConfusion
      | exact absurd (Call.write.inj same).2 (by decide)
      | exact limit (Call.write.inj same).2

/-- After the station that switches SMT off only the launch is ahead. -/
theorem itinerary_smtOff {synced : Bool} {behind ahead : List Station} {station : Station}
    (split : itinerary site target smt invocation synced = behind ++ station :: ahead)
    (same : station.call = .write site.smtControl "off\n") :
    station = .smtOff site ∧ ahead = [.launch target invocation] := by
  obtain ⟨early, route, other⟩ := itinerary_eq site target smt invocation synced
  have cut : ∃ between,
      Station.toLaunch site target smt invocation = between ++ station :: ahead := by
    rcases split_append (route.symm.trans split) with ⟨between, passed, -⟩ | ⟨between, -, rest⟩
    · refine absurd same (other station ?_)
      rw [passed]
      exact List.mem_append_right _ (.head _)
    · exact ⟨between, rest⟩
  obtain ⟨between, last⟩ := cut
  have launches : ∀ between, [Station.launch target invocation] ≠ between ++ station :: ahead := by
    intro between alone
    have mem : station ∈ [Station.launch target invocation] := by simp [alone]
    rw [List.mem_singleton.mp mem] at same
    exact absurd same Call.noConfusion
  by_cases on : smt = .on
  · rw [Station.toLaunch, Station.smtOnly, if_pos on] at last
    cases between with
    | nil =>
      obtain ⟨rfl, rfl⟩ := List.cons.inj last
      exact ⟨rfl, rfl⟩
    | cons first between => exact absurd (List.cons.inj last).2 (launches between)
  · rw [Station.toLaunch, Station.smtOnly, if_neg on] at last
    exact absurd last (launches between)

end

theorem Travels.launched {target : Target} {invocation : Invocation} {log : CallLog}
    {owed : List Reversal} (travels : Travels [.launch target invocation] log owed) :
    ∃ reply, log = [⟨.workload target.variant.label invocation, reply⟩] ∧ owed = [] := by
  cases travels with
  | @passed _ _ reply _ _ _ rest =>
    cases rest
    refine ⟨reply, rfl, ?_⟩
    cases reply <;> rfl
  | again left _ _ => cases left
  | cut _ _ => exact ⟨_, rfl, rfl⟩

end CgroupBench
