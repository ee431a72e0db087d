import CgroupBench.Text.Digit

/-!
# Long options

Options are read from the left up to the first argument that is none. A value follows
its option as the next argument or after an equals sign; only there may it begin with a
dash. Each option changes the settings, and only those that collect values may be given
more than once.
-/
namespace CgroupBench.CommandLine

/-- Why the arguments name nothing that can be done. -/
inductive Refusal where
  | helpWanted
  | unexpected (argument : String)
  | missingValue (option : String)
  | needlessValue (option : String)
  | invalidValue (option value : String)
  | repeated (option : String)
  | missingOption (option : String)
  | missingCommand
deriving DecidableEq, Repr

namespace Refusal

def message : Refusal → String
  | helpWanted => "help was asked for"
  | unexpected argument => s!"unexpected argument `{argument}`"
  | missingValue option => s!"option --{option} needs a value"
  | needlessValue option => s!"option --{option} takes no value"
  | invalidValue option value => s!"invalid value `{value}` for option --{option}"
  | repeated option => s!"option --{option} given more than once"
  | missingOption option => s!"option --{option} is required"
  | missingCommand => "a command is required"

end Refusal

inductive Argument where
  | plain
  | separator
  | short (letter : Char)
  | long (name : String) (value : Option String)
deriving DecidableEq, Repr

def Argument.ofText (text : String) : Argument :=
  match text.toList with
  | ['-', '-'] => .separator
  | '-' :: '-' :: rest =>
    let name := String.ofList (rest.takeWhile (· ≠ '='))
    match rest.dropWhile (· ≠ '=') with
    | [] => .long name none
    | _ :: value => .long name (some (.ofList value))
  | '-' :: letter :: _ => .short letter
  | _ => .plain

/-- What an option does to the settings. A value that gives nothing is invalid. -/
inductive Effect (σ : Type) where
  | help
  | flag (apply : σ → σ)
  | value (repeatable : Bool) (apply : String → σ → Option σ)

abbrev Table (σ : Type) := List (String × Effect σ)

namespace Effect

variable {σ τ : Type}

def text (set : String → σ → σ) : Effect σ :=
  .value false fun value settings => some (set value settings)

/-- A path, which cannot be empty. -/
def path (set : String → σ → σ) : Effect σ :=
  .value false fun value settings => if value = "" then none else some (set value settings)

def natural? (digits : List Char) : Option Nat :=
  if digits = [] then none
  else (digits.mapM Text.digitValue?).map (·.foldl (10 * · + ·) 0)

/-- A number with an optional sign. -/
def integer? (value : String) : Option Int :=
  match value.toList with
  | '-' :: digits => (natural? digits).map fun n => -(n : Int)
  | '+' :: digits => (natural? digits).map Int.ofNat
  | digits => (natural? digits).map Int.ofNat

def count? (least : Nat) (value : String) : Option UInt32 :=
  (integer? value).bind fun n =>
    if (least : Int) ≤ n ∧ n < UInt32.size then some (.ofNat n.toNat) else none

def count (set : UInt32 → σ → σ) : Effect σ :=
  .value false fun value settings => (count? 0 value).map (set · settings)

/-- The same effect on a part of larger settings. -/
def within (part : τ → σ) (replace : τ → σ → τ) : Effect σ → Effect τ
  | help => help
  | flag apply => flag fun settings => replace settings (apply (part settings))
  | value repeatable apply => value repeatable fun text settings =>
    (apply text (part settings)).map (replace settings)

end Effect

structure Scan (σ : Type) where
  settings : σ
  /-- What follows the options. -/
  rest : List String
  /-- Two dashes alone ended the options. -/
  closed : Bool := false

variable {σ : Type}

def scan (table : Table σ) (seen : List String) (settings : σ) :
    List String → Except Refusal (Scan σ)
  | [] => .ok ⟨settings, [], false⟩
  | argument :: rest =>
    match Argument.ofText argument with
    | .plain => .ok ⟨settings, argument :: rest, false⟩
    | .separator => .ok ⟨settings, rest, true⟩
    | .short letter => .error (if letter = 'h' then .helpWanted else .unexpected argument)
    | .long name attached =>
      match table.lookup name, attached with
      | none, _ => .error (.unexpected argument)
      | some .help, none => .error .helpWanted
      | some .help, some _ | some (.flag _), some _ => .error (.needlessValue name)
      | some (.flag apply), none =>
        if name ∈ seen then .error (.repeated name)
        else scan table (name :: seen) (apply settings) rest
      | some (.value repeatable apply), some value =>
        if ¬ repeatable ∧ name ∈ seen then .error (.repeated name)
        else match apply value settings with
          | some settings => scan table (name :: seen) settings rest
          | none => .error (.invalidValue name value)
      | some (.value repeatable apply), none =>
        match rest with
        | [] => .error (.missingValue name)
        | value :: rest =>
          if Argument.ofText value ≠ .plain then .error (.missingValue name)
          else if ¬ repeatable ∧ name ∈ seen then .error (.repeated name)
          else match apply value settings with
            | some settings => scan table (name :: seen) settings rest
            | none => .error (.invalidValue name value)

end CgroupBench.CommandLine
