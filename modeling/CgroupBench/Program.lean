import CgroupBench.KernelConfig
import CgroupBench.SystemError
import CgroupBench.Text.Utf8

/-!
# Programs

A program is a finite tree of requests to the operating system. It can be run in any
monad that answers requests: in the one of real effects, or over a system in memory. The
only place where a termination signal shows is the launch of another program, which is
waited for.
-/
namespace CgroupBench

/-- What a program that was started left behind; no code means that a signal ended it. -/
structure Child where
  code : Option Int := some 0
  stdout : List UInt8 := []
  stderr : List UInt8 := []
deriving DecidableEq, Repr

inductive Launch where
  | failed (cause : SystemError)
  | ended (child : Child)
  /-- A signal to terminate came before the child ended. -/
  | interrupted
deriving DecidableEq, Repr

inductive Request where
  | launch (argv : List String) (input : String)
  | readFile (path : String)
  | writeFile (path : String) (contents : String)
  | createDirectory (path : String)
  | isDirectory (path : String)
  | isRoot
  | kernelConfig
  /-- Nanoseconds since some fixed time. -/
  | clock
  | print (line : String)
  /-- Prints a line where errors go. -/
  | complain (line : String)
deriving DecidableEq, Repr

namespace Request

abbrev Answer : Request → Type
  | launch _ _ => Launch
  | readFile _ => Except SystemError (List UInt8)
  | writeFile _ _ | createDirectory _ => Except SystemError Unit
  | isDirectory _ | isRoot => Bool
  | kernelConfig => KernelConfig
  | clock => Nat
  | print _ | complain _ => Unit

end Request

inductive Program (α : Type) where
  | finish (value : α)
  | ask (request : Request) (next : request.Answer → Program α)

namespace Program

variable {α β γ : Type}

def bind (first : Program α) (next : α → Program β) : Program β :=
  match first with
  | .finish value => next value
  | .ask request rest => .ask request fun answer => (rest answer).bind next

instance : Monad Program where
  pure := .finish
  bind := bind

theorem bind_finish : (program : Program α) → program.bind .finish = program
  | .finish _ => rfl
  | .ask request rest => congrArg (ask request) (funext fun answer => bind_finish (rest answer))

theorem bind_assoc (first : α → Program β) (second : β → Program γ) :
    (program : Program α) →
      (program.bind first).bind second = program.bind fun value => (first value).bind second
  | .finish _ => rfl
  | .ask request rest =>
    congrArg (ask request) (funext fun answer => bind_assoc first second (rest answer))

end Program

instance : LawfulMonad Program :=
  LawfulMonad.mk' _ Program.bind_finish (fun _ _ => rfl)
    fun program first second => Program.bind_assoc first second program

namespace Program

variable {α : Type}

/-- Runs a program where each request is answered as given. -/
def run {m : Type → Type} [Monad m] (answer : (request : Request) → m request.Answer) :
    Program α → m α
  | .finish value => pure value
  | .ask request next => do (next (← answer request)).run answer

def send (request : Request) : Program request.Answer :=
  .ask request .finish

def print (line : String) : Program Unit :=
  send (.print line)

def complain (line : String) : Program Unit :=
  send (.complain line)

def notText : SystemError := .described "stream did not contain valid UTF-8"

/-- Reads a file that must be text. -/
def readText (path : String) : Program (Except SystemError String) := do
  match ← send (.readFile path) with
  | .error cause => return .error cause
  | .ok bytes =>
    match Text.Utf8.decode? bytes with
    | some text => return .ok text
    | none => return .error notText

end Program
end CgroupBench
