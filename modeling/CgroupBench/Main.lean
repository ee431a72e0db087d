import CgroupBench.CommandLine.Dispatch

/-!
# The command

Requests are answered by the system at hand. Other programs cannot be started from here,
so every launch fails as a function that the system does not have.
-/
namespace CgroupBench.Main

def notImplemented : SystemError := .numbered 38

def systemError : IO.Error → SystemError
  | .noFileOrDirectory _ number _ | .interrupted _ number _ => .numbered number.toNat
  | .alreadyExists _ number _ | .invalidArgument _ number _ | .permissionDenied _ number _
  | .resourceExhausted _ number _ | .inappropriateType _ number _ | .noSuchThing _ number _ =>
    .numbered number.toNat
  | .otherError number _ | .resourceBusy number _ | .resourceVanished number _
  | .unsupportedOperation number _ | .hardwareFault number _ | .unsatisfiedConstraints number _
  | .illegalOperation number _ | .protocolError number _ | .timeExpired number _ =>
    .numbered number.toNat
  | .unexpectedEof => .described "unexpected end of file"
  | .userError text => .described text

def attempt {α : Type} (action : IO α) : IO (Except SystemError α) := do
  try
    return .ok (← action)
  catch error =>
    return .error (systemError error)

def canOpen (path : String) : IO Bool := do
  return (← attempt (IO.FS.Handle.mk path .read)).isOk

/-- Whether the effective user in a process status is the superuser. -/
def isRootIn (status : String) : Bool :=
  (Text.lines status).any fun line =>
    match Text.words line with
    | "Uid:" :: _ :: effective :: _ => effective == "0"
    | _ => false

def answer : (request : Request) → IO request.Answer
  | .launch _ _ => return .failed notImplemented
  | .readFile path => attempt do return (← IO.FS.readBinFile path).toList
  | .writeFile path contents => attempt (IO.FS.writeFile path contents)
  | .createDirectory path => attempt (IO.FS.createDir path)
  | .isDirectory path => canOpen (path ++ "/.")
  | .isRoot => do
    match ← attempt (IO.FS.readFile "/proc/self/status") with
    | .ok status => return isRootIn status
    | .error _ => return false
  | .kernelConfig => return if ← canOpen "/proc/config.gz" then .unreadable else .absent
  | .clock => IO.monoNanosNow
  | .print line => IO.println line
  | .complain line => IO.eprintln line

end CgroupBench.Main

def main (arguments : List String) : IO UInt32 := do
  let status ← (CgroupBench.CommandLine.perform arguments).run CgroupBench.Main.answer
  return status.getD CgroupBench.CommandLine.interruptedStatus
