import CgroupBench.Path
import CgroupBench.Program
import CgroupBench.Report

/-!
# Storing the results

The results file replaces what was there before. The directory it belongs into is made
first, with whatever is missing above it.
-/
namespace CgroupBench

/-- The activity that failed, and why. -/
structure StorageError where
  activity : String
  cause : SystemError
deriving DecidableEq, Repr

namespace Storage

/-- Makes the first of these directories; each path after it names the one above. A
failure counts only if the directory is not there after all. -/
def createDirectories : List String → Program (Except SystemError Unit)
  | [] => return .error (.described "failed to create whole tree")
  | path :: above => do
    if path = "" then return .ok ()
    match ← Program.send (.createDirectory path) with
    | .ok () => return .ok ()
    | .error cause =>
      if cause = .noSuchFile then
        match ← createDirectories above with
        | .error cause => return .error cause
        | .ok () =>
          match ← Program.send (.createDirectory path) with
          | .ok () => return .ok ()
          | .error cause => unlessDirectory path cause
      else unlessDirectory path cause
where
  unlessDirectory (path : String) (cause : SystemError) : Program (Except SystemError Unit) := do
    return if ← Program.send (.isDirectory path) then .ok () else .error cause

def save (path : String) (measurements : List Measurement) :
    Program (Except StorageError Unit) := do
  let above := Path.ancestors path
  let directory := above.headD ""
  match ← createDirectories (if directory = "" then [""] else above) with
  | .error cause => return .error ⟨s!"creating {directory}", cause⟩
  | .ok () =>
    let written ← Program.send (.writeFile path (Report.text measurements ++ "\n"))
    return written.mapError fun cause => ⟨s!"writing {path}", cause⟩

end Storage
end CgroupBench
