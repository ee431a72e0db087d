import CgroupBench.Text.Lines

/-!
# The kernel configuration

A kernel may tell how it was configured, one option a line. An option counts as enabled
when it is built in or a module.
-/
namespace CgroupBench

/-- What a look at the configuration of the running kernel gives. -/
inductive KernelConfig where
  | absent
  | unreadable
  | found (text : String)
deriving DecidableEq, Repr

namespace KernelConfig

def enables (text option : String) : Bool :=
  (Text.lines text).any fun line => line == option ++ "=y" || line == option ++ "=m"

end KernelConfig
end CgroupBench
