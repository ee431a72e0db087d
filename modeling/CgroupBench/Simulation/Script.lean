/-!
# Scripts

A script is a list of rules that override what a simulation would do by itself. A rule
names the beginning of a command's text; it may pass over some matches first, and it may
be used up.
-/
namespace CgroupBench.Simulation

structure Rule (α : Type) where
  /-- The rule matches each text that begins so. -/
  start : String
  /-- How many matches it still passes over. -/
  skip : Nat := 0
  /-- How many matches it still decides; without a number it never stops. -/
  uses : Option Nat := some 1
  action : α
deriving Repr

namespace Rule

variable {α : Type}

def applies (rule : Rule α) (text : String) : Bool :=
  rule.start.toList.isPrefixOf text.toList

/-- The first rule that decides the text, and the rules as they are afterwards. -/
def select (text : String) : List (Rule α) → Option α × List (Rule α)
  | [] => (none, [])
  | rule :: rest =>
    let passed (rule : Rule α) := Prod.map id (rule :: ·) (select text rest)
    if ¬ rule.applies text then passed rule
    else if 0 < rule.skip then passed { rule with skip := rule.skip - 1 }
    else match rule.uses with
      | none => (some rule.action, rule :: rest)
      | some 0 => passed rule
      | some (uses + 1) => (some rule.action, { rule with uses := some uses } :: rest)

end Rule
end CgroupBench.Simulation
