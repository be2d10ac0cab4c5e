import Conch.Pattern.Matching
import Conch.Pattern.Meaning
import Conch.Pattern.Reading
import Conch.Pattern.Weight

/-!
# Searching lines for a pattern

A pattern is read, given its meaning, and then asked of each line whether it matches
somewhere in it.
-/

namespace Conch.Pattern

/-- The expression of a pattern, or the mistake in it. -/
def readExpr (pattern : List Char) : Except Mistake Expr := do
  let node ← readNode pattern
  let (expr, _) ← node.expr Flags.initial
  .ok expr

/-- The report of an expression that weighs too much. -/
def overweightReport : String :=
  "Compiled regex exceeds size limit of " ++ toString weightLimit ++ " bytes."

/-- The search for a pattern, or the report of why there is none. -/
def search (pattern : String) : Except String (List Char → Bool) :=
  match readExpr pattern.toList with
  | .error mistake => .error (mistake.report pattern.toList)
  | .ok expr => if expr.isOverweight then .error overweightReport else .ok expr.occursIn

end Conch.Pattern
