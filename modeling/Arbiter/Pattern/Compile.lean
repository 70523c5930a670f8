import Arbiter.Pattern.Machine
import Arbiter.Pattern.Parse
/-!
# Patterns from texts

A text becomes a pattern, and the pattern a machine.  What can go wrong on the way is that the text is
not a pattern, or that its machine would be too large.
-/

namespace Arbiter.Pattern

/-- Why a text is not compiled. -/
inductive Problem where
  /-- It is not a pattern. -/
  | malformed
  /-- It would become too large. -/
  | tooLarge
deriving DecidableEq, Repr

/-- The text of a problem. -/
def Problem.message : Problem → String
  | .malformed => "regex parse error: the text is not a regular expression"
  | .tooLarge => "Compiled regex exceeds size limit of " ++ toString weightLimit ++ " bytes."

/-- A text compiled as a pattern. -/
def compile (text : String) : Except Problem Machine :=
  match parse? text with
  | none => .error .malformed
  | some p => if p.weight ≤ weightLimit then .ok (machine p) else .error .tooLarge

end Arbiter.Pattern
