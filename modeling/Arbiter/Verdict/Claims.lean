/-!
# Claims on targets

Under the policy that the rule of higher priority wins, every rule that writes to a path claims it
for the rest of the pass.  Two paths are in conflict when they are equal or one leads through the
other.
-/

namespace Arbiter

/-- Whether one path leads on from another: it starts with it and a dot follows. -/
def leadsOn (path longer : List Char) : Bool :=
  path.isPrefixOf longer && longer[path.length]? == some '.'

/-- Whether two paths are equal or one leads on from the other. -/
def inConflict (a b : String) : Bool :=
  a == b || leadsOn a.toList b.toList || leadsOn b.toList a.toList

/-- The claims of a pass, oldest first: a path and the rule that claimed it. -/
abbrev Claims := List (String × String)

namespace Claims

/-- The rule with the oldest claim in conflict with a path, other than a given rule. -/
def rival? (cs : Claims) (target ruleId : String) : Option String :=
  (cs.find? fun c => c.2 != ruleId && inConflict c.1 target).map (·.2)

/-- Adds a claim, unless it is there already. -/
def claim (cs : Claims) (target ruleId : String) : Claims :=
  if cs.any fun c => c.1 == target && c.2 == ruleId then cs else cs ++ [(target, ruleId)]

/-- Drops the claims of a rule. -/
def release (cs : Claims) (ruleId : String) : Claims := cs.filter (·.2 != ruleId)

end Claims

example : inConflict "a.b" "a" = true := by decide
example : inConflict "ab" "a" = false := by decide

end Arbiter
