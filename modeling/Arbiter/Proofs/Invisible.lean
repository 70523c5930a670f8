import Arbiter.Proofs.Alignment
import Arbiter.Proofs.Lockstep
import Arbiter.Proofs.Turns
/-!
# Rules that do not fire are invisible

A rule may write, claim and raise events before it fails, and the rules after it must not be able to tell.
Here two walks are compared: one over all rules, and one over what is left when some that came to nothing
are taken out.  The entries of the rules that are left are the same in both.

1. **Time.**  The second walk meets its rules at other times and after other calls.  That shows in no
   answer if replies come without delay: calls are then in lockstep whatever the clocks show, so what becomes
   of a rule is `Timeless`.
2. **What comes to nothing** leaves the context and the claims alone (`judge_of_quiet`).  For the claims
   that needs an invariant: a rule that is abandoned drops *all* claims under its name, so none of them
   may have been there before its turn.  Names are different, and a rule claims under its own
   (`judge_claims`).
3. **The walk** (`walk_filter`): one induction over the rules, in which a rule that is taken out is passed
   over in the one walk, and any other starts from the same place in both.

The main statement is `quiet_rules_are_invisible`.
-/

namespace Arbiter

/-! ## Steps that do not depend on the world -/

/-- The answer of a step is the same in all worlds. -/
def Timeless (x : StateM World α) : Prop := ∀ w v, (x.run w).1 = (x.run v).1

/-- The replies that rules ask for come without delay. -/
structure Capabilities.Immediate (caps : Capabilities) : Prop where
  /-- Questions are answered at once. -/
  evaluate : ∀ prompt context, (caps.evaluate prompt context).delay = none
  /-- Texts are there at once. -/
  generate : ∀ prompt context, (caps.generate prompt context).delay = none

/-- A reply without delay is what it is whenever it is asked for, even when the deadline has come. -/
theorem lockstep_call_of_immediate {r : Reply α} (h : r.delay = none) (b : Budget) :
    Lockstep (fun _ _ => True) (b.call r) (b.call r) := by
  intro w v _
  show (b.wait v.now r).1 = (b.wait w.now r).1 ∧ True
  rw [Budget.wait, Budget.wait, h]
  exact ⟨rfl, trivial⟩

/-- **What becomes of a rule does not depend on when it is judged**, nor on the calls made before. -/
theorem timeless_judge {env : Env} (himmediate : env.capabilities.Immediate) (rule : Rule)
    (signal : Signal) (context : Context) (claims : Option Claims) (elapsed : Nat) :
    Timeless (judge env rule signal context claims elapsed) := by
  have hparallel : env.Parallel (fun _ _ => True) env := by
    refine ⟨rfl, fun prompt context => ?_, fun prompt context => ?_⟩
    · exact lockstep_call_of_immediate (himmediate.evaluate prompt context) env.budget
    · exact lockstep_call_of_immediate (himmediate.generate prompt context) env.budget
  intro w v
  exact (lockstep_judge hparallel rule signal context claims elapsed v w trivial).1

/-! ## Rules that come to nothing -/

/-- Nothing is claimed under any of these names. -/
def Unclaimed (ids : List String) (claims : Option Claims) : Prop :=
  ∀ cs, claims = some cs → ∀ c ∈ cs, c.2 ∉ ids

section Judge

variable {env : Env} {rule : Rule} {signal : Signal} {context : Context} {claims : Option Claims}
  {elapsed : Nat} {w : World}

/-- A rule that does not match in the end, or does not score enough, leaves the context and the claims as
it found them, if nothing was claimed under its name. -/
theorem judge_of_quiet (hfree : Unclaimed [rule.id] claims)
    (hquiet : ((judge env rule signal context claims elapsed).run w).1.result.matched = false
      ∨ ¬ ((judge env rule signal context claims elapsed).run w).1.result.score > firingScore) :
    ((judge env rule signal context claims elapsed).run w).1.context = context
      ∧ ((judge env rule signal context claims elapsed).run w).1.claims = claims := by
  have hend := judge_ending env rule signal context claims elapsed w
  generalize rule.fates env signal context claims w = fs at hend
  cases hend with
  | idle _ hcontext hclaims => exact ⟨hcontext, hclaims⟩
  | completed hfires =>
    obtain ⟨hmatched, hscore⟩ := fires_eq_true_iff.1 hfires
    rcases hquiet with h | h
    · rw [hmatched] at h
      cases h
    · exact absurd hscore h
  | abandoned _ _ hcontext hclaims =>
    refine ⟨hcontext, hclaims.trans ?_⟩
    cases claims with
    | none => rfl
    | some cs =>
      have hother : ∀ c ∈ cs, c.2 ≠ rule.id := fun c hc => by simpa using hfree cs rfl c hc
      exact congrArg some (Claims.release_eq_self hother)

/-- What a rule claims is claimed under its own name. -/
theorem judge_claims {ids : List String} (hid : rule.id ∉ ids) (hfree : Unclaimed ids claims) :
    Unclaimed ids ((judge env rule signal context claims elapsed).run w).1.claims := by
  have hend := judge_ending env rule signal context claims elapsed w
  generalize rule.fates env signal context claims w = fs at hend
  intro cs hcs c hc
  cases hend with
  | idle _ _ hclaims => exact hfree cs (hclaims.symm.trans hcs) c hc
  | completed _ _ _ hclaims =>
    rw [hclaims, Option.map_eq_some_iff] at hcs
    obtain ⟨before, hbefore, rfl⟩ := hcs
    rcases Claims.mem_claimAll.1 hc with hold | ⟨-, hnew⟩
    · exact hfree before hbefore c hold
    · rwa [hnew]
  | abandoned _ _ _ hclaims =>
    rw [hclaims, Option.map_eq_some_iff] at hcs
    obtain ⟨before, hbefore, rfl⟩ := hcs
    exact hfree before hbefore c (List.mem_of_mem_filter hc)

end Judge

/-! ## Two walks -/

/-- The claims after some rules. -/
def claimsAfter (claims : Option Claims) (steps : List Progress) : Option Claims :=
  (steps.getLast?.map (·.claims)).getD claims

theorem claimsAfter_cons (claims : Option Claims) (p : Progress) (steps : List Progress) :
    claimsAfter claims (p :: steps) = claimsAfter p.claims steps := by
  simp only [claimsAfter, List.getLast?_cons]
  cases steps.getLast? <;> rfl

/-- The entries of a walk, and what is left of them when those of some rules are taken out; both lead to
the same context and the same claims. -/
structure Spared (drop : String → Bool) (context : Context) (claims : Option Claims)
    (steps fewer : List Progress) : Prop where
  /-- The entries of the other rules are left. -/
  entries : fewer = steps.filter fun p => !drop p.result.ruleId
  /-- The context after them is the same. -/
  context : contextAfter context fewer = contextAfter context steps
  /-- The claims after them are the same. -/
  claims : claimsAfter claims fewer = claimsAfter claims steps

section Spared

variable {drop : String → Bool} {context : Context} {claims : Option Claims} {p : Progress}
  {steps fewer : List Progress}

/-- A rule that is kept goes in front of both walks. -/
theorem Spared.cons_kept (h : Spared drop p.context p.claims steps fewer)
    (hkeep : drop p.result.ruleId = false) : Spared drop context claims (p :: steps) (p :: fewer) where
  entries := by rw [List.filter_cons_of_pos (by simp [hkeep]), h.entries]
  context := by rw [contextAfter_cons, contextAfter_cons, h.context]
  claims := by rw [claimsAfter_cons, claimsAfter_cons, h.claims]

/-- A rule that changed neither context nor claims may be left out of one. -/
theorem Spared.cons_dropped (h : Spared drop context claims steps fewer) (hdrop : drop p.result.ruleId = true)
    (hcontext : p.context = context) (hclaims : p.claims = claims) :
    Spared drop context claims (p :: steps) fewer where
  entries := by rw [List.filter_cons_of_neg (by simp [hdrop]), h.entries]
  context := by rw [contextAfter_cons, hcontext, h.context]
  claims := by rw [claimsAfter_cons, hclaims, h.claims]

end Spared

/-- A walk begins with the turn of its first rule, and goes on from where that rule stood afterwards. -/
theorem walk_cons (env : Env) (stopwatch : Stopwatch) (rule : Rule) (signal : Signal)
    (rest : List (Rule × Signal)) (context : Context) (claims : Option Claims) (w : World) :
    ((walk env stopwatch ((rule, signal) :: rest) context claims).run w).1
      = (turnOf env stopwatch rule signal context claims w).after
        :: ((walk env stopwatch rest (turnOf env stopwatch rule signal context claims w).after.context
            (turnOf env stopwatch rule signal context claims w).after.claims).run
              (worldAfterTurn env stopwatch rule signal context claims w)).1 := by
  rw [walk, World.run_bind]
  rfl

/-- The walk over the rules that are kept, in whatever world, has the entries of those rules. -/
theorem walk_filter {env : Env} (himmediate : env.capabilities.Immediate) {stopwatch : Stopwatch}
    {drop : String → Bool} {ranked : List (Rule × Signal)} {context : Context} {claims : Option Claims}
    {w : World} (v : World) (hids : (ranked.map (·.1.id)).Nodup)
    (hfree : Unclaimed (ranked.map (·.1.id)) claims)
    (hquiet : ∀ p ∈ ((walk env stopwatch ranked context claims).run w).1, drop p.result.ruleId = true →
      p.result.matched = false ∨ ¬ p.result.score > firingScore) :
    Spared drop context claims ((walk env stopwatch ranked context claims).run w).1
      ((walk env stopwatch (ranked.filter fun x => !drop x.1.id) context claims).run v).1 := by
  induction ranked generalizing context claims w v with
  | nil => exact ⟨rfl, rfl, rfl⟩
  | cons r rest ih =>
    obtain ⟨rule, signal⟩ := r
    rw [List.map_cons, List.nodup_cons] at hids
    obtain ⟨hnew, hrest⟩ := hids
    rw [walk_cons] at hquiet ⊢
    obtain ⟨hhead, htail⟩ := List.forall_mem_cons.1 hquiet
    have hname : (turnOf env stopwatch rule signal context claims w).after.result.ruleId = rule.id :=
      (judge_about env rule signal context claims _ w).ruleId
    have hlater : Unclaimed (rest.map (·.1.id))
        (turnOf env stopwatch rule signal context claims w).after.claims :=
      judge_claims hnew fun cs hcs c hc hmem => hfree cs hcs c hc (List.mem_cons_of_mem _ hmem)
    by_cases hdrop : drop rule.id = true
    · -- taken out: the other walk goes on from the same place with the next rule
      have hown : Unclaimed [rule.id] claims := fun cs hcs c hc hmem => by
        rw [List.mem_singleton] at hmem
        exact hfree cs hcs c hc (by rw [hmem]; exact List.mem_cons_self)
      obtain ⟨hcontext, hclaims⟩ : (turnOf env stopwatch rule signal context claims w).after.context = context
          ∧ (turnOf env stopwatch rule signal context claims w).after.claims = claims :=
        judge_of_quiet hown (hhead (by rw [hname, hdrop]))
      rw [List.filter_cons_of_neg (by simp [hdrop])]
      have hafter := ih v hrest hlater htail
      rw [hcontext, hclaims] at hafter ⊢
      exact hafter.cons_dropped (by rw [hname, hdrop]) hcontext hclaims
    · -- kept: it comes to the same in the world of the other walk
      have hsame : (turnOf env stopwatch rule signal context claims v).after
          = (turnOf env stopwatch rule signal context claims w).after :=
        timeless_judge himmediate rule signal context claims _ v w
      rw [List.filter_cons_of_pos (by simpa using hdrop), walk_cons, hsame]
      exact (ih _ hrest hlater htail).cons_kept (by rw [hname]; simpa using hdrop)

/-! ## The main statement -/

/-- **Rules that come to nothing are invisible to all others.**  Some rules are taken out of a walk over
rules with different names, each of which did not match in the end, or did not score enough.  Then the
walk over the rules that are left, at whatever time and after whatever calls, has exactly the entries that
these rules had before: the same results, the same events, the same contexts and claims along the way;
and it ends in the same context with the same claims. -/
theorem quiet_rules_are_invisible (env : Env) (himmediate : env.capabilities.Immediate)
    (stopwatch : Stopwatch) (ranked : List (Rule × Signal)) (hids : (ranked.map (·.1.id)).Nodup)
    (context : Context) (claims : Option Claims)
    (hfree : ∀ cs, claims = some cs → ∀ c ∈ cs, c.2 ∉ ranked.map (·.1.id)) (drop : String → Bool)
    (w v : World)
    (hquiet : ∀ p ∈ ((walk env stopwatch ranked context claims).run w).1, drop p.result.ruleId = true →
      p.result.matched = false ∨ ¬ p.result.score > firingScore) :
    let steps := ((walk env stopwatch ranked context claims).run w).1
    let fewer := ((walk env stopwatch (ranked.filter fun x => !drop x.1.id) context claims).run v).1
    steps.map (·.result.ruleId) = ranked.map (·.1.id)
    ∧ fewer = steps.filter (fun p => !drop p.result.ruleId)
    ∧ contextAfter context fewer = contextAfter context steps
    ∧ claimsAfter claims fewer = claimsAfter claims steps := by
  intro steps fewer
  have hspared := walk_filter himmediate v hids hfree hquiet
  exact ⟨map_ruleId_walk .., hspared.entries, hspared.context, hspared.claims⟩

/-- A rule that writes, claims and raises an event before it fails. -/
def Rule.hasty : Rule where
  id := "hasty"
  actions := [.set "user.tags" (.arr [.str "late"]), .trigger "log" none, .llmGenerate "note" "greet"]

/-- A rule that writes and claims before it fails, taken out of a walk. -/
theorem quiet_rules_are_invisible_hasty :
    let ranked : List (Rule × Signal) := [(.hasty, {}), (.welcome, {})]
    let steps := ((walk .alone {} ranked [] (some [])).run {}).1
    let fewer := ((walk .alone {} [(.welcome, {})] [] (some [])).run {}).1
    Env.alone.capabilities.Immediate ∧ (ranked.map (·.1.id)).Nodup
    ∧ (∀ p ∈ steps, (p.result.ruleId == "hasty") = true →
        p.result.matched = false ∨ ¬ p.result.score > firingScore)
    ∧ fewer = steps.filter (fun p => !(p.result.ruleId == "hasty"))
    ∧ contextAfter [] fewer = contextAfter [] steps
    ∧ claimsAfter (some []) fewer = claimsAfter (some []) steps := by
  intro ranked steps fewer
  have himmediate : Env.alone.capabilities.Immediate := ⟨fun _ _ => rfl, fun _ _ => rfl⟩
  have hids : (ranked.map (·.1.id)).Nodup := by decide
  have hfree : ∀ cs : Claims, some [] = some cs → ∀ c ∈ cs, c.2 ∉ ranked.map (·.1.id) := by
    rintro cs ⟨⟩ c ⟨⟩
  have hquiet : ∀ p ∈ steps, (p.result.ruleId == "hasty") = true →
      p.result.matched = false ∨ ¬ p.result.score > firingScore := by decide +kernel
  obtain ⟨-, hentries, hcontext, hclaims⟩ :=
    quiet_rules_are_invisible .alone himmediate {} ranked hids [] (some []) hfree (· == "hasty") {} {} hquiet
  exact ⟨himmediate, hids, hquiet, hentries, hcontext, hclaims⟩

end Arbiter
