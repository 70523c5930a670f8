import Arbiter.Engine.Pass
import Arbiter.Proofs.Judgement
/-!
# The turns of a walk

A walk judges one rule after the other, each in the context, the claims and the world that the one before
it left.  `turns` writes the walk down with what the results alone do not show: the fate of every action of
every rule.  Without the fates it is the walk itself (`map_after_turns`).
-/

namespace Arbiter

/-- What happened when a rule had its turn. -/
structure Turn where
  /-- The rule. -/
  rule : Rule
  /-- The fates of its actions, as far as they were reached. -/
  fates : List Fate
  /-- Where the rule stood afterwards. -/
  after : Progress

namespace Turn

/-- Whether the rule was abandoned. -/
def abandoned (t : Turn) : Bool := t.fates.any Fate.isFailed

/-- Whether the rule wrote at a path. -/
def Wrote (t : Turn) (target : String) : Prop := .done (.wrote target) ∈ t.fates

theorem mem_written {t : Turn} {target : String} :
    target ∈ t.fates.flatMap Fate.written ↔ t.Wrote target := by
  simp only [List.mem_flatMap, Wrote]
  constructor
  · rintro ⟨f, hf, htarget⟩
    cases f with
    | done effect =>
      cases effect with
      | wrote target' =>
        obtain rfl : target = target' := by simpa [Fate.written] using htarget
        exact hf
      | _ => simp [Fate.written] at htarget
    | _ => simp [Fate.written] at htarget
  · intro h
    exact ⟨_, h, by simp [Fate.written]⟩

end Turn

/-- The turn of a rule in a given context, with given claims and in a given world. -/
def turnOf (env : Env) (stopwatch : Stopwatch) (rule : Rule) (signal : Signal) (context : Context)
    (claims : Option Claims) (w : World) : Turn where
  rule := rule
  fates := rule.fates env signal context claims w
  after := ((judge env rule signal context claims (stopwatch.rule rule.id)).run w).1

/-- The world after the turn of a rule: its judgement, and the report of its stage. -/
def worldAfterTurn (env : Env) (stopwatch : Stopwatch) (rule : Rule) (signal : Signal)
    (context : Context) (claims : Option Claims) (w : World) : World :=
  let (p, v) := (judge env rule signal context claims (stopwatch.rule rule.id)).run w
  { v with traces := .metric (stageOfRule rule.id) (!p.result.hasFailed) :: v.traces }

/-- The turns of a walk, in order. -/
def turns (env : Env) (stopwatch : Stopwatch) :
    List (Rule × Signal) → Context → Option Claims → World → List Turn
  | [], _, _, _ => []
  | (rule, signal) :: rest, context, claims, w =>
    let t := turnOf env stopwatch rule signal context claims w
    t :: turns env stopwatch rest t.after.context t.after.claims
      (worldAfterTurn env stopwatch rule signal context claims w)

section Walk

variable (env : Env) (stopwatch : Stopwatch) (ranked : List (Rule × Signal)) (context : Context)
  (claims : Option Claims) (w : World)

/-- **The turns are those of the walk.** -/
theorem map_after_turns :
    (turns env stopwatch ranked context claims w).map Turn.after
      = ((walk env stopwatch ranked context claims).run w).1 := by
  induction ranked generalizing context claims w with
  | nil => rfl
  | cons r rest ih =>
    obtain ⟨rule, signal⟩ := r
    rw [turns, List.map_cons, ih, walk, World.run_bind]
    rfl

/-- The rules have their turns in the order of the walk. -/
theorem map_rule_turns :
    (turns env stopwatch ranked context claims w).map Turn.rule = ranked.map (·.1) := by
  induction ranked generalizing context claims w with
  | nil => rfl
  | cons r rest ih =>
    obtain ⟨rule, signal⟩ := r
    rw [turns, List.map_cons, ih, List.map_cons]
    rfl

variable {env stopwatch ranked context claims w} in
/-- Every turn is that of a rule which finds some context, claims and world. -/
theorem exists_turnOf_of_mem {t : Turn} (ht : t ∈ turns env stopwatch ranked context claims w) :
    ∃ rule signal c cs v, t = turnOf env stopwatch rule signal c cs v := by
  induction ranked generalizing context claims w with
  | nil => cases ht
  | cons r rest ih =>
    obtain ⟨rule, signal⟩ := r
    rcases List.mem_cons.1 ht with rfl | ht
    · exact ⟨rule, signal, context, claims, w, rfl⟩
    · exact ih ht

end Walk

theorem contextAfter_cons (context : Context) (p : Progress) (steps : List Progress) :
    contextAfter context (p :: steps) = contextAfter p.context steps := by
  simp only [contextAfter, List.getLast?_cons]
  cases steps.getLast? <;> rfl

/-- A rule that is judged ends in one of the three ways. -/
theorem turnOf_ending (env : Env) (stopwatch : Stopwatch) (rule : Rule) (signal : Signal)
    (context : Context) (claims : Option Claims) (w : World) :
    ∃ w', Ending env rule context claims w (turnOf env stopwatch rule signal context claims w).fates
      (turnOf env stopwatch rule signal context claims w).after w' :=
  ⟨_, judge_ending env rule signal context claims (stopwatch.rule rule.id) w⟩

/-- What the result of a rule says about its actions: which ones were kept from their targets, and which
ones were carried out unless the rule was abandoned.  If the rule fires in the end, no action was left
out. -/
theorem turnOf_result {env : Env} {stopwatch : Stopwatch} {rule : Rule} {signal : Signal}
    {context : Context} {claims : Option Claims} {w : World} {t : Turn}
    (ht : t = turnOf env stopwatch rule signal context claims w) :
    t.after.result.suppressedActions = pick Fate.isSuppressed rule.actions t.fates
      ∧ t.after.result.executedActions
          = (if t.abandoned then [] else pick Fate.isDone rule.actions t.fates)
      ∧ (t.after.result.fires = true → t.fates.length = rule.actions.length) := by
  obtain ⟨w', hend⟩ := turnOf_ending env stopwatch rule signal context claims w
  rw [← ht] at hend
  rw [Turn.abandoned]
  generalize t.fates = fs at hend
  cases hend with
  | idle hfires _ _ hexecuted hsuppressed _ =>
    rw [hexecuted, hsuppressed, hfires]
    simp [pick]
  | completed _ hkept hlength _ hexecuted hsuppressed _ _ =>
    refine ⟨hsuppressed, ?_, fun _ => hlength⟩
    rw [hexecuted, if_neg (by simpa using hkept)]
  | abandoned hmatched hfailed _ _ hexecuted hsuppressed _ _ =>
    refine ⟨hsuppressed, ?_, fun hfires => ?_⟩
    · rw [hexecuted, if_pos (by simpa using hfailed)]
    · rw [(fires_eq_true_iff.1 hfires).1] at hmatched
      cases hmatched

end Arbiter
