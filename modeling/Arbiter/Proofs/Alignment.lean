import Arbiter.Engine.Pass
import Arbiter.Proofs.Judgement
import Arbiter.Proofs.Ranking
/-!
# One result for every rule

A pass is put together from lists that have to keep step with each other: the active rules are ranked,
dealt out to workers in shares, scored share by share, paired with the scores again, and judged one after
the other.  Pairing two lists drops what one of them has too many, so a share that is too short by one
would lose a rule without a word, and one that is shifted would give every rule the score of another.

1. **Scoring** (`Crew.score_eq_map`): the shares tile the rules, so the scores are those of the rules in
   their order, however many workers there are.
2. **Judging** (`Verdict.About`): whatever becomes of a rule, its result names it and carries its signal.
   Actions change neither, and a rule that is abandoned keeps both.
3. **The walk** (`walk_about`): one entry for every pair, by induction on the pairs.

The main statement is `results_stay_aligned`.
-/

namespace Arbiter

/-! ## Scoring in shares -/

/-- So many pieces of one size are what they are cut from. -/
theorem flatMap_pieces (xs : List α) (size k : Nat) :
    ((List.range k).flatMap fun i => (xs.drop (i * size)).take (min (i * size + size) xs.length - i * size))
      = xs.take (k * size) := by
  induction k with
  | zero => simp
  | succ k ih =>
    -- the last piece may be cut short by the end of the list, which `take` does not see
    have hpiece : (xs.drop (k * size)).take (min (k * size + size) xs.length - k * size)
        = (xs.drop (k * size)).take size := by
      rw [List.take_eq_take_iff, List.length_drop]
      omega
    rw [List.range_succ, List.flatMap_append, ih, List.flatMap_singleton, hpiece, ← List.take_add,
      Nat.succ_mul]

/-- As many shares as it takes reach to the end. -/
theorem le_mul_ceil {count size : Nat} (hsize : 0 < size) : count ≤ (count + size - 1) / size * size := by
  have hdiv := Nat.div_add_mod (count + size - 1) size
  have hmod := Nat.mod_lt (count + size - 1) hsize
  rw [Nat.mul_comm] at hdiv
  omega

theorem Crew.shareSize_pos {count : Nat} (workers : Nat) (hcount : 0 < count) :
    0 < shareSize count workers := by
  have hle : max workers 1 ≤ count + max workers 1 - 1 := by omega
  exact Nat.div_pos hle (by omega)

/-- **The scores are those of the rules in their order**, whatever the number of workers. -/
theorem Crew.score_eq_map (p : Crew) (m : Learner) (rules : List Rule) (context : Context) :
    p.score m rules context = rules.map fun r => m.score r context := by
  rw [score, shares]
  by_cases hcount : rules.length = 0
  · have hrules : rules = [] := List.length_eq_zero_iff.1 hcount
    simp [hrules]
  · have hsize := shareSize_pos p.workers (Nat.pos_of_ne_zero hcount)
    have htiles := flatMap_pieces rules (shareSize rules.length p.workers)
      ((rules.length + shareSize rules.length p.workers - 1) / shareSize rules.length p.workers)
    rw [List.take_of_length_le (le_mul_ceil hsize)] at htiles
    conv_rhs => rw [← htiles]
    rw [if_neg hcount, List.map_flatMap, List.flatMap_map]

/-! ## Judging -/

/-- A result is that of a rule which has a given signal. -/
structure Verdict.About (r : Verdict) (rule : Rule) (signal : Signal) : Prop where
  /-- It names the rule. -/
  ruleId : r.ruleId = rule.id
  /-- It carries the confidence of the signal. -/
  confidence : r.confidence = signal.confidence
  /-- It carries what each feature contributed. -/
  activation : r.activation = signal.activation

/-- However the actions of a rule end, its result is still about it. -/
theorem runActions_about (env : Env) {rule : Rule} {signal : Signal} (before : Context)
    (actions : List Action) {p : Progress} (w : World) (h : p.result.About rule signal) :
    ((runActions env rule before actions p).run w).1.result.About rule signal := by
  by_cases hkept : ∀ f ∈ fates env rule.id actions p w, f.isFailed = false
  · obtain ⟨c, w', err, hrun, -⟩ := runActions_of_completed before hkept
    rw [hrun]
    exact ⟨h.ruleId, h.confidence, h.activation⟩
  · have hfailed : ∃ f ∈ fates env rule.id actions p w, f.isFailed = true := by simpa using hkept
    obtain ⟨w', err, hrun⟩ := runActions_of_failed before hfailed
    rw [hrun]
    exact ⟨h.ruleId, h.confidence, h.activation⟩

/-- The result of a rule that is judged is about the rule, whatever becomes of it. -/
theorem judge_about (env : Env) (rule : Rule) (signal : Signal) (context : Context)
    (claims : Option Claims) (elapsed : Nat) (w : World) :
    ((judge env rule signal context claims elapsed).run w).1.result.About rule signal := by
  obtain ⟨m, err, hresult⟩ := conditionResult_eq rule signal (rule.conditionOutcome env context w).1
  have hstart : (Progress.start rule signal context claims
      (rule.conditionOutcome env context w).1).result.About rule signal := by
    rw [Progress.start, hresult]
    exact ⟨rfl, rfl, rfl⟩
  rw [judge_run]
  dsimp only
  split
  · have hrun := runActions_about env context rule.actions (rule.conditionOutcome env context w).2 hstart
    exact ⟨hrun.ruleId, hrun.confidence, hrun.activation⟩
  · exact ⟨hstart.ruleId, hstart.confidence, hstart.activation⟩

/-! ## The walk -/

/-- A walk has one entry for every rule, in order, and each is about its rule. -/
theorem walk_about (env : Env) (stopwatch : Stopwatch) (ranked : List (Rule × Signal))
    (context : Context) (claims : Option Claims) (w : World) :
    List.Forall₂ (fun p x => p.result.About x.1 x.2)
      ((walk env stopwatch ranked context claims).run w).1 ranked := by
  induction ranked generalizing context claims w with
  | nil => exact .nil
  | cons r rest ih =>
    obtain ⟨rule, signal⟩ := r
    rw [walk, World.run_bind]
    exact .cons (judge_about env rule signal context claims (stopwatch.rule rule.id) w) (ih _ _ _)

/-- So the entries of a walk name the rules in their order. -/
theorem map_ruleId_walk (env : Env) (stopwatch : Stopwatch) (ranked : List (Rule × Signal))
    (context : Context) (claims : Option Claims) (w : World) :
    ((walk env stopwatch ranked context claims).run w).1.map (·.result.ruleId) = ranked.map (·.1.id) := by
  rw [← List.forall₂_eq_eq_eq, List.forall₂_map_left_iff, List.forall₂_map_right_iff]
  exact (walk_about env stopwatch ranked context claims w).imp fun _ _ h => h.ruleId

namespace Engine

variable (e : Engine) (context : Context) (options : PassOptions)

/-- Each rule is walked with its own signal. -/
theorem scored_eq_map : e.scored context = e.rules.map fun r => (r, e.learner.score r context) := by
  rw [scored, Crew.score_eq_map]
  calc e.rules.zip (e.rules.map fun r => e.learner.score r context)
      = (e.rules.map id).zip (e.rules.map fun r => e.learner.score r context) := by rw [List.map_id]
    _ = e.rules.map fun r => (r, e.learner.score r context) := List.zip_map'

/-- The context of a pass before any rule is looked at. -/
def startOfPass : Context := ((e.enrich (e.budget options) context).run e.world).1.1

/-- The results of a pass are about the ranked rules, with their signals at the start. -/
theorem results_about :
    List.Forall₂ (fun r rule => r.About rule (e.learner.score rule (e.startOfPass context options)))
      (e.evaluate context options).1.results e.rules := by
  have hwalk := walk_about (e.env options) options.stopwatch (e.scored (e.startOfPass context options))
    (e.startOfPass context options) e.initialClaims ((e.enrich (e.budget options) context).run e.world).2
  rw [scored_eq_map, List.forall₂_map_right_iff] at hwalk
  have hresults : (e.evaluate context options).1.results
      = ((walk (e.env options) options.stopwatch (e.scored (e.startOfPass context options))
          (e.startOfPass context options) e.initialClaims).run
            ((e.enrich (e.budget options) context).run e.world).2).1.map (·.result) := rfl
  rw [hresults, List.forall₂_map_left_iff, scored_eq_map]
  exact hwalk

/-! ## The number of workers -/

/-- Other workers find the same signals. -/
theorem scored_with_crew (crew : Crew) : ({ e with crew } : Engine).scored context = e.scored context := by
  rw [scored_eq_map, scored_eq_map]
  rfl

/-- So the rules come to the same. -/
theorem passRules_with_crew (crew : Crew) :
    ({ e with crew } : Engine).passRules context options = e.passRules context options := by
  simp only [passRules, scored_with_crew]
  rfl

/-- The engine when the results of a pass are recorded and its subscribers are told of them, and nothing is
predicted yet. -/
def recorded (failure : Option CallFailure) (start : Context) (steps : List Progress) : Engine :=
  let results := steps.map (·.result)
  let raised := (failure.map fun err => .error "inject" err.message).toList
    ++ steps.flatMap (Progress.events (e.passes + 1))
    ++ [.evaluationComplete (e.passes + 1) results (contextAfter start steps) options.stopwatch.pass]
  { (e.recordPass results options.stopwatch).emitAll raised with passes := e.passes + 1 }

/-- How a pass ends: it is reported, and what is predicted is announced. -/
def close (budget : Budget) (results : List Verdict) (predictions : List Prediction) :
    StateM World Unit := do
  Budget.note (.metric stageOfPass !(results.any (·.hasFailed)))
  e.announce budget predictions

/-- A pass in its three parts. -/
theorem evaluate_eq : e.evaluate context options =
    (let ((failure, start, steps), world) := (e.passRules context options).run e.world
     let after := e.recorded options failure start steps
     let results := steps.map (·.result)
     let predictions := after.predictions (contextAfter start steps) results
     ({ evaluationId := e.passes + 1, results, context := contextAfter start steps, predictions },
      { after with
        latestPrediction := predictions
        world := ((after.close (e.budget options) results predictions).run world).2 })) := rfl

/-- And the pass ends in the same way. -/
theorem close_with_crew (crew : Crew) (budget : Budget) (results : List Verdict)
    (predictions : List Prediction) :
    ({ e with crew } : Engine).close budget results predictions = e.close budget results predictions := by
  have hannounce : ({ e with crew } : Engine).announce budget predictions
      = e.announce budget predictions := by
    induction predictions with
    | nil => rfl
    | cons p rest ih => rw [announce, announce, ih]
  rw [close, close, hannounce]

/-- Another number of workers shows nowhere but in the number of workers. -/
theorem evaluate_with_crew (crew : Crew) : ({ e with crew } : Engine).evaluate context options
    = ((e.evaluate context options).1, { (e.evaluate context options).2 with crew }) := by
  rw [evaluate_eq, evaluate_eq, passRules_with_crew]
  generalize (e.passRules context options).run e.world = outcome
  obtain ⟨⟨failure, start, steps⟩, world⟩ := outcome
  dsimp only
  rw [show ({ e with crew } : Engine).recorded options failure start steps
    = { e.recorded options failure start steps with crew } from rfl, close_with_crew]
  rfl

end Engine

/-! ## The main statement -/

/-- **A pass gives every active rule its own result**, whatever fails or comes too late.  There are as many
results as active rules.  There is one way to rank the active rules by descending priority with ties as they
were declared, and the result at a place names the rule at that place, and carries the confidence and the
activation of that rule in the context as it was before any rule was looked at.  With another number of
workers the pass and the engine after it are the same, but for that number. -/
theorem results_stay_aligned (e : Engine) (context : Context) (options : PassOptions) :
    let results := (e.evaluate context options).1.results
    let start := ((e.enrich (e.budget options) context).run e.world).1.1
    results.length = e.snapshot.rules.length
    ∧ (∃ ranked, (∀ other, Ranking e.snapshot.rules other ↔ other = ranked)
      ∧ ∀ (i : Nat) (rule : Rule), ranked[i]? = some rule → ∃ r, results[i]? = some r
        ∧ r.ruleId = rule.id
        ∧ r.confidence = (e.learner.score rule start).confidence
        ∧ r.activation = (e.learner.score rule start).activation)
    ∧ ∀ crew, ({ e with crew } : Engine).evaluate context options
        = ((e.evaluate context options).1, { (e.evaluate context options).2 with crew }) := by
  intro results start
  obtain ⟨hlength, habout⟩ := List.forall₂_iff_get.1 (e.results_about context options)
  have hranked : e.rules.length = e.snapshot.rules.length := e.rulebook.ranking_sorted.perm.length_eq
  refine ⟨hlength.trans hranked, ⟨e.rules, fun other => Ranking.eq_sorted, ?_⟩,
    fun crew => e.evaluate_with_crew context options crew⟩
  intro i rule hrule
  obtain ⟨hi, rfl⟩ := List.getElem?_eq_some_iff.1 hrule
  have hresult : i < results.length := Nat.lt_of_lt_of_eq hi hlength.symm
  have hr := habout i hresult hi
  exact ⟨results[i], List.getElem?_eq_getElem hresult, hr.ruleId, hr.confidence, hr.activation⟩

end Arbiter
