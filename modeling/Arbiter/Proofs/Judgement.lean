import Arbiter.Proofs.Fates
/-!
# Rules as a whole or not at all

`judge` ends in one of three ways (`Ending`): the rule does not fire, its actions are all gone through, or
one of them fails.  Only the second leaves a trace in the context or the claims.  The main statement,
`judge_all_or_nothing`, puts that in terms of the result alone: a rule that in the end does not match, or
does not score enough, has changed nothing, and of any other the result says exactly what it changed.
-/

namespace Arbiter

variable {env : Env} {rule : Rule} {signal : Signal} {context : Context} {claims : Option Claims}
  {elapsed : Nat} {w : World}

/-- Where a rule stands when its conditions are joined and no action was carried out yet. -/
def Progress.start (rule : Rule) (signal : Signal) (context : Context) (claims : Option Claims)
    (outcome : Except Fault Fold) : Progress :=
  { context, claims, result := conditionResult rule signal outcome }

/-- What the conditions of a rule come to, and the world after them. -/
def Rule.conditionOutcome (env : Env) (rule : Rule) (context : Context) (w : World) :
    Except Fault Fold × World :=
  (Fold.run env context rule.conditions).runIn w

/-- The fates of the actions of a rule that is judged; there are none if it does not fire. -/
def Rule.fates (env : Env) (rule : Rule) (signal : Signal) (context : Context)
    (claims : Option Claims) (w : World) : List Fate :=
  let (outcome, v) := rule.conditionOutcome env context w
  let start := Progress.start rule signal context claims outcome
  if start.result.fires then Arbiter.fates env rule.id rule.actions start v else []

/-! ## The result of the conditions -/

/-- To record failures changes the failure of a result, and nothing else. -/
theorem foldl_record (fs : List Failure) (r : Verdict) :
    ∃ err, fs.foldl Verdict.record r = { r with error := err } := by
  induction fs generalizing r with
  | nil => exact ⟨r.error, rfl⟩
  | cons f rest ih =>
    obtain ⟨err, h⟩ := ih (r.record f)
    exact ⟨err, by rw [List.foldl_cons, h]; rfl⟩

/-- The conditions decide whether a rule matches and which failure is recorded; all else is as at the
beginning, and the score is the blend. -/
theorem conditionResult_eq (rule : Rule) (signal : Signal) (outcome : Except Fault Fold) :
    ∃ m err, conditionResult rule signal outcome =
      { Verdict.pending rule.id signal with
        matched := m, score := blend m signal.confidence rule.signalWeight, error := err } := by
  cases outcome with
  | error e => exact ⟨false, _, rfl⟩
  | ok f =>
    obtain ⟨err, h⟩ := foldl_record f.failures { Verdict.pending rule.id signal with matched := f.matched }
    refine ⟨f.matched, err, ?_⟩
    simp only [conditionResult, h]

/-! ## The three ways to end -/

/-- A rule is judged by its conditions first; its actions run only if it fires. -/
theorem judge_run :
    (judge env rule signal context claims elapsed).run w =
      (let r := rule.conditionOutcome env context w
       let start := Progress.start rule signal context claims r.1
       let q := if start.result.fires then (runActions env rule context rule.actions start).run r.2
         else (start, r.2)
       ({ q.1 with result := { q.1.result with processingTime := elapsed } }, q.2)) := by
  rw [judge, World.run_bind]
  obtain ⟨⟨outcome, v⟩, hr⟩ : ∃ x, rule.conditionOutcome env context w = x := ⟨_, rfl⟩
  rw [hr, show (Fold.run env context rule.conditions).run.run w = (outcome, v) from hr]
  by_cases h : (conditionResult rule signal outcome).fires = true
  · simp only [Progress.start, h, if_true]
    rfl
  · simp only [Progress.start, h]
    rfl

/-- How a rule that is judged ends, with the fates of its actions. -/
inductive Ending (env : Env) (rule : Rule) (context : Context) (claims : Option Claims) (w : World) :
    List Fate → Progress → World → Prop where
  /-- It does not fire, and nothing happens. -/
  | idle {p : Progress} {w' : World} (hfires : p.result.fires = false)
      (hcontext : p.context = context) (hclaims : p.claims = claims)
      (hexecuted : p.result.executedActions = []) (hsuppressed : p.result.suppressedActions = [])
      (htriggers : p.triggers = []) :
      Ending env rule context claims w [] p w'
  /-- Its actions are gone through, and what they did stays. -/
  | completed {fs : List Fate} {p : Progress} {w' : World} (hfires : p.result.fires = true)
      (hkept : ∀ f ∈ fs, f.isFailed = false) (hlength : fs.length = rule.actions.length)
      (hclaims : p.claims = claims.map (·.claimAll rule.id (fs.flatMap Fate.written)))
      (hexecuted : p.result.executedActions = pick Fate.isDone rule.actions fs)
      (hsuppressed : p.result.suppressedActions = pick Fate.isSuppressed rule.actions fs)
      (htriggers : p.triggers = fs.flatMap Fate.raised)
      (hreplay : (Action.runAll env (pick Fate.isDone rule.actions fs) context).runIn
        (rule.conditionOutcome env context w).2 = (.ok p.context, w')) :
      Ending env rule context claims w fs p w'
  /-- An action fails, and the rule is back where it began. -/
  | abandoned {fs : List Fate} {p : Progress} {w' : World} (hmatched : p.result.matched = false)
      (hfailed : ∃ f ∈ fs, f.isFailed = true) (hcontext : p.context = context)
      (hclaims : p.claims = claims.map (·.release rule.id))
      (hexecuted : p.result.executedActions = [])
      (hsuppressed : p.result.suppressedActions = pick Fate.isSuppressed rule.actions fs)
      (htriggers : p.triggers = []) (herror : p.result.hasFailed = true) :
      Ending env rule context claims w fs p w'

/-- **Every judgement ends in one of these ways.** -/
theorem judge_ending (env : Env) (rule : Rule) (signal : Signal) (context : Context)
    (claims : Option Claims) (elapsed : Nat) (w : World) :
    Ending env rule context claims w (rule.fates env signal context claims w)
      ((judge env rule signal context claims elapsed).run w).1
      ((judge env rule signal context claims elapsed).run w).2 := by
  obtain ⟨m, err, hresult⟩ :=
    conditionResult_eq rule signal (rule.conditionOutcome env context w).1
  rw [judge_run, Rule.fates]
  obtain ⟨⟨outcome, v⟩, hr⟩ : ∃ x, rule.conditionOutcome env context w = x := ⟨_, rfl⟩
  rw [hr] at hresult ⊢
  by_cases hfires : (Progress.start rule signal context claims outcome).result.fires = true
  · simp only [hfires, if_true]
    -- the two laws of a run, for a rule that found nothing executed or suppressed yet
    by_cases hkept : ∀ f ∈ fates env rule.id rule.actions
        (Progress.start rule signal context claims outcome) v, f.isFailed = false
    · obtain ⟨c, w', err', hrun, hreplay⟩ := runActions_of_completed context hkept
      rw [hrun]
      refine .completed hfires hkept (length_fates_of_completed hkept) rfl ?_ ?_ rfl ?_
      · simp [Progress.start, hresult, Verdict.pending]
      · simp [Progress.start, hresult, Verdict.pending]
      · rw [hr]
        exact hreplay
    · have hfailed : ∃ f ∈ fates env rule.id rule.actions
          (Progress.start rule signal context claims outcome) v, f.isFailed = true := by
        simpa using hkept
      obtain ⟨w', err', hrun⟩ := runActions_of_failed context hfailed
      rw [hrun]
      refine .abandoned rfl hfailed rfl rfl rfl ?_ rfl rfl
      simp [Progress.start, hresult, Verdict.pending]
  · have hidle : (Progress.start rule signal context claims outcome).result.fires = false := by
      simpa using hfires
    simp only [hfires]
    refine .idle hidle rfl rfl ?_ ?_ rfl
    · simp [Progress.start, hresult, Verdict.pending]
    · simp [Progress.start, hresult, Verdict.pending]

/-- What every passing action keeps of the context and the claims is kept by a rule none of whose actions
fails. -/
theorem judge_induction {P : Context → Option Claims → Prop}
    (hstep : ∀ a p v f p' v', Passes env rule.id a p v f p' v' →
      P p.context p.claims → P p'.context p'.claims)
    (h : ∀ f ∈ rule.fates env signal context claims w, f.isFailed = false) (hstart : P context claims) :
    P ((judge env rule signal context claims elapsed).run w).1.context
      ((judge env rule signal context claims elapsed).run w).1.claims := by
  rw [judge_run]
  rw [Rule.fates] at h
  by_cases hfires : (Progress.start rule signal context claims
      (rule.conditionOutcome env context w).1).result.fires = true
  · simp only [hfires, if_true] at h ⊢
    exact runActions_induction (P := fun p => P p.context p.claims) hstep h hstart
  · simp only [hfires]
    exact hstart

/-- How an action of a rule that is judged is found, in terms of the context, the claims and the world of
the judgement. -/
theorem Rule.reached_of_fate {i : Nat} {a : Action} {f : Fate} (ha : rule.actions[i]? = some a)
    (hf : (rule.fates env signal context claims w)[i]? = some f) :
    ∃ q v,
      (Action.runAll env (pick Fate.isDone (rule.actions.take i)
          ((rule.fates env signal context claims w).take i)) context).runIn
        (rule.conditionOutcome env context w).2 = (.ok q.context, v)
      ∧ q.claims = claims.map
          (·.claimAll rule.id (((rule.fates env signal context claims w).take i).flatMap Fate.written))
      ∧ ((∃ p' w', Passes env rule.id a q v f p' w')
          ∨ f.isFailed = true ∧ q.isSuppressed rule.id a = false) := by
  rw [Rule.fates] at hf ⊢
  by_cases hfires : (Progress.start rule signal context claims
      (rule.conditionOutcome env context w).1).result.fires = true
  · simp only [hfires, if_true] at hf ⊢
    exact Arbiter.reached_of_fate ha hf
  · simp [hfires] at hf

/-! ## The main statement -/

/-- A rule fires if it matches with a score above the least one. -/
theorem fires_eq_true_iff {r : Verdict} :
    r.fires = true ↔ r.matched = true ∧ r.score > firingScore := by
  simp [Verdict.fires]

/-- **A rule takes effect as a whole or not at all.**  If it does not match in the end, or its score is not
above the threshold, then the context, the claims, the executed actions and the events are those of a rule
that was never looked at, however far its actions had come.  Otherwise every action has a fate, the actions
executed and the ones suppressed are those with that fate, in their order; the context and the world are
what the executed actions alone make of the context at the start and of the world after the conditions; and
an action of neither kind was found not to be implemented in the context and the world it met, both of
which stayed as they were. -/
theorem judge_all_or_nothing (env : Env) (rule : Rule) (signal : Signal) (context : Context)
    (claims : Option Claims) (elapsed : Nat) (w : World)
    (hfree : ∀ cs, claims = some cs → ∀ c ∈ cs, c.2 ≠ rule.id) :
    let p := ((judge env rule signal context claims elapsed).run w).1
    let after := ((judge env rule signal context claims elapsed).run w).2
    (p.result.matched = false ∨ ¬ p.result.score > firingScore →
      p.context = context ∧ p.claims = claims ∧ p.result.executedActions = [] ∧ p.triggers = [])
    ∧ (p.result.matched = true → p.result.score > firingScore →
      ∃ fates : List Fate, fates.length = rule.actions.length
        ∧ p.result.executedActions = pick Fate.isDone rule.actions fates
        ∧ p.result.suppressedActions = pick Fate.isSuppressed rule.actions fates
        ∧ (Action.runAll env p.result.executedActions context).runIn
            (rule.conditionOutcome env context w).2 = (.ok p.context, after)
        ∧ ∀ i a f, rule.actions[i]? = some a → fates[i]? = some f →
            f.isDone = false → f.isSuppressed = false →
            ∃ c v m,
              (Action.runAll env (pick Fate.isDone (rule.actions.take i) (fates.take i)) context).runIn
                (rule.conditionOutcome env context w).2 = (.ok c, v)
              ∧ (a.run env c).runIn v = (.error (.notImplemented m), v)) := by
  intro p after
  have hend := judge_ending env rule signal context claims elapsed w
  have hfire : p.result.fires = true ↔ p.result.matched = true ∧ p.result.score > firingScore :=
    fires_eq_true_iff
  generalize hfs : rule.fates env signal context claims w = fs at hend
  refine ⟨fun hquiet => ?_, fun hmatched hscore => ?_⟩
  · cases hend with
    | idle _ hcontext hclaims hexecuted _ htriggers =>
      exact ⟨hcontext, hclaims, hexecuted, htriggers⟩
    | completed hfires =>
      obtain ⟨hmatched, hscore⟩ := hfire.1 hfires
      rcases hquiet with h | h
      · rw [hmatched] at h
        cases h
      · exact absurd hscore h
    | abandoned _ _ hcontext hclaims hexecuted _ htriggers _ =>
      have hrelease : claims.map (·.release rule.id) = claims := by
        cases claims with
        | none => rfl
        | some cs => exact congrArg some (Claims.release_eq_self (hfree cs rfl))
      exact ⟨hcontext, hclaims.trans hrelease, hexecuted, htriggers⟩
  · have hfires := hfire.2 ⟨hmatched, hscore⟩
    cases hend with
    | idle hidle =>
      rw [hidle] at hfires
      cases hfires
    | abandoned hunmatched =>
      rw [hunmatched] at hmatched
      cases hmatched
    | completed _ hkept hlength _ hexecuted hsuppressed _ hreplay =>
      refine ⟨fs, hlength, hexecuted, hsuppressed, ?_, ?_⟩
      · rw [hexecuted]
        exact hreplay
      · intro i a f ha hf hdone hsup
        subst hfs
        obtain ⟨q, v, hbefore, -, ⟨p', w', hpass⟩ | ⟨hfailed, -⟩⟩ := Rule.reached_of_fate ha hf
        · cases hpass with
          | suppressed _ => cases hsup
          | done _ _ => cases hdone
          | missing _ hrun => exact ⟨q.context, v, _, hbefore, hrun⟩
        · rw [hkept f (List.mem_of_getElem? hf)] at hfailed
          cases hfailed

/-- The outside of rules that stand alone: no language model, and no handlers but the ones always there. -/
def Env.alone : Env where
  capabilities := .alone
  handlers := .builtin
  budget := { perCall := 1000 }

/-- A rule whose actions meet all fates but the last when another rule has claimed the user. -/
def Rule.welcome : Rule where
  id := "welcome"
  actions := [.set "cart.total" (.int 5), .transform "cart" "rounded" none,
    .append "user.tags" (.str "new"), .trigger "mail" none]

/-- A rule that takes effect although one of its actions is suppressed. -/
theorem judge_all_or_nothing_welcome :
    let p := ((judge .alone .welcome {} [] (some [("user", "vip")])).run {}).1
    (∀ cs, some [("user", "vip")] = some cs → ∀ c ∈ cs, c.2 ≠ Rule.welcome.id)
    ∧ p.result.matched = true ∧ p.result.score > firingScore
    ∧ ∃ fates : List Fate, fates.length = 4
      ∧ p.result.executedActions = pick Fate.isDone Rule.welcome.actions fates
      ∧ p.result.suppressedActions = pick Fate.isSuppressed Rule.welcome.actions fates := by
  intro p
  have hfree : ∀ cs, some [("user", "vip")] = some cs → ∀ c ∈ cs, c.2 ≠ Rule.welcome.id := by
    rintro cs ⟨⟩
    decide
  have hmatched : p.result.matched = true := by decide +kernel
  have hscore : p.result.score > firingScore := by decide +kernel
  obtain ⟨fates, hlength, hexecuted, hsuppressed, -, -⟩ :=
    (judge_all_or_nothing .alone .welcome {} [] (some [("user", "vip")]) 0 {} hfree).2 hmatched hscore
  exact ⟨hfree, hmatched, hscore, fates, hlength, hexecuted, hsuppressed⟩

example : ((judge .alone .welcome {} [] (some [("user", "vip")])).run {}).1.result.suppressedActions
    = [.append "user.tags" (.str "new")] := by rfl

end Arbiter
