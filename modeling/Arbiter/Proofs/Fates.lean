import Arbiter.Proofs.Running
import Arbiter.Proofs.Claims
import Arbiter.Verdict.Judge
/-!
# The fate of every action

When the actions of a rule are carried out, each one that is reached meets one of four fates: it is kept
from its target, it is done, it is passed over because what it asks for is missing, or it fails and the
rule with it.  `fates` writes them down in the order of the actions; actions behind a failure have none.

The fates say all there is to know about the run.  If none is a failure, the run ends in the context that
the actions done give when they are carried out alone (`runActions_of_completed`); if one is, the rule is
back where it began (`runActions_of_failed`).  What a rule does in a pass is read off these two laws.
-/

namespace Arbiter

/-- What becomes of an action that is reached. -/
inductive Fate where
  /-- It is kept from its target. -/
  | suppressed
  /-- It is carried out. -/
  | done (effect : Effect)
  /-- What it asks for is missing, and it is passed over. -/
  | missing
  /-- It fails, and the rule is abandoned. -/
  | failed (e : Fault)

namespace Fate

/-- Whether an action was kept from its target. -/
def isSuppressed : Fate → Bool
  | suppressed => true
  | _ => false

/-- Whether an action was carried out. -/
def isDone : Fate → Bool
  | done _ => true
  | _ => false

/-- Whether an action took its rule with it. -/
def isFailed : Fate → Bool
  | failed _ => true
  | _ => false

/-- Where an action wrote, if it did. -/
def written : Fate → List String
  | done (.wrote target) => [target]
  | _ => []

/-- The event an action raised, if it did. -/
def raised : Fate → List String
  | done (.triggered function) => [function]
  | _ => []

end Fate

/-- The actions whose fate is of one kind, in order. -/
def pick (keep : Fate → Bool) (actions : List Action) (fates : List Fate) : List Action :=
  ((actions.zip fates).filter fun x => keep x.2).map (·.1)

@[simp] theorem pick_nil (keep : Fate → Bool) (fates : List Fate) : pick keep [] fates = [] := rfl

@[simp] theorem pick_cons (keep : Fate → Bool) (a : Action) (actions : List Action) (f : Fate)
    (fates : List Fate) : pick keep (a :: actions) (f :: fates)
      = (if keep f then [a] else []) ++ pick keep actions fates := by
  cases h : keep f <;> simp [pick, h]

/-- The fates of the actions that are reached, one for each, when a rule stands at `p`. -/
def fates (env : Env) (ruleId : String) : List Action → Progress → World → List Fate
  | [], _, _ => []
  | a :: rest, p, w =>
    if p.isSuppressed ruleId a then .suppressed :: fates env ruleId rest (p.suppress a) w
    else match (a.run env p.context).runIn w with
      | (.ok (effect, c), w') =>
        .done effect :: fates env ruleId rest (p.execute ruleId a effect c) w'
      | (.error (.notImplemented m), w') =>
        .missing :: fates env ruleId rest (p.record (.notImplemented m)) w'
      | (.error e, _) => [.failed e]

/-- Carries out actions one after the other, and nothing else. -/
def Action.runAll (env : Env) : List Action → Context → Eval Context
  | [], c => return c
  | a :: rest, c => do
    let (_, c) ← a.run env c
    runAll env rest c

/-- Claims several targets, one after the other. -/
def Claims.claimAll (cs : Claims) (ruleId : String) (targets : List String) : Claims :=
  targets.foldl (fun cs target => cs.claim target ruleId) cs

/-- Claiming nothing changes nothing. -/
theorem Claims.map_claimAll_nil (cs : Option Claims) (ruleId : String) :
    cs.map (·.claimAll ruleId []) = cs := by
  cases cs <;> rfl

/-- What a rule has claimed does not matter once it is released. -/
theorem Claims.release_claimAll (cs : Claims) (ruleId : String) (targets : List String) :
    (cs.claimAll ruleId targets).release ruleId = cs.release ruleId := by
  induction targets generalizing cs with
  | nil => rfl
  | cons target rest ih =>
    show ((cs.claim target ruleId).claimAll ruleId rest).release ruleId = _
    rw [ih, release_claim]

theorem Claims.mem_claimAll {cs : Claims} {ruleId : String} {targets : List String}
    {c : String × String} :
    c ∈ cs.claimAll ruleId targets ↔ c ∈ cs ∨ (c.1 ∈ targets ∧ c.2 = ruleId) := by
  induction targets generalizing cs with
  | nil => simp [claimAll]
  | cons target rest ih =>
    show c ∈ (cs.claim target ruleId).claimAll ruleId rest ↔ _
    rw [ih, mem_claim, List.mem_cons, or_assoc]
    refine or_congr_right ?_
    constructor
    · rintro (rfl | ⟨hc, hid⟩)
      · exact ⟨Or.inl rfl, rfl⟩
      · exact ⟨Or.inr hc, hid⟩
    · rintro ⟨hc | hc, hid⟩
      · exact Or.inl (Prod.ext hc hid)
      · exact Or.inr ⟨hc, hid⟩

/-! ## One step of a run -/

/-- What an action that does not fail does to where its rule stands, and to the world. -/
inductive Passes (env : Env) (ruleId : String) (a : Action) (p : Progress) (w : World) :
    Fate → Progress → World → Prop where
  /-- It is kept from its target. -/
  | suppressed (h : p.isSuppressed ruleId a = true) :
      Passes env ruleId a p w .suppressed (p.suppress a) w
  /-- It is carried out. -/
  | done {effect : Effect} {c : Context} {w' : World} (h : p.isSuppressed ruleId a = false)
      (hrun : (a.run env p.context).runIn w = (.ok (effect, c), w')) :
      Passes env ruleId a p w (.done effect) (p.execute ruleId a effect c) w'
  /-- It is passed over. -/
  | missing {m : String} (h : p.isSuppressed ruleId a = false)
      (hrun : (a.run env p.context).runIn w = (.error (.notImplemented m), w)) :
      Passes env ruleId a p w .missing (p.record (.notImplemented m)) w

/-- An action that is not kept from its target runs, and the others follow unless it fails for good. -/
theorem runActions_cons {env : Env} {rule : Rule} {before : Context} {a : Action}
    {rest : List Action} {p : Progress} {w : World} (h : p.isSuppressed rule.id a = false) :
    (runActions env rule before (a :: rest) p).run w = match (a.run env p.context).runIn w with
      | (.ok (effect, c), v) => (runActions env rule before rest (p.execute rule.id a effect c)).run v
      | (.error (.notImplemented m), v) =>
        (runActions env rule before rest (p.record (.notImplemented m))).run v
      | (.error e, v) => (p.abandon rule before e, v) := by
  rw [runActions, if_neg (by simp [h]), World.run_bind]
  -- name the answer of the action, so that both sides can be split on it
  obtain ⟨⟨r, v⟩, hrun⟩ : ∃ x, (a.run env p.context).runIn w = x := ⟨_, rfl⟩
  rw [hrun, show (a.run env p.context).run.run w = (r, v) from hrun]
  cases r with
  | ok x => rfl
  | error e => cases e <;> rfl

/-- **All that can happen to the first action of a row**: it passes, and the rest goes on from there, or it
fails and ends the run. -/
theorem passes_or_fails (env : Env) (rule : Rule) (before : Context) (a : Action)
    (rest : List Action) (p : Progress) (w : World) :
    (∃ f p' w', Passes env rule.id a p w f p' w'
      ∧ fates env rule.id (a :: rest) p w = f :: fates env rule.id rest p' w'
      ∧ (runActions env rule before (a :: rest) p).run w
          = (runActions env rule before rest p').run w')
    ∨ ∃ e w', p.isSuppressed rule.id a = false ∧ fates env rule.id (a :: rest) p w = [.failed e]
      ∧ (runActions env rule before (a :: rest) p).run w = (p.abandon rule before e, w') := by
  by_cases h : p.isSuppressed rule.id a = true
  · left
    exact ⟨_, _, _, .suppressed h, by rw [fates, if_pos h], by rw [runActions, if_pos h]⟩
  · have h' : p.isSuppressed rule.id a = false := by simpa using h
    rw [runActions_cons h', fates, if_neg h]
    have hout := Action.run_outcome env a p.context w
    generalize hrun : (a.run env p.context).runIn w = r at hout
    cases hout with
    | wrote target v w' _ => exact Or.inl ⟨_, _, _, .done h' hrun, rfl, rfl⟩
    | raised function target _ => exact Or.inl ⟨_, _, _, .done h' hrun, rfl, rfl⟩
    | content => exact Or.inl ⟨_, _, _, .done h' hrun, rfl, rfl⟩
    | missing m => exact Or.inl ⟨_, _, _, .missing h' hrun, rfl, rfl⟩
    | failed e w' hfatal =>
      -- only here the run ends: what is missing was dealt with above
      right
      refine ⟨e, w', h', ?_⟩
      cases e with
      | notImplemented m => exact absurd rfl (hfatal m)
      | _ => exact ⟨rfl, rfl⟩

/-- A passing action shows in the claims, the result and the triggers as its fate says. -/
theorem Passes.progress {env : Env} {ruleId : String} {a : Action} {p p' : Progress} {w w' : World}
    {f : Fate} (h : Passes env ruleId a p w f p' w') :
    f.isFailed = false ∧ ∃ err, p' =
      { context := p'.context
        claims := p.claims.map (·.claimAll ruleId f.written)
        result :=
          { p.result with
            executedActions := p.result.executedActions ++ if f.isDone then [a] else []
            suppressedActions := p.result.suppressedActions ++ if f.isSuppressed then [a] else []
            error := err }
        triggers := p.triggers ++ f.raised } := by
  have keep := Claims.map_claimAll_nil p.claims ruleId
  cases h with
  | suppressed _ =>
    refine ⟨rfl, p.result.error, ?_⟩
    simp [Progress.suppress, Fate.written, Fate.raised, Fate.isDone, Fate.isSuppressed, keep]
  | @missing m _ _ =>
    refine ⟨rfl, (p.result.record (Fault.notImplemented m).failure).error, ?_⟩
    simp [Progress.record, Verdict.record, Fate.written, Fate.raised, Fate.isDone,
      Fate.isSuppressed, keep]
  | @done effect c w' _ _ =>
    refine ⟨rfl, p.result.error, ?_⟩
    cases effect with
    | wrote target =>
      simp [Progress.execute, Fate.written, Fate.raised, Fate.isDone, Fate.isSuppressed,
        Claims.claimAll]
    | _ =>
      simp [Progress.execute, Fate.written, Fate.raised, Fate.isDone, Fate.isSuppressed, keep]

/-- Carried out alone, the actions done lead on to where a passing action leads. -/
theorem Passes.runAll {env : Env} {ruleId : String} {a : Action} {p p' : Progress} {w w' : World}
    {f : Fate} (h : Passes env ruleId a p w f p' w') (later : List Action) :
    (Action.runAll env ((if f.isDone then [a] else []) ++ later) p.context).runIn w
      = (Action.runAll env later p'.context).runIn w' := by
  cases h with
  | suppressed _ => rfl
  | missing _ _ => rfl
  | @done effect c _ _ hrun =>
    show ((a.run env p.context) >>= fun x => Action.runAll env later x.2).runIn w = _
    rw [Eval.runIn_bind_ok hrun]
    rfl

/-- A passing action leaves the context and the claims alone, or it was free to write at its target and
claimed it. -/
theorem Passes.context_claims {env : Env} {ruleId : String} {a : Action} {p p' : Progress}
    {w w' : World} {f : Fate} (h : Passes env ruleId a p w f p' w') :
    (p'.context = p.context ∧ p'.claims = p.claims)
      ∨ ∃ target v, a.target? = some target ∧ p.isSuppressed ruleId a = false
        ∧ p'.context = Context.write p.context target v
        ∧ p'.claims = p.claims.map (·.claim target ruleId) := by
  cases h with
  | suppressed _ => exact Or.inl ⟨rfl, rfl⟩
  | missing _ _ => exact Or.inl ⟨rfl, rfl⟩
  | done hsup hrun =>
    have hout := Action.run_outcome env a p.context w
    rw [hrun] at hout
    cases hout with
    | wrote target v _ htarget => exact Or.inr ⟨target, v, htarget, hsup, rfl, rfl⟩
    | raised _ _ _ => exact Or.inl ⟨rfl, rfl⟩
    | content => exact Or.inl ⟨rfl, rfl⟩

/-- An action is suppressed exactly where it is kept from its target. -/
theorem Passes.isSuppressed_iff {env : Env} {ruleId : String} {a : Action} {p p' : Progress}
    {w w' : World} {f : Fate} (h : Passes env ruleId a p w f p' w') :
    f.isSuppressed = true ↔ p.isSuppressed ruleId a = true := by
  cases h with
  | suppressed hsup => simp [Fate.isSuppressed, hsup]
  | missing hsup _ => simp [Fate.isSuppressed, hsup]
  | done hsup _ => simp [Fate.isSuppressed, hsup]

/-! ## The two laws of a run -/

/-- **A run that completes** leaves the context that the actions done give when they are carried out
alone, in the same world, and the world that they leave. -/
theorem runActions_of_completed {env : Env} {rule : Rule} (before : Context) {actions : List Action}
    {p : Progress} {w : World}
    (h : ∀ f ∈ fates env rule.id actions p w, f.isFailed = false) :
    ∃ c w' err, (runActions env rule before actions p).run w =
        ({ context := c
           claims := p.claims.map
             (·.claimAll rule.id ((fates env rule.id actions p w).flatMap Fate.written))
           result :=
             { p.result with
               executedActions := p.result.executedActions
                 ++ pick Fate.isDone actions (fates env rule.id actions p w)
               suppressedActions := p.result.suppressedActions
                 ++ pick Fate.isSuppressed actions (fates env rule.id actions p w)
               error := err }
           triggers := p.triggers ++ (fates env rule.id actions p w).flatMap Fate.raised }, w')
      ∧ (Action.runAll env (pick Fate.isDone actions (fates env rule.id actions p w)) p.context).runIn w
          = (.ok c, w') := by
  induction actions generalizing p w with
  | nil =>
    refine ⟨p.context, w, p.result.error, ?_, rfl⟩
    simp only [fates, pick_nil, List.flatMap_nil, List.append_nil, Claims.map_claimAll_nil]
    rfl
  | cons a rest ih =>
    obtain ⟨f, p', w', hpass, hfates, hrun⟩ | ⟨e, w', -, hfates, hrun⟩ :=
      passes_or_fails env rule before a rest p w
    · rw [hfates] at h ⊢
      obtain ⟨c, w'', err, hrest, hreplay⟩ := ih (fun g hg => h g (List.mem_cons_of_mem f hg))
      obtain ⟨-, err', hp'⟩ := hpass.progress
      refine ⟨c, w'', err, ?_, ?_⟩
      · rw [hrun, hrest, hp']
        simp [Claims.claimAll, Option.map_map, Function.comp_def]
      · rw [pick_cons, hpass.runAll, hreplay]
    · exact absurd (h (.failed e) (by simp [hfates])) (by simp [Fate.isFailed])

/-- **A run that fails** leaves nothing behind but the record of its failure, and of what was kept from
its target before: the context is the one to go back to, and the claims of the rule are released. -/
theorem runActions_of_failed {env : Env} {rule : Rule} (before : Context) {actions : List Action}
    {p : Progress} {w : World} (h : ∃ f ∈ fates env rule.id actions p w, f.isFailed = true) :
    ∃ w' err, (runActions env rule before actions p).run w =
      ({ context := before
         claims := p.claims.map (·.release rule.id)
         result :=
           { p.result with
             matched := false
             score := blend false p.result.confidence rule.signalWeight
             executedActions := []
             suppressedActions := p.result.suppressedActions
               ++ pick Fate.isSuppressed actions (fates env rule.id actions p w)
             error := some err }
         triggers := [] }, w') := by
  induction actions generalizing p w with
  | nil => simp [fates] at h
  | cons a rest ih =>
    obtain ⟨f, p', w', hpass, hfates, hrun⟩ | ⟨e, w', -, hfates, hrun⟩ :=
      passes_or_fails env rule before a rest p w
    · -- the failure is further on; what was claimed up to it is released there
      obtain ⟨hf, err', hp'⟩ := hpass.progress
      have hrest : ∃ g ∈ fates env rule.id rest p' w', g.isFailed = true := by
        obtain ⟨g, hg, hgf⟩ := h
        rw [hfates] at hg
        rcases List.mem_cons.1 hg with rfl | hg
        · rw [hf] at hgf
          cases hgf
        · exact ⟨g, hg, hgf⟩
      obtain ⟨w'', err, hlater⟩ := ih hrest
      refine ⟨w'', err, ?_⟩
      rw [hrun, hlater, hfates, hp']
      simp [Claims.release_claimAll, Option.map_map, Function.comp_def]
    · refine ⟨w', (p.result.error.getD e.failure), ?_⟩
      rw [hrun, hfates]
      cases herr : p.result.error <;>
        simp [Progress.abandon, Verdict.record, pick, Fate.isSuppressed, herr]

/-- What every passing action keeps is kept by a run that completes. -/
theorem runActions_induction {env : Env} {rule : Rule} {before : Context} {actions : List Action}
    {P : Progress → Prop}
    (hstep : ∀ a p w f p' w', Passes env rule.id a p w f p' w' → P p → P p')
    {p : Progress} {w : World} (h : ∀ f ∈ fates env rule.id actions p w, f.isFailed = false)
    (hp : P p) : P ((runActions env rule before actions p).run w).1 := by
  induction actions generalizing p w with
  | nil => exact hp
  | cons a rest ih =>
    obtain ⟨f, p', w', hpass, hfates, hrun⟩ | ⟨e, w', -, hfates, hrun⟩ :=
      passes_or_fails env rule before a rest p w
    · rw [hfates] at h
      rw [hrun]
      exact ih (fun g hg => h g (List.mem_cons_of_mem f hg)) (hstep a p w f p' w' hpass hp)
    · exact absurd (h (.failed e) (by simp [hfates])) (by simp [Fate.isFailed])

/-- In a run that completes every action meets its fate. -/
theorem length_fates_of_completed {env : Env} {rule : Rule} {actions : List Action} {p : Progress}
    {w : World} (h : ∀ f ∈ fates env rule.id actions p w, f.isFailed = false) :
    (fates env rule.id actions p w).length = actions.length := by
  induction actions generalizing p w with
  | nil => rfl
  | cons a rest ih =>
    obtain ⟨f, p', w', -, hfates, -⟩ | ⟨e, w', -, hfates, -⟩ :=
      passes_or_fails env rule [] a rest p w
    · rw [hfates] at h ⊢
      rw [List.length_cons, ih fun g hg => h g (List.mem_cons_of_mem f hg), List.length_cons]
    · exact absurd (h (.failed e) (by simp [hfates])) (by simp [Fate.isFailed])

/-- **How an action is found.**  When an action is reached, the context and the world are those that the
actions done before it give when they are carried out alone, and the claims are those at the start with
the targets written since. -/
theorem reached_of_fate {env : Env} {rule : Rule} {actions : List Action} {p : Progress} {w : World}
    {i : Nat} {a : Action} {f : Fate} (ha : actions[i]? = some a)
    (hf : (fates env rule.id actions p w)[i]? = some f) :
    ∃ q v,
      (Action.runAll env (pick Fate.isDone (actions.take i)
          ((fates env rule.id actions p w).take i)) p.context).runIn w = (.ok q.context, v)
      ∧ q.claims = p.claims.map
          (·.claimAll rule.id (((fates env rule.id actions p w).take i).flatMap Fate.written))
      ∧ ((∃ p' w', Passes env rule.id a q v f p' w')
          ∨ f.isFailed = true ∧ q.isSuppressed rule.id a = false) := by
  induction actions generalizing i p w with
  | nil => simp at ha
  | cons b rest ih =>
    have keep := Claims.map_claimAll_nil p.claims rule.id
    obtain ⟨g, p', w', hpass, hfates, -⟩ | ⟨e, w', hsup, hfates, -⟩ :=
      passes_or_fails env rule [] b rest p w
    · rw [hfates] at hf ⊢
      cases i with
      | zero =>
        obtain rfl : b = a := by simpa using ha
        obtain rfl : g = f := by simpa using hf
        exact ⟨p, w, rfl, keep.symm, Or.inl ⟨p', w', hpass⟩⟩
      | succ i =>
        obtain ⟨q, v, hreplay, hclaims, hq⟩ := ih (by simpa using ha) (by simpa using hf)
        refine ⟨q, v, ?_, ?_, hq⟩
        · rw [List.take_succ_cons, List.take_succ_cons, pick_cons, hpass.runAll, hreplay]
        · obtain ⟨-, err, hp'⟩ := hpass.progress
          rw [hclaims, hp']
          simp [Claims.claimAll, Option.map_map, Function.comp_def]
    · rw [hfates] at hf ⊢
      cases i with
      | zero =>
        obtain rfl : b = a := by simpa using ha
        obtain rfl : .failed e = f := by simpa using hf
        exact ⟨p, w, rfl, keep.symm, Or.inr ⟨rfl, hsup⟩⟩
      | succ i => simp at hf

end Arbiter
