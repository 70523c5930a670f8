import Arbiter.Proofs.Alignment
import Arbiter.Proofs.Operations
/-!
# The signal in step with the rules

Beside its rules an engine holds what grew out of them: the workers that score, the learned signal with
its patterns and its counts, and the latest prediction.  None of it is computed from the rules when it is
asked for; every operation has to bring it along.  A load makes it all anew, a patch trains the old signal
once more, a pass counts matches and replaces the prediction.  `Engine.InStep` says what holds in between.

1. **Tables.**  An entry under a new name goes to the end, one under an old name stays in its place
   (`Table.set_of_notMem`, `Table.set_map_replaceRule`).  So patterns come in the order of the rules, and
   keep it when a rule is patched.  Both need the names of the rules to be different: that is the part of
   the invariant which all others lean on, and which no one but the validation of a load looks after.
2. **Learning.**  Training moves weights and sets one pattern (`Learner.trainOn_eq`); counting touches
   neither.
3. **Operations.**  The three changes keep the invariant (`Engine.InStep.activate`, `.patched`, `.evaluate`).

The main statement is `signal_stays_in_step`.
-/

namespace Arbiter

/-! ## Tables -/

namespace Table

/-- A table with an entry for every rule follows when one of them is replaced. -/
theorem set_map_replaceRule (f : Rule → α) {rules : List Rule} {id : String} {new : Rule}
    (hnew : new.id = id) (hid : id ∈ rules.map (·.id)) :
    Table.set (rules.map fun r => (r.id, f r)) new.id (f new)
      = (replaceRule id new rules).map fun r => (r.id, f r) := by
  induction rules with
  | nil => cases hid
  | cons r rest ih =>
    rw [List.map_cons, set, replaceRule]
    by_cases hr : r.id = id
    · rw [if_pos (hr.trans hnew.symm), if_pos hr, List.map_cons, hr, hnew]
    · have hrest : id ∈ rest.map (·.id) := by
        rcases List.mem_cons.1 hid with rfl | hrest
        · exact absurd rfl hr
        · exact hrest
      rw [if_neg (by rwa [hnew]), if_neg hr, List.map_cons, ih hrest]

end Table

/-! ## Learning -/

namespace Learner

/-- Steps of training move the weights and nothing else. -/
theorem trainSteps_eq (pattern : List Float) (target : Float) (n : Nat) (m : Learner) :
    ∃ weights bias, trainSteps pattern target n m = { m with weights, bias } := by
  induction n generalizing m with
  | zero => exact ⟨m.weights, m.bias, rfl⟩
  | succ n ih =>
    obtain ⟨weights, bias, h⟩ := ih (m.trainStep pattern target)
    exact ⟨weights, bias, by rw [trainSteps, h]; rfl⟩

/-- Training on a rule moves the weights, and sets the pattern of that rule. -/
theorem train_eq {m : Learner} (hlearns : m.learns = true) (r : Rule) (target : Float) :
    ∃ weights bias, m.train r target =
      { m with weights, bias, patterns := m.patterns.set r.id (Signal.featuresOfRule r) } := by
  obtain ⟨weights, bias, h⟩ := trainSteps_eq (Signal.featuresOfRule r)
    (clampFloat 0.0 1.0 (target / 100.0)) m.trainingSteps m
  refine ⟨weights, bias, ?_⟩
  rw [train, if_pos hlearns]
  dsimp only
  rw [h]

/-- A learner that does not learn is not trained. -/
theorem train_of_idle {m : Learner} (hidle : m.learns = false) (r : Rule) (target : Float) :
    m.train r target = m := by
  rw [train, if_neg (by simp [hidle])]

/-- To train on a rule is to train towards its own priority. -/
theorem trainOn_eq {m : Learner} (hlearns : m.learns = true) (r : Rule) :
    ∃ weights bias, m.trainOn r =
      { m with weights, bias, patterns := m.patterns.set r.id (Signal.featuresOfRule r) } :=
  train_eq hlearns r _

theorem trainOn_of_idle {m : Learner} (hidle : m.learns = false) (r : Rule) : m.trainOn r = m :=
  train_of_idle hidle r _

/-- Trained on rules with new names, a learner that learns has their patterns, in order. -/
theorem foldl_trainOn_eq {m : Learner} (hlearns : m.learns = true) {rules : List Rule}
    (hids : (m.patterns.map (·.1) ++ rules.map (·.id)).Nodup) :
    ∃ weights bias, rules.foldl trainOn m =
      { m with weights, bias,
               patterns := m.patterns ++ rules.map fun r => (r.id, Signal.featuresOfRule r) } := by
  induction rules generalizing m with
  | nil => exact ⟨m.weights, m.bias, by simp⟩
  | cons r rest ih =>
    obtain ⟨weights, bias, hr⟩ := trainOn_eq hlearns r
    -- its name is new, so its pattern goes to the end
    have hnew : r.id ∉ m.patterns.map (·.1) := by
      intro hold
      exact (List.nodup_append.1 hids).2.2 r.id hold r.id List.mem_cons_self rfl
    rw [Table.set_of_notMem _ hnew] at hr
    obtain ⟨weights', bias', hrest⟩ := ih (m := m.trainOn r) (by rw [hr]; exact hlearns)
      (by rw [hr]; simpa using hids)
    refine ⟨weights', bias', ?_⟩
    rw [List.foldl_cons, hrest, hr]
    simp

theorem foldl_trainOn_of_idle {m : Learner} (hidle : m.learns = false) (rules : List Rule) :
    rules.foldl trainOn m = m := by
  induction rules with
  | nil => rfl
  | cons r rest ih => rw [List.foldl_cons, trainOn_of_idle hidle, ih]

/-- Counting matches changes nothing but the counts, and brings in no name but those counted. -/
theorem foldl_countMatch_eq (m : Learner) (results : List Verdict) :
    ∃ usage, results.foldl (fun m r => m.countMatch r.ruleId) m = { m with usage }
      ∧ ∀ x ∈ usage, x.1 ∈ m.usage.map (·.1) ∨ x.1 ∈ results.map (·.ruleId) := by
  induction results generalizing m with
  | nil => exact ⟨m.usage, rfl, fun x hx => Or.inl (List.mem_map_of_mem hx)⟩
  | cons r rest ih =>
    obtain ⟨usage, h, hnames⟩ := ih (m.countMatch r.ruleId)
    refine ⟨usage, by rw [List.foldl_cons, h]; rfl, fun x hx => ?_⟩
    rcases hnames x hx with hold | hnew
    · obtain ⟨y, hy, hyx⟩ := List.mem_map.1 hold
      rcases Table.mem_of_mem_set hy with rfl | hm
      · exact Or.inr (by rw [← hyx]; exact List.mem_cons_self)
      · exact Or.inl (by rw [← hyx]; exact List.mem_map_of_mem hm)
    · exact Or.inr (List.mem_cons_of_mem _ hnew)

/-- What the learned signal has to do with a rule set. -/
structure InStep (m : Learner) (set : RuleSet) : Prop where
  /-- It learns if the rule set says so. -/
  learns : m.learns = set.learningInForce.learns
  /-- It takes the steps the rule set says. -/
  trainingSteps : m.trainingSteps = set.learningInForce.trainingSteps
  /-- If it learns, it has the pattern of every rule, in order. -/
  patterns : set.learningInForce.learns = true →
    m.patterns = set.rules.map fun r => (r.id, Signal.featuresOfRule r)
  /-- If it does not, nothing was learned. -/
  untrained : set.learningInForce.learns = false →
    m.patterns = [] ∧ m.weights = (Learner.ofSettings set.learningInForce).weights
      ∧ m.bias = (Learner.ofSettings set.learningInForce).bias
  /-- Only matches of its rules are counted. -/
  usage : ∀ x ∈ m.usage, x.1 ∈ set.rules.map (·.id)

variable {m : Learner} {set : RuleSet}

/-- A learner that is made for a rule set is in step with it. -/
theorem inStep_ofRuleSet (hids : (set.rules.map (·.id)).Nodup) : (Learner.ofRuleSet set).InStep set := by
  rw [Learner.ofRuleSet]
  cases hlearns : set.learningInForce.learns with
  | true =>
    have hnew : ((Learner.ofSettings set.learningInForce).patterns.map (·.1)
        ++ set.rules.map (·.id)).Nodup := hids
    obtain ⟨weights, bias, h⟩ := foldl_trainOn_eq hlearns hnew
    rw [h]
    exact ⟨rfl, rfl, fun _ => rfl, fun hidle => by simp [hlearns] at hidle, by rintro x ⟨⟩⟩
  | false =>
    rw [foldl_trainOn_of_idle hlearns]
    exact ⟨rfl, rfl, fun h => by simp [hlearns] at h, fun _ => ⟨rfl, rfl, rfl⟩, by rintro x ⟨⟩⟩

/-- Training on a rule that takes the place of another of its name keeps step with the rules. -/
theorem InStep.trainOn (h : m.InStep set) {id : String} {new : Rule} (hnew : new.id = id)
    (hid : id ∈ set.rules.map (·.id)) :
    (m.trainOn new).InStep { set with rules := replaceRule id new set.rules } := by
  have hnames := map_id_replaceRule hnew set.rules
  cases hlearns : m.learns with
  | true =>
    obtain ⟨weights, bias, htrain⟩ := trainOn_eq hlearns new
    have hforce : set.learningInForce.learns = true := h.learns.symm.trans hlearns
    rw [htrain]
    refine ⟨h.learns, h.trainingSteps, fun _ => ?_, fun hidle => ?_, fun x hx => ?_⟩
    · rw [h.patterns hforce]
      exact Table.set_map_replaceRule Signal.featuresOfRule hnew hid
    · exact absurd (hforce.symm.trans hidle) (by simp)
    · rw [hnames]
      exact h.usage x hx
  | false =>
    have hforce : set.learningInForce.learns = false := h.learns.symm.trans hlearns
    rw [trainOn_of_idle hlearns]
    refine ⟨h.learns, h.trainingSteps, fun htrue => ?_, h.untrained, fun x hx => ?_⟩
    · exact absurd (hforce.symm.trans htrue) (by simp)
    · rw [hnames]
      exact h.usage x hx

/-- Counting matches of its rules keeps step with the rules. -/
theorem InStep.countMatches (h : m.InStep set) {results : List Verdict}
    (hresults : ∀ r ∈ results, r.ruleId ∈ set.rules.map (·.id)) :
    (results.foldl (fun m r => m.countMatch r.ruleId) m).InStep set := by
  obtain ⟨usage, hcount, hnames⟩ := foldl_countMatch_eq m results
  rw [hcount]
  refine ⟨h.learns, h.trainingSteps, h.patterns, h.untrained, fun x hx => ?_⟩
  rcases hnames x hx with hold | hnew
  · obtain ⟨y, hy, hyx⟩ := List.mem_map.1 hold
    rw [← hyx]
    exact h.usage y hy
  · obtain ⟨r, hr, hrx⟩ := List.mem_map.1 hnew
    rw [← hrx]
    exact hresults r hr

/-- The names of the patterns are names of rules. -/
theorem InStep.mem_patterns (h : m.InStep set) {x : String × List Float} (hx : x ∈ m.patterns) :
    x.1 ∈ set.rules.map (·.id) := by
  cases hlearns : set.learningInForce.learns with
  | true =>
    rw [h.patterns hlearns] at hx
    obtain ⟨r, hr, rfl⟩ := List.mem_map.1 hx
    exact List.mem_map_of_mem hr
  | false =>
    rw [(h.untrained hlearns).1] at hx
    cases hx

end Learner

/-- Only rules with a pattern are predicted. -/
theorem mem_patterns_of_mem_predict {m : Learner} {context : Context} {results : List Verdict}
    {threshold : Float} {p : Prediction} (h : p ∈ predict m context results threshold) :
    ∃ x ∈ m.patterns, x.1 = p.ruleId := by
  have hrated := List.mem_of_mem_filter (mem_sortBy.1 (List.mem_of_mem_take h))
  obtain ⟨x, hx, rfl⟩ := List.mem_map.1 hrated
  exact ⟨x, hx, rfl⟩

/-! ## Engines -/

namespace Engine

/-- What an engine holds beside its rules goes with them. -/
structure InStep (e : Engine) : Prop where
  /-- The names of the rules are different. -/
  distinct : (e.snapshot.rules.map (·.id)).Nodup
  /-- There are as many workers as the rules ask for. -/
  crew : e.crew = .ofSize (e.workersFor e.snapshot)
  /-- The learned signal goes with the rules. -/
  learner : e.learner.InStep e.snapshot
  /-- Only active rules are predicted. -/
  predicted : ∀ p ∈ e.latestPrediction, p.ruleId ∈ e.snapshot.rules.map (·.id)

/-- A new engine is in step, as it has no rules. -/
theorem inStep_ofSettings (settings : Settings) (capabilities : Capabilities) (handlers : Handlers)
    (available : Nat) : (ofSettings settings capabilities handlers available).InStep where
  distinct := List.nodup_nil
  crew := rfl
  learner := @Learner.inStep_ofRuleSet {} List.nodup_nil
  predicted := by rintro p ⟨⟩

variable {e : Engine}

/-- So is one whose rules have just come into force, whatever it was before. -/
theorem inStep_activate (e : Engine) {set : RuleSet} (hids : (set.rules.map (·.id)).Nodup) :
    (e.activate ⟨set⟩).InStep where
  distinct := hids
  crew := rfl
  learner := Learner.inStep_ofRuleSet hids
  predicted := by rintro p ⟨⟩

/-- A rule that is replaced under its name leaves the engine in step. -/
theorem InStep.patched (h : e.InStep) {id : String} {new : Rule} (hnew : new.id = id)
    (hid : id ∈ e.snapshot.rules.map (·.id)) : (e.patched id new).InStep := by
  have hnames := map_id_replaceRule hnew e.snapshot.rules
  refine ⟨?_, h.crew, h.learner.trainOn hnew hid, fun p hp => ?_⟩
  · exact hnames.symm ▸ h.distinct
  · exact hnames.symm ▸ h.predicted p hp

/-- The results of a pass name active rules. -/
theorem ruleId_mem_of_mem_results {context : Context} {options : PassOptions} {r : Verdict}
    (hr : r ∈ (e.evaluate context options).1.results) : r.ruleId ∈ e.snapshot.rules.map (·.id) := by
  obtain ⟨hlength, habout⟩ := List.forall₂_iff_get.1 (e.results_about context options)
  obtain ⟨⟨i, hi⟩, rfl⟩ := List.get_of_mem hr
  have hi' : i < e.rules.length := Nat.lt_of_lt_of_eq hi hlength
  rw [(habout i hi hi').ruleId]
  exact List.mem_map_of_mem (e.rulebook.ranking_sorted.perm.mem_iff.1 (List.get_mem _ _))

/-- A pass counts matches of active rules only, and predicts only what has a pattern. -/
theorem InStep.evaluate (h : e.InStep) (context : Context) (options : PassOptions) :
    (e.evaluate context options).2.InStep := by
  have hresults := @ruleId_mem_of_mem_results e context options
  have hpredicted := e.predictions_evaluate context options
  obtain ⟨timings, events, world, hafter⟩ := e.exists_evaluate context options
  rw [hafter] at hpredicted ⊢
  generalize (e.evaluate context options).1.results = results at hresults hpredicted ⊢
  have hlearner : ((results.filter (·.matched)).foldl (fun m r => m.countMatch r.ruleId)
      e.learner).InStep e.snapshot :=
    h.learner.countMatches fun r hr => hresults (List.mem_of_mem_filter hr)
  refine ⟨h.distinct, h.crew, hlearner, fun p hp => ?_⟩
  have hmem : p ∈ predict ((results.filter (·.matched)).foldl (fun m r => m.countMatch r.ruleId)
      e.learner) (e.evaluate context options).1.context results e.rulebook.learningInForce.leastRank :=
    hpredicted ▸ hp
  obtain ⟨x, hx, hxp⟩ := mem_patterns_of_mem_predict hmem
  rw [← hxp]
  exact hlearner.mem_patterns hx

/-- No operation takes an engine out of step, whatever the patches, and none changes its settings. -/
theorem preserved_inStep (settings : Settings) (available : Nat) : Preserved (fun _ => True)
    fun e => e.InStep ∧ e.settings = settings ∧ e.available = available where
  told := by
    rintro e events ⟨h, hsettings, havailable⟩
    exact ⟨⟨h.distinct, h.crew, h.learner, h.predicted⟩, hsettings, havailable⟩
  activated := by
    rintro e set ⟨-, hsettings, havailable⟩ hvalid
    have hids := (repeatedIds_eq_nil_iff.1 (Validation.repeatedIds_of_isValid hvalid)).1
    exact ⟨e.inStep_activate hids, hsettings, havailable⟩
  patched := by
    rintro e id r patch now ⟨h, hsettings, havailable⟩ hfind -
    obtain ⟨hr, hid⟩ := Rulebook.find?_eq_some hfind
    have hmem : id ∈ e.snapshot.rules.map (·.id) := List.mem_map.2 ⟨r, hr, hid⟩
    exact ⟨h.patched hid hmem, hsettings, havailable⟩
  planned := fun _ _ _ _ => trivial
  passed := by
    rintro e context options ⟨h, hsettings, havailable⟩
    have hin := h.evaluate context options
    obtain ⟨timings, events, world, hafter⟩ := e.exists_evaluate context options
    rw [hafter] at hin ⊢
    exact ⟨hin, hsettings, havailable⟩

/-- Whatever was asked of a new engine, it is in step, and has the settings it was made with. -/
theorem inStep_after (settings : Settings) (capabilities : Capabilities) (handlers : Handlers)
    (available : Nat) (ops : List Operation) :
    let e := (ofSettings settings capabilities handlers available).after ops
    e.InStep ∧ e.settings = settings ∧ e.available = available :=
  (preserved_inStep settings available).after
    ⟨inStep_ofSettings settings capabilities handlers available, rfl, rfl⟩ fun op _ => op.patches_true

end Engine

/-! ## The main statement -/

/-- **Workers, signal and prediction keep step with the active rules**, whatever was asked of the engine
and whether it failed or not.  There are as many workers as the learning settings in force say, or else
the settings of the engine, and at least one.  The signal learns, and in as many steps, as those settings
say.  If it learns, its patterns are those of the active rules as they are now, in the order of their
declaration; if not, it has none, and its weights are those of a new one.  Every name with a count, and
every name predicted, is that of an active rule. -/
theorem signal_stays_in_step (settings : Settings) (capabilities : Capabilities) (handlers : Handlers)
    (available : Nat) (ops : List Operation) :
    let e := (Engine.ofSettings settings capabilities handlers available).after ops
    let learning := e.snapshot.learningInForce
    e.workers = max (learning.workers.getD (settings.workersOn available)) 1
    ∧ (e.learner.learns = learning.learns ∧ e.learner.trainingSteps = learning.trainingSteps)
    ∧ (learning.learns = true →
      e.learner.patterns = e.snapshot.rules.map fun r => (r.id, Signal.featuresOfRule r))
    ∧ (learning.learns = false → e.learner.patterns = []
      ∧ e.learner.weights = List.replicate Signal.featureCount 0.0 ∧ e.learner.bias = 0.0)
    ∧ (∀ x ∈ e.learner.usage, ∃ r ∈ e.snapshot.rules, r.id = x.1)
    ∧ ∀ p ∈ e.latestPrediction, ∃ r ∈ e.snapshot.rules, r.id = p.ruleId := by
  intro e learning
  obtain ⟨h, hsettings, havailable⟩ := Engine.inStep_after settings capabilities handlers available ops
  refine ⟨?_, ⟨h.learner.learns, h.learner.trainingSteps⟩, h.learner.patterns, h.learner.untrained,
    fun x hx => List.mem_map.1 (h.learner.usage x hx), fun p hp => List.mem_map.1 (h.predicted p hp)⟩
  rw [Engine.workers, h.crew, Engine.workersFor, hsettings, havailable]
  rfl

end Arbiter
