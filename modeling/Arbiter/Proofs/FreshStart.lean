import Arbiter.Proofs.Passes
/-!
# A load starts afresh

What an engine has learned, counted and predicted comes from the rules it has been through.  When a rule set
comes into force all of this is made anew, the workers are too, and what is left from before is not read when
questions are answered.

1. **Two runs** are compared: the same is asked of both (`Request`), while the clocks of the machine may show
   something else (`Clocks`).  So the answers can only be the same but for the current time, the measured
   times and the numbers of the passes (`Answer.Alike`).  A rule may be stamped with another time only if it
   was changed since, and then with what the clocks showed (`Rule.Alike`).
2. **The relation of states** (`Engine.Alike`): the same setup, the same rules but for such stamps, the same
   learned signal and the same workers.  The history, the timings, the clock and the subscribers are not in
   it.  From alike states every request is answered alike, and leaves alike states (`Engine.Alike.ask`).
3. **A load** makes any two engines of the same setup alike (`Engine.Peers.alike_activate`), and no operation
   changes the setup (`Engine.peers_after`).

The main statement is `a_load_forgets_the_past`.
-/

namespace Arbiter

/-! ## What is asked and answered -/

/-- What the clocks of the machine show while something is asked. -/
structure Clocks where
  /-- The current time. -/
  now : Timestamp
  /-- What is measured. -/
  stopwatch : Stopwatch

/-- Something that is asked of an engine. -/
inductive Request where
  /-- To load a set. -/
  | load (set : RuleSet)
  /-- To load a text. -/
  | loadText (text : String)
  /-- To load a file: its text, or why it cannot be read. -/
  | loadFile (file : Except String String)
  /-- To patch a rule. -/
  | update (id : String) (patch : Patch)
  /-- To evaluate the active rules, with a limit if one is given. -/
  | evaluate (context : Context) (timeout : Option Nat)
  /-- Which rules are likely to be used after given results. -/
  | predict (context : Context) (results : List Verdict)
  /-- For the rule of a name. -/
  | rule (id : String)
  /-- For the rules in the order of evaluation. -/
  | rules
  /-- For the active rule set. -/
  | snapshot

/-- What an engine answers. -/
inductive Answer where
  /-- How many rules were loaded. -/
  | loaded (count : Except Fault Nat)
  /-- A rule. -/
  | rule (rule : Except Fault Rule)
  /-- Some rules. -/
  | rules (rules : List Rule)
  /-- A rule set. -/
  | set (set : RuleSet)
  /-- What a pass came to. -/
  | pass (pass : Pass)
  /-- The names of rules. -/
  | names (ids : List String)

namespace Engine

/-- The answer to a request, and the engine after it. -/
def ask (e : Engine) (clocks : Clocks) : Request → Answer × Engine
  | .load set => (.loaded (e.load set).1, (e.load set).2)
  | .loadText text => (.loaded (e.loadText text).1, (e.loadText text).2)
  | .loadFile file => (.loaded (e.loadFile file).1, (e.loadFile file).2)
  | .update id patch =>
    (.rule (e.update id patch clocks.now).1, (e.update id patch clocks.now).2)
  | .evaluate context timeout =>
    let options := { timeout, stopwatch := clocks.stopwatch }
    (.pass (e.evaluate context options).1, (e.evaluate context options).2)
  | .predict context results => (.names ((e.predictions context results).map (·.ruleId)), e)
  | .rule id => (.rule (e.rule id), e)
  | .rules => (.rules e.rules, e)
  | .snapshot => (.set e.snapshot, e)

/-- The answers to a row of requests, and the engine after them. -/
def askAll (e : Engine) : List (Request × Clocks) → List Answer × Engine
  | [] => ([], e)
  | (request, clocks) :: rest =>
    let (answer, e) := e.ask clocks request
    let (answers, e) := askAll e rest
    (answer :: answers, e)

end Engine

/-! ## What is alike -/

section Stamps

-- what the clocks showed in one run while they showed something else in the other
variable (shown : Timestamp → Timestamp → Prop)

/-- Two rules are the same, but they may have been changed at different times shown. -/
structure Rule.Alike (r r' : Rule) : Prop where
  /-- All but when they were changed. -/
  rule : r'.unstamped = r.unstamped
  /-- When they were changed. -/
  stamp : r'.metadata.updatedAt = r.metadata.updatedAt ∨ ∃ now now', shown now now'
    ∧ r.metadata.updatedAt = some now ∧ r'.metadata.updatedAt = some now'

/-- Two rule sets are the same, but for when their rules were changed. -/
structure RuleSet.Alike (s s' : RuleSet) : Prop where
  /-- The rules, one by one. -/
  rules : List.Forall₂ (Rule.Alike shown) s.rules s'.rules
  /-- The data of every evaluation. -/
  globalContext : s'.globalContext = s.globalContext
  /-- The settings of scoring and learning. -/
  learning : s'.learning = s.learning
  /-- What happens when two rules write to the same place. -/
  conflictPolicy : s'.conflictPolicy = s.conflictPolicy

/-- A result apart from its measured time. -/
def Verdict.untimed (r : Verdict) : Verdict := { r with processingTime := 0 }

/-- Two passes came to the same, but for their numbers and the measured times.  Where these are the same too,
so is what is predicted. -/
structure Pass.Alike (p p' : Pass) : Prop where
  /-- The results. -/
  results : p'.results.map Verdict.untimed = p.results.map Verdict.untimed
  /-- The context in the end. -/
  context : p'.context = p.context
  /-- The predictions, which are made from the results. -/
  predictions : p'.results = p.results → p'.predictions = p.predictions

/-- Two answers are the same, but for the current time, the measured times and the numbers of passes. -/
inductive Answer.Alike : Answer → Answer → Prop
  /-- The same number of rules, or the same failure. -/
  | loaded {count count' : Except Fault Nat} (h : count' = count) : Alike (.loaded count) (.loaded count')
  /-- The same rule. -/
  | rule {r r' : Rule} (h : r.Alike shown r') : Alike (.rule (.ok r)) (.rule (.ok r'))
  /-- No rule, and the same failure. -/
  | noRule (e : Fault) : Alike (.rule (.error e)) (.rule (.error e))
  /-- The same rules. -/
  | rules {rs rs' : List Rule} (h : List.Forall₂ (Rule.Alike shown) rs rs') : Alike (.rules rs) (.rules rs')
  /-- The same rule set. -/
  | set {s s' : RuleSet} (h : s.Alike shown s') : Alike (.set s) (.set s')
  /-- The same pass. -/
  | pass {p p' : Pass} (h : p.Alike p') : Alike (.pass p) (.pass p')
  /-- The same names. -/
  | names {ids ids' : List String} (h : ids' = ids) : Alike (.names ids) (.names ids')

/-- Two engines were set up in the same way. -/
structure Engine.Peers (e e' : Engine) : Prop where
  /-- The settings. -/
  settings : e'.settings = e.settings
  /-- The outside capabilities. -/
  capabilities : e'.capabilities = e.capabilities
  /-- The handlers. -/
  handlers : e'.handlers = e.handlers
  /-- The workers of the machine. -/
  available : e'.available = e.available

/-- Two engines are in the same state, as far as anything is answered from it.  What the latest pass predicted
is the same too if the same times were measured. -/
structure Engine.Alike (timed : Prop) (e e' : Engine) : Prop extends e.Peers e' where
  /-- The rules, but for when they were changed. -/
  rules : e.snapshot.Alike shown e'.snapshot
  /-- The weights, the patterns and the counts of matches. -/
  learner : e'.learner = e.learner
  /-- The workers that score. -/
  crew : e'.crew = e.crew
  /-- What the latest pass predicted. -/
  prediction : timed → e'.latestPrediction = e.latestPrediction

end Stamps

/-! ## Stamps do not matter -/

variable {shown : Timestamp → Timestamp → Prop}

namespace Rule.Alike

variable {r r' : Rule}

theorem refl (r : Rule) : r.Alike shown r := ⟨rfl, .inl rfl⟩

variable (h : r.Alike shown r')
include h

theorem id_eq : r'.id = r.id := by
  have hid := congrArg Rule.id h.rule
  exact hid

theorem priority_eq : r'.priority = r.priority := by
  have hpriority := congrArg Rule.priority h.rule
  exact hpriority

/-- When a rule was changed does not matter for what is learned from it. -/
theorem trainOn_eq (m : Learner) : m.trainOn r' = m.trainOn r := by
  show m.trainOn r'.unstamped = m.trainOn r.unstamped
  rw [h.rule]

/-- Rules stay alike when both are changed. -/
theorem changed (patch : Patch) {now now' : Timestamp} (hshown : shown now now') :
    ((patch.apply r).stamped now).Alike shown ((patch.apply r').stamped now') := by
  refine ⟨?_, .inr ⟨now, now', hshown, rfl, rfl⟩⟩
  show patch.apply r'.unstamped = patch.apply r.unstamped
  rw [h.rule]

end Rule.Alike

section Rules

variable {rules rules' : List Rule} (h : List.Forall₂ (Rule.Alike shown) rules rules')
include h

/-- Apart from stamps, lists that are alike are the same. -/
theorem map_unstamped_of_alike : rules'.map Rule.unstamped = rules.map Rule.unstamped := by
  induction h with
  | nil => rfl
  | cons hr _ ih => rw [List.map_cons, List.map_cons, hr.rule, ih]

/-- They have the same names. -/
theorem map_id_of_alike : rules'.map (·.id) = rules.map (·.id) := by
  induction h with
  | nil => rfl
  | cons hr _ ih => rw [List.map_cons, List.map_cons, hr.id_eq, ih]

/-- They stay alike if a rule is replaced in both. -/
theorem replaceRule_alike (id : String) {new new' : Rule} (hnew : new.Alike shown new') :
    List.Forall₂ (Rule.Alike shown) (replaceRule id new rules) (replaceRule id new' rules') := by
  induction h with
  | nil => exact .nil
  | cons hr hrest ih =>
    rw [replaceRule, replaceRule, hr.id_eq]
    split
    · exact .cons hnew hrest
    · exact .cons hr ih

/-- A rule of a name is in neither of two lists, or in both, and is then the same. -/
theorem find?_alike (id : String) :
    (rules.find? (·.id == id) = none ∧ rules'.find? (·.id == id) = none)
    ∨ ∃ r r', rules.find? (·.id == id) = some r ∧ rules'.find? (·.id == id) = some r' ∧ r.Alike shown r' := by
  induction h with
  | nil => exact .inl ⟨rfl, rfl⟩
  | @cons r r' _ _ hr _ ih =>
    rw [List.find?_cons, List.find?_cons, hr.id_eq]
    split
    · exact .inr ⟨r, r', rfl, rfl, hr⟩
    · exact ih

/-- They stay alike if a rule goes to its place in both. -/
theorem insertBy_alike {new new' : Rule} (hnew : new.Alike shown new') :
    List.Forall₂ (Rule.Alike shown) (insertBy (fun a b => b.priority ≤ a.priority) new rules)
      (insertBy (fun a b => b.priority ≤ a.priority) new' rules') := by
  induction h with
  | nil => exact .cons hnew .nil
  | cons hr hrest ih =>
    rw [insertBy, insertBy, hr.priority_eq, hnew.priority_eq]
    split
    · exact .cons hnew (.cons hr hrest)
    · exact .cons hr ih

/-- The order of evaluation does not depend on when rules were changed. -/
theorem sorted_alike : List.Forall₂ (Rule.Alike shown)
    (sortBy (fun a b => b.priority ≤ a.priority) rules)
    (sortBy (fun a b => b.priority ≤ a.priority) rules') := by
  induction h with
  | nil => exact .nil
  | cons hr _ ih => exact insertBy_alike ih hr

end Rules

theorem RuleSet.Alike.refl (s : RuleSet) : s.Alike shown s :=
  ⟨List.forall₂_same.2 fun r _ => .refl r, rfl, rfl, rfl⟩

/-- Apart from stamps, rule sets that are alike are the same. -/
theorem RuleSet.Alike.unstamped_eq {s s' : RuleSet} (h : s.Alike shown s') : s'.unstamped = s.unstamped := by
  unfold RuleSet.unstamped
  rw [map_unstamped_of_alike h.rules, h.globalContext, h.learning, h.conflictPolicy]

namespace Engine

/-! ## The setup -/

theorem Peers.refl (e : Engine) : e.Peers e := ⟨rfl, rfl, rfl, rfl⟩

/-- No operation changes the setup that an engine started with. -/
theorem preserved_peers (start : Engine) : Preserved (fun _ => True) start.Peers where
  told := fun _ _ h => ⟨h.settings, h.capabilities, h.handlers, h.available⟩
  activated := fun _ _ h _ => ⟨h.settings, h.capabilities, h.handlers, h.available⟩
  patched := fun _ _ _ _ _ h _ _ => ⟨h.settings, h.capabilities, h.handlers, h.available⟩
  planned := fun _ _ _ _ => trivial
  passed := by
    intro e context options h
    obtain ⟨timings, events, world, hafter⟩ := e.exists_evaluate context options
    rw [hafter]
    exact ⟨h.settings, h.capabilities, h.handlers, h.available⟩

/-- Nothing that happens to an engine changes its setup. -/
theorem peers_after (start : Engine) (ops ops' : List Operation) :
    (start.after ops).Peers (start.after ops') := by
  have hpeers : ∀ ops, start.Peers (start.after ops) := fun ops =>
    (preserved_peers start).after (Peers.refl start) fun op _ => op.patches_true
  have h := hpeers ops
  have h' := hpeers ops'
  exact ⟨h'.settings.trans h.settings.symm, h'.capabilities.trans h.capabilities.symm,
    h'.handlers.trans h.handlers.symm, h'.available.trans h.available.symm⟩

variable {timed : Prop} {e e' : Engine}

/-- **A rule set that comes into force makes engines alike**, whatever they were before. -/
theorem Peers.alike_activate (h : e.Peers e') (book : Rulebook) :
    (e.activate book).Alike shown timed (e'.activate book) where
  toPeers := ⟨h.settings, h.capabilities, h.handlers, h.available⟩
  rules := .refl book.active
  learner := rfl
  crew := by
    show Crew.ofSize (e'.workersFor book.active) = Crew.ofSize (e.workersFor book.active)
    rw [workersFor, workersFor, h.settings, h.available]
  prediction := fun _ => rfl

/-- Subscribers do not matter. -/
theorem Alike.told (h : e.Alike shown timed e') (events events' : Bus Event) :
    Alike shown timed { e with events } { e' with events := events' } :=
  ⟨⟨h.settings, h.capabilities, h.handlers, h.available⟩, h.rules, h.learner, h.crew, h.prediction⟩

/-- A load succeeds in both of two engines of the same setup or in none.  If it succeeds they are alike. -/
theorem Peers.load (h : e.Peers e') (set : RuleSet) : (e'.load set).1 = (e.load set).1
    ∧ ∀ n, (e.load set).1 = .ok n → (e.load set).2.Alike shown timed (e'.load set).2 := by
  rw [load_eq, load_eq, h.handlers]
  split
  · exact ⟨rfl, fun _ _ => (h.alike_activate ⟨set⟩).told _ _⟩
  · exact ⟨rfl, nofun⟩

/-! ## What is asked of alike engines -/

namespace Alike

variable (h : e.Alike shown timed e')
include h

/-- A pass reads the same of alike engines, as it reads no stamps. -/
theorem toMatches : e.Matches e' where
  settings := h.settings
  capabilities := h.capabilities
  handlers := h.handlers
  rules := h.rules.unstamped_eq
  weights := congrArg Learner.weights h.learner
  bias := congrArg Learner.bias h.learner

/-- A set that is loaded into both. -/
theorem load (set : RuleSet) :
    (e'.load set).1 = (e.load set).1 ∧ (e.load set).2.Alike shown timed (e'.load set).2 := by
  obtain ⟨hanswer, hfresh⟩ := h.toPeers.load set
  refine ⟨hanswer, ?_⟩
  cases hload : (e.load set).1 with
  | ok n => exact hfresh n hload
  | error err =>
    rw [e.load_of_error hload, e'.load_of_error (hanswer.trans hload)]
    exact h.told _ _

/-- A text that is loaded into both: it is read as the same set, or as none. -/
theorem loadText (text : String) :
    (e'.loadText text).1 = (e.loadText text).1 ∧ (e.loadText text).2.Alike shown timed (e'.loadText text).2 := by
  rw [Engine.loadText, Engine.loadText]
  cases RuleSet.ofFile text with
  | ok set => exact h.load set
  | error err => exact ⟨rfl, h.told _ _⟩

theorem loadFile (file : Except String String) :
    (e'.loadFile file).1 = (e.loadFile file).1 ∧ (e.loadFile file).2.Alike shown timed (e'.loadFile file).2 := by
  cases file with
  | ok text => exact h.loadText text
  | error reason => exact ⟨rfl, h.told _ _⟩

/-- Rules that are alike take the place of others. -/
theorem patched (id : String) {rule rule' : Rule} (hrule : rule.Alike shown rule') :
    (e.patched id rule).Alike shown timed (e'.patched id rule') where
  toPeers := ⟨h.settings, h.capabilities, h.handlers, h.available⟩
  rules := ⟨replaceRule_alike h.rules.rules id hrule, h.rules.globalContext, h.rules.learning,
    h.rules.conflictPolicy⟩
  learner := by
    show e'.learner.trainOn rule' = e.learner.trainOn rule
    rw [h.learner, hrule.trainOn_eq]
  crew := h.crew
  prediction := h.prediction

/-- A name finds rules that are alike, or none in both. -/
theorem find?_cases (id : String) : (e.rulebook.find? id = none ∧ e'.rulebook.find? id = none)
    ∨ ∃ r r', e.rulebook.find? id = some r ∧ e'.rulebook.find? id = some r' ∧ r.Alike shown r' :=
  find?_alike h.rules.rules id

/-- The same name is suggested for one that nobody has. -/
theorem notFound_eq (id : String) : e'.rulebook.notFound id = e.rulebook.notFound id := by
  have hids : e'.rulebook.active.rules.map (·.id) = e.rulebook.active.rules.map (·.id) :=
    map_id_of_alike h.rules.rules
  rw [Rulebook.notFound, Rulebook.notFound, hids]

/-- An update in both, at moments that are shown alike. -/
theorem update (id : String) (patch : Patch) {now now' : Timestamp} (hshown : shown now now') :
    Answer.Alike shown (.rule (e.update id patch now).1) (.rule (e'.update id patch now').1)
    ∧ (e.update id patch now).2.Alike shown timed (e'.update id patch now').2 := by
  obtain ⟨hr, hr'⟩ | ⟨r, r', hr, hr', hsame⟩ := h.find?_cases id
  · rw [e.update_of_unknown patch now hr, e'.update_of_unknown patch now' hr', h.notFound_eq]
    exact ⟨.noRule _, h⟩
  · have hrule := hsame.changed patch hshown
    rw [e.update_of_known patch now hr, e'.update_of_known patch now' hr']
    exact ⟨.rule hrule, (h.patched id hrule).told _ _⟩

theorem rule (id : String) : Answer.Alike shown (.rule (e.rule id)) (.rule (e'.rule id)) := by
  rw [Engine.rule, Engine.rule, Rulebook.get, Rulebook.get]
  obtain ⟨hr, hr'⟩ | ⟨r, r', hr, hr', hsame⟩ := h.find?_cases id
  · rw [hr, hr', h.notFound_eq]
    exact .noRule _
  · rw [hr, hr']
    exact .rule hsame

/-- The rank that a prediction must reach is the same. -/
theorem leastRank : e'.rulebook.learningInForce.leastRank = e.rulebook.learningInForce.leastRank := by
  show (e'.snapshot.learning.getD {}).leastRank = (e.snapshot.learning.getD {}).leastRank
  rw [h.rules.learning]

section Pass

variable (context : Context) (timeout : Option Nat) (stopwatch stopwatch' : Stopwatch)

/-- The same matches are counted. -/
theorem learner_evaluate : (e'.evaluate context ⟨timeout, stopwatch'⟩).2.learner
    = (e.evaluate context ⟨timeout, stopwatch⟩).2.learner := by
  obtain ⟨_, _, _, hafter⟩ := e.exists_evaluate context ⟨timeout, stopwatch⟩
  obtain ⟨_, _, _, hafter'⟩ := e'.exists_evaluate context ⟨timeout, stopwatch'⟩
  rw [hafter, hafter']
  have hresults := h.toMatches.results_eq context ⟨timeout, stopwatch⟩ stopwatch'
  dsimp only at hresults ⊢
  rw [hresults, h.learner, List.filter_map, List.foldl_map]
  rfl

/-- **Alike engines make alike passes**, and are alike after them. -/
theorem evaluate (htimed : timed → stopwatch' = stopwatch) :
    (e.evaluate context ⟨timeout, stopwatch⟩).1.Alike (e'.evaluate context ⟨timeout, stopwatch'⟩).1
    ∧ (e.evaluate context ⟨timeout, stopwatch⟩).2.Alike shown timed
      (e'.evaluate context ⟨timeout, stopwatch'⟩).2 := by
  have hlearner := h.learner_evaluate context timeout stopwatch stopwatch'
  have hcontext : (e'.evaluate context ⟨timeout, stopwatch'⟩).1.context
      = (e.evaluate context ⟨timeout, stopwatch⟩).1.context :=
    h.toMatches.context_eq context ⟨timeout, stopwatch⟩ stopwatch'
  have hresults : (e'.evaluate context ⟨timeout, stopwatch'⟩).1.results
      = (e.evaluate context ⟨timeout, stopwatch⟩).1.results.map (Verdict.measured stopwatch') :=
    h.toMatches.results_eq context ⟨timeout, stopwatch⟩ stopwatch'
  have hpass : (e.evaluate context ⟨timeout, stopwatch⟩).1.Alike
      (e'.evaluate context ⟨timeout, stopwatch'⟩).1 := by
    refine ⟨?results, hcontext, fun hsame => ?predictions⟩
    case results =>
      rw [hresults, List.map_map]
      rfl
    case predictions =>
      rw [predictions_evaluate, predictions_evaluate, hlearner, hcontext, hsame, h.leastRank]
  have hprediction : timed → (e'.evaluate context ⟨timeout, stopwatch'⟩).1.predictions
      = (e.evaluate context ⟨timeout, stopwatch⟩).1.predictions := by
    intro ht
    obtain rfl := htimed ht
    -- a pass that is timed as it was comes to itself
    have hself := (Matches.refl e).results_eq context ⟨timeout, stopwatch'⟩ stopwatch'
    exact hpass.predictions (hresults.trans hself.symm)
  obtain ⟨_, _, _, hafter⟩ := e.exists_evaluate context ⟨timeout, stopwatch⟩
  obtain ⟨_, _, _, hafter'⟩ := e'.exists_evaluate context ⟨timeout, stopwatch'⟩
  refine ⟨hpass, ?_⟩
  rw [hafter, hafter'] at hlearner ⊢
  exact ⟨⟨h.settings, h.capabilities, h.handlers, h.available⟩, h.rules, hlearner, h.crew, hprediction⟩

end Pass

/-- **What is asked of alike engines is answered alike**, and leaves them alike. -/
theorem ask (request : Request) {clocks clocks' : Clocks} (hshown : shown clocks.now clocks'.now)
    (htimed : timed → clocks'.stopwatch = clocks.stopwatch) :
    Answer.Alike shown (e.ask clocks request).1 (e'.ask clocks' request).1
    ∧ (e.ask clocks request).2.Alike shown timed (e'.ask clocks' request).2 := by
  cases request with
  | load set =>
    obtain ⟨hanswer, hafter⟩ := h.load set
    exact ⟨.loaded hanswer, hafter⟩
  | loadText text =>
    obtain ⟨hanswer, hafter⟩ := h.loadText text
    exact ⟨.loaded hanswer, hafter⟩
  | loadFile file =>
    obtain ⟨hanswer, hafter⟩ := h.loadFile file
    exact ⟨.loaded hanswer, hafter⟩
  | update id patch => exact h.update id patch hshown
  | evaluate context timeout =>
    obtain ⟨hanswer, hafter⟩ := h.evaluate context timeout clocks.stopwatch clocks'.stopwatch htimed
    exact ⟨.pass hanswer, hafter⟩
  | predict context results =>
    have hpredictions : e'.predictions context results = e.predictions context results := by
      rw [Engine.predictions, Engine.predictions, h.learner, h.leastRank]
    exact ⟨.names (congrArg _ hpredictions), h⟩
  | rule id => exact ⟨h.rule id, h⟩
  | rules => exact ⟨.rules (sorted_alike h.rules.rules), h⟩
  | snapshot => exact ⟨.set h.rules, h⟩

/-- The same is true of a row of requests. -/
theorem askAll (rows : List (Request × Clocks × Clocks))
    (hshown : ∀ x ∈ rows, shown x.2.1.now x.2.2.now)
    (htimed : timed → ∀ x ∈ rows, x.2.2.stopwatch = x.2.1.stopwatch) :
    let run := e.askAll (rows.map fun x => (x.1, x.2.1))
    let run' := e'.askAll (rows.map fun x => (x.1, x.2.2))
    List.Forall₂ (Answer.Alike shown) run.1 run'.1 ∧ run.2.Alike shown timed run'.2 := by
  induction rows generalizing e e' with
  | nil => exact ⟨.nil, h⟩
  | cons x rest ih =>
    obtain ⟨hfirst, hrest⟩ := List.forall_mem_cons.1 hshown
    obtain ⟨hanswer, hafter⟩ := h.ask x.1 hfirst fun ht => (List.forall_mem_cons.1 (htimed ht)).1
    obtain ⟨hanswers, hend⟩ := ih hafter hrest fun ht => (List.forall_mem_cons.1 (htimed ht)).2
    exact ⟨.cons hanswer hanswers, hend⟩

end Alike

end Engine

/-! ## The main statement -/

/-- **A load that succeeds forgets the past.**  Two engines of the same setup have come through different
operations, and then the same rule set is loaded.  If that succeeds in one of them, it does in the other.
Whatever is asked of both from then on is answered alike: other sets that are loaded or refused, changes of
rules, passes, predictions, and what the rules are.  In the end they have the same rules, the same learned
signal with its patterns and counts, and the same workers; and if the same times were measured, the latest pass
predicted the same.  Only what was changed since may be stamped differently, with what the clocks showed. -/
theorem a_load_forgets_the_past (start : Engine) (ops ops' : List Operation) (set : RuleSet) (n : Nat)
    (hload : ((start.after ops).load set).1 = .ok n) (rows : List (Request × Clocks × Clocks)) :
    ((start.after ops').load set).1 = .ok n ∧
    let run := ((start.after ops).load set).2.askAll (rows.map fun x => (x.1, x.2.1))
    let run' := ((start.after ops').load set).2.askAll (rows.map fun x => (x.1, x.2.2))
    let shown (now now' : Timestamp) := ∃ x ∈ rows, x.2.1.now = now ∧ x.2.2.now = now'
    let timed := ∀ x ∈ rows, x.2.2.stopwatch = x.2.1.stopwatch
    List.Forall₂ (Answer.Alike shown) run.1 run'.1 ∧ run.2.Alike shown timed run'.2 := by
  obtain ⟨hanswer, hfresh⟩ := (start.peers_after ops ops').load set
  refine ⟨hanswer.trans hload, ?_⟩
  exact (hfresh n hload).askAll rows (fun x hx => ⟨x, hx, rfl, rfl⟩) id

/-- A new engine, and one that had other rules and made a pass, are given a rule; then a pass is made, the rule
is changed, and it is asked for. -/
theorem a_load_forgets_the_past_greet :
    let greet : RuleSet := { rules := [{ id := "greet" }] }
    let past : List Operation := [.load { rules := [{ id := "part", priority := 7 }] }, .evaluate [] {}]
    let early : Clocks := ⟨⟨0, 0, 0⟩, {}⟩
    let late : Clocks := ⟨⟨1, 0, 0⟩, { pass := 5 }⟩
    let rows := [(.evaluate [] none, early, late), (.update "greet" { priority := some 3 }, early, late),
      (.rule "greet", early, late)]
    let fresh := ((Engine.ofSettings {}).after []).load greet
    let used := ((Engine.ofSettings {}).after past).load greet
    fresh.1 = .ok 1 ∧ used.1 = .ok 1
    ∧ List.Forall₂ (Answer.Alike fun now now' => ∃ x ∈ rows, x.2.1.now = now ∧ x.2.2.now = now')
      (fresh.2.askAll (rows.map fun x => (x.1, x.2.1))).1
      (used.2.askAll (rows.map fun x => (x.1, x.2.2))).1 := by
  intro greet past early late rows fresh used
  have hload : fresh.1 = .ok 1 := by rfl
  obtain ⟨hused, hanswers, -⟩ := a_load_forgets_the_past (Engine.ofSettings {}) [] past greet 1 hload rows
  exact ⟨hload, hused, hanswers⟩

-- the history is kept, and an optimization follows it
example :
    let greet : RuleSet := { rules := [{ id := "greet" }] }
    let fresh := (Engine.ofSettings {}).after [.load greet]
    let used := (Engine.ofSettings {}).after [.load greet, .evaluate [] {}, .load greet]
    (fresh.optimize Timestamp.epoch).1.length = 0 ∧ (used.optimize Timestamp.epoch).1.length = 1 := by
  decide +kernel

end Arbiter
