import Arbiter.Engine.Pass
import Arbiter.Proofs.Refusals
/-!
# What happens to an engine

An engine goes from operation to operation (`Engine.perform`), and a state is reachable if some row of
operations leads to it from a new engine (`Engine.after`).  Seven operations come down to four changes:

1. the subscribers change, or are told of something;
2. a valid rule set is put into force (`Engine.activate`);
3. one rule is patched (`Engine.patched`), by an update or as the history suggests;
4. a pass is made (`Engine.evaluate`).

`Preserved` says that a property survives these, and `Preserved.after` takes it from there to every
reachable state, so that nobody has to look into the operations again.  The patches may be restricted to a
kind; that those the optimizer makes are of that kind is then a duty of the property itself, since they
are made from the history.
-/

namespace Arbiter

/-- Something that can be asked of an engine. -/
inductive Operation where
  /-- To add a subscriber. -/
  | subscribe
  /-- To load a rule set. -/
  | load (set : RuleSet)
  /-- To load a text. -/
  | loadText (text : String)
  /-- To load a file: its text, or why it cannot be read. -/
  | loadFile (file : Except String String)
  /-- To patch a rule. -/
  | update (id : String) (patch : Patch) (now : Timestamp)
  /-- To change all rules as their histories suggest. -/
  | optimize (stamps : Stamps)
  /-- To evaluate the active rules. -/
  | evaluate (context : Context) (options : PassOptions)

/-- If the operation is an update, its patch is of a given kind. -/
def Operation.Patches (ok : Patch → Prop) : Operation → Prop
  | .update _ patch _ => ok patch
  | _ => True

namespace Engine

/-- The engine after an operation, whether it failed or not. -/
def perform (e : Engine) : Operation → Engine
  | .subscribe => e.subscribe
  | .load set => (e.load set).2
  | .loadText text => (e.loadText text).2
  | .loadFile file => (e.loadFile file).2
  | .update id patch now => (e.update id patch now).2
  | .optimize stamps => (e.optimize stamps).2
  | .evaluate context options => (e.evaluate context options).2

/-- The engine after a row of operations. -/
def after (e : Engine) (ops : List Operation) : Engine := ops.foldl perform e

/-- The engine with a rule in the place of the one of a given name, trained on it. -/
def patched (e : Engine) (id : String) (rule : Rule) : Engine :=
  { e with
    rulebook := ⟨{ e.snapshot with rules := replaceRule id rule e.snapshot.rules }⟩
    learner := e.learner.trainOn rule }

/-- An update of an active rule patches it, stamps it, and tells of it. -/
theorem update_of_known (e : Engine) {id : String} {r : Rule} (patch : Patch) (now : Timestamp)
    (h : e.rulebook.find? id = some r) : e.update id patch now =
      (.ok ((patch.apply r).stamped now), (e.patched id ((patch.apply r).stamped now)).emit
        (.ruleUpdated id patch ((patch.apply r).stamped now))) := by
  rw [update, Rulebook.update, h]
  rfl

/-! ## What a pass changes -/

section Pass

variable (e : Engine) (context : Context) (options : PassOptions)

/-- A pass leaves the rules, the workers and the settings alone.  Its results go into the history and into
the counts of the learned signal, and its predictions are kept. -/
theorem exists_evaluate : ∃ timings events world, (e.evaluate context options).2 = { e with
    timings, events, world
    history := e.history.extend (e.evaluate context options).1.results
    learner := ((e.evaluate context options).1.results.filter (·.matched)).foldl
      (fun m r => m.countMatch r.ruleId) e.learner
    passes := e.passes + 1
    latestPrediction := (e.evaluate context options).1.predictions } := ⟨_, _, _, rfl⟩

/-- What is predicted is predicted after the counts went up. -/
theorem predictions_evaluate : (e.evaluate context options).1.predictions
    = predict (e.evaluate context options).2.learner (e.evaluate context options).1.context
        (e.evaluate context options).1.results e.rulebook.learningInForce.leastRank := rfl

end Pass

end Engine

/-! ## What is preserved -/

/-- A property that no operation takes from an engine, if all patches are of a given kind. -/
structure Preserved (ok : Patch → Prop) (P : Engine → Prop) : Prop where
  /-- Subscribers do not matter. -/
  told : ∀ e events, P e → P { e with events }
  /-- A valid rule set is put into force. -/
  activated : ∀ e set, P e → (Validation.ofRuleSet set (some e.handlers)).isValid = true →
    P (e.activate ⟨set⟩)
  /-- A rule is patched. -/
  patched : ∀ e id r patch now, P e → e.rulebook.find? id = some r → ok patch →
    P (e.patched id ((patch.apply r).stamped now))
  /-- What the history suggests is of the kind. -/
  planned : ∀ e, P e → ∀ s ∈ TrackRecord.ofHistory e.history.items, ok s.patch
  /-- A pass is made. -/
  passed : ∀ e context options, P e → P (e.evaluate context options).2

namespace Preserved

variable {ok : Patch → Prop} {P : Engine → Prop} {e : Engine} (h : Preserved ok P)
include h

/-- A load preserves the property: a valid set comes into force, any other is only reported. -/
theorem load (he : P e) (set : RuleSet) : P (e.load set).2 := by
  rw [e.load_eq]
  split
  · next hvalid => exact h.told _ _ (h.activated e set he hvalid)
  · exact h.told e _ he

theorem loadText (he : P e) (text : String) : P (e.loadText text).2 := by
  rw [Engine.loadText]
  cases RuleSet.ofFile text with
  | ok set => exact h.load he set
  | error err => exact h.told e _ he

/-- So does an update with a patch of the kind. -/
theorem update (he : P e) {patch : Patch} (hpatch : ok patch) (id : String) (now : Timestamp) :
    P (e.update id patch now).2 := by
  cases hfind : e.rulebook.find? id with
  | none =>
    rw [e.update_of_unknown patch now hfind]
    exact he
  | some r =>
    rw [e.update_of_known patch now hfind]
    exact h.told _ _ (h.patched e id r patch now he hfind hpatch)

/-- So does the tuning of a rule by a row whose patch is of the kind. -/
theorem optimizeRule (he : P e) {s : TrackRecord} (hs : ok s.patch) (now : Timestamp) :
    P (Engine.optimizeRule now e s).2 := by
  rw [Engine.optimizeRule]
  cases hfind : e.rulebook.find? s.ruleId with
  | none => exact he
  | some r =>
    have hupdate := h.update he hs s.ruleId now
    rw [e.update_of_known s.patch now hfind] at hupdate ⊢
    exact hupdate

theorem optimizeEach (he : P e) {rows : List TrackRecord} (hrows : ∀ s ∈ rows, ok s.patch)
    (stamps : Stamps) : P (Engine.optimizeEach stamps e rows).2 := by
  induction rows generalizing e with
  | nil => exact he
  | cons s rest ih =>
    obtain ⟨hs, hrest⟩ := List.forall_mem_cons.1 hrows
    exact ih (h.optimizeRule he hs _) hrest

theorem perform (he : P e) {op : Operation} (hop : op.Patches ok) : P (e.perform op) := by
  cases op with
  | subscribe => exact h.told e _ he
  | load set => exact h.load he set
  | loadText text => exact h.loadText he text
  | loadFile file =>
    cases file with
    | ok text => exact h.loadText he text
    | error reason => exact h.told e _ he
  | update id patch now => exact h.update he hop id now
  | optimize stamps => exact h.told _ _ (h.optimizeEach he (h.planned e he) stamps)
  | evaluate context options => exact h.passed e context options he

/-- **What no operation takes away is true of every state that is reached.** -/
theorem after (he : P e) {ops : List Operation} (hops : ∀ op ∈ ops, op.Patches ok) : P (e.after ops) := by
  induction ops generalizing e with
  | nil => exact he
  | cons op rest ih =>
    obtain ⟨hop, hrest⟩ := List.forall_mem_cons.1 hops
    exact ih (h.perform he hop) hrest

end Preserved

/-- An operation patches somehow. -/
theorem Operation.patches_true (op : Operation) : op.Patches fun _ => True := by
  cases op <;> trivial

end Arbiter
