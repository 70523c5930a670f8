import Arbiter.Proofs.Editions
import Arbiter.Proofs.Passes
import Arbiter.Proofs.TrackRecords
/-!
# Optimizing again

An optimization goes through the rows of the history.  Every row looks its rule up in what the rows before it
left, patches it, trains the signal on it and tells the subscribers; a row whose rule is gone is skipped.  What
comes of all this can be said rule by rule: a rule that occurs in the history is as its own results suggest, and
any other is as it was (`Rule.optimized`).

1. **One row** (`Engine.optimizeRule_of_known`) amends its rule and no other.
2. **All rows** (`Engine.optimizeEach_eq`), by induction from the last one.  The rows are about different rules,
   so the ones before have left the rule of the next as it was: it is found, or missed, as at the start.
3. **Once more** (`Rule.optimized_optimized`).  What the history suggests for a rule depends on its name and on
   the history, and an optimization changes neither.

The main statement is `optimizing_again_changes_nothing`.
-/

namespace Arbiter

/-! ## What is planned for a rule -/

section

variable (history : List Verdict) (stamps : Stamps)

/-- A rule as its results in a history suggest it. -/
def Rule.planned (r : Rule) : Rule :=
  { r with
    priority := (TrackRecord.about history r.id).plannedPriority
    metadata := { r.metadata with
      signalWeight := some (TrackRecord.about history r.id).plannedWeight
      updatedAt := some (stamps r.id) } }

/-- A rule after an optimization: as its results suggest it, if it has any. -/
def Rule.optimized (r : Rule) : Rule :=
  if r.id ∈ history.map (·.ruleId) then r.planned history stamps else r

/-- What is reported of a rule. -/
def Adjustment.planned (r : Rule) : Adjustment where
  ruleId := r.id
  oldPriority := r.priority
  newPriority := (TrackRecord.about history r.id).plannedPriority
  signalWeight := (TrackRecord.about history r.id).plannedWeight
  stats := TrackRecord.about history r.id

/-- What subscribers are told of a rule. -/
def Event.planned (r : Rule) : Event :=
  .ruleUpdated r.id (TrackRecord.about history r.id).patch (r.planned history stamps)

/-- What is asked of the rulebook for a rule. -/
def Change.planned (id : String) : Change := .update id (TrackRecord.about history id).patch (stamps id)

/-- The rules that occur in a history and are active, in the order of first occurrence. -/
def Rulebook.occurring (book : Rulebook) : List Rule := (TrackRecord.names history).filterMap book.find?

end

section

variable {history : List Verdict} {stamps stamps' : Stamps} {r : Rule}

/-- What comes of a rule is what its plan makes of it. -/
theorem Rule.planned_eq :
    r.planned history stamps = r.amended [((TrackRecord.about history r.id).patch, stamps r.id)] := rfl

/-- A rule keeps its name. -/
@[simp] theorem Rule.id_optimized : (r.optimized history stamps).id = r.id := by
  rw [optimized]
  split <;> rfl

/-- A rule that occurs in the history gets what is planned for it. -/
theorem Rule.optimized_of_mem (h : r.id ∈ history.map (·.ruleId)) :
    r.optimized history stamps = r.planned history stamps := if_pos h

/-- **Optimized again**, a rule is as if it were optimized then. -/
theorem Rule.optimized_optimized :
    (r.optimized history stamps).optimized history stamps' = r.optimized history stamps' := by
  by_cases h : r.id ∈ history.map (·.ruleId)
  · rw [optimized_of_mem h, optimized_of_mem h]
    exact optimized_of_mem h
  · rw [optimized, id_optimized, if_neg h, optimized, if_neg h, optimized, if_neg h]

/-- Apart from its stamp, an optimized rule does not show when that was. -/
theorem Rule.unstamped_optimized :
    (r.optimized history stamps').unstamped = (r.optimized history stamps).unstamped := by
  by_cases h : r.id ∈ history.map (·.ruleId)
  · rw [optimized_of_mem h, optimized_of_mem h]
    rfl
  · rw [optimized, if_neg h, optimized, if_neg h]

/-- Nor do the rules of a set show it. -/
theorem RuleSet.unstamped_optimized (set : RuleSet) (history : List Verdict) (stamps stamps' : Stamps) :
    RuleSet.unstamped { set with rules := set.rules.map (Rule.optimized history stamps) }
      = RuleSet.unstamped { set with rules := set.rules.map (Rule.optimized history stamps') } := by
  have hrule : ∀ r : Rule, (r.optimized history stamps).unstamped = (r.optimized history stamps').unstamped :=
    fun _ => Rule.unstamped_optimized
  simp only [unstamped, List.map_map, Function.comp_def, hrule]

/-- Of rules that are named once, each is asked for once. -/
theorem amendments_planned {names : List String} (hnames : names.Nodup) (id : String) :
    amendments id (names.map (Change.planned history stamps))
      = if id ∈ names then [((TrackRecord.about history id).patch, stamps id)] else [] := by
  induction names with
  | nil => rfl
  | cons name rest ih =>
    obtain ⟨hname, hrest⟩ := List.nodup_cons.1 hnames
    have hone : (Change.planned history stamps name).amendment? id
        = if name = id then some ((TrackRecord.about history name).patch, stamps name) else none := rfl
    rw [amendments, List.map_cons, List.filterMap_cons, hone, ← amendments, ih hrest]
    by_cases hid : name = id
    · subst hid
      simp [hname]
    · simp [hid, Ne.symm hid]

/-- If all that occurs is asked for, every rule of a set is optimized. -/
theorem RuleSet.amended_planned (set : RuleSet) :
    set.amended ((TrackRecord.names history).map (Change.planned history stamps))
    = { set with rules := set.rules.map (Rule.optimized history stamps) } := by
  have hrule : ∀ r : Rule,
      r.amended (amendments r.id ((TrackRecord.names history).map (Change.planned history stamps)))
      = r.optimized history stamps := by
    intro r
    have hmem : r.id ∈ TrackRecord.names history ↔ r.id ∈ history.map (·.ruleId) := List.mem_eraseDups
    rw [amendments_planned (TrackRecord.nodup_names history), Rule.optimized]
    simp only [hmem]
    split
    · exact Rule.planned_eq.symm
    · rfl
  simp only [amended, hrule]

end

/-! ## Rows -/

namespace Engine

variable {e : Engine} {history : List Verdict} {stamps : Stamps}

/-- The engine after the rules of some names were changed as a history suggests, one after the other. -/
def revised (e : Engine) (history : List Verdict) (stamps : Stamps) (names : List String) : Engine :=
  let rules := names.filterMap e.rulebook.find?
  { e with
    rulebook := ⟨e.snapshot.amended (names.map (Change.planned history stamps))⟩
    learner := (rules.map (Rule.planned history stamps)).foldl Learner.trainOn e.learner
    events := e.events.emitAll (rules.map (Event.planned history stamps)) }

/-- A row about a rule that is no longer active does nothing. -/
theorem optimizeRule_of_unknown (now : Timestamp) {s : TrackRecord} (h : e.rulebook.find? s.ruleId = none) :
    optimizeRule now e s = (none, e) := by
  rw [optimizeRule, h]

/-- **A row amends its rule**, and the signal and the subscribers have to do with that rule only. -/
theorem optimizeRule_of_known (hdistinct : e.snapshot.Distinct) {r : Rule} (history : List Verdict)
    (stamps : Stamps) (h : e.rulebook.find? r.id = some r) :
    optimizeRule (stamps r.id) e (TrackRecord.about history r.id) = (some (.planned history r),
      { e with
        rulebook := ⟨e.snapshot.amended [.planned history stamps r.id]⟩
        learner := e.learner.trainOn (r.planned history stamps)
        events := e.events.emit (.planned history stamps r) }) := by
  have hupdate := Rulebook.update_eq hdistinct (TrackRecord.about history r.id).patch (stamps r.id) h
  rw [optimizeRule, TrackRecord.ruleId_about, h, update, hupdate]
  rfl

theorem optimizeEach_concat (e : Engine) (stamps : Stamps) (rows : List TrackRecord) (s : TrackRecord) :
    optimizeEach stamps e (rows ++ [s]) =
      let before := optimizeEach stamps e rows
      let last := optimizeRule (stamps s.ruleId) before.2 s
      (before.1 ++ last.1.toList, last.2) := by
  induction rows generalizing e with
  | nil => simp [optimizeEach]
  | cons row rest ih => simp only [List.cons_append, optimizeEach, ih, List.append_assoc]

section

variable {names : List String} {id : String}

/-- Changes under other names leave what is found under a name alone. -/
theorem find?_revised (hnames : names.Nodup) (hid : id ∉ names) :
    (e.revised history stamps names).rulebook.find? id = e.rulebook.find? id := by
  show Rulebook.find? ⟨e.snapshot.amended _⟩ id = _
  rw [Rulebook.find?_amended, amendments_planned hnames, if_neg hid]
  simp only [Rule.amended_nil, Option.map_id_fun']
  rfl

/-- Names stay distinct. -/
theorem distinct_revised (hdistinct : e.snapshot.Distinct) :
    (e.revised history stamps names).snapshot.Distinct := by
  show (e.snapshot.amended _).Distinct
  rw [RuleSet.Distinct, RuleSet.map_id_amended]
  exact hdistinct

theorem revised_nil (e : Engine) (history : List Verdict) (stamps : Stamps) : e.revised history stamps [] = e :=
  congrArg (fun set => { e with rulebook := ⟨set⟩ }) e.snapshot.amended_nil

/-- A name that nobody has changes nothing. -/
theorem revised_concat_of_unknown (h : e.rulebook.find? id = none) :
    e.revised history stamps (names ++ [id]) = e.revised history stamps names := by
  have hfind : Rulebook.find? ⟨e.snapshot.amended (names.map (Change.planned history stamps))⟩ id = none := by
    rw [Rulebook.find?_amended]
    show (e.rulebook.find? id).map _ = none
    rw [h, Option.map_none]
  have hset := Rulebook.amended_of_unknown (TrackRecord.about history id).patch (stamps id) hfind
  have hrules : (names ++ [id]).filterMap e.rulebook.find? = names.filterMap e.rulebook.find? := by
    rw [List.filterMap_append, List.filterMap_cons_none h, List.filterMap_nil, List.append_nil]
  rw [revised, revised, hrules, List.map_append, List.map_singleton, RuleSet.amended_concat]
  exact congrArg (fun set => { e.revised history stamps names with rulebook := ⟨set⟩ }) hset

/-- One more row revises its rule, trains on it, and tells of it. -/
theorem revised_concat_of_known {r : Rule} (h : e.rulebook.find? r.id = some r) :
    e.revised history stamps (names ++ [r.id]) =
      let before := e.revised history stamps names
      { before with
        rulebook := ⟨before.snapshot.amended [.planned history stamps r.id]⟩
        learner := before.learner.trainOn (r.planned history stamps)
        events := before.events.emit (.planned history stamps r) } := by
  have hrules : (names ++ [r.id]).filterMap e.rulebook.find? = names.filterMap e.rulebook.find? ++ [r] := by
    rw [List.filterMap_append, List.filterMap_cons_some h, List.filterMap_nil]
  rw [revised, hrules]
  simp only [List.map_append, List.map_singleton, RuleSet.amended_concat, Bus.emitAll, List.foldl_concat]
  rfl

/-- **All rows** change the rules of their names, and report those that were found. -/
theorem optimizeEach_eq (hdistinct : e.snapshot.Distinct) (hnames : names.Nodup) :
    optimizeEach stamps e (names.map (TrackRecord.about history))
      = ((names.filterMap e.rulebook.find?).map (Adjustment.planned history), e.revised history stamps names) := by
  induction names using List.reverseRecOn with
  | nil =>
    rw [revised_nil]
    rfl
  | append_singleton names id ih =>
    obtain ⟨hbefore, -, hothers⟩ := List.nodup_append.1 hnames
    have hnew : id ∉ names := fun hold => hothers id hold id (List.mem_singleton.2 rfl) rfl
    rw [List.map_append, List.map_singleton, optimizeEach_concat, ih hbefore, List.filterMap_append]
    dsimp only
    -- the rows before are about other rules
    have hsame : (e.revised history stamps names).rulebook.find? id = e.rulebook.find? id :=
      find?_revised hbefore hnew
    cases hfind : e.rulebook.find? id with
    | none =>
      rw [optimizeRule_of_unknown _ (hsame.trans hfind), revised_concat_of_unknown hfind]
      simp [hfind]
    | some r =>
      obtain ⟨-, rfl⟩ := Rulebook.find?_eq_some hfind
      rw [TrackRecord.ruleId_about,
        optimizeRule_of_known (distinct_revised hdistinct) history stamps (hsame.trans hfind),
        revised_concat_of_known hfind]
      simp [hfind]

end

/-- **What an optimization comes to.** -/
theorem optimize_eq (hdistinct : e.snapshot.Distinct) (stamps : Stamps) :
    e.optimize stamps =
      let history := e.history.items
      let rules := e.rulebook.occurring history
      let changes := rules.map (Adjustment.planned history)
      (changes, { e with
        rulebook := ⟨{ e.snapshot with rules := e.snapshot.rules.map (Rule.optimized history stamps) }⟩
        learner := (rules.map (Rule.planned history stamps)).foldl Learner.trainOn e.learner
        events := e.events.emitAll (rules.map (Event.planned history stamps) ++ [.rulesOptimized changes]) }) := by
  rw [optimize, TrackRecord.ofHistory_eq, optimizeEach_eq hdistinct (TrackRecord.nodup_names _), revised,
    RuleSet.amended_planned]
  simp only [Bus.emitAll, List.foldl_concat]
  rfl

end Engine

/-! ## What occurs -/

namespace Rulebook

variable {book : Rulebook} {history : List Verdict} {stamps : Stamps}

/-- What occurs is active, and in the history. -/
theorem mem_occurring {r : Rule} (h : r ∈ book.occurring history) :
    r ∈ book.snapshot.rules ∧ r.id ∈ history.map (·.ruleId) := by
  obtain ⟨id, hid, hfind⟩ := List.mem_filterMap.1 h
  obtain ⟨hr, rfl⟩ := find?_eq_some hfind
  exact ⟨hr, List.mem_eraseDups.1 hid⟩

/-- The names of the rules that occur: those in the history, each once, without those nobody has. -/
theorem map_id_occurring : (book.occurring history).map (·.id)
    = (history.map (·.ruleId)).eraseDups.filter (· ∈ book.snapshot.rules.map (·.id)) := by
  have hname : ∀ id, (book.find? id).map (·.id)
      = if id ∈ book.snapshot.rules.map (·.id) then some id else none := by
    intro id
    rw [if_congr contains_iff.symm rfl rfl, contains]
    cases hfind : book.find? id with
    | none => rfl
    | some r => exact congrArg some (find?_eq_some hfind).2
  rw [occurring, List.map_filterMap, TrackRecord.names, ← List.filterMap_eq_filter]
  refine List.filterMap_congr fun id _ => ?_
  rw [hname]
  simp [Option.guard]

/-- After an optimization the same rules occur, as it has left them. -/
theorem occurring_optimized :
    occurring history ⟨{ book.snapshot with rules := book.snapshot.rules.map (Rule.optimized history stamps) }⟩
      = (book.occurring history).map (Rule.optimized history stamps) := by
  rw [occurring, occurring, List.map_filterMap]
  exact List.filterMap_congr fun id _ => find?_map _ (fun _ => Rule.id_optimized) id

end Rulebook

/-- A second plan is the first, from where that has left the rule. -/
theorem Adjustment.planned_optimized {history : List Verdict} {stamps : Stamps} {r : Rule}
    (h : r.id ∈ history.map (·.ruleId)) : Adjustment.planned history (r.optimized history stamps)
      = { Adjustment.planned history r with oldPriority := (Adjustment.planned history r).newPriority } := by
  rw [Rule.optimized_of_mem h]
  rfl

/-! ## Once more -/

namespace Engine

variable {e : Engine} (hdistinct : e.snapshot.Distinct) (stamps stamps' : Stamps)
include hdistinct

/-- All rules of the set are optimized. -/
theorem snapshot_optimize : (e.optimize stamps).2.snapshot
    = { e.snapshot with rules := e.snapshot.rules.map (Rule.optimized e.history.items stamps) } := by
  rw [optimize_eq hdistinct]
  rfl

theorem history_optimize : (e.optimize stamps).2.history = e.history := by
  rw [optimize_eq hdistinct]

/-- Names are still distinct, so that there can be another optimization. -/
theorem distinct_optimize : (e.optimize stamps).2.snapshot.Distinct := by
  have hnames : ∀ r : Rule, (r.optimized e.history.items stamps).id = r.id := fun _ => Rule.id_optimized
  rw [snapshot_optimize hdistinct, RuleSet.Distinct, List.map_map]
  simp only [Function.comp_def, hnames]
  exact hdistinct

/-- After a second optimization the rules are as if there had been no first one. -/
theorem snapshot_optimize_optimize : ((e.optimize stamps).2.optimize stamps').2.snapshot
    = { e.snapshot with rules := e.snapshot.rules.map (Rule.optimized e.history.items stamps') } := by
  rw [snapshot_optimize (distinct_optimize hdistinct stamps), history_optimize hdistinct,
    snapshot_optimize hdistinct, List.map_map]
  simp only [Function.comp_def, Rule.optimized_optimized]

/-- A second optimization reports what the first one did, from where that has left the rules. -/
theorem changes_optimize_optimize : ((e.optimize stamps).2.optimize stamps').1
    = (e.optimize stamps).1.map fun c => { c with oldPriority := c.newPriority } := by
  have hchanges : ∀ {e : Engine}, e.snapshot.Distinct → ∀ stamps, (e.optimize stamps).1
      = (e.rulebook.occurring e.history.items).map (Adjustment.planned e.history.items) := by
    intro e hdistinct stamps
    rw [optimize_eq hdistinct]
  rw [hchanges (distinct_optimize hdistinct stamps), hchanges hdistinct, history_optimize hdistinct]
  show ((Rulebook.occurring _ ⟨(e.optimize stamps).2.snapshot⟩).map _) = _
  rw [snapshot_optimize hdistinct]
  show ((Rulebook.occurring e.history.items ⟨{ e.rulebook.snapshot with
    rules := e.rulebook.snapshot.rules.map (Rule.optimized e.history.items stamps) }⟩).map _) = _
  rw [Rulebook.occurring_optimized, List.map_map, List.map_map]
  exact List.map_congr_left fun r hr => Adjustment.planned_optimized (Rulebook.mem_occurring hr).2

end Engine

/-! ## The main statement -/

/-- **An optimization changes the rules that the history is about, and a second one changes nothing**, whatever
was asked of the engine before.  The rules that are changed are the active ones that occur in the history, each
once, in the order of first occurrence; results of rules that are gone are passed over.  What is reported of a
rule, and what it has then, is what its own results suggest: another priority and weight, and the moment of the
change.  All else in the engine stays as it was, but for the signal, which is trained on each of them, and for
what the subscribers are told.  Every change takes the time anew (`Stamps`).  A second optimization reports the
same again, except that the old priorities are the new ones already, and leaves the rules as they are, apart from
the moment of the change. -/
theorem optimizing_again_changes_nothing (settings : Settings) (capabilities : Capabilities)
    (handlers : Handlers) (available : Nat) (ops : List Operation) (stamps stamps' : Stamps) :
    let e := (Engine.ofSettings settings capabilities handlers available).after ops
    let history := e.history.items
    let changed := e.rulebook.occurring history
    let first := e.optimize stamps
    let second := first.2.optimize stamps'
    (changed.map (·.id) = (history.map (·.ruleId)).eraseDups.filter (· ∈ e.snapshot.rules.map (·.id))
      ∧ (changed.map (·.id)).Nodup ∧ ∀ r ∈ changed, r ∈ e.snapshot.rules)
    ∧ first.1 = changed.map (Adjustment.planned history)
    ∧ first.2 = { e with
        rulebook := ⟨{ e.snapshot with rules := e.snapshot.rules.map (Rule.optimized history stamps) }⟩
        learner := (changed.map (Rule.planned history stamps)).foldl Learner.trainOn e.learner
        events := e.events.emitAll (changed.map (Event.planned history stamps) ++ [.rulesOptimized first.1]) }
    ∧ second.1 = first.1.map (fun c => { c with oldPriority := c.newPriority })
    ∧ second.2.snapshot = { e.snapshot with rules := e.snapshot.rules.map (Rule.optimized history stamps') }
    ∧ second.2.snapshot.unstamped = first.2.snapshot.unstamped
    ∧ second.2.history = e.history := by
  intro e history changed first second
  have hdistinct : e.snapshot.Distinct :=
    (Engine.inStep_after settings capabilities handlers available ops).1.distinct
  have hfirst : first = _ := Engine.optimize_eq hdistinct stamps
  have hids := @Rulebook.map_id_occurring e.rulebook history
  have hsecond := Engine.snapshot_optimize_optimize hdistinct stamps stamps'
  refine ⟨⟨hids, hids ▸ (nodup_eraseDups _).filter _, fun r hr => (Rulebook.mem_occurring hr).1⟩, ?changes,
    ?frame, Engine.changes_optimize_optimize hdistinct stamps stamps', hsecond, ?unstamped, ?history⟩
  case changes => rw [hfirst]
  case frame =>
    have hchanges : first.1 = changed.map (Adjustment.planned history) := by rw [hfirst]
    rw [hchanges, hfirst]
  case unstamped =>
    show RuleSet.unstamped second.2.snapshot = RuleSet.unstamped first.2.snapshot
    rw [hsecond, Engine.snapshot_optimize hdistinct stamps]
    exact RuleSet.unstamped_optimized e.snapshot history stamps' stamps
  case history =>
    exact (Engine.history_optimize (Engine.distinct_optimize hdistinct stamps) stamps').trans
      (Engine.history_optimize hdistinct stamps)

-- the history still has a result of a rule that is gone
example :
    let rule (id : String) : Rule := { id, actions := [.llmGenerate "greeting" "greet"] }
    let e := (Engine.ofSettings {}).after
      [.load { rules := [rule "gone", rule "kept"] }, .evaluate [] {}, .load { rules := [rule "kept"] }]
    e.history.items.map (·.ruleId) = ["gone", "kept"]
    ∧ (e.rulebook.occurring e.history.items).map (·.id) = ["kept"] := by
  decide +kernel

end Arbiter
