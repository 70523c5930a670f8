import Arbiter.Proofs.Recording
/-!
# What the log of a stage is made from

The logs of all stages are in one table, and a reset empties it.  What is found in it under the name of a stage
after any number of entries comes from the runs of that stage since the last reset, and from nothing else.

1. **The runs** of a stage (`Timings.runsOf`) are read off the entries: those after the last reset, in order.
2. **One log** (`StageLog.ofRuns`) is what the runs of one stage make of an empty log.
3. **The table** (`Timings.lookup_after`): one entry puts one run more into the log of its stage, and by
   induction on the entries every stage has the log of its own runs, or none without a run.
-/

namespace Arbiter

/-! ## Entries and runs -/

/-- One run of a stage. -/
structure StageRun where
  /-- Whether it did not fail. -/
  success : Bool
  /-- How long it took. -/
  latency : Nat
deriving DecidableEq, Repr

namespace Timings

/-- What may be done to the logs of the stages. -/
inductive Entry where
  /-- A stage ran. -/
  | run (stage : String) (outcome : StageRun)
  /-- All is forgotten. -/
  | reset
deriving DecidableEq, Repr

/-- The logs after an entry. -/
def enter (m : Timings) : Entry → Timings
  | .run stage outcome => m.record stage outcome.success outcome.latency
  | .reset => m.reset

/-- The logs after a row of entries. -/
def after (window : Nat) (entries : List Entry) : Timings := entries.foldl enter { window }

namespace Entry

/-- Whether all is forgotten. -/
def isReset : Entry → Bool
  | .run _ _ => false
  | .reset => true

/-- The run of a stage. -/
def runOf? (stage : String) : Entry → Option StageRun
  | .run other outcome => if other = stage then some outcome else none
  | .reset => none

/-- Whether an entry says something about a stage: a run of it does, and a reset. -/
def concerns (stage : String) (e : Entry) : Bool := e.isReset || (e.runOf? stage).isSome

end Entry

/-- The runs of a stage since the last reset. -/
def runsOf (stage : String) (entries : List Entry) : List StageRun :=
  (entries.rtakeWhile (!·.isReset)).filterMap (·.runOf? stage)

section Runs

variable (stage : String) (entries : List Entry)

/-- A run is the last one of its stage, and none of another. -/
theorem runsOf_concat_run (other : String) (outcome : StageRun) :
    runsOf stage (entries ++ [.run other outcome])
      = if other = stage then runsOf stage entries ++ [outcome] else runsOf stage entries := by
  unfold runsOf
  rw [List.rtakeWhile_concat_pos _ _ _ rfl, List.filterMap_append]
  by_cases h : other = stage
  · have hsome : (Entry.run other outcome).runOf? stage = some outcome := if_pos h
    rw [if_pos h, List.filterMap_cons_some hsome, List.filterMap_nil]
  · have hnone : (Entry.run other outcome).runOf? stage = none := if_neg h
    rw [if_neg h, List.filterMap_cons_none hnone, List.filterMap_nil, List.append_nil]

/-- A reset leaves no runs. -/
theorem runsOf_concat_reset : runsOf stage (entries ++ [.reset]) = [] := by
  unfold runsOf
  rw [List.rtakeWhile_concat_neg _ _ _ (by decide), List.filterMap_nil]

/-- What other stages do is not seen in the runs of a stage. -/
theorem runsOf_filter_concerns : runsOf stage (entries.filter (·.concerns stage)) = runsOf stage entries := by
  induction entries using List.reverseRecOn with
  | nil => rfl
  | append_singleton before e ih =>
    rw [List.filter_append]
    cases e with
    | reset =>
      have hkept : [Entry.reset].filter (·.concerns stage) = [.reset] := rfl
      rw [hkept, runsOf_concat_reset, runsOf_concat_reset]
    | run other outcome =>
      by_cases h : other = stage
      · have hkept : [Entry.run other outcome].filter (·.concerns stage) = [.run other outcome] := by
          simp [Entry.concerns, Entry.runOf?, h]
        rw [hkept, runsOf_concat_run, runsOf_concat_run, ih]
      · have hdropped : [Entry.run other outcome].filter (·.concerns stage) = [] := by
          simp [Entry.concerns, Entry.isReset, Entry.runOf?, h]
        rw [hdropped, List.append_nil, runsOf_concat_run, if_neg h, ih]

end Runs

end Timings

/-! ## One log -/

namespace StageLog

/-- The log of a stage that ran so often. -/
def ofRuns (window : Nat) (runs : List StageRun) : StageLog :=
  runs.foldl (fun s r => s.record r.success r.latency) (.ofWindow window)

theorem ofRuns_concat (window : Nat) (runs : List StageRun) (r : StageRun) :
    ofRuns window (runs ++ [r]) = (ofRuns window runs).record r.success r.latency := by
  unfold ofRuns
  rw [List.foldl_append]
  rfl

/-- **A log counts its runs** by their outcomes, and keeps the latest times. -/
theorem ofRuns_eq (window : Nat) (runs : List StageRun) :
    ofRuns window runs =
      { invocations := runs.length
        successes := runs.countP (·.success)
        failures := runs.countP (!·.success)
        average := (ofRuns window runs).average
        recent := .latest window (runs.map (·.latency)) } := by
  induction runs using List.reverseRecOn with
  | nil =>
    show ofWindow window = _
    rw [List.map_nil, Ring.latest_nil]
    rfl
  | append_singleton before r ih =>
    rw [ofRuns_concat, ih, record, Ring.push_latest, List.length_append, List.countP_append,
      List.countP_append, List.map_append]
    cases hsuccess : r.success <;> simp [hsuccess]

end StageLog

/-! ## The table -/

namespace Timings

variable (window : Nat) (entries : List Entry) (stage : String)

theorem after_concat (e : Entry) : after window (entries ++ [e]) = (after window entries).enter e := by
  unfold after
  rw [List.foldl_append]
  rfl

/-- No entry changes how many times are kept. -/
theorem window_after : (after window entries).window = window := by
  induction entries using List.reverseRecOn with
  | nil => rfl
  | append_singleton before e ih =>
    rw [after_concat]
    cases e with
    | run _ _ => exact ih
    | reset => exact ih

/-- **Under the name of a stage there is the log of its runs since the last reset**, or nothing if there were
none. -/
theorem lookup_after : (after window entries).stages.lookup stage =
    if runsOf stage entries = [] then none else some (.ofRuns window (runsOf stage entries)) := by
  induction entries using List.reverseRecOn with
  | nil => rfl
  | append_singleton before e ih =>
    rw [after_concat]
    cases e with
    | reset =>
      rw [runsOf_concat_reset]
      rfl
    | run other outcome =>
      rw [runsOf_concat_run]
      show List.lookup stage ((after window before).stages.set other _) = _
      by_cases h : other = stage
      · subst h
        -- the first run since the reset finds no log, and begins an empty one
        have hbefore : ((after window before).stages.lookup other).getD (.ofWindow (after window before).window)
            = .ofRuns window (runsOf other before) := by
          rw [ih, window_after]
          split
          · next hnone =>
            rw [hnone]
            rfl
          · rfl
        rw [if_pos rfl, Table.lookup_set_self, hbefore, if_neg (by simp), StageLog.ofRuns_concat]
      · rw [if_neg h, Table.lookup_set_of_ne _ _ (Ne.symm h), ih]

/-- What is shown of a stage is what its runs come to. -/
theorem stage?_after : (after window entries).stage? stage =
    if runsOf stage entries = [] then none
    else some (StageLog.ofRuns window (runsOf stage entries)).summary := by
  unfold stage?
  rw [lookup_after]
  split <;> rfl

end Timings

end Arbiter
