import Mathlib.Data.List.Induction
import Arbiter.Proofs.Keyed
import Arbiter.Proofs.Ranking
import Arbiter.Proofs.Refusals
/-!
# Editions of a rule set

The rulebook is changed in place, one rule at a time, and looked up by names.  What it comes to can be said
without any of that: it holds the rule set that was loaded last, and every rule of it is amended by the patches
that were asked for since under its name.

1. **Amending** (`Rule.amended`).  A field is what the last patch that has it says, or else what it was.  To
   take one more patch is to apply it (`Rule.amended_concat`).
2. **One change** (`Rulebook.changed_eq`).  A load that is let in forgets what was there.  All else amends:
   a patch under a name that is there replaces one rule, and as the names are different that is the only one
   of its name; a load that is refused and a patch under another name amend nothing.
3. **Many changes** (`Rulebook.after_eq_amended`), by induction on the changes since the load.
4. **Under keys** (`Register.Keyed.after`).  A register that goes through the same changes keeps every rule under
   its name, and shows the same rulebook.

The main statement is `rulebook_is_the_latest_edition`.
-/

namespace Arbiter

/-! ## Amending -/

/-- What the last of some items says that says anything. -/
def lastSaid (say : α → Option β) (items : List α) : Option β := (items.filterMap say).getLast?

theorem lastSaid_concat (say : α → Option β) (items : List α) (x : α) :
    lastSaid say (items ++ [x]) = (say x <|> lastSaid say items) := by
  cases h : say x <;> simp [lastSaid, List.filterMap_append, h]

theorem exists_of_lastSaid {say : α → Option β} {items : List α} {y : β} (h : lastSaid say items = some y) :
    ∃ x ∈ items, say x = some y :=
  List.mem_filterMap.1 (List.mem_of_getLast? h)

/-- A patch with the moment at which it was asked for. -/
abbrev Amendment := Patch × Timestamp

/-- A rule as patches leave it: each field is what the last patch that has it says, or else what it was. -/
def Rule.amended (r : Rule) (amendments : List Amendment) : Rule where
  id := r.id
  priority := (lastSaid (·.1.priority) amendments).getD r.priority
  conditions := (lastSaid (·.1.conditions) amendments).getD r.conditions
  actions := (lastSaid (·.1.actions) amendments).getD r.actions
  metadata :=
    { signalWeight := lastSaid (·.1.signalWeight) amendments <|> r.metadata.signalWeight
      updatedAt := lastSaid (fun a => some a.2) amendments <|> r.metadata.updatedAt
      description := lastSaid (·.1.description) amendments <|> r.metadata.description
      tags := lastSaid (·.1.tags) amendments <|> r.metadata.tags }

@[simp] theorem Rule.amended_nil (r : Rule) : r.amended [] = r := rfl

/-- The last patch is applied to what the ones before it left. -/
theorem Rule.amended_concat (r : Rule) (amendments : List Amendment) (patch : Patch) (now : Timestamp) :
    r.amended (amendments ++ [(patch, now)]) = (patch.apply (r.amended amendments)).stamped now := by
  have hgetD : ∀ {α : Type} (new old : Option α) (x : α), (new.or old).getD x = new.getD (old.getD x) := by
    intro α new old x
    cases new <;> rfl
  simp only [amended, stamped, Patch.apply, lastSaid_concat, Option.orElse_eq_orElse, Option.orElse_eq_or,
    hgetD, Option.or_assoc, Option.some_or]

/-! ## One change -/

/-- Something that is asked of the rulebook. -/
inductive Change where
  /-- To take over a rule set. -/
  | load (set : RuleSet)
  /-- To patch a rule at a given moment. -/
  | update (id : String) (patch : Patch) (now : Timestamp)

/-- What a change asks for of the rule of a given name. -/
def Change.amendment? (id : String) : Change → Option Amendment
  | .load _ => none
  | .update other patch now => if other = id then some (patch, now) else none

/-- What some changes ask for of the rule of a given name, in order. -/
def amendments (id : String) (changes : List Change) : List Amendment :=
  changes.filterMap (Change.amendment? id)

namespace RuleSet

/-- Whether the rules of a rule set have different names. -/
def Distinct (set : RuleSet) : Prop := (set.rules.map (·.id)).Nodup

/-- A rule set, each rule of it amended as some changes ask for. -/
def amended (set : RuleSet) (changes : List Change) : RuleSet :=
  { set with rules := set.rules.map fun r => r.amended (amendments r.id changes) }

@[simp] theorem amended_nil (set : RuleSet) : set.amended [] = set := by
  simp [amended, amendments]

theorem map_id_amended (set : RuleSet) (changes : List Change) :
    (set.amended changes).rules.map (·.id) = set.rules.map (·.id) := by
  rw [amended, List.map_map]
  rfl

/-- A change that asks for nothing of any rule of the set amends nothing. -/
theorem amended_of_none {set : RuleSet} {c : Change}
    (h : ∀ r ∈ set.rules, c.amendment? r.id = none) : set.amended [c] = set := by
  have hrule : ∀ r ∈ set.rules, r.amended (amendments r.id [c]) = r := by
    intro r hr
    simp [amendments, h r hr]
  rw [amended, List.map_congr_left hrule, List.map_id']

/-- What was amended can be amended again. -/
theorem amended_concat (set : RuleSet) (changes : List Change) (c : Change) :
    set.amended (changes ++ [c]) = (set.amended changes).amended [c] := by
  have hrule : ∀ r : Rule, r.amended (amendments r.id (changes ++ [c]))
      = (r.amended (amendments r.id changes)).amended (amendments r.id [c]) := by
    intro r
    rw [amendments, List.filterMap_append]
    cases hc : c.amendment? r.id with
    | none => simp [amendments, hc]
    | some a =>
      have hone : ∀ q : Rule, q.amended [a] = (a.1.apply q).stamped a.2 := fun q => q.amended_concat [] a.1 a.2
      simp only [amendments, List.filterMap_cons, hc, List.filterMap_nil, hone]
      exact r.amended_concat _ a.1 a.2
  simp only [amended, List.map_map, Function.comp_def, hrule]
  rfl

end RuleSet

/-- Where names are different, replacing the rule of a name touches all rules of that name. -/
theorem replaceRule_eq_map {id : String} {new : Rule} {rules : List Rule}
    (hdistinct : (rules.map (·.id)).Nodup) :
    replaceRule id new rules = rules.map fun r => if r.id = id then new else r := by
  induction rules with
  | nil => rfl
  | cons r rest ih =>
    rw [List.map_cons, List.nodup_cons] at hdistinct
    obtain ⟨hr, hrest⟩ := hdistinct
    rw [replaceRule, List.map_cons]
    by_cases hid : r.id = id
    · -- no rule behind this one has its name
      have hothers : ∀ q ∈ rest, (if q.id = id then new else q) = q := by
        intro q hq
        rw [if_neg]
        rintro rfl
        exact hr (hid ▸ List.mem_map_of_mem hq)
      rw [if_pos hid, if_pos hid, List.map_congr_left hothers, List.map_id']
    · rw [if_neg hid, if_neg hid, ih hrest]

namespace Rulebook

/-- The rulebook after a change, whether it was let in or not. -/
def changed (book : Rulebook) (c : Change) : Rulebook :=
  match c with
  | .load set =>
    match book.load set with
    | .ok next => next
    | .error _ => book
  | .update id patch now =>
    match book.update id patch now with
    | .ok (_, next) => next
    | .error _ => book

/-- The rulebook after a row of changes. -/
def after (book : Rulebook) (changes : List Change) : Rulebook := changes.foldl changed book

/-- **A rule set is let in if its names are different, and refused if not.** -/
theorem load_fails_iff (book : Rulebook) {set : RuleSet} :
    (∃ err, book.load set = .error err) ↔ ¬ set.Distinct := by
  have hnames : repeatedIds [] (set.rules.map (·.id)) = [] ↔ set.Distinct := by
    rw [repeatedIds_eq_nil_iff, and_iff_left (fun _ _ => List.not_mem_nil)]
    rfl
  rw [← hnames, load]
  cases repeatedIds [] (set.rules.map (·.id)) with
  | nil => simp
  | cons id ids => simp

theorem changed_load_of_distinct (book : Rulebook) {set : RuleSet} (h : set.Distinct) :
    book.changed (.load set) = ⟨set⟩ := by
  rw [changed, load, (repeatedIds_eq_nil_iff.2 ⟨h, fun _ _ => List.not_mem_nil⟩)]

/-- A patch under a name that nobody has amends nothing. -/
theorem amended_of_unknown {book : Rulebook} {id : String} (patch : Patch) (now : Timestamp)
    (h : book.find? id = none) : book.active.amended [.update id patch now] = book.active := by
  refine RuleSet.amended_of_none fun r hr => ?_
  have hne := List.find?_eq_none.1 h r hr
  exact if_neg fun hid => hne (beq_iff_eq.2 hid.symm)

/-- A patch under the name of a rule amends it, and nothing else. -/
theorem update_eq {book : Rulebook} (hdistinct : book.active.Distinct) {id : String} {r : Rule} (patch : Patch)
    (now : Timestamp) (h : book.find? id = some r) : book.update id patch now =
      .ok (r.amended [(patch, now)], ⟨book.active.amended [.update id patch now]⟩) := by
  obtain ⟨hr, hid⟩ := find?_eq_some h
  have hone : ∀ q : Rule, (patch.apply q).stamped now = q.amended [(patch, now)] :=
    fun q => (q.amended_concat [] patch now).symm
  have hrule : ∀ q ∈ book.active.rules, (if q.id = id then (patch.apply r).stamped now else q)
      = q.amended (amendments q.id [.update id patch now]) := by
    intro q hq
    by_cases hqid : q.id = id
    · obtain rfl : q = r := List.inj_on_of_nodup_map hdistinct hq hr (hqid.trans hid.symm)
      rw [if_pos hqid, hone]
      simp [amendments, Change.amendment?, hqid]
    · simp [amendments, Change.amendment?, hqid, Ne.symm hqid]
  rw [update, h, RuleSet.amended, ← List.map_congr_left hrule, ← replaceRule_eq_map hdistinct, ← hone]

/-- **A change that loads nothing amends** what is in force. -/
theorem changed_eq {book : Rulebook} (hdistinct : book.active.Distinct) {c : Change}
    (hload : ∀ set, c = .load set → ¬ set.Distinct) : book.changed c = ⟨book.active.amended [c]⟩ := by
  cases c with
  | load set =>
    obtain ⟨err, herr⟩ := book.load_fails_iff.2 (hload set rfl)
    rw [changed, herr, RuleSet.amended_of_none fun _ _ => rfl]
  | update id patch now =>
    rw [changed]
    cases hfind : book.find? id with
    | none => rw [update, hfind, amended_of_unknown patch now hfind]
    | some r => rw [update_eq hdistinct patch now hfind]

/-! ## Many changes -/

/-- Whether none of some changes is a load that is let in. -/
def OnlyAmend (changes : List Change) : Prop := ∀ set, .load set ∈ changes → ¬ set.Distinct

/-- **As long as nothing is loaded**, every change amends what the ones before it left. -/
theorem after_eq_amended {set : RuleSet} (hdistinct : set.Distinct) {changes : List Change}
    (h : OnlyAmend changes) : after ⟨set⟩ changes = ⟨set.amended changes⟩ := by
  induction changes using List.reverseRecOn with
  | nil => rw [RuleSet.amended_nil]; rfl
  | append_singleton changes c ih =>
    have hbefore := ih fun s hs => h s (List.mem_append_left _ hs)
    have hnames : (set.amended changes).Distinct := by
      rw [RuleSet.Distinct, RuleSet.map_id_amended]
      exact hdistinct
    have hload : ∀ s, c = .load s → ¬ s.Distinct := by
      rintro s rfl
      exact h s (List.mem_append_right _ (List.mem_singleton.2 rfl))
    rw [after, List.foldl_append, RuleSet.amended_concat]
    show (after ⟨set⟩ changes).changed c = _
    rw [hbefore]
    exact changed_eq hnames hload

/-- A load that is let in leaves nothing of what was before. -/
theorem after_load (book : Rulebook) {before since : List Change} {set : RuleSet} (h : set.Distinct) :
    book.after (before ++ .load set :: since) = after ⟨set⟩ since := by
  rw [after, List.foldl_append, List.foldl_cons, changed_load_of_distinct _ h]
  rfl

/-- Either nothing was let in, or there is a rule set that was let in last. -/
theorem exists_latest_load (changes : List Change) : OnlyAmend changes
    ∨ ∃ before set since, changes = before ++ .load set :: since ∧ set.Distinct ∧ OnlyAmend since := by
  induction changes with
  | nil => exact Or.inl fun _ h => absurd h List.not_mem_nil
  | cons c rest ih =>
    rcases ih with hrest | ⟨before, set, since, rfl, hset, hsince⟩
    · by_cases hc : ∃ set : RuleSet, c = .load set ∧ set.Distinct
      · obtain ⟨set, rfl, hset⟩ := hc
        exact Or.inr ⟨[], set, rest, rfl, hset, hrest⟩
      · refine Or.inl fun set hmem hset => ?_
        rcases List.mem_cons.1 hmem with rfl | hmem
        · exact hc ⟨set, rfl, hset⟩
        · exact hrest set hmem hset
    · exact Or.inr ⟨c :: before, set, since, rfl, hset, hsince⟩

/-- Whatever is asked of a new rulebook, its rules have different names. -/
theorem distinct_after (changes : List Change) : (after {} changes).active.Distinct := by
  have hempty : ({} : RuleSet).Distinct := List.nodup_nil
  rcases exists_latest_load changes with h | ⟨before, set, since, rfl, hset, hsince⟩
  · rw [show (after {} changes) = _ from after_eq_amended hempty h, RuleSet.Distinct,
      RuleSet.map_id_amended]
    exact hempty
  · rw [after_load {} hset, after_eq_amended hset hsince, RuleSet.Distinct, RuleSet.map_id_amended]
    exact hset

/-! ## Looking rules up -/

variable {book : Rulebook}

/-- Where names are different, a rule that is there is the one that is found. -/
theorem find?_eq_some_iff (hdistinct : book.active.Distinct) {id : String} {r : Rule} :
    book.find? id = some r ↔ r ∈ book.snapshot.rules ∧ r.id = id := by
  refine ⟨find?_eq_some, ?_⟩
  rintro ⟨hr, rfl⟩
  cases hfind : book.find? r.id with
  | none => exact absurd (beq_iff_eq.2 rfl) (List.find?_eq_none.1 hfind r hr)
  | some q =>
    obtain ⟨hq, hid⟩ := find?_eq_some hfind
    rw [List.inj_on_of_nodup_map hdistinct hq hr hid]

theorem get_eq_ok_iff (hdistinct : book.active.Distinct) {id : String} {r : Rule} :
    book.get id = .ok r ↔ r ∈ book.snapshot.rules ∧ r.id = id := by
  rw [← find?_eq_some_iff hdistinct, get]
  cases book.find? id <;> simp

theorem contains_iff {id : String} : book.contains id = true ↔ id ∈ book.snapshot.rules.map (·.id) := by
  simp [contains, find?, snapshot]

/-- Rules that keep their names are found as they are now. -/
theorem find?_map (set : RuleSet) {f : Rule → Rule} (hf : ∀ r, (f r).id = r.id) (id : String) :
    find? ⟨{ set with rules := set.rules.map f }⟩ id = (find? ⟨set⟩ id).map f := by
  show (set.rules.map f).find? _ = _
  rw [List.find?_map]
  show (set.rules.find? fun r => (f r).id == id).map f = _
  simp only [hf]
  rfl

/-- Amending does not change what is found under a name, but for amending it. -/
theorem find?_amended (set : RuleSet) (changes : List Change) (id : String) :
    find? ⟨set.amended changes⟩ id = (find? ⟨set⟩ id).map fun r => r.amended (amendments id changes) := by
  have hname : ∀ r : Rule, (r.amended (amendments r.id changes)).id = r.id := fun _ => rfl
  rw [RuleSet.amended, find?_map set hname]
  cases h : find? ⟨set⟩ id with
  | none => rfl
  | some r =>
    obtain ⟨-, rfl⟩ := find?_eq_some h
    rfl

/-- An amendment under another name leaves what is found under this one alone, and what is said if nothing
is. -/
theorem get_amended_of_ne {id other : String} (patch : Patch) (now : Timestamp) (h : other ≠ id) :
    get ⟨book.active.amended [.update id patch now]⟩ other = book.get other := by
  have hnone : amendments other [.update id patch now] = [] := by
    simp [amendments, Change.amendment?, h.symm]
  have hfind : find? ⟨book.active.amended [.update id patch now]⟩ other = book.find? other := by
    simp [find?_amended, hnone]
  rw [get, get, hfind, notFound, notFound, RuleSet.map_id_amended]

end Rulebook

/-! ## Under keys -/

namespace Register

/-- The register after a change, whether it was let in or not. -/
def changed (s : Register) (c : Change) : Register :=
  match c with
  | .load set =>
    match s.load set with
    | .ok next => next
    | .error _ => s
  | .update key patch now =>
    match s.update key patch now with
    | .ok (_, next) => next
    | .error _ => s

/-- The register after a row of changes. -/
def after (s : Register) (changes : List Change) : Register := changes.foldl changed s

namespace Keyed

variable {s : Register} (h : s.Keyed)
include h

/-- **One change** does to a register what it does to its rulebook, and leaves every rule under its name. -/
theorem changed (c : Change) : (s.changed c).Keyed ∧ (s.changed c).book = s.book.changed c := by
  cases c with
  | load set =>
    rw [Register.changed, Rulebook.changed, ← s.load_book]
    cases hload : s.load set with
    | ok next => exact ⟨of_load hload, rfl⟩
    | error err => exact ⟨h, rfl⟩
  | update key patch now =>
    rw [Register.changed, Rulebook.changed, ← h.update_book]
    cases hupdate : s.update key patch now with
    | ok answer => exact ⟨h.of_update key hupdate, rfl⟩
    | error err => exact ⟨h, rfl⟩

/-- **So do many.** -/
theorem after (changes : List Change) :
    (s.after changes).Keyed ∧ (s.after changes).book = s.book.after changes := by
  induction changes generalizing s with
  | nil => exact ⟨h, rfl⟩
  | cons c rest ih =>
    obtain ⟨hkeyed, hbook⟩ := h.changed c
    obtain ⟨hafter, hshown⟩ := ih hkeyed
    exact ⟨hafter, hshown.trans (by rw [hbook]; rfl)⟩

end Keyed

/-- Nothing is under a wrong name where nothing is. -/
theorem keyed_empty : ({} : Register).Keyed := ⟨fun _ he => absurd he List.not_mem_nil, List.nodup_nil⟩

end Register

/-! ## The main statement -/

/-- **The rulebook is the rule set that was loaded last, amended by the patches since**, whatever was asked of
it and whether it was let in or not.  The names of its rules are different, and are those of that rule set in
the order of their declaration; each rule of it is the rule that was loaded with all patches under its name
since, and before a first load there are no rules.  A patch leaves the rules of other names alone, and all that
is not a rule.  A rule is found, and is there, exactly under the name of one, and it is that one.  There is one
way to rank the rules by descending priority with ties as they were declared, and it is the order of
evaluation.  A rule set is refused exactly if a name occurs twice.

All this is as true of a register, which keeps the rules in a table under the names that they came with: after
the same changes every rule in it is under its name, it shows the same rulebook, and it gives the same answers. -/
theorem rulebook_is_the_latest_edition (changes : List Change) :
    let book := Rulebook.after {} changes
    let set := book.snapshot
    (set.rules.map (·.id)).Nodup
    ∧ (∀ before loaded since, changes = before ++ .load loaded :: since →
        loaded.Distinct → Rulebook.OnlyAmend since →
        set = { loaded with rules := loaded.rules.map fun r => r.amended (amendments r.id since) })
    ∧ (Rulebook.OnlyAmend changes → set = {})
    ∧ (∀ id patch now, let next := book.changed (.update id patch now)
        (∀ other, other ≠ id → next.get other = book.get other)
        ∧ { next.snapshot with rules := set.rules } = set)
    ∧ ((∀ id r, book.get id = .ok r ↔ r ∈ set.rules ∧ r.id = id)
        ∧ ∀ id, book.contains id = true ↔ id ∈ set.rules.map (·.id))
    ∧ (∀ ranked, Ranking set.rules ranked ↔ ranked = book.sorted)
    ∧ (∀ other : RuleSet, (∃ err, book.load other = .error err) ↔ ¬ (other.rules.map (·.id)).Nodup)
    ∧ let register := Register.after {} changes
      ((∀ e ∈ register.rules, e.1 = e.2.id) ∧ (register.rules.map (·.1)).Nodup)
      ∧ register.book = book ∧ register.sorted = book.sorted
      ∧ (∀ id, register.get id = book.get id) ∧ (∀ id, register.contains id = book.contains id)
      ∧ (∀ other, (register.load other).map Register.book = book.load other)
      ∧ ∀ id patch now, (register.update id patch now).map (fun x => (x.1, x.2.book))
          = book.update id patch now := by
  intro book set
  have hdistinct : book.active.Distinct := Rulebook.distinct_after changes
  have hempty : ({} : RuleSet).Distinct := List.nodup_nil
  refine ⟨hdistinct, ?_, ?_, ?_,
    ⟨fun id r => Rulebook.get_eq_ok_iff hdistinct, fun id => Rulebook.contains_iff⟩,
    fun ranked => Ranking.eq_sorted, fun other => book.load_fails_iff, ?_⟩
  · rintro before loaded since rfl hloaded hsince
    show (Rulebook.after {} _).snapshot = _
    rw [Rulebook.after_load {} hloaded, Rulebook.after_eq_amended hloaded hsince]
    rfl
  · intro h
    have hafter : book = ⟨({} : RuleSet).amended changes⟩ := Rulebook.after_eq_amended hempty h
    show book.snapshot = {}
    rw [hafter]
    rfl
  · intro id patch now next
    have hnext : next = ⟨book.active.amended [.update id patch now]⟩ :=
      Rulebook.changed_eq hdistinct (by rintro s ⟨⟩)
    rw [hnext]
    exact ⟨fun other hother => Rulebook.get_amended_of_ne patch now hother, rfl⟩
  · obtain ⟨hkeyed, hbook⟩ := Register.keyed_empty.after changes
    have hsame : (Register.after {} changes).book = book := hbook
    refine ⟨⟨hkeyed.names, hkeyed.distinct⟩, hsame, ?_, fun id => ?_, fun id => ?_, fun other => ?_,
      fun id patch now => ?_⟩
    · rw [← hsame]
      rfl
    · rw [← hkeyed.get_book, hsame]
    · rw [← hkeyed.contains_book, hsame]
    · rw [Register.load_book, hsame]
    · rw [hkeyed.update_book, hsame]

end Arbiter
