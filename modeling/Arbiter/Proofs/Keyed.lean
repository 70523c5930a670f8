import Mathlib.Data.List.Induction
import Arbiter.Proofs.Refusals
import Arbiter.Proofs.Tables
/-!
# Rules under keys

The rulebook is a list, and a rule of it is looked up by its own name.  A register keeps the same rules in a
table, each under the name that it came with, and looks at nothing but these keys from then on: that a rule is
found under its name is no longer a matter of how the rules are kept, but of how they are changed.

1. **Keys are names** (`Register.Keyed`), and no key is there twice.  A load puts every rule under its name, and
   refuses a set in which one would push out another; a patch cannot rename a rule, and the rule that it leaves
   goes where the old one was.  So neither takes it away (`Keyed.of_load`, `Keyed.of_update`).
2. **Keys answer as names do.**  As long as keys are names, what is found under a key is the rule of that name
   (`lookup_eq_find?`), and what takes the place of an entry takes the place of a rule (`map_snd_set`).  So a
   register gives the answers of the rulebook that it shows (`Register.load_book`, `Keyed.get_book`,
   `Keyed.update_book`).
-/

namespace Arbiter

/-! ## Tables of rules -/

/-- Whether the rules of a table are under their names. -/
def UnderNames (t : Table Rule) : Prop := ∀ e ∈ t, e.1 = e.2.id

namespace UnderNames

variable {t : Table Rule} {id : String}

/-- The keys are the names of the rules, in order. -/
theorem map_fst (h : UnderNames t) : t.map (·.1) = (t.map (·.2)).map (·.id) := by
  rw [List.map_map]
  exact List.map_congr_left h

/-- **What is found under a key is the rule of that name.** -/
theorem lookup_eq_find? (h : UnderNames t) (id : String) :
    t.lookup id = (t.map (·.2)).find? (·.id == id) := by
  induction t with
  | nil => rfl
  | cons e rest ih =>
    obtain ⟨key, r⟩ := e
    obtain ⟨hkey, hrest⟩ := List.forall_mem_cons.1 h
    obtain rfl : key = r.id := hkey
    rw [List.lookup_cons, List.map_cons, List.find?_cons, ih hrest, Bool.beq_comm]

/-- **What takes the place of an entry takes the place of a rule.** -/
theorem map_snd_set (h : UnderNames t) (hid : id ∈ t.map (·.1)) (new : Rule) :
    (t.set id new).map (·.2) = replaceRule id new (t.map (·.2)) := by
  induction t with
  | nil => cases hid
  | cons e rest ih =>
    obtain ⟨key, r⟩ := e
    obtain ⟨hkey, hrest⟩ := List.forall_mem_cons.1 h
    obtain rfl : key = r.id := hkey
    rw [Table.set, List.map_cons, replaceRule]
    by_cases hr : r.id = id
    · rw [if_pos hr, if_pos hr, List.map_cons]
    · have hbehind : id ∈ rest.map (·.1) := (List.mem_cons.1 hid).resolve_left (Ne.symm hr)
      rw [if_neg hr, if_neg hr, List.map_cons, ih hrest hbehind]

/-- A rule may be put under its name. -/
theorem set (h : UnderNames t) {new : Rule} (hnew : new.id = id) : UnderNames (t.set id new) := by
  intro e he
  rcases Table.mem_of_mem_set he with rfl | hold
  · exact hnew.symm
  · exact h e hold

end UnderNames

/-! ## The register -/

/-- The rules in force, each under a key, and what else is in force. -/
structure Register where
  /-- The rules under their keys, in the order they were declared. -/
  rules : Table Rule := []
  /-- Data that goes into every evaluation. -/
  globalContext : Option Context := none
  /-- Settings of scoring and learning. -/
  learning : Option Learning := none
  /-- What happens when two rules write to the same place. -/
  conflictPolicy : ConflictPolicy := .allowAll

namespace Register

/-- A table of rules, put one after the other under their names; of two rules of one name the later stays. -/
def tableOf (rules : List Rule) : Table Rule := rules.foldl (fun t r => t.set r.id r) []

/-- Takes over a rule set, unless a name occurs twice. -/
def load (_ : Register) (set : RuleSet) : Except Fault Register :=
  match repeatedIds [] (set.rules.map (·.id)) with
  | [] => .ok { set with rules := tableOf set.rules }
  | ids => .error (.load ("duplicate rule ids: " ++ Text.joinWith ", " ids))

/-- The error that nothing is under that key, with the key that was perhaps meant. -/
def notFound (s : Register) (key : String) : Fault :=
  .notFound key (Text.suggest? key (s.rules.map (·.1)))

/-- The rule under a key. -/
def get (s : Register) (key : String) : Except Fault Rule :=
  match s.rules.lookup key with
  | some r => .ok r
  | none => .error (s.notFound key)

/-- Whether there is a rule under a key. -/
def contains (s : Register) (key : String) : Bool := (s.rules.lookup key).isSome

/-- Patches the rule under a key at a given moment, in its place. -/
def update (s : Register) (key : String) (patch : Patch) (now : Timestamp) :
    Except Fault (Rule × Register) :=
  match s.rules.lookup key with
  | none => .error (s.notFound key)
  | some r =>
    let new := (patch.apply r).stamped now
    .ok (new, { s with rules := s.rules.set key new })

/-- The rules by descending priority; of equal ones the one declared first. -/
def sorted (s : Register) : List Rule :=
  sortBy (fun a b => b.priority ≤ a.priority) (s.rules.map (·.2))

/-- The rulebook that a register shows. -/
def book (s : Register) : Rulebook := ⟨{ s with rules := s.rules.map (·.2) }⟩

/-- **Keys are names**, and no key is there twice. -/
structure Keyed (s : Register) : Prop where
  /-- Every rule is under its name. -/
  names : UnderNames s.rules
  /-- No key is there twice. -/
  distinct : (s.rules.map (·.1)).Nodup

section Declared

variable {rules : List Rule} (hdistinct : (rules.map (·.id)).Nodup)
include hdistinct

/-- Rules of different names are in the table as they were declared. -/
theorem tableOf_eq : tableOf rules = rules.map fun r => (r.id, r) := by
  induction rules using List.reverseRecOn with
  | nil => rfl
  | append_singleton rules r ih =>
    rw [List.map_append, List.map_singleton, List.nodup_append] at hdistinct
    obtain ⟨hbefore, -, hothers⟩ := hdistinct
    have hnew : r.id ∉ (rules.map fun q => (q.id, q)).map (·.1) := by
      rw [List.map_map]
      exact fun hold => hothers r.id hold r.id (List.mem_singleton.2 rfl) rfl
    rw [tableOf, List.foldl_concat, ← tableOf, ih hbefore, Table.set_of_notMem r hnew, List.map_append,
      List.map_singleton]

/-- No rule is pushed out, and all are in their order. -/
theorem map_snd_tableOf : (tableOf rules).map (·.2) = rules := by
  rw [tableOf_eq hdistinct, List.map_map]
  exact List.map_id' rules

/-- Every rule is under its name, and no key is there twice. -/
theorem keyed_tableOf : UnderNames (tableOf rules) ∧ ((tableOf rules).map (·.1)).Nodup := by
  rw [tableOf_eq hdistinct, List.map_map]
  exact ⟨List.forall_mem_map.2 fun _ _ => rfl, hdistinct⟩

end Declared

/-! ## What is answered -/

variable {s : Register}

/-- A register takes over the rule sets that its rulebook does, and shows them. -/
theorem load_book (s : Register) (set : RuleSet) : (s.load set).map book = s.book.load set := by
  rw [load, Rulebook.load]
  cases hrepeated : repeatedIds [] (set.rules.map (·.id)) with
  | nil => simp only [Except.map, book, map_snd_tableOf (repeatedIds_eq_nil_iff.1 hrepeated).1]
  | cons id ids => rfl

/-- After a load keys are names, whatever was before. -/
theorem Keyed.of_load {set : RuleSet} {next : Register} (hload : s.load set = .ok next) : next.Keyed := by
  rw [load] at hload
  cases hrepeated : repeatedIds [] (set.rules.map (·.id)) with
  | nil =>
    rw [hrepeated] at hload
    cases hload
    obtain ⟨hnames, hkeys⟩ := keyed_tableOf (repeatedIds_eq_nil_iff.1 hrepeated).1
    exact ⟨hnames, hkeys⟩
  | cons id ids =>
    rw [hrepeated] at hload
    cases hload

namespace Keyed

variable (h : s.Keyed) (key : String)
include h

/-- What is found under a key is what the rulebook finds under that name. -/
theorem lookup_eq_find? : s.rules.lookup key = s.book.find? key := h.names.lookup_eq_find? key

/-- If nothing is found, the same is said to have been meant. -/
theorem notFound_book : s.book.notFound key = s.notFound key := by
  rw [notFound, h.names.map_fst]
  rfl

/-- A rule that is asked for by its key is the one of that name, or the same error is given. -/
theorem get_book : s.book.get key = s.get key := by
  have hfind := h.lookup_eq_find? key
  cases hrule : s.book.find? key with
  | none =>
    rw [hrule] at hfind
    rw [Rulebook.get, get, hrule, hfind, h.notFound_book]
  | some r =>
    rw [hrule] at hfind
    rw [Rulebook.get, get, hrule, hfind]

/-- A key is there if the name is. -/
theorem contains_book : s.book.contains key = s.contains key := by
  rw [Rulebook.contains, contains, h.lookup_eq_find?]

/-- A patch leaves the rule that it leaves in the rulebook, and where it is there. -/
theorem update_book (patch : Patch) (now : Timestamp) :
    (s.update key patch now).map (fun x => (x.1, x.2.book)) = s.book.update key patch now := by
  rw [update, Rulebook.update, ← h.lookup_eq_find?, h.notFound_book]
  cases hfind : s.rules.lookup key with
  | none => rfl
  | some r =>
    have hkey : key ∈ s.rules.map (·.1) := List.mem_map_of_mem (Table.mem_of_lookup hfind)
    have hrules := h.names.map_snd_set hkey ((patch.apply r).stamped now)
    simp only [Except.map, book, hrules]

/-- **A patch does not take a rule from its key.** -/
theorem of_update {patch : Patch} {now : Timestamp} {r : Rule} {next : Register}
    (hupdate : s.update key patch now = .ok (r, next)) : next.Keyed := by
  rw [update] at hupdate
  cases hfind : s.rules.lookup key with
  | none =>
    rw [hfind] at hupdate
    cases hupdate
  | some old =>
    rw [hfind] at hupdate
    cases hupdate
    have hentry := Table.mem_of_lookup hfind
    -- no patch has a name
    have hname : ((patch.apply old).stamped now).id = key := (h.names _ hentry).symm
    refine ⟨h.names.set hname, ?_⟩
    show ((s.rules.set key _).map (·.1)).Nodup
    rw [Table.names_set_of_mem _ (List.mem_map_of_mem hentry)]
    exact h.distinct

end Keyed

end Register

end Arbiter
