import Arbiter.Proofs.Documents
import Arbiter.Proofs.Nearest
import Arbiter.Proofs.Running
import Arbiter.Value.Equal
import Arbiter.Verdict.Conditions
/-!
# When data is the same

Two values are compared by walking through both at once.  Lists are compared item by item; of two records the
fields of the left one are looked up in the right one, and that there are as many of them on both sides is all
that speaks for the other way round.  Numbers are compared as doubles.

1. **Exchanged numbers** (`Value.equal_iff_renumber`).  Whatever exchange of numbers makes equal ones the same
   (`Value.Settles`), two values are equal exactly if they are the same value after it.  The proof is by
   induction on the left value; for records it needs that one with as many fields as another, all of whose
   names are there, has just the names of the other (`names_eq_of_subset`).
2. **An equivalence** (`equality_is_an_equivalence`).  With the exchange that makes a double of each number,
   equality is that of two pictures of the values, and so an equivalence.
3. **Whole numbers** (`whole_numbers_compare_as_doubles`).  With the exchange that rounds whole numbers to 53
   bits, a condition turns out to tell two of them apart if they are rounded to different numbers, and not
   otherwise: neighbours beyond `2 ^ 53` pass for equal (`neighbours_pass_for_equal`).
-/

namespace Arbiter

namespace Value

/-! ## Numbers in data -/

mutual

/-- The data with each of its numbers exchanged. -/
def renumber (key : Number → Number) : Value → Value
  | .num n => .num (key n)
  | .arr items => .arr (renumberItems key items)
  | .obj fields => .obj (renumberFields key fields)
  | v => v

/-- The items of a list with their numbers exchanged. -/
def renumberItems (key : Number → Number) : List Value → List Value
  | [] => []
  | v :: vs => renumber key v :: renumberItems key vs

/-- Fields with their numbers exchanged. -/
def renumberFields (key : Number → Number) : List (String × Value) → List (String × Value)
  | [] => []
  | (k, v) :: fs => (k, renumber key v) :: renumberFields key fs

end

mutual

/-- Whether all numbers in a value are of a kind, and the fields of all its records in order. -/
def Over (kind : Number → Prop) : Value → Prop
  | .num n => kind n
  | .arr items => OverItems kind items
  | .obj fields => Fields.Ordered fields ∧ OverFields kind fields
  | _ => True

/-- Whether that holds of the items of a list. -/
def OverItems (kind : Number → Prop) : List Value → Prop
  | [] => True
  | v :: vs => Over kind v ∧ OverItems kind vs

/-- Whether that holds of the values of some fields. -/
def OverFields (kind : Number → Prop) : List (String × Value) → Prop
  | [] => True
  | (_, v) :: fs => Over kind v ∧ OverFields kind fs

end

theorem names_renumberFields (key : Number → Number) (fs : Fields) :
    Fields.names (renumberFields key fs) = fs.names := by
  induction fs with
  | nil => rfl
  | cons f rest ih => exact congrArg (f.1 :: ·) ih

/-! ## Records -/

/-- A field beyond those that are compared makes no difference. -/
theorem equalFields_cons_of_notMem {xs : Fields} {k : String} (y : Value) (ys : Fields)
    (h : k ∉ xs.names) : equalFields xs ((k, y) :: ys) = equalFields xs ys := by
  induction xs with
  | nil => rfl
  | cons f rest ih =>
    obtain ⟨l, x⟩ := f
    obtain ⟨hne, hrest⟩ := not_or.1 (mt List.mem_cons.2 h)
    rw [equalFields, equalFields, Fields.get?_cons, if_neg (Ne.symm hne), ih hrest]

/-- Fields that have equal ones on the other side have their names there. -/
theorem names_subset_of_equalFields {xs ys : Fields} (h : equalFields xs ys = true) :
    xs.names ⊆ ys.names := by
  induction xs with
  | nil => exact List.nil_subset _
  | cons f rest ih =>
    obtain ⟨k, x⟩ := f
    rw [equalFields, Bool.and_eq_true] at h
    refine List.cons_subset.2 ⟨?_, ih h.2⟩
    by_contra hk
    rw [Fields.get?_eq_none_iff.2 hk] at h
    exact Bool.false_ne_true h.1

/-- Of two records with as many fields, one that has all names of the other has the same ones. -/
theorem names_eq_of_subset {xs ys : Fields} (hxs : xs.Ordered) (hys : ys.Ordered)
    (hlength : xs.length = ys.length) (hsub : xs.names ⊆ ys.names) : xs.names = ys.names := by
  have hperm : xs.names.Perm ys.names := by
    refine (hxs.nodup.subperm hsub).perm_of_length_le ?_
    rw [Fields.names, Fields.names, List.length_map, List.length_map, hlength]
  exact hperm.eq_of_pairwise (fun k l _ _ hkl hlk => absurd hlk (String.lt_asymm hkl)) hxs hys

/-! ## Equality and exchanged numbers -/

/-- An exchange of numbers settles a kind of them if it makes the same number of two exactly if their doubles
are equal. -/
def Settles (kind : Number → Prop) (key : Number → Number) : Prop :=
  ∀ m n, kind m → kind n → ((m.toFloat == n.toFloat) = true ↔ key m = key n)

section

variable {kind : Number → Prop} {key : Number → Number}

mutual

/-- **Data is equal exactly if it is the same with its numbers exchanged.** -/
theorem equal_iff_renumber (hkey : Settles kind key) : ∀ {a b : Value}, a.Over kind → b.Over kind →
    (equal a b = true ↔ renumber key a = renumber key b)
  | .null, b, _, _ => by cases b <;> simp [equal, renumber]
  | .bool x, b, _, _ => by cases b <;> simp [equal, renumber]
  | .str s, b, _, _ => by cases b <;> simp [equal, renumber]
  | .num m, b, ha, hb => by
    cases b with
    | num n =>
      rw [equal, renumber, renumber, num.injEq]
      exact hkey m n ha hb
    | _ => simp [equal, renumber]
  | .arr xs, b, ha, hb => by
    cases b with
    | arr ys =>
      rw [equal, renumber, renumber, arr.injEq]
      exact equalItems_iff_renumber hkey ha hb
    | _ => simp [equal, renumber]
  | .obj xs, b, ha, hb => by
    cases b with
    | obj ys =>
      rw [equal, renumber, renumber, obj.injEq, Bool.and_eq_true, beq_iff_eq]
      constructor
      · rintro ⟨hlength, hfields⟩
        have hnames := names_eq_of_subset ha.1 hb.1 hlength (names_subset_of_equalFields hfields)
        exact (equalFields_iff_renumber hkey hnames ha.1.nodup ha.2 hb.2).1 hfields
      · intro heq
        have hnames : Fields.names xs = Fields.names ys := by
          rw [← names_renumberFields key xs, heq, names_renumberFields]
        have hlength := congrArg List.length hnames
        rw [Fields.names, Fields.names, List.length_map, List.length_map] at hlength
        exact ⟨hlength, (equalFields_iff_renumber hkey hnames ha.1.nodup ha.2 hb.2).2 heq⟩
    | _ => simp [equal, renumber]

/-- Lists are equal exactly if their items agree in their keys, one by one. -/
theorem equalItems_iff_renumber (hkey : Settles kind key) : ∀ {xs ys : List Value},
    OverItems kind xs → OverItems kind ys → (equalItems xs ys = true ↔ renumberItems key xs = renumberItems key ys)
  | [], ys, _, _ => by cases ys <;> simp [equalItems, renumberItems]
  | x :: xs, ys, hxs, hys => by
    cases ys with
    | nil => simp [equalItems, renumberItems]
    | cons y ys =>
      rw [equalItems, renumberItems, renumberItems, Bool.and_eq_true, List.cons.injEq,
        equal_iff_renumber hkey hxs.1 hys.1, equalItems_iff_renumber hkey hxs.2 hys.2]

/-- Records with the same names are compared field by field. -/
theorem equalFields_iff_renumber (hkey : Settles kind key) : ∀ {xs ys : Fields}, xs.names = ys.names →
    xs.names.Nodup → OverFields kind xs → OverFields kind ys →
    (equalFields xs ys = true ↔ renumberFields key xs = renumberFields key ys)
  | [], ys, hnames, _, _, _ => by
    obtain rfl : ys = [] := List.map_eq_nil_iff.1 hnames.symm
    exact iff_of_true rfl rfl
  | (k, x) :: xs, ys, hnames, hnodup, hxs, hys => by
    cases ys with
    | nil => cases hnames
    | cons f ys =>
      obtain ⟨l, y⟩ := f
      obtain ⟨rfl, hothers⟩ := List.cons.inj hnames
      obtain ⟨hfresh, hrest⟩ := List.nodup_cons.1 hnodup
      rw [equalFields, renumberFields, renumberFields, Bool.and_eq_true, List.cons.injEq, Prod.mk.injEq,
        Fields.get?_cons, if_pos rfl, equalFields_cons_of_notMem y ys hfresh,
        equalFields_iff_renumber hkey hothers hrest hxs.2 hys.2]
      dsimp only
      rw [equal_iff_renumber hkey hxs.1 hys.1]
      simp
end

mutual

/-- An exchange that leaves all numbers of a kind as they are leaves the data as it is. -/
theorem renumber_of_over (hkey : ∀ n, kind n → key n = n) : ∀ {v : Value}, v.Over kind →
    renumber key v = v
  | .null, _ => rfl
  | .bool _, _ => rfl
  | .str _, _ => rfl
  | .num n, h => congrArg num (hkey n h)
  | .arr _, h => congrArg arr (renumberItems_of_over hkey h)
  | .obj _, h => congrArg obj (renumberFields_of_over hkey h.2)

/-- Items whose numbers are their own keys are not changed. -/
theorem renumberItems_of_over (hkey : ∀ n, kind n → key n = n) : ∀ {vs : List Value},
    OverItems kind vs → renumberItems key vs = vs
  | [], _ => rfl
  | v :: vs, h => by rw [renumberItems, renumber_of_over hkey h.1, renumberItems_of_over hkey h.2]

theorem renumberFields_of_over (hkey : ∀ n, kind n → key n = n) : ∀ {fs : List (String × Value)},
    OverFields kind fs → renumberFields key fs = fs
  | [], _ => rfl
  | (k, v) :: fs, h => by rw [renumberFields, renumber_of_over hkey h.1, renumberFields_of_over hkey h.2]

end

end

end Value

/-! ## Numbers as they are compared -/

/-- Whether a whole number fits in sixty-four bits, with a sign or without. -/
def Numeral.InWord (n : Int) : Prop := -9223372036854775808 ≤ n ∧ n ≤ Numeral.maxWord

/-- A whole number in a word is not greater than the greatest word, whatever its sign. -/
theorem Numeral.InWord.natAbs_le {n : Int} (h : InWord n) : n.natAbs ≤ maxWord := by
  obtain ⟨hleast, hmost⟩ := h
  rw [maxWord] at hmost ⊢
  omega

namespace Number

/-- Numbers as they are stored: whole ones of sixty-four bits, and finite doubles. -/
def Stored : Number → Prop
  | .int n => Numeral.InWord n
  | .float x => x.isFinite = true

/-- The number as comparisons see it: a double, but that there is one zero only. -/
def compared (n : Number) : Number := if n.toFloat == 0 then .int 0 else .float n.toFloat

/-- A number that is stored is one when it is converted. -/
theorem toFloat_ne_nan {n : Number} (h : n.Stored) : n.toFloat ≠ Float.nan := by
  cases n with
  | int n => exact Double.ofInt_ne_nan (Numeral.InWord.natAbs_le h)
  | float x =>
    intro hnan
    have hfinite : x.isFinite = true := h
    obtain rfl : x = Float.nan := hnan
    cases hfinite

/-- **Comparisons see the same number exactly if the doubles are equal.** -/
theorem settles_compared : Value.Settles Stored compared := by
  intro m n hm hn
  have hm := toFloat_ne_nan hm
  have hn := toFloat_ne_nan hn
  rw [compared, compared]
  generalize m.toFloat = x at hm ⊢
  generalize n.toFloat = y at hn ⊢
  by_cases hx : (x == 0) = true <;> by_cases hy : (y == 0) = true
  · rw [if_pos hx, if_pos hy]
    exact iff_of_true (BEq.trans hx (BEq.symm hy)) rfl
  · rw [if_pos hx, if_neg hy]
    exact iff_of_false (fun hxy => hy (BEq.trans (BEq.symm hxy) hx)) nofun
  · rw [if_neg hx, if_pos hy]
    exact iff_of_false (fun hxy => hx (BEq.trans hxy hy)) nofun
  · rw [if_neg hx, if_neg hy, Number.float.injEq, Float.beq_iff_ne_nan_and_eq]
    constructor
    · rintro ⟨-, -, heq | ⟨rfl, -⟩ | ⟨-, rfl⟩⟩
      · exact heq
      · exact absurd (by rfl) hx
      · exact absurd (by rfl) hy
    · exact fun heq => ⟨hm, hn, Or.inl heq⟩

end Number

/-! ## Equality is an equivalence -/

/-- Data as it is stored: trees of any depth, with numbers of all sorts in them. -/
abbrev Data := {v : Value // v.Over Number.Stored}

namespace Data

/-- Data is equal exactly if comparisons see the same in it. -/
theorem equal_iff (a b : Data) :
    a.1.equal b.1 = true ↔ a.1.renumber Number.compared = b.1.renumber Number.compared :=
  Value.equal_iff_renumber Number.settles_compared a.2 b.2

end Data

/-- **Equality is an equivalence of all data that is stored**: data equals itself, it makes no difference
which of two is on the left, and what equals the same is equal. -/
theorem equality_is_an_equivalence :
    (∀ a : Data, a.1.equal a.1 = true)
    ∧ (∀ a b : Data, a.1.equal b.1 = b.1.equal a.1)
    ∧ ∀ a b c : Data, a.1.equal b.1 = true → b.1.equal c.1 = true → a.1.equal c.1 = true := by
  refine ⟨fun a => (Data.equal_iff a a).2 rfl, fun a b => ?_, fun a b c hab hbc => ?_⟩
  · rw [Bool.eq_iff_iff, Data.equal_iff, Data.equal_iff]
    exact eq_comm
  · rw [Data.equal_iff] at hab hbc ⊢
    exact hab.trans hbc

-- whole numbers and doubles may be mixed, at any depth
example : Value.equal (.obj [("x", .arr [.int 1, .int 2])]) (.obj [("x", .arr [.float 1, .int 2])])
    = true := by rfl

/-! ## Whole numbers -/

namespace Number

/-- Whole numbers of sixty-four bits. -/
def Whole : Number → Prop
  | .int n => Numeral.InWord n
  | .float _ => False

/-- Whole numbers that have doubles of their own, and all below them too. -/
def Small : Number → Prop
  | .int n => n.natAbs ≤ 2 ^ 53
  | .float _ => False

/-- The whole number whose double stands for this one. -/
def rounded : Number → Number
  | .int n => .int (Double.nearest n)
  | .float x => .float x

/-- **Doubles of whole numbers are equal exactly if they are rounded to the same.** -/
theorem settles_rounded : Value.Settles Whole rounded := by
  intro m n hm hn
  cases m with
  | float x => exact hm.elim
  | int m =>
    cases n with
    | float y => exact hn.elim
    | int n =>
      rw [rounded, rounded, Number.int.injEq]
      exact Double.ofInt_beq_iff (Numeral.InWord.natAbs_le hm) (Numeral.InWord.natAbs_le hn)

/-- A small number is its own double. -/
theorem rounded_of_small : ∀ n, Small n → rounded n = n
  | .int n, h => by rw [rounded, Double.nearest_of_small h]

end Number

/-- **A condition holds two whole numbers for equal exactly if they are rounded to the same**, and so at any
depth of lists and records.  The same number is always equal to itself; up to `2 ^ 53` no other one is. -/
theorem whole_numbers_compare_as_doubles (env : Env) (context : Context) (c : Condition) {a b : Value}
    (ha : a.Over Number.Whole) (hb : b.Over Number.Whole) (hfield : Context.read? context c.field = some a)
    (htest : c.test = .equals b) :
    ∃ holds, c.check env context = pure holds
      ∧ (holds = true ↔ a.renumber Number.rounded = b.renumber Number.rounded)
      ∧ (∀ m n, a = .int m → b = .int n → (holds = true ↔ Double.nearest m = Double.nearest n))
      ∧ (a = b → holds = true)
      ∧ (a.Over Number.Small → b.Over Number.Small → (holds = true ↔ a = b)) := by
  have hequal := Value.equal_iff_renumber Number.settles_rounded ha hb
  refine ⟨a.equal b, ?_, hequal, ?_, ?_, ?_⟩
  · simp only [Condition.check, htest, hfield, Option.getD_some]
  · rintro m n rfl rfl
    rw [hequal, Value.renumber, Value.renumber, Value.num.injEq, Number.rounded, Number.rounded,
      Number.int.injEq]
  · rintro rfl
    exact hequal.2 rfl
  · intro hsmall hsmall'
    rw [hequal, Value.renumber_of_over Number.rounded_of_small hsmall,
      Value.renumber_of_over Number.rounded_of_small hsmall']

/-- Two orders that differ by one in a number beyond `2 ^ 53` are equal. -/
theorem whole_numbers_compare_as_doubles_order :
    let order : Value := .obj [("ids", .arr [.int 9007199254740993, .int (-7)])]
    let listed : Value := .obj [("ids", .arr [.int 9007199254740992, .int (-7)])]
    let c : Condition := { field := "order", test := .equals listed }
    order.Over Number.Whole ∧ listed.Over Number.Whole
    ∧ Context.read? [("order", order)] c.field = some order ∧ c.test = .equals listed
    ∧ c.check ⟨.alone, .builtin, { perCall := 1000 }⟩ [("order", order)] = pure true := by
  intro order listed c
  have horder : order.Over Number.Whole :=
    ⟨List.pairwise_singleton _ _, ⟨⟨by decide, by decide⟩, ⟨by decide, by decide⟩, trivial⟩, trivial⟩
  have hlisted : listed.Over Number.Whole :=
    ⟨List.pairwise_singleton _ _, ⟨⟨by decide, by decide⟩, ⟨by decide, by decide⟩, trivial⟩, trivial⟩
  have hfield : Context.read? [("order", order)] c.field = some order := by
    show Context.read? [("order", order)] "order" = _
    rfl
  obtain ⟨holds, hcheck, hholds, -⟩ := whole_numbers_compare_as_doubles
    ⟨.alone, .builtin, { perCall := 1000 }⟩ [("order", order)] c horder hlisted hfield rfl
  obtain rfl : holds = true := hholds.2 (by rfl)
  exact ⟨horder, hlisted, hfield, rfl, hcheck⟩

/-- Two neighbours that share a double pass for equal. -/
theorem neighbours_pass_for_equal :
    (9007199254740992 : Int) ≠ 9007199254740993
    ∧ (Condition.check ⟨.alone, .builtin, { perCall := 1000 }⟩
        { field := "id", test := .equals (.int 9007199254740993) }
        [("id", .int 9007199254740992)]).runIn {} = (.ok true, {}) :=
  ⟨by decide, by rfl⟩

end Arbiter
