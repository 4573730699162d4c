import Deferred.Check.View
import Deferred.Proofs.Matchers

/-!
# Positions

Items of arrays, characters of texts and records of views are all found by position, and for all of
them an index means the same. What it names is said once, as a relation (`Names`): the place counted
from the start, the place counted from the end, or nothing outside of both. The look-up computes
this relation and nothing else (`names_iff`), so an array, a text and a view differ only in what
they do where nothing is named.

Main statement: `positions_law`. Selecting by position and capping a view belong together there
(`View.Positional`), and a text is what its characters spell when they are read one by one
(`Value.spelled`). The length is a number of things, which is an integer of 64 bits
(`Builtin.Counts`).
-/

namespace Deferred

/-! ## Numbers of things -/

/-- The outcome is the number `n` of things, and the integer `n` itself if 64 bits hold it. -/
structure Builtin.Counts (n : Nat) (outcome : Except Fault Value) : Prop where
  eq_countOf : outcome = .ok (countOf n)
  exact : n < twoTo 63 → ∃ r : Int64, outcome = .ok (.integer r) ∧ r.toInt = n

theorem Builtin.counts_countOf (n : Nat) : Counts n (.ok (countOf n)) where
  eq_countOf := rfl
  exact h := ⟨_, rfl, Int64.toInt_ofNat_of_lt h⟩

/-! ## What an index names -/

/-- The element that an index names in a list, if it names one: an index that is not negative counts
from the start, and a negative one from the end. -/
inductive Names {α : Type} (items : List α) (index : Int64) : Option α → Prop where
  | fromStart {i : Nat} {a : α} (hindex : index.toInt = i) (ha : items[i]? = some a) :
    Names items index (some a)
  | fromEnd {i : Nat} {a : α} (hindex : index.toInt + items.length = i) (hneg : index.toInt < 0)
    (ha : items[i]? = some a) : Names items index (some a)
  | outside (h : index.toInt < -(items.length : Int) ∨ items.length ≤ index.toInt) :
    Names items index none

/-- The indices that name something in a list of this length. -/
def InRange (length : Nat) (index : Int64) : Prop :=
  -(length : Int) ≤ index.toInt ∧ index.toInt < length

section Names

variable {α : Type} {items : List α} {index : Int64}

theorem not_inRange_iff {length : Nat} :
    ¬ InRange length index ↔ index.toInt < -(length : Int) ∨ length ≤ index.toInt := by
  unfold InRange
  omega

theorem Names.isSome_iff {found : Option α} (h : Names items index found) :
    found.isSome = true ↔ InRange items.length index := by
  cases h with
  | @fromStart i a hindex ha =>
    have hi := (List.getElem?_eq_some_iff.1 ha).1
    simp [InRange]
    omega
  | @fromEnd i a hindex hneg ha =>
    have hi := (List.getElem?_eq_some_iff.1 ha).1
    simp [InRange]
    omega
  | outside h => simp [not_inRange_iff.2 h]

theorem names_atIndex? (items : List α) (index : Int64) :
    Names items index (Value.atIndex? items index) := by
  by_cases hrange : InRange items.length index
  · obtain ⟨hlow, hhigh⟩ := hrange
    by_cases hneg : index.toInt < 0
    · have hback : index.toInt = -((-index.toInt - 1).toNat + 1 : Int) := by omega
      have hplace : (-index.toInt - 1).toNat < items.length := by omega
      rw [Value.atIndex?_of_neg hback, List.getElem?_reverse hplace]
      have hi : items.length - 1 - (-index.toInt - 1).toNat < items.length := by omega
      rw [List.getElem?_eq_getElem hi]
      exact .fromEnd (by omega) hneg (List.getElem?_eq_getElem hi)
    · have hindex : index.toInt = index.toInt.toNat := by omega
      have hi : index.toInt.toNat < items.length := by omega
      rw [Value.atIndex?_of_nonneg hindex, List.getElem?_eq_getElem hi]
      exact .fromStart hindex (List.getElem?_eq_getElem hi)
  · rw [not_inRange_iff] at hrange
    rw [Value.atIndex?_of_out_of_range hrange]
    exact .outside hrange

/-- An index names one thing at most. -/
theorem Names.unique {found found' : Option α} (h : Names items index found)
    (h' : Names items index found') : found = found' := by
  have hsome := h.isSome_iff.trans h'.isSome_iff.symm
  cases h with
  | outside h =>
    cases found' with
    | none => rfl
    | some a => simp at hsome
  | @fromStart i a hindex ha =>
    cases h' with
    | @fromStart j b hindex' hb =>
      have hij : i = j := by omega
      rw [← ha, ← hb, hij]
    | fromEnd _ hneg _ => omega
    | outside h => simp at hsome
  | @fromEnd i a hindex hneg ha =>
    cases h' with
    | fromStart hindex' _ => omega
    | @fromEnd j b hindex' _ hb =>
      have hij : i = j := by omega
      rw [← ha, ← hb, hij]
    | outside h => simp at hsome

/-- The look-up answers what the index names. -/
theorem names_iff {found : Option α} :
    Names items index found ↔ found = Value.atIndex? items index := by
  constructor
  · intro h
    exact h.unique (names_atIndex? items index)
  · rintro rfl
    exact names_atIndex? items index

theorem atIndex?_zero : Value.atIndex? items 0 = items.head? := by
  have hzero : (0 : Int64).toInt = (0 : Nat) := rfl
  rw [Value.atIndex?_of_nonneg hzero, List.head?_eq_getElem?]

theorem atIndex?_neg_one : Value.atIndex? items (-1) = items.getLast? := by
  have hlast : (-1 : Int64).toInt = -((0 : Nat) + 1 : Int) := rfl
  rw [Value.atIndex?_of_neg hlast, ← List.head?_eq_getElem?, List.head?_reverse]

end Names

/-! ## Arrays and texts -/

namespace Value

/-- The outcome of a look-up: what is found, or the fault that nothing is. -/
def foundOr (fault : AccessFault) : Option Value → Except Fault Value
  | some v => .ok v
  | none => .error (.access fault)

/-- A character is a text of its own. -/
def character (c : Char) : Value := string (String.singleton c)

theorem item_array (items : List Value) (n : Int64) :
    (array items).item (integer n) =
      foundOr (.arrayIndex n items.length) (atIndex? items n) := by
  rw [item]
  cases atIndex? items n <;> rfl

theorem item_string (s : String) (n : Int64) :
    (string s).item (integer n) =
      foundOr (.stringIndex n s.length) ((atIndex? s.toList n).map character) := by
  rw [item]
  cases atIndex? s.toList n <;> rfl

/-- The text of the first `n` characters of `s`, which are read one by one and joined. -/
def spelled [Decimals] (s : String) : Nat → Except Fault Value
  | 0 => .ok (string "")
  | n + 1 => do
    BinaryOp.apply (.arith .add) (← spelled s n) (← (string s).item (integer (Int64.ofNat n)))

variable {s : String} {n : Nat}

/-- Reading at a place from the start finds the character there. -/
theorem item_string_of_lt (hs : s.length < twoTo 63) (hn : n < s.toList.length) :
    (string s).item (integer (Int64.ofNat n)) = .ok (character s.toList[n]) := by
  have hindex : (Int64.ofNat n).toInt = n := Int64.toInt_ofNat_of_lt (Nat.lt_trans hn hs)
  rw [item_string, atIndex?_of_nonneg hindex, List.getElem?_eq_getElem hn]
  rfl

/-- After `n` characters the first `n` characters are spelled. -/
theorem spelled_eq [Decimals] (hs : s.length < twoTo 63) (hn : n ≤ s.toList.length) :
    spelled s n = .ok (string (String.ofList (s.toList.take n))) := by
  induction n with
  | zero => rfl
  | succ n ih =>
    rw [spelled, ih (Nat.le_of_succ_le hn), item_string_of_lt hs hn,
      List.take_succ_eq_append_getElem hn, String.ofList_append]
    rfl

end Value

/-- An item of the argument, looked up in an expression. -/
theorem Expr.value_item [Decimals] [Patterns] (host : Host) (v key : Value) (nav : Navigation) :
    (Expr.it.item (.literal key)).value host { positional := [v], navigation := nav } =
      nav.access (v.item key) := by
  rw [value_of_ready rfl]
  show Except.map _ (nav.access (v.item key) >>= _) = _
  cases nav.access (v.item key) <;> rfl

/-! ## Views -/

namespace View

/-- How selecting by position and capping go together on a view. -/
structure Positional (view : View) : Prop where
  first_eq_atIndex : view.first = view.atIndex 0
  first_eq_cap : view.first = view.cap 1
  last_eq_atIndex : view.last = view.atIndex (-1)
  atIndex_eq_last_cap : ∀ i : Int64, 0 ≤ i.toInt → i.toInt < view.count →
    view.atIndex i = (view.cap (i.toInt.toNat + 1)).last
  cap_cap : ∀ m k, (view.cap m).cap k = view.cap (min m k)

variable (view : View)

theorem positional : view.Positional where
  first_eq_atIndex := by
    rw [first, atIndex, atIndex?_zero]
  first_eq_cap := by
    rw [first, cap, List.take_one]
  last_eq_atIndex := by
    rw [last, atIndex, atIndex?_neg_one]
  atIndex_eq_last_cap := by
    intro i hlow hhigh
    have hindex : i.toInt = i.toInt.toNat := by omega
    have hplace : i.toInt.toNat < view.items.length := by
      unfold count at hhigh
      omega
    rw [last, atIndex, cap, Value.atIndex?_of_nonneg hindex, List.getLast?_take,
      if_neg (Nat.succ_ne_zero _), Nat.add_sub_cancel, List.getElem?_eq_getElem hplace,
      Option.some_or]
  cap_cap := by
    intro m k
    rw [cap, cap, cap, List.take_take, Nat.min_comm]

end View

/-! ## One law -/

/-- An index finds the same in an array, in a text and in a view: what it names, which is something
exactly from the length below zero up to the length. An expression with strict navigation has the
outcome of the look-up, fault or not, and with safe navigation absence in place of the fault. A text
is what its characters spell, its length is their number, and selecting by position is in keeping
with capping. -/
theorem positions_law [Decimals] [Patterns] (host : Host) :
    (∀ (items : List Value) (n : Int64), ∃ found, (∀ o, Names items n o ↔ o = found) ∧
      (found.isSome = true ↔ InRange items.length n) ∧
      (Value.array items).item (.integer n) =
        Value.foundOr (.arrayIndex n items.length) found ∧
      ∀ q options, View.atIndex ⟨items, q, options⟩ n = ⟨found.toList, q, options⟩) ∧
    (∀ (s : String) (n : Int64), ∃ found, (∀ o, Names s.toList n o ↔ o = found) ∧
      (found.isSome = true ↔ InRange s.length n) ∧
      (Value.string s).item (.integer n) =
        Value.foundOr (.stringIndex n s.length) (found.map Value.character)) ∧
    (∀ (v : Value) (n : Int64),
      (Expr.it.item (.literal (.integer n))).value host { positional := [v] } =
        v.item (.integer n) ∧
      (Expr.it.item (.literal (.integer n))).value host
        { positional := [v], navigation := .safe } =
          .ok (Probe.orUnset (v.item (.integer n)))) ∧
    (∀ (s : String) (args : List Value) (named : Named),
      Builtin.Counts s.length (Builtin.invoke (.string s) "len" args named) ∧
      (s.length < twoTo 63 → Value.spelled s s.length = .ok (.string s))) ∧
    (∀ (items args : List Value) (named : Named),
      Builtin.Counts items.length (Builtin.invoke (.array items) "len" args named)) ∧
    ∀ view : View, view.Positional := by
  refine ⟨?array, ?text, ?expression, ?spelling, ?length, View.positional⟩
  case array =>
    intro items n
    have hrange := (names_atIndex? items n).isSome_iff
    exact ⟨_, fun o => names_iff, hrange, Value.item_array items n, fun q options => rfl⟩
  case text =>
    intro s n
    have hrange := (names_atIndex? s.toList n).isSome_iff
    rw [String.length_toList] at hrange
    exact ⟨_, fun o => names_iff, hrange, Value.item_string s n⟩
  case expression =>
    intro v n
    refine ⟨Expr.value_item host v _ .strict, ?_⟩
    rw [Expr.value_item]
    cases v.item (.integer n) <;> rfl
  case spelling =>
    intro s args named
    refine ⟨Builtin.counts_countOf s.length, ?_⟩
    intro hs
    have hall : s.length ≤ s.toList.length := Nat.le_of_eq String.length_toList.symm
    rw [Value.spelled_eq hs hall, List.take_of_length_le (Nat.le_of_eq String.length_toList),
      String.ofList_toList]
  case length => exact fun items args named => Builtin.counts_countOf items.length

/-- The first place counted from the end, the last place and the least index in a text of three
characters, two of them of several bytes; and the second of three records. -/
theorem positions_law_three :
    (Value.string "añ🙂").item (.integer (-3)) = .ok (.string "a") ∧
    (Value.string "añ🙂").item (.integer 2) = .ok (.string "🙂") ∧
    (Value.string "añ🙂").item (.integer .minValue) =
      .error (.access (.stringIndex .minValue 3)) ∧
    "añ🙂".length < twoTo 63 ∧ Value.spelled "añ🙂" 3 = .ok (.string "añ🙂") ∧
    (∃ r : Int64, Builtin.invoke (.string "añ🙂") "len" [] ∅ = .ok (.integer r) ∧ r.toInt = 3) ∧
    (View.ofRecords [.null, .boolean true, .unset]).atIndex 1 =
      ((View.ofRecords [.null, .boolean true, .unset]).cap 2).last := by
  have hshort : "añ🙂".length < twoTo 63 := by decide
  obtain ⟨-, htext, -, hspelling, -, hviews⟩ := positions_law Host.stock
  obtain ⟨hlength, hspelled⟩ := hspelling "añ🙂" [] ∅
  obtain ⟨found, hnames, -, hitem⟩ := htext "añ🙂" (-3)
  have hfirst : some 'a' = found := (hnames _).1 (.fromEnd rfl (by decide) rfl)
  subst hfirst
  have hcap := (hviews (.ofRecords [.null, .boolean true, .unset])).atIndex_eq_last_cap 1
    (by decide) (by decide)
  exact ⟨hitem, rfl, rfl, hshort, hspelled hshort, hlength.exact hshort, hcap⟩

end Deferred
