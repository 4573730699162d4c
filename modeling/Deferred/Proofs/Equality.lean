import Deferred.Proofs.Members
import Deferred.Proofs.Ranks

/-!
# The laws of equality

Two values are equal when they are alike apart from their constituents and these are equal in pairs
(`Value.beq_iff`). Whether they are alike is decided at their heads, where nothing is nested, so
each law is a statement about heads and an induction over constituents.

Equality is symmetric, and it is reflexive on all values in which there is no NaN. It is not
transitive: an integer is rounded when it is compared with a float but not when it is compared with
another integer, so that a float of 2^53 is equal to two integers
(`Value.equality_not_transitive`). Nothing else keeps it from being transitive. If `a` equals `b`
and `b` equals `c`, then `a` equals `c` unless the three have somewhere at the same place two
different integers with a float between them. The main statement is `Value.equality_laws`.
-/

namespace Deferred

namespace Value

/-! ## Heads -/

/-- The two values are equal apart from their constituents. Numbers of which one is a float are
alike when they have the same rank. -/
inductive Alike : Value → Value → Prop where
  | null : Alike null null
  | unset : Alike unset unset
  | boolean (b : Bool) : Alike (boolean b) (boolean b)
  | integer (n : Int64) : Alike (integer n) (integer n)
  | floats {x y : Float} {i : Binary64.Rank} (hx : Binary64.rank? x = some i)
      (hy : Binary64.rank? y = some i) : Alike (float x) (float y)
  | integerFloat {n : Int64} {x : Float}
      (h : Binary64.rank? x = some (Binary64.rankOfInt n.toInt)) : Alike (integer n) (float x)
  | floatInteger {x : Float} {n : Int64}
      (h : Binary64.rank? x = some (Binary64.rankOfInt n.toInt)) : Alike (float x) (integer n)
  | string (s : String) : Alike (string s) (string s)
  | array (as bs : List Value) : Alike (array as) (array bs)
  | object {d e : Dict Value} (h : d.keys.toList = e.keys.toList) : Alike (object d) (object e)
  | function (f : Function) : Alike (function f) (function f)
  | method (r s : Value) (name : String) : Alike (method r name) (method s name)

theorem Alike.symm {v w : Value} (h : Alike v w) : Alike w v := by
  cases h with
  | floats hx hy => exact .floats hy hx
  | integerFloat h => exact .floatInteger h
  | floatInteger h => exact .integerFloat h
  | object h => exact .object h.symm
  | array as bs => exact .array bs as
  | method r s name => exact .method s r name
  | null => exact .null
  | unset => exact .unset
  | boolean b => exact .boolean b
  | integer n => exact .integer n
  | string s => exact .string s
  | function f => exact .function f

/-- Only a NaN is not like itself. -/
theorem alike_self_iff {v : Value} : Alike v v ↔ ∀ x, v = float x → x.isNaN = false := by
  constructor
  · rintro h x rfl
    cases h with
    | floats hx _ =>
      rw [← Bool.not_eq_true, ← Binary64.rank?_eq_none_iff, hx]
      exact nofun
  · intro h
    cases v with
    | null => exact .null
    | unset => exact .unset
    | boolean b => exact .boolean b
    | integer n => exact .integer n
    | string s => exact .string s
    | array items => exact .array items items
    | object fields => exact .object rfl
    | function f => exact .function f
    | method receiver name => exact .method receiver receiver name
    | float x =>
      have hrank : Binary64.rank? x ≠ none := by
        rw [Ne, Binary64.rank?_eq_none_iff, h x rfl]
        exact nofun
      obtain ⟨i, hi⟩ := Option.ne_none_iff_exists'.1 hrank
      exact .floats hi hi

/-! ## Equality by heads and constituents -/

/-- A constructor of values that compares what it holds exactly. -/
theorem beq_atom_iff {α : Type} [BEq α] [LawfulBEq α] {f : α → Value} {a b : α}
    (hbeq : (f a == f b) = (a == b)) (hsame : Alike (f a) (f a))
    (hinj : Alike (f a) (f b) → a = b) :
    (f a == f b) = true ↔
      Alike (f a) (f b) ∧ List.Forall₂ (fun u v : Value => (u == v) = true) [] [] := by
  rw [hbeq, beq_iff_eq]
  constructor
  · rintro rfl
    exact ⟨hsame, .nil⟩
  · rintro ⟨h, -⟩
    exact hinj h

theorem beq_float_iff {x y : Float} :
    (float x == float y) = true ↔ Alike (float x) (float y) := by
  rw [beq_iff_of_isFloat (.inl rfl)]
  constructor
  · rintro ⟨i, hx, hy⟩
    exact .floats hx hy
  · intro h
    cases h with
    | floats hx hy => exact ⟨_, hx, hy⟩

theorem beq_integer_float_iff {n : Int64} {x : Float} :
    (integer n == float x) = true ↔ Alike (integer n) (float x) := by
  rw [beq_iff_of_isFloat (.inr rfl), rank?_integer]
  constructor
  · rintro ⟨i, ⟨⟩, hx⟩
    exact .integerFloat hx
  · intro h
    cases h with
    | integerFloat h => exact ⟨_, rfl, h⟩

theorem beq_float_integer_iff {n : Int64} {x : Float} :
    (float x == integer n) = true ↔ Alike (float x) (integer n) := by
  rw [beq_iff_of_isFloat (.inl rfl), rank?_integer]
  constructor
  · rintro ⟨i, hx, ⟨⟩⟩
    exact .floatInteger hx
  · intro h
    cases h with
    | floatInteger h => exact ⟨_, h, rfl⟩

/-- Two values are equal when they are alike and their constituents are equal in pairs. -/
theorem beq_iff {v w : Value} :
    (v == w) = true ↔
      Alike v w ∧ List.Forall₂ (fun a b => (a == b) = true) v.constituents w.constituents := by
  cases v with
  | null =>
    cases w with
    | null => exact iff_of_true rfl ⟨.null, .nil⟩
    | _ => exact iff_of_false Bool.false_ne_true (by rintro ⟨⟨⟩, -⟩)
  | unset =>
    cases w with
    | unset => exact iff_of_true rfl ⟨.unset, .nil⟩
    | _ => exact iff_of_false Bool.false_ne_true (by rintro ⟨⟨⟩, -⟩)
  | boolean a =>
    cases w with
    | boolean b => exact beq_atom_iff rfl (.boolean a) (by rintro ⟨⟩; rfl)
    | _ => exact iff_of_false Bool.false_ne_true (by rintro ⟨⟨⟩, -⟩)
  | integer m =>
    cases w with
    | integer n => exact beq_atom_iff rfl (.integer m) (by rintro ⟨⟩; rfl)
    | float x => exact beq_integer_float_iff.trans (and_iff_left .nil).symm
    | _ => exact iff_of_false Bool.false_ne_true (by rintro ⟨⟨⟩, -⟩)
  | float x =>
    cases w with
    | float y => exact beq_float_iff.trans (and_iff_left .nil).symm
    | integer n => exact beq_float_integer_iff.trans (and_iff_left .nil).symm
    | _ => exact iff_of_false Bool.false_ne_true (by rintro ⟨⟨⟩, -⟩)
  | string s =>
    cases w with
    | string t => exact beq_atom_iff rfl (.string s) (by rintro ⟨⟩; rfl)
    | _ => exact iff_of_false Bool.false_ne_true (by rintro ⟨⟨⟩, -⟩)
  | array as =>
    cases w with
    | array bs =>
      rw [beq_def, equal, equalItems_iff_forall₂]
      exact (and_iff_right (.array as bs)).symm
    | _ => exact iff_of_false Bool.false_ne_true (by rintro ⟨⟨⟩, -⟩)
  | object d =>
    cases w with
    | object e =>
      rw [beq_object_iff]
      apply and_congr_left'
      exact ⟨.object, fun h => by cases h with | object h => exact h⟩
    | _ => exact iff_of_false Bool.false_ne_true (by rintro ⟨⟨⟩, -⟩)
  | function f =>
    cases w with
    | function g => exact beq_atom_iff rfl (.function f) (by rintro ⟨⟩; rfl)
    | _ => exact iff_of_false Bool.false_ne_true (by rintro ⟨⟨⟩, -⟩)
  | method r name =>
    cases w with
    | method s name' =>
      rw [beq_def, equal, Bool.and_eq_true, beq_iff_eq, ← beq_def]
      constructor
      · rintro ⟨h, rfl⟩
        exact ⟨.method r s name, .cons h .nil⟩
      · rintro ⟨⟨⟩, hreceivers⟩
        cases hreceivers with
        | cons h _ => exact ⟨h, rfl⟩
    | _ => exact iff_of_false Bool.false_ne_true (by rintro ⟨⟨⟩, -⟩)

/-! ## Symmetry and reflexivity -/

theorem beq_of_beq {v w : Value} (h : (v == w) = true) : (w == v) = true := by
  induction v using ind_constituents generalizing w with
  | value v ih =>
    obtain ⟨halike, hconstituents⟩ := beq_iff.1 h
    refine beq_iff.2 ⟨halike.symm, List.Forall₂.flip ?_⟩
    have hflip : ∀ u ∈ v.constituents, ∀ w, (u == w) = true → (w == u) = true :=
      fun u hu w => ih u hu
    exact ((List.forall₂_and_left _ _).2 ⟨hflip, hconstituents⟩).imp fun a b h => h.1 b h.2

/-- It does not matter on which side of an equality a value is. -/
theorem beq_symm (v w : Value) : (v == w) = (w == v) := by
  rw [Bool.eq_iff_iff]
  exact ⟨beq_of_beq, beq_of_beq⟩

/-- A value contains itself, and what its constituents contain. -/
inductive Contains (u : Value) : Value → Prop where
  | itself : Contains u u
  | within {v w : Value} (hv : v ∈ w.constituents) (h : Contains u v) : Contains u w

/-- A value equals itself exactly if there is no NaN in it. -/
theorem beq_self_iff {v : Value} :
    (v == v) = true ↔ ∀ x, Contains (float x) v → x.isNaN = false := by
  induction v using ind_constituents with
  | value v ih =>
    rw [beq_iff, alike_self_iff, List.forall₂_same]
    constructor
    · rintro ⟨hself, hconstituents⟩ x hx
      cases hx with
      | itself => exact hself x rfl
      | within hv h => exact (ih _ hv).1 (hconstituents _ hv) x h
    · intro h
      constructor
      · rintro x rfl
        exact h x .itself
      · intro w hw
        exact (ih w hw).2 fun x hx => h x (.within hw hx)

/-! ## Transitivity -/

/-- There are two different integers at the same place in `a` and `c`, so large that floats do not
tell them apart, and a float is there in `b`. -/
inductive Blurs : Value → Value → Value → Prop where
  | here {m n : Int64} {x : Float} (hne : m ≠ n) (hm : twoTo 53 ≤ m.toInt.natAbs)
      (hn : twoTo 53 ≤ n.toInt.natAbs) : Blurs (integer m) (float x) (integer n)
  | within {a b c u v w : Value} (i : Nat) (hu : a.constituents[i]? = some u)
      (hv : b.constituents[i]? = some v) (hw : c.constituents[i]? = some w)
      (h : Blurs u v w) : Blurs a b c

/-- Two integers that share a float are the same, or both are large. -/
theorem blurs_of_rank {m n : Int64} (x : Float) (hne : m ≠ n)
    (h : Binary64.rankOfInt m.toInt = Binary64.rankOfInt n.toInt) :
    Blurs (integer m) (float x) (integer n) := by
  have hlarge : ∀ {k l : Int64}, k ≠ l →
      Binary64.rankOfInt k.toInt = Binary64.rankOfInt l.toInt → twoTo 53 ≤ k.toInt.natAbs := by
    intro k l hkl hrank
    apply Nat.le_of_not_lt
    intro hsmall
    exact hkl (Int64.toInt_inj.1 (Binary64.rankOfInt_inj hsmall hrank))
  exact .here hne (hlarge hne h) (hlarge hne.symm h.symm)

theorem Alike.trans {a b c : Value} (hab : Alike a b) (hbc : Alike b c) :
    Alike a c ∨ Blurs a b c := by
  cases hab with
  | null => exact .inl hbc
  | unset => exact .inl hbc
  | boolean b => exact .inl hbc
  | integer n => exact .inl hbc
  | string s => exact .inl hbc
  | function f => exact .inl hbc
  | array as bs =>
    cases hbc with
    | array _ cs => exact .inl (.array as cs)
  | object hkeys =>
    cases hbc with
    | object hkeys' => exact .inl (.object (hkeys.trans hkeys'))
  | method r s name =>
    cases hbc with
    | method _ t _ => exact .inl (.method r t name)
  | floats hx hy =>
    cases hbc with
    | floats hy' hz => exact .inl (.floats hx ((hz.trans hy'.symm).trans hy))
    | floatInteger hy' => exact .inl (.floatInteger ((hx.trans hy.symm).trans hy'))
  | floatInteger hx =>
    cases hbc with
    | integer n => exact .inl (.floatInteger hx)
    | integerFloat hy => exact .inl (.floats hx hy)
  | @integerFloat m x hx =>
    cases hbc with
    | floats hx' hy => exact .inl (.integerFloat ((hy.trans hx'.symm).trans hx))
    | @floatInteger _ n hx' =>
      by_cases hmn : m = n
      · subst hmn
        exact .inl (.integer m)
      · exact .inr (blurs_of_rank x hmn (Option.some.inj (hx.symm.trans hx')))

theorem forall₂_of_chain {R : Value → Value → Prop} {as bs cs : List Value}
    (hab : List.Forall₂ R as bs) (hbc : List.Forall₂ R bs cs)
    (h : ∀ (i : Nat) (u v w : Value), as[i]? = some u → bs[i]? = some v → cs[i]? = some w →
      R u v → R v w → R u w) : List.Forall₂ R as cs := by
  induction hab generalizing cs with
  | nil => exact hbc
  | cons huv _ ih =>
    cases hbc with
    | cons hvw hbc =>
      refine .cons (h 0 _ _ _ rfl rfl rfl huv hvw) (ih hbc ?_)
      intro i u v w hu hv hw
      exact h (i + 1) u v w hu hv hw

/-- Where something is blurred the values are not equal. -/
theorem Blurs.not_beq {a b c : Value} (h : Blurs a b c) : ¬ (a == c) = true := by
  induction h with
  | here hne _ _ =>
    rw [beq_iff]
    rintro ⟨⟨⟩, -⟩
    exact hne rfl
  | within i hu hv hw _ ih =>
    rw [beq_iff]
    rintro ⟨-, hconstituents⟩
    obtain ⟨hi, rfl⟩ := List.getElem?_eq_some_iff.1 hu
    obtain ⟨hj, rfl⟩ := List.getElem?_eq_some_iff.1 hw
    exact ih (hconstituents.get hi hj)

theorem beq_trans {a b c : Value} (hab : (a == b) = true) (hbc : (b == c) = true)
    (h : ¬ Blurs a b c) : (a == c) = true := by
  induction a using ind_constituents generalizing b c with
  | value a ih =>
    obtain ⟨hleft, hfirst⟩ := beq_iff.1 hab
    obtain ⟨hright, hsecond⟩ := beq_iff.1 hbc
    refine beq_iff.2 ⟨(hleft.trans hright).resolve_right h, ?_⟩
    apply forall₂_of_chain hfirst hsecond
    intro i u v w hu hv hw huv hvw
    exact ih u (List.mem_of_getElem? hu) huv hvw fun hblurs => h (.within i hu hv hw hblurs)

/-- Equality is symmetric, and a value equals itself exactly if it contains no NaN. In a row of
three the first equals the last exactly if no integers are blurred on the way. -/
theorem equality_laws :
    (∀ a b : Value, (a == b) = (b == a)) ∧
    (∀ a : Value, (a == a) = true ↔ ∀ x, Contains (float x) a → x.isNaN = false) ∧
    ∀ a b c : Value, (a == b) = true → (b == c) = true → ((a == c) = true ↔ ¬ Blurs a b c) := by
  refine ⟨beq_symm, fun a => beq_self_iff, ?_⟩
  intro a b c hab hbc
  exact ⟨fun hac hblurs => hblurs.not_beq hac, beq_trans hab hbc⟩

/-- Two lists of integers that are equal to the same list of floats and still not to each other,
because the second integers are blurred. -/
theorem equality_laws_blurred :
    let a := array [integer 1, integer 9007199254740992]
    let b := array [float 1, float 9007199254740992]
    let c := array [integer 1, integer 9007199254740993]
    (a == b) = true ∧ (b == c) = true ∧ Blurs a b c ∧ ((a == c) = true ↔ ¬ Blurs a b c) := by
  intro a b c
  have hab : (a == b) = true := by decide
  have hbc : (b == c) = true := by decide
  have hblurs : Blurs a b c :=
    .within 1 rfl rfl rfl (.here (by decide) (by decide) (by decide))
  exact ⟨hab, hbc, hblurs, equality_laws.2.2 a b c hab hbc⟩

/-- Equality is not transitive. -/
theorem equality_not_transitive :
    (integer 9007199254740992 == float 9007199254740992) = true ∧
    (float 9007199254740992 == integer 9007199254740993) = true ∧
    (integer 9007199254740992 == integer 9007199254740993) = false :=
  ⟨by decide, by decide, by decide⟩

end Value

end Deferred
