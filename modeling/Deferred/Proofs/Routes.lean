import Deferred.Proofs.CheckedIntegers
import Deferred.Proofs.Members
import Deferred.Proofs.WrittenForms
import Deferred.Proofs.Paths

/-!
# Routes through a record

A route is a list of segments. What a segment means is settled by the container that it is looked
up in: a key in an object, also where it reads as a number, and in an array a position, counted from
the start or from the end (`Value.HasMember`, `Value.LacksMember`). Routes that lead to a member and
routes that leave the record are made of such steps (`Value.Leads`, `Value.Strays`). None of this
speaks of probes or of paths.

One segment is compared with one step (`Probe.segment_of_hasMember`,
`Probe.segment_of_lacksMember`), and a run over segments with a route by induction on the route.

Main statement (`Probe.locate_route`): the segments of a route, joined by a separator that none of
them contains, locate the member and its container where the route leads to one, and absence where
it leaves the record.
-/

namespace Deferred

/-- A number that has 64 bits is read as itself. -/
theorem Text.integer?_of_fits {cs : List Char} {n : Int} (h : Decimal cs n) (hn : Integer.Fits n) :
    ∃ k : Int64, integer? cs = some k ∧ k.toInt = n := by
  cases hk : Integer.ofInt? n with
  | none => exact absurd hn (Integer.ofInt?_eq_none_iff_not_fits.1 hk)
  | some k => exact ⟨k, h.integer?_eq.trans hk, Integer.ofInt?_eq_some_iff.1 hk⟩

namespace Value

/-! ## Steps and routes -/

/-- A segment names a member: the value under a key, or the item at a place. -/
inductive HasMember : Value → String → Value → Prop where
  | field {fields : Dict Value} {key : String} {w : Value} (hw : fields.get? key = some w) :
    HasMember (.object fields) key w
  | fromStart {items : List Value} {s : String} {n : Nat} {w : Value}
    (hs : Text.Decimal s.toList n) (hn : Integer.Fits n) (hw : items[n]? = some w) :
    HasMember (.array items) s w
  | fromEnd {items : List Value} {s : String} {n : Nat} {w : Value}
    (hs : Text.Decimal s.toList (-(n + 1 : Int))) (hn : Integer.Fits (-(n + 1 : Int)))
    (hw : items.reverse[n]? = some w) : HasMember (.array items) s w

/-- A segment names no member: there is no such key or no such place, the segment is no position, or
the value has no members at all. -/
inductive LacksMember : Value → String → Prop where
  | noKey {fields : Dict Value} {key : String} (h : fields.get? key = none) :
    LacksMember (.object fields) key
  | outOfRange {items : List Value} {s : String} {n : Int} (hs : Text.Decimal s.toList n)
    (hn : n < -(items.length : Int) ∨ items.length ≤ n) : LacksMember (.array items) s
  | noInteger {items : List Value} {s : String} (h : ∀ n, ¬ Text.Decimal s.toList n) :
    LacksMember (.array items) s
  | plain {v : Value} {s : String}
    (h : v.kind ∈ [Kind.null, .boolean, .integer, .float, .function, .method]) : LacksMember v s

/-- The route leads from a value to the member `m` of `container`. -/
inductive Leads : Value → List String → Value → Value → Prop where
  | last {v m : Value} {s : String} (h : HasMember v s m) : Leads v [s] v m
  | next {v w container m : Value} {s : String} {route : List String} (h : HasMember v s w)
    (hrest : Leads w route container m) : Leads v (s :: route) container m

/-- The route comes, with segments left, to a value without the member that the next one names. -/
inductive Strays : Value → List String → Prop where
  | here {v : Value} {s : String} {route : List String} (h : LacksMember v s) :
    Strays v (s :: route)
  | later {v w : Value} {s : String} {route : List String} (h : HasMember v s w)
    (hrest : Strays w route) : Strays v (s :: route)

variable {v w container m : Value} {s : String} {route : List String}

theorem HasMember.mem_members (h : HasMember v s w) : w ∈ v.members := by
  cases h with
  | field hw => exact Dict.value_mem_values (Dict.mem_toList_iff.2 hw)
  | fromStart _ _ hw => exact List.mem_of_getElem? hw
  | fromEnd _ _ hw => exact List.mem_reverse.1 (List.mem_of_getElem? hw)

/-- A route leads to parts only. -/
theorem Leads.mem_parts (h : Leads v route container m) : m ∈ v.parts := by
  induction h with
  | last h => exact mem_parts_of_mem h.mem_members
  | next h _ ih => exact mem_parts_of_mem_members h.mem_members ih

end Value

namespace Probe

open Value

/-! ## One segment -/

theorem segment_object (fields : Dict Value) (s : List Char) :
    segment ⟨.object fields⟩ s = ⟨(fields.get? (String.ofList s)).getD .unset⟩ := by
  show (⟨orUnset (fieldItem fields (String.ofList s))⟩ : Probe) = _
  rw [fieldItem]
  cases fields.get? (String.ofList s) <;> rfl

theorem segment_array (items : List Value) (s : List Char) :
    segment ⟨.array items⟩ s = ⟨((Text.integer? s).bind (atIndex? items)).getD .unset⟩ := by
  cases hs : Text.integer? s with
  | none =>
    simp only [segment, hs]
    rfl
  | some n =>
    simp only [segment, hs, item, Value.item, Option.bind_some]
    cases atIndex? items n <;> rfl

variable {v w container m : Value} {s : String} {route : List String}

/-- A segment that names a member leads to it. -/
theorem segment_of_hasMember (h : HasMember v s w) : segment ⟨v⟩ s.toList = ⟨w⟩ := by
  cases h with
  | field hw => rw [segment_object, String.ofList_toList, hw, Option.getD_some]
  | fromStart hs hn hw =>
    obtain ⟨k, hk, hkn⟩ := Text.integer?_of_fits hs hn
    rw [segment_array, hk, Option.bind_some, atIndex?_of_nonneg hkn, hw, Option.getD_some]
  | fromEnd hs hn hw =>
    obtain ⟨k, hk, hkn⟩ := Text.integer?_of_fits hs hn
    rw [segment_array, hk, Option.bind_some, atIndex?_of_neg hkn, hw, Option.getD_some]

/-- A segment that names no member leads to absence. -/
theorem segment_of_lacksMember (h : LacksMember v s) : segment ⟨v⟩ s.toList = unset := by
  cases h with
  | noKey h =>
    rw [segment_object, String.ofList_toList, h]
    rfl
  | outOfRange hs hn =>
    -- A position that does not have 64 bits is looked up as a key, which no array has.
    rw [segment_array, hs.integer?_eq]
    cases hk : Integer.ofInt? _ with
    | none => rfl
    | some k =>
      rw [← Integer.ofInt?_eq_some_iff.1 hk] at hn
      rw [Option.bind_some, atIndex?_of_out_of_range hn]
      rfl
  | noInteger h =>
    have hnone : Text.integer? s.toList = none :=
      Option.eq_none_iff_forall_ne_some.2 fun k hk => h k.toInt (Text.decimal_of_integer? hk)
    rw [segment_array, hnone]
    rfl
  | plain h =>
    cases v with
    | string _ | array _ | object _ | unset => simp [kind] at h
    | _ => rfl

/-! ## Any number of segments -/

theorem follow_of_leads (h : Leads v route container m) (parent : Probe) :
    follow parent ⟨v⟩ (route.map String.toList) = (⟨container⟩, ⟨m⟩) := by
  -- The container is general, since every step leaves it behind.
  induction h generalizing parent with
  | last h =>
    rw [List.map_singleton, follow, segment_of_hasMember h]
    rfl
  | next h _ ih =>
    rw [List.map_cons, follow, segment_of_hasMember h]
    exact ih _

theorem follow_of_strays (h : Strays v route) (parent : Probe) :
    (follow parent ⟨v⟩ (route.map String.toList)).2 = unset := by
  induction h generalizing parent with
  | here h =>
    rw [List.map_cons, follow, segment_of_lacksMember h]
    exact follow_unset _ _
  | later h _ ih =>
    rw [List.map_cons, follow, segment_of_hasMember h]
    exact ih _

/-- A joined route is followed segment by segment. -/
theorem locate_intercalate {sep : Char} (hroute : route ≠ []) (hsep : ∀ s ∈ route, sep ∉ s.toList)
    (here : Probe) : here.locate ((String.singleton sep).intercalate route) sep =
      follow here here (route.map String.toList) := by
  have hmap : ∀ p ∈ route.map String.toList, sep ∉ p := List.forall_mem_map.2 hsep
  rw [locate, String.toList_intercalate, String.toList_singleton,
    Text.segments_intercalate (mt List.map_eq_nil_iff.1 hroute) hmap]

/-- In a record without absence inside, every member is located by the route that leads to it, and
so is its container; a present null is located as null. A route that leaves the record locates
absence. -/
theorem locate_route {record : Value} {sep : Char} {route : List String}
    (hrecord : ∀ p ∈ record.parts, p.isUnset = false) (hroute : route ≠ [])
    (hsep : ∀ s ∈ route, sep ∉ s.toList) :
    (∀ container m, record.Leads route container m →
      locate ⟨record⟩ ((String.singleton sep).intercalate route) sep = (⟨container⟩, ⟨m⟩) ∧
        m.isUnset = false) ∧
    (record.Strays route →
      (locate ⟨record⟩ ((String.singleton sep).intercalate route) sep).2 = unset) := by
  rw [locate_intercalate hroute hsep]
  constructor
  · intro container m hleads
    exact ⟨follow_of_leads hleads _, hrecord m hleads.mem_parts⟩
  · intro hstrays
    exact follow_of_strays hstrays _

/-- A record with the same text as a key and as a position. -/
def cabinet : Value :=
  .object (Dict.ofList [("a", .array [.object (Dict.ofList [("1", .null)]), .integer 5])])

/-- In `a.-2.1` the first number counts from the end of an array and the second is a key, and
`a.01.1` goes on behind a number. -/
theorem locate_cabinet_route :
    cabinet.Leads ["a", "-2", "1"] (.object (Dict.ofList [("1", .null)])) .null ∧
    locate ⟨cabinet⟩ ((String.singleton '.').intercalate ["a", "-2", "1"]) '.' =
      (⟨.object (Dict.ofList [("1", .null)])⟩, ⟨.null⟩) ∧
    cabinet.Strays ["a", "01", "1"] ∧
    (locate ⟨cabinet⟩ ((String.singleton '.').intercalate ["a", "01", "1"]) '.').2 = unset := by
  have hrecord : ∀ p ∈ cabinet.parts, p.isUnset = false := by
    have hall : (cabinet.parts.all fun p => !p.isUnset) = true := rfl
    simpa using hall
  have hfromEnd : Text.Decimal "-2".toList (-(1 + 1 : Int)) := Text.decimal_ofInteger (-2)
  have hfromStart : Text.Decimal "01".toList (1 : Nat) :=
    .unsigned (show Text.IsDigits ['0', '1'] by decide)
  have hleads : cabinet.Leads ["a", "-2", "1"] (.object (Dict.ofList [("1", .null)])) .null :=
    .next (.field rfl) (.next (.fromEnd hfromEnd (Integer.fits_toInt (-2)) rfl)
      (.last (.field rfl)))
  have hstrays : cabinet.Strays ["a", "01", "1"] :=
    .later (.field rfl) (.later (.fromStart hfromStart (Integer.fits_toInt 1) rfl)
      (.here (.plain (by decide))))
  have hsep : ∀ s ∈ ["a", "-2", "1"], '.' ∉ s.toList := by decide
  have hsep' : ∀ s ∈ ["a", "01", "1"], '.' ∉ s.toList := by decide
  exact ⟨hleads, ((locate_route hrecord (List.cons_ne_nil _ _) hsep).1 _ _ hleads).1, hstrays,
    (locate_route hrecord (List.cons_ne_nil _ _) hsep').2 hstrays⟩

end Probe

end Deferred
