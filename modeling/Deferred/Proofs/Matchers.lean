import Deferred.Check.Spec
import Deferred.Proofs.Moves

/-!
# Matchers and the expressions that say the same

A field can be compared and searched by a matcher, which looks at the field itself, or by an
expression of the field, which is evaluated in safe navigation and decides by its truth. Where the
expression is one operation with known operands, its outcome depends on nothing but the field
(`Matcher.accepts_operation`), so the two ways are compared on the field, kind by kind. What a field
holds is said without either of them (`Value.Holds`).

Main statement (`FieldCheck.accepts_agree`): a literal is containment behind the marker and equality
otherwise, equality is `IT == v`, and containment is `IT.contains(n)` but for objects, whose method
of that name looks at their keys.
-/

namespace Deferred

/-- The value of an expression that is ready is its outcome. -/
theorem Expr.value_of_ready [Decimals] [Patterns] {host : Host} {e : Expr} {c : Context}
    (h : e.Ready c) : e.value host c = (e.eval host c).outcome 0 := by
  rw [value, resolve_of_ready h]
  show (Except.map _ ((e.eval host c).outcome 0) >>= _) = _
  cases (e.eval host c).outcome 0 with
  | ok v => rfl
  | error f => rfl

/-! ## Equality and search -/

theorem Value.beq_string (v : Value) (s : String) : (v == .string s) = (v.asString? == some s) := by
  cases v with
  | string t => exact (Option.some_beq_some (a := t) (b := s)).symm
  | _ => rfl

theorem Value.beq_string_iff {v : Value} {s : String} :
    (v == .string s) = true ↔ v = .string s := by
  rw [beq_string]
  cases v <;> simp [asString?]

/-- Absence is no exception for `==`. -/
theorem BinaryOp.apply_equal [Decimals] (v w : Value) :
    BinaryOp.equal.apply v w = .ok (.boolean (v == w)) := by
  unfold apply
  split <;> rfl

theorem Text.contains_iff_infix {needle s : List Char} :
    contains needle s = true ↔ needle <:+: s := by
  induction s with
  | nil => simp [contains]
  | cons c cs ih =>
    rw [contains, Bool.or_eq_true, ih, List.isPrefixOf_iff_prefix, List.infix_cons_iff]

/-- A string with the text as a part of it, or an array with the text as one of its items. -/
inductive Value.Holds (n : String) : Value → Prop where
  | part {s : String} (h : n.toList <:+: s.toList) : Holds n (.string s)
  | item {items : List Value} (h : .string n ∈ items) : Holds n (.array items)

namespace Matcher

theorem needle?_eq_some_iff {marker : Char} {s needle : List Char} :
    needle? marker s = some needle ↔ s = marker :: needle := by
  cases s with
  | nil => simp [needle?]
  | cons c cs => simp [needle?]

theorem hasPart_array (items : List Value) (n : String) :
    hasPart (.array items) n.toList = items.any (· == .string n) := by
  rw [hasPart, String.ofList_toList]
  congr 1
  funext item
  exact (Value.beq_string item n).symm

theorem hasPart_iff {field : Value} {n : String} :
    hasPart field n.toList = true ↔ field.Holds n := by
  constructor
  · intro h
    cases field with
    | string s => exact .part (Text.contains_iff_infix.1 h)
    | array items =>
      obtain ⟨item, hmem, hitem⟩ := List.any_eq_true.1 (hasPart_array items n ▸ h)
      exact .item (Value.beq_string_iff.1 hitem ▸ hmem)
    | _ => cases h
  · intro h
    cases h with
    | part h => exact Text.contains_iff_infix.2 h
    | item h =>
      rw [hasPart_array, List.any_eq_true]
      exact ⟨_, h, Value.beq_string_iff.2 rfl⟩

/-- The field is all that one operation with known operands needs. -/
theorem ready_step {op : Operation} {vs : List Value} (h : op.operands = vs.map .literal)
    (root parent field : Value) : (Expr.it.step op).Ready (context root parent field) := by
  have hop : placeholdersOf op.operands = [] := by
    rw [h, placeholdersOf, List.flatMap_eq_nil_iff]
    intro o ho
    obtain ⟨v, -, rfl⟩ := List.mem_map.1 ho
    rfl
  rw [Expr.Ready, Expr.resolvableWith, Expr.requirements, Expr.placeholders_step, hop,
    List.append_nil]
  rfl

variable [Decimals] [Patterns] (host : Host) (options : CheckOptions) (root parent field : Value)

/-! ## Literals -/

theorem accepts_literal_marked (n : String) :
    accepts host options root parent field
        (.literal (.string (String.singleton options.marker ++ n))) =
      accepts host options root parent field (.contains n) := by
  have hneedle : needle? options.marker (String.singleton options.marker ++ n).toList =
      some n.toList := by
    rw [needle?_eq_some_iff, String.toList_append, String.toList_singleton]
    rfl
  rw [accepts, hneedle, accepts]

theorem accepts_literal_unmarked {v : Value}
    (h : ∀ n, v ≠ .string (String.singleton options.marker ++ n)) :
    accepts host options root parent field (.literal v) =
      accepts host options root parent field (.equals v) := by
  cases v with
  | string s =>
    have hneedle : needle? options.marker s.toList = none := by
      refine Option.eq_none_iff_forall_ne_some.2 ?_
      intro needle hsome
      have hs : s.toList = (String.singleton options.marker ++ String.ofList needle).toList := by
        rw [needle?_eq_some_iff.1 hsome, String.toList_append, String.toList_singleton,
          String.toList_ofList]
        rfl
      exact h (String.ofList needle) (congrArg Value.string (String.toList_injective hs))
    rw [accepts, hneedle, accepts, Value.beq_string]
  | _ => rfl

/-! ## Expressions -/

theorem mapM_eval_literals (c : Context) (vs : List Value) :
    (vs.map Operand.literal).mapM (Operand.eval host c) = pure vs := by
  rw [← evalOperands_eq, evalOperands_literals]

/-- One operation on the field, with operands that are known, decides by its outcome. -/
theorem accepts_operation {op : Operation} (vs : List Value) (h : op.operands = vs.map .literal) :
    accepts host options root parent field (.expr (Expr.it.step op)) =
      (op.subject .safe field >>= fun w => op.onValues host .safe w vs).map Value.truthy := by
  rw [accepts, Expr.value_of_ready (ready_step h root parent field), Expr.outcome_step, h,
    mapM_eval_literals]
  rfl

theorem accepts_equal (v : Value) :
    accepts host options root parent field (.expr (Expr.it.binary .equal (.literal v))) =
      .ok (field == v) := by
  rw [Expr.binary, accepts_operation host options root parent field [v] rfl]
  show (BinaryOp.equal.apply field v).map Value.truthy = _
  rw [BinaryOp.apply_equal]
  rfl

/-- The expression `IT.contains(n)` on a field that is an object is about its keys. -/
theorem accepts_method_contains_object (fields : Dict Value) (n : String) :
    accepts host options root parent (.object fields)
        (.expr (Expr.it.method "contains" [.literal (.string n)] [])) =
      .ok (fields.contains n) := by
  rw [Expr.method, accepts_operation host options root parent _ [.string n] rfl]
  rfl

theorem accepts_method_contains (h : field.kind ≠ .object) (n : String) :
    accepts host options root parent field
        (.expr (Expr.it.method "contains" [.literal (.string n)] [])) =
      .ok (hasPart field n.toList) := by
  rw [Expr.method, accepts_operation host options root parent field [.string n] rfl]
  cases field with
  | object fields => exact absurd rfl h
  | array items =>
    rw [hasPart_array]
    rfl
  -- Strings have the method, and elsewhere it is absent, so that calling it is absent too.
  | _ => rfl

end Matcher

/-! ## Fields of records -/

/-- The value of the field of a record at a path. -/
def CheckOptions.field (options : CheckOptions) (record : Value) (path : String) : Value :=
  ((Probe.mk record).path path options.separator).value

namespace FieldCheck

/-- The matchers and the expressions agree on every field, be it absent or there. A literal decides
like containment of what is behind the marker, and without the marker like equality. Equality never
fails and decides like `IT == v`. Containment never fails either; it decides like `IT.contains(n)`
but for objects, which hold no texts and where the expression looks for a key. -/
theorem accepts_agree [Decimals] [Patterns] (host : Host) (options : CheckOptions) (record : Value)
    (path : String) :
    (∀ n, accepts host options record
          ⟨path, .literal (.string (String.singleton options.marker ++ n))⟩ =
        accepts host options record ⟨path, .contains n⟩) ∧
      (∀ v, (∀ n, v ≠ .string (String.singleton options.marker ++ n)) →
        accepts host options record ⟨path, .literal v⟩ =
          accepts host options record ⟨path, .equals v⟩) ∧
      (∀ v, accepts host options record ⟨path, .equals v⟩ = .ok (options.field record path == v) ∧
        accepts host options record ⟨path, .expr (Expr.it.binary .equal (.literal v))⟩ =
          .ok (options.field record path == v)) ∧
      ∀ n, ∃ b, accepts host options record ⟨path, .contains n⟩ = .ok b ∧
        (b = true ↔ (options.field record path).Holds n) ∧
        ((options.field record path).kind ≠ .object →
          accepts host options record
            ⟨path, .expr (Expr.it.method "contains" [.literal (.string n)] [])⟩ = .ok b) ∧
        ∀ fields, options.field record path = .object fields →
          b = false ∧
          accepts host options record
            ⟨path, .expr (Expr.it.method "contains" [.literal (.string n)] [])⟩ =
              .ok (fields.contains n) := by
  -- Of the record nothing but the field matters, wherever the path leads.
  have haccepts : ∀ m, accepts host options record ⟨path, m⟩ =
      m.accepts host options record ((Probe.mk record).locate path options.separator).1.value
        (options.field record path) := fun m => rfl
  simp only [haccepts]
  generalize options.field record path = field
  refine ⟨?_, ?_, ?_, ?_⟩
  · intro n
    exact Matcher.accepts_literal_marked host options record _ field n
  · intro v hv
    exact Matcher.accepts_literal_unmarked host options record _ field hv
  · intro v
    exact ⟨rfl, Matcher.accepts_equal host options record _ field v⟩
  · intro n
    refine ⟨_, rfl, Matcher.hasPart_iff, ?_, ?_⟩
    · intro hkind
      exact Matcher.accepts_method_contains host options record _ field hkind n
    · rintro fields rfl
      exact ⟨rfl, Matcher.accepts_method_contains_object host options record _ fields n⟩

/-- Tags, and a measure of the name of one of them. -/
def parcel : Value :=
  .object (Dict.ofList
    [("tags", .array [.string "new", .integer 1]),
      ("measures", .object (Dict.ofList [("new", .integer 3)]))])

/-- Signs other than the default ones. -/
def signs : CheckOptions := { marker := '%', separator := '/' }

/-- There is no `old` among the measures, and `new` is a tag and a key of the measures. -/
theorem accepts_agree_parcel :
    (accepts Host.stock signs parcel ⟨"tags", .literal (.string (String.singleton '%' ++ "new"))⟩ =
        accepts Host.stock signs parcel ⟨"tags", .contains "new"⟩) ∧
      (accepts Host.stock signs parcel ⟨"tags", .literal (.string "~new")⟩ =
        accepts Host.stock signs parcel ⟨"tags", .equals (.string "~new")⟩) ∧
      accepts Host.stock signs parcel
          ⟨"measures/old", .expr (Expr.it.binary .equal (.literal .unset))⟩ = .ok true ∧
      (∃ b, accepts Host.stock signs parcel ⟨"tags", .contains "new"⟩ = .ok b ∧
        accepts Host.stock signs parcel
          ⟨"tags", .expr (Expr.it.method "contains" [.literal (.string "new")] [])⟩ = .ok b) ∧
      accepts Host.stock signs parcel ⟨"measures", .contains "new"⟩ = .ok false ∧
      accepts Host.stock signs parcel
          ⟨"measures", .expr (Expr.it.method "contains" [.literal (.string "new")] [])⟩ =
        .ok true := by
  have hunmarked : ∀ n, Value.string "~new" ≠ .string (String.singleton '%' ++ n) := by
    intro n h
    have hlist := congrArg String.toList (Value.string.inj h)
    rw [String.toList_append, String.toList_singleton] at hlist
    exact absurd (List.cons.inj hlist).1 (by decide)
  obtain ⟨hmarked, hliteral, -, hcontains⟩ := accepts_agree Host.stock signs parcel "tags"
  obtain ⟨-, -, hequals, -⟩ := accepts_agree Host.stock signs parcel "measures/old"
  obtain ⟨-, -, -, hkeys⟩ := accepts_agree Host.stock signs parcel "measures"
  obtain ⟨b, hb, -, hexpr, -⟩ := hcontains "new"
  obtain ⟨none, hfalse, -, -, hobject⟩ := hkeys "new"
  obtain ⟨rfl, hkey⟩ := hobject _ rfl
  exact ⟨hmarked "new", hliteral _ hunmarked, (hequals .unset).2, ⟨b, hb, hexpr (by decide)⟩,
    hfalse, hkey⟩

end FieldCheck

end Deferred
