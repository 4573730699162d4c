import Deferred.Proofs.Members
import Deferred.Proofs.WrittenForms
import Deferred.Value.Equality
import Deferred.Value.Render

/-!
# The text of a value tells the value

Two values without floats and functions have the same text just if they are equal, and their text
has no control character, so that it stays on one line (`Value.render_eq_iff`).

A text inside a container does not say how long it is. But what may follow it begins with a comma or
a closing bracket (`Ends`), and in front of such a rest the text of one value cannot be mistaken for
that of another (`ToldApart`): the first character tells the kind, an integer goes on as long as
there are digits, a string up to its closing quote, and a container is told from its members, which
are told apart by induction. An object is written in the order of its keys, which is part of what a
map is, so that no order of insertion shows.
-/

namespace Deferred

/-! ## Members in a row -/

namespace Separated

universe u

variable {α : Type u} {text : α → List Char}

/-- What may follow a value inside another one: a comma or the bracket that closes a container. -/
def Ends (rest : List Char) : Prop := ∀ c ∈ rest.head?, c = ',' ∨ c = ']' ∨ c = '\x7d'

theorem Ends.isNumeral {rest : List Char} (h : Ends rest) :
    ∀ c ∈ rest.head?, Text.isNumeral c = false := by
  intro c hc
  obtain rfl | rfl | rfl := h c hc
  · rfl
  · rfl
  · rfl

/-- Whether the texts of `a` and `b` cannot be mistaken for each other, whatever ends them. -/
def ToldApart (text : α → List Char) (a b : α) : Prop :=
  ∀ q r, Ends q → Ends r → text a ++ q = text b ++ r → a = b ∧ q = r

/-- Texts with a comma in front of each. -/
def following (text : α → List Char) (xs : List α) : List Char := xs.flatMap fun x => ',' :: text x

/-- Texts with a comma between each and the next. -/
def joined (text : α → List Char) : List α → List Char
  | [] => []
  | x :: xs => text x ++ following text xs

theorem intercalate_map (xs : List α) : [','].intercalate (xs.map text) = joined text xs := by
  have hcons (x : α) (xs : List α) :
      [','].intercalate ((x :: xs).map text) = text x ++ following text xs := by
    induction xs generalizing x with
    | nil => simp [following, List.intercalate]
    | cons y ys ih =>
      rw [List.map_cons, List.map_cons, List.intercalate_cons_cons, ← List.map_cons, ih y,
        List.append_assoc]
      rfl
  cases xs with
  | nil => rfl
  | cons x xs => exact hcons x xs

theorem following_cons (x : α) (xs : List α) (rest : List Char) :
    following text (x :: xs) ++ rest = ',' :: (text x ++ (following text xs ++ rest)) := by
  simp [following]

theorem ends_following {close : Char} (hclose : close = ']' ∨ close = '\x7d') (xs : List α)
    (rest : List Char) : Ends (following text xs ++ close :: rest) := by
  intro c hc
  cases xs with
  | nil =>
    cases hc
    exact .inr hclose
  | cons x xs =>
    rw [following_cons] at hc
    cases hc
    exact .inl rfl

/-- Members that are told apart one by one are told apart in a row, up to the closing bracket. -/
theorem following_append_inj {close : Char} (hclose : close = ']' ∨ close = '\x7d') {xs ys : List α}
    (hmembers : ∀ x ∈ xs, ∀ y ∈ ys, ToldApart text x y) {q r : List Char}
    (h : following text xs ++ close :: q = following text ys ++ close :: r) : xs = ys ∧ q = r := by
  have hcomma : close ≠ ',' := by
    rcases hclose with rfl | rfl
    · decide
    · decide
  induction xs generalizing ys with
  | nil =>
    cases ys with
    | nil => exact ⟨rfl, (List.cons.inj h).2⟩
    | cons y ys =>
      -- one side goes on with a comma where the other one is closed
      rw [following_cons] at h
      exact absurd (List.cons.inj h).1 hcomma
  | cons x xs ih =>
    cases ys with
    | nil =>
      rw [following_cons] at h
      exact absurd (List.cons.inj h).1.symm hcomma
    | cons y ys =>
      rw [following_cons, following_cons] at h
      obtain ⟨rfl, hrest⟩ := hmembers x List.mem_cons_self y List.mem_cons_self _ _
        (ends_following hclose xs q) (ends_following hclose ys r) (List.cons.inj h).2
      obtain ⟨rfl, hqr⟩ := ih (fun x hx y hy =>
        hmembers x (List.mem_cons_of_mem _ hx) y (List.mem_cons_of_mem _ hy)) hrest
      exact ⟨rfl, hqr⟩

theorem mem_joined {c : Char} {xs : List α} (h : c ∈ joined text xs) :
    c = ',' ∨ ∃ x ∈ xs, c ∈ text x := by
  cases xs with
  | nil => cases h
  | cons x xs =>
    rcases List.mem_append.1 h with h | h
    · exact .inr ⟨x, List.mem_cons_self, h⟩
    · obtain ⟨y, hy, hc⟩ := List.mem_flatMap.1 h
      rcases List.mem_cons.1 hc with rfl | hc
      · exact .inl rfl
      · exact .inr ⟨y, List.mem_cons_of_mem _ hy, hc⟩

/-- The members of a container are told from its text, if none of theirs begins like its end. -/
theorem joined_append_inj {close : Char} (hclose : close = ']' ∨ close = '\x7d') {xs ys : List α}
    (hxs : ∀ x ∈ xs, ∃ c cs, text x = c :: cs ∧ c ≠ close)
    (hys : ∀ y ∈ ys, ∃ c cs, text y = c :: cs ∧ c ≠ close)
    (hmembers : ∀ x ∈ xs, ∀ y ∈ ys, ToldApart text x y) {q r : List Char}
    (h : joined text xs ++ close :: q = joined text ys ++ close :: r) : xs = ys ∧ q = r := by
  cases xs with
  | nil =>
    cases ys with
    | nil => exact ⟨rfl, (List.cons.inj h).2⟩
    | cons y ys =>
      obtain ⟨c, cs, hc, hne⟩ := hys y List.mem_cons_self
      rw [joined, joined, hc] at h
      exact absurd (List.cons.inj h).1.symm hne
  | cons x xs =>
    cases ys with
    | nil =>
      obtain ⟨c, cs, hc, hne⟩ := hxs x List.mem_cons_self
      rw [joined, joined, hc] at h
      exact absurd (List.cons.inj h).1 hne
    | cons y ys =>
      rw [joined, joined, List.append_assoc, List.append_assoc] at h
      obtain ⟨rfl, hrest⟩ := hmembers x List.mem_cons_self y List.mem_cons_self _ _
        (ends_following hclose xs q) (ends_following hclose ys r) h
      obtain ⟨rfl, hqr⟩ := following_append_inj hclose (fun x hx y hy =>
        hmembers x (List.mem_cons_of_mem _ hx) y (List.mem_cons_of_mem _ hy)) hrest
      exact ⟨rfl, hqr⟩

end Separated

namespace Value

open Separated

/-! ## The characters of a value -/

/-- The characters of the text of a value. -/
def written (v : Value) : List Char := v.render.toList

/-- The characters of a field: its key, quoted, and its value. -/
def writtenField (field : String × Value) : List Char :=
  Quoted.encode field.1.toList ++ ':' :: field.2.written

theorem written_integer (n : Int64) : (integer n).written = (Text.ofInteger n).toList := rfl

theorem written_string (s : String) : (string s).written = Quoted.encode s.toList :=
  String.toList_ofList

theorem written_array (items : List Value) :
    (array items).written = '[' :: (joined written items ++ [']']) := by
  rw [written, render, renderItems_eq_map, String.toList_append, String.toList_append,
    String.toList_intercalate, List.map_map]
  exact congrArg (fun text => '[' :: (text ++ [']'])) (intercalate_map items)

theorem written_object (fields : Dict Value) :
    (object fields).written = '\x7b' :: (joined writtenField fields.toList ++ ['\x7d']) := by
  have hfield (key : String) (v : Value) :
      (Quoted.quote key ++ ":" ++ v.render).toList = writtenField (key, v) := by
    rw [String.toList_append, String.toList_append, Quoted.quote, String.toList_ofList,
      List.append_assoc]
    rfl
  rw [written, render, String.toList_append, String.toList_append, String.toList_intercalate,
    List.map_map]
  rw [← intercalate_map, Dict.toList, List.map_map]
  simp only [Function.comp_def, hfield]
  rfl

/-- Whether the value, apart from its members, is one of those whose text tells them: neither a
number with a fraction nor something that can be called. -/
def isPlain : Value → Bool
  | float _ | function _ | method _ _ => false
  | _ => true

/-- The kind of the value whose text begins with `c`. -/
def opening (c : Char) : Option Kind :=
  if Text.isNumeral c then some .integer
  else
    match c with
    | 'n' => some .null
    | 't' | 'f' => some .boolean
    | '"' => some .string
    | '[' => some .array
    | '\x7b' => some .object
    | '<' => some .unset
    | _ => none

/-- The text of a plain value begins with a character that tells its kind. -/
theorem opening_written {v : Value} (h : v.isPlain = true) :
    ∃ c cs, v.written = c :: cs ∧ opening c = some v.kind := by
  cases v with
  | null => exact ⟨'n', _, rfl, rfl⟩
  | boolean b =>
    cases b with
    | true => exact ⟨'t', _, rfl, rfl⟩
    | false => exact ⟨'f', _, rfl, rfl⟩
  | integer n =>
    rw [written_integer]
    obtain ⟨c, cs, hc⟩ := List.exists_cons_of_ne_nil (Text.toList_ofInteger_ne_nil n)
    have hnumeral : Text.isNumeral c = true :=
      Text.isNumeral_of_mem_ofInteger (hc ▸ List.mem_cons_self)
    exact ⟨c, cs, hc, if_pos hnumeral⟩
  | string s =>
    rw [written_string]
    exact ⟨'"', _, rfl, rfl⟩
  | array items =>
    rw [written_array]
    exact ⟨'[', _, rfl, rfl⟩
  | object fields =>
    rw [written_object]
    exact ⟨'\x7b', _, rfl, rfl⟩
  | unset => exact ⟨'<', _, rfl, rfl⟩
  | float x => cases h
  | function f => cases h
  | method receiver name => cases h

theorem kind_eq_of_written {v w : Value} (hv : v.isPlain = true) (hw : w.isPlain = true)
    {q r : List Char} (h : v.written ++ q = w.written ++ r) : v.kind = w.kind := by
  obtain ⟨c, cs, hc, hkind⟩ := opening_written hv
  obtain ⟨d, ds, hd, hkind'⟩ := opening_written hw
  rw [hc, hd] at h
  rw [(List.cons.inj h).1, hkind'] at hkind
  exact (Option.some.inj hkind).symm

/-- No text begins with the bracket that closes an array. -/
theorem written_ne_close {v : Value} (h : v.isPlain = true) :
    ∃ c cs, v.written = c :: cs ∧ c ≠ ']' := by
  obtain ⟨c, cs, hc, hkind⟩ := opening_written h
  refine ⟨c, cs, hc, ?_⟩
  rintro rfl
  cases hkind

/-! ## Telling values apart -/

theorem told_apart_boolean (a b : Bool) : ToldApart written (boolean a) (boolean b) := by
  intro q r _ _ h
  cases a with
  | true =>
    cases b with
    | true => exact ⟨rfl, List.append_cancel_left h⟩
    | false => exact absurd (List.cons.inj h).1 (by decide)
  | false =>
    cases b with
    | true => exact absurd (List.cons.inj h).1 (by decide)
    | false => exact ⟨rfl, List.append_cancel_left h⟩

theorem told_apart_integer (m n : Int64) : ToldApart written (integer m) (integer n) := by
  intro q r hq hr h
  obtain ⟨rfl, hqr⟩ := Text.ofInteger_append_inj hq.isNumeral hr.isNumeral h
  exact ⟨rfl, hqr⟩

theorem told_apart_string (s t : String) : ToldApart written (string s) (string t) := by
  intro q r _ _ h
  rw [written_string, written_string] at h
  obtain ⟨hst, hqr⟩ := Quoted.encode_append_inj h
  exact ⟨congrArg string (String.toList_inj.1 hst), hqr⟩

theorem told_apart_array {as bs : List Value} (has : ∀ a ∈ as, a.isPlain = true)
    (hbs : ∀ b ∈ bs, b.isPlain = true) (h : ∀ a ∈ as, ∀ b ∈ bs, ToldApart written a b) :
    ToldApart written (array as) (array bs) := by
  intro q r _ _ heq
  rw [written_array, written_array, List.cons_append, List.cons_append, List.append_assoc,
    List.append_assoc] at heq
  obtain ⟨rfl, hqr⟩ := joined_append_inj (.inl rfl) (fun a ha => written_ne_close (has a ha))
    (fun b hb => written_ne_close (hbs b hb)) h (List.cons.inj heq).2
  exact ⟨rfl, hqr⟩

/-- Fields are told apart if their values are: a key ends with its quotes. -/
theorem told_apart_field {f g : String × Value} (h : ToldApart written f.2 g.2) :
    ToldApart writtenField f g := by
  intro q r hq hr heq
  obtain ⟨key, v⟩ := f
  obtain ⟨key', w⟩ := g
  rw [writtenField, writtenField, List.append_assoc, List.append_assoc] at heq
  obtain ⟨hkey, hrest⟩ := Quoted.encode_append_inj heq
  obtain ⟨hvalue, hqr⟩ := h q r hq hr (List.cons.inj hrest).2
  exact ⟨Prod.ext (String.toList_inj.1 hkey) hvalue, hqr⟩

theorem told_apart_object {d e : Dict Value}
    (h : ∀ a ∈ d.values, ∀ b ∈ e.values, ToldApart written a b) :
    ToldApart written (object d) (object e) := by
  intro q r _ _ heq
  rw [written_object, written_object, List.cons_append, List.cons_append, List.append_assoc,
    List.append_assoc] at heq
  have hopen (d : Dict Value) :
      ∀ f ∈ d.toList, ∃ c cs, writtenField f = c :: cs ∧ c ≠ '\x7d' := by
    intro f _
    exact ⟨'"', _, rfl, by decide⟩
  have hfields : ∀ f ∈ d.toList, ∀ g ∈ e.toList, ToldApart writtenField f g := by
    intro f hf g hg
    exact told_apart_field (h f.2 (Dict.value_mem_values hf) g.2 (Dict.value_mem_values hg))
  obtain ⟨hde, hqr⟩ := joined_append_inj (.inr rfl) (hopen d) (hopen e) hfields
    (List.cons.inj heq).2
  exact ⟨congrArg object (Dict.toList_injective hde), hqr⟩

/-- The text of a plain value cannot be mistaken for the text of another one. -/
theorem told_apart {v w : Value} (hv : ∀ p ∈ v.parts, p.isPlain = true)
    (hw : ∀ p ∈ w.parts, p.isPlain = true) : ToldApart written v w := by
  induction v using Value.ind generalizing w with
  | value v ih =>
    intro q r hq hr h
    have hvself := hv v v.self_mem_parts
    have hwself := hw w w.self_mem_parts
    have hmembers : ∀ a ∈ v.members, ∀ b ∈ w.members, ToldApart written a b := by
      intro a ha b hb
      exact ih a ha (forall_parts_of_mem_members hv ha) (forall_parts_of_mem_members hw hb)
    -- the first character leaves only values of one kind to compare
    have hkind := kind_eq_of_written hvself hwself h
    cases v with
    | null =>
      cases w with
      | null => exact ⟨rfl, List.append_cancel_left h⟩
      | _ => cases hkind
    | boolean a =>
      cases w with
      | boolean b => exact told_apart_boolean a b q r hq hr h
      | _ => cases hkind
    | integer m =>
      cases w with
      | integer n => exact told_apart_integer m n q r hq hr h
      | _ => cases hkind
    | string s =>
      cases w with
      | string t => exact told_apart_string s t q r hq hr h
      | _ => cases hkind
    | array as =>
      cases w with
      | array bs =>
        have has : ∀ a ∈ as, a.isPlain = true := fun a ha => hv a (mem_parts_of_mem ha)
        have hbs : ∀ b ∈ bs, b.isPlain = true := fun b hb => hw b (mem_parts_of_mem hb)
        exact told_apart_array has hbs hmembers q r hq hr h
      | _ => cases hkind
    | object d =>
      cases w with
      | object e => exact told_apart_object hmembers q r hq hr h
      | _ => cases hkind
    | unset =>
      cases w with
      | unset => exact ⟨rfl, List.append_cancel_left h⟩
      | _ => cases hkind
    | float x => cases hvself
    | function f => cases hvself
    | method receiver name => cases hvself

/-! ## Control characters -/

theorem isControl_of_all {cs : List Char} (h : cs.all (!CharProperty.isControl ·) = true) :
    ∀ c ∈ cs, CharProperty.isControl c = false := by
  intro c hc
  have hnot := List.all_eq_true.1 h c hc
  rwa [Bool.not_eq_true'] at hnot

theorem isControl_of_mem_joined {α : Type} {text : α → List Char} {xs : List α}
    (hmembers : ∀ x ∈ xs, ∀ c ∈ text x, CharProperty.isControl c = false) {c : Char}
    (h : c ∈ joined text xs) : CharProperty.isControl c = false := by
  obtain rfl | ⟨x, hx, hc⟩ := mem_joined h
  · rfl
  · exact hmembers x hx c hc

/-- The text of a plain value is on one line. -/
theorem isControl_of_mem_written {v : Value} (hv : ∀ p ∈ v.parts, p.isPlain = true) :
    ∀ c ∈ v.written, CharProperty.isControl c = false := by
  induction v using Value.ind with
  | value v ih =>
    have hself := hv v v.self_mem_parts
    have hmembers : ∀ a ∈ v.members, ∀ c ∈ a.written, CharProperty.isControl c = false := by
      intro a ha
      exact ih a ha (forall_parts_of_mem_members hv ha)
    cases v with
    | null => exact isControl_of_all rfl
    | boolean b =>
      cases b with
      | true => exact isControl_of_all rfl
      | false => exact isControl_of_all rfl
    | integer n =>
      exact fun c hc => Text.isControl_of_isNumeral (Text.isNumeral_of_mem_ofInteger hc)
    | string s =>
      rw [written_string]
      exact fun c hc => Quoted.isControl_of_mem_encode hc
    | array items =>
      rw [written_array, List.forall_mem_cons, List.forall_mem_append]
      exact ⟨rfl, fun c hc => isControl_of_mem_joined hmembers hc, isControl_of_all rfl⟩
    | object fields =>
      have hfields :
          ∀ f ∈ fields.toList, ∀ c ∈ writtenField f, CharProperty.isControl c = false := by
        intro f hf
        rw [writtenField, List.forall_mem_append, List.forall_mem_cons]
        exact ⟨fun c hc => Quoted.isControl_of_mem_encode hc, rfl,
          hmembers f.2 (Dict.value_mem_values hf)⟩
      rw [written_object, List.forall_mem_cons, List.forall_mem_append]
      exact ⟨rfl, fun c hc => isControl_of_mem_joined hfields hc, isControl_of_all rfl⟩
    | unset => exact isControl_of_all rfl
    | float x => cases hself
    | function f => cases hself
    | method receiver name => cases hself

/-! ## Equality -/

theorem forall₂_beq_iff {as bs : List Value}
    (h : ∀ a ∈ as, ∀ b ∈ bs, a.equal b = true ↔ a = b) :
    List.Forall₂ (fun a b => (a == b) = true) as bs ↔ as = bs := by
  induction as generalizing bs with
  | nil =>
    rw [List.forall₂_nil_left_iff]
    exact eq_comm
  | cons a as ih =>
    cases bs with
    | nil => exact iff_of_false nofun nofun
    | cons b bs =>
      rw [List.forall₂_cons, beq_def, h a List.mem_cons_self b List.mem_cons_self,
        ih fun a ha b hb => h a (List.mem_cons_of_mem _ ha) b (List.mem_cons_of_mem _ hb),
        List.cons.injEq]

/-- Plain values are equal only to themselves. -/
theorem equal_iff_eq {v w : Value} (hv : ∀ p ∈ v.parts, p.isPlain = true)
    (hw : ∀ p ∈ w.parts, p.isPlain = true) : v.equal w = true ↔ v = w := by
  induction v using Value.ind generalizing w with
  | value v ih =>
    have hvself := hv v v.self_mem_parts
    have hwself := hw w w.self_mem_parts
    have hmembers : ∀ a ∈ v.members, ∀ b ∈ w.members, a.equal b = true ↔ a = b := by
      intro a ha b hb
      exact ih a ha (forall_parts_of_mem_members hv ha) (forall_parts_of_mem_members hw hb)
    cases v with
    | null =>
      cases w with
      | null => exact iff_of_true rfl rfl
      | _ => exact iff_of_false Bool.false_ne_true (by rintro ⟨⟩)
    | boolean a =>
      cases w with
      | boolean b => rw [equal, beq_iff_eq, boolean.injEq]
      | _ => exact iff_of_false Bool.false_ne_true (by rintro ⟨⟩)
    | integer m =>
      cases w with
      | integer n => rw [equal, beq_iff_eq, integer.injEq]
      | float x => cases hwself
      | _ => exact iff_of_false Bool.false_ne_true (by rintro ⟨⟩)
    | string s =>
      cases w with
      | string t => rw [equal, beq_iff_eq, string.injEq]
      | _ => exact iff_of_false Bool.false_ne_true (by rintro ⟨⟩)
    | array items =>
      cases w with
      | array others =>
        rw [equal, array.injEq, equalItems_iff_forall₂]
        exact forall₂_beq_iff hmembers
      | _ => exact iff_of_false Bool.false_ne_true (by rintro ⟨⟩)
    | object fields =>
      cases w with
      | object others =>
        have hvalues : _ ↔ fields.values = others.values := forall₂_beq_iff hmembers
        rw [object.injEq, ← beq_def, beq_object_iff, hvalues]
        constructor
        · rintro ⟨hkeys, hvalues⟩
          exact Dict.ext_values hkeys hvalues
        · rintro rfl
          exact ⟨rfl, rfl⟩
      | _ => exact iff_of_false Bool.false_ne_true (by rintro ⟨⟩)
    | unset =>
      cases w with
      | unset => exact iff_of_true rfl rfl
      | _ => exact iff_of_false Bool.false_ne_true (by rintro ⟨⟩)
    | float x => cases hvself
    | function f => cases hvself
    | method receiver name => cases hvself

/-! ## Texts and equality -/

/-- The texts of plain values are the same just if the values are equal, and they are on one line.
-/
theorem render_eq_iff {v w : Value} (hv : ∀ p ∈ v.parts, p.isPlain = true)
    (hw : ∀ p ∈ w.parts, p.isPlain = true) :
    (v.render = w.render ↔ (v == w) = true) ∧
    ∀ c ∈ v.render.toList, CharProperty.isControl c = false := by
  refine ⟨?_, isControl_of_mem_written hv⟩
  rw [beq_def, equal_iff_eq hv hw]
  constructor
  · intro h
    have hends : Ends [] := nofun
    exact (told_apart hv hw [] [] hends hends (by rw [written, written, h])).1
  · rintro rfl
    rfl

/-- An object whose texts contain quotes, brackets, commas and control characters. -/
def tangled : Value :=
  .object (Dict.ofList
    [("a\",\"b", .array [.string "]", .string ",", .string "\\\n", .unset]),
      ("1", .object (Dict.ofList [("\x7f", .integer (-5)), ("", .null)]))])

/-- The same object, put together in another order. -/
def retangled : Value :=
  .object (Dict.ofList
    [("1", .object (Dict.ofList [("", .null), ("\x7f", .integer (-5))])),
      ("a\",\"b", .array [.string "]", .string ",", .string "\\\n", .unset])])

theorem render_tangled :
    tangled.render = retangled.render ∧
    (∀ c ∈ tangled.render.toList, CharProperty.isControl c = false) ∧
    (array [string "a\",\"b"]).render ≠ (array [string "a", string "b"]).render := by
  have hplain {v : Value} (h : v.parts.all isPlain = true) : ∀ p ∈ v.parts, p.isPlain = true :=
    List.all_eq_true.1 h
  have htangled := render_eq_iff (v := tangled) (w := retangled) (hplain rfl) (hplain rfl)
  refine ⟨htangled.1.2 rfl, htangled.2, fun h => ?_⟩
  exact absurd ((render_eq_iff (hplain rfl) (hplain rfl)).1.1 h) (by decide)

end Value

end Deferred
