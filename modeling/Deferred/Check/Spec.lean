import Deferred.Expr.Resolve
import Deferred.Probe
import Deferred.Text.Split

/-!
# Specs

A spec lists what is required of fields of a record, each named by a path. A record meets it when
every field passes its matcher; fields are judged in order, and the first that fails settles the
matter.
-/

namespace Deferred

variable [Decimals] [Patterns]

/-- A boolean function on the value of a field, with the name under which it is shown. -/
structure Predicate where
  name : String
  test : Value → Bool

/-- How one field is judged. -/
inductive Matcher where
  /-- Equality, except that a string that begins with the marker of the options asks for the rest of
  it as a part of the field. -/
  | literal (v : Value)
  | equals (v : Value)
  /-- A string with this part, or an array with this string among its items. -/
  | contains (needle : String)
  /-- The truth of an expression of the field, in safe navigation. -/
  | expr (e : Expr)
  | predicate (p : Predicate)

/-- A path and the matcher of the field there. -/
structure FieldCheck where
  path : String
  matcher : Matcher

/-- What is required of a record. -/
abbrev Spec := List FieldCheck

/-- How paths and markers are written, and how much a report shows. -/
structure CheckOptions where
  /-- Stands before a string that is to be looked for as a part. -/
  marker : Char := '~'
  /-- Divides the segments of a path. -/
  separator : Char := '.'
  /-- How many matching records a report lists. -/
  limit : Nat := 3
deriving DecidableEq, Repr

namespace Predicate

/-- Some predicates, by name. -/
def stock? : String → Option Predicate
  | "always" => some ⟨"always", fun _ => true⟩
  | "never" => some ⟨"never", fun _ => false⟩
  | "is_unset" => some ⟨"is_unset", Value.isUnset⟩
  | "is_null" => some ⟨"is_null", (· == .null)⟩
  | "truthy" => some ⟨"truthy", Value.truthy⟩
  | "gt3" => some ⟨"gt3", fun v => v.asInteger?.any (3 < ·)⟩
  | "is_string" => some ⟨"is_string", fun v => v.kind == .string⟩
  | _ => none

end Predicate

namespace Matcher

/-- What stands behind the marker, if the text begins with it. -/
def needle? (marker : Char) : List Char → Option (List Char)
  | c :: needle => if c = marker then some needle else none
  | [] => none

/-- Whether the value of a field has a text in it: as a part of a string, or as an item of an
array. -/
def hasPart (field : Value) (needle : List Char) : Bool :=
  match field with
  | .string s => Text.contains needle s.toList
  | .array items => items.any fun item => item.asString? == some (String.ofList needle)
  | _ => false

/-- The name of the argument that holds the whole record. -/
def rootName : String := "root"

/-- The name of the argument that holds the container of the field. -/
def parentName : String := "parent"

/-- The arguments of an expression that judges a field. -/
def context (root parent field : Value) : Context where
  positional := [field]
  named := Dict.ofList [(rootName, root), (parentName, parent)]
  navigation := .safe

/-- Whether a field passes the matcher. -/
def accepts (host : Host) (options : CheckOptions) (root parent field : Value) :
    Matcher → Except Fault Bool
  | literal (.string s) =>
    match needle? options.marker s.toList with
    | some needle => .ok (hasPart field needle)
    | none => .ok (field.asString? == some s)
  | literal v => .ok (field == v)
  | equals v => .ok (field == v)
  | contains needle => .ok (hasPart field needle.toList)
  | expr e => return (← e.value host (context root parent field)).truthy
  | predicate p => .ok (p.test field)

/-- The text of a matcher. -/
def render : Matcher → String
  | literal v => v.render
  | equals v => "== " ++ v.render
  | contains needle => "contains " ++ (Value.string needle).render
  | expr e => e.render
  | predicate p => "<fn " ++ p.name ++ ">"

end Matcher

namespace FieldCheck

/-- Whether the field of a record passes. -/
def accepts (host : Host) (options : CheckOptions) (record : Value) (f : FieldCheck) :
    Except Fault Bool :=
  let (parent, field) := (Probe.mk record).locate f.path options.separator
  f.matcher.accepts host options record parent.value field.value

/-- The text of a field check. -/
def render (f : FieldCheck) : String := f.path ++ ": " ++ f.matcher.render

end FieldCheck

namespace Spec

/-- Whether a record meets the spec. -/
def accepts (host : Host) (options : CheckOptions) (record : Value) : Spec → Except Fault Bool
  | [] => .ok true
  | f :: fs => do
    if ← f.accepts host options record then accepts host options record fs else return false

/-- The text of a spec. -/
def render (s : Spec) : String := "\x7b" ++ ", ".intercalate (s.map FieldCheck.render) ++ "\x7d"

end Spec

end Deferred
