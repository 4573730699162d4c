import Deferred.Access
import Deferred.Text.Segments

/-!
# Probes

A probe stands at a value, or at absence, and moves to members without failing: what is not there is
absent, and everything beyond it is absent too. Only a function or a method that is called can fail.
A path names a member of a member; its segments are keys of objects and positions in arrays and
strings.
-/

namespace Deferred

structure Probe where
  value : Value

namespace Probe

/-- The value of an access, or absence where it fails. -/
def orUnset : Except Fault Value → Value
  | .ok v => v
  | .error _ => .unset

/-- The probe at absence. -/
def unset : Probe := ⟨.unset⟩

def isUnset (p : Probe) : Bool := p.value.isUnset

/-- Moves to an attribute. -/
def attr (p : Probe) (name : String) : Probe := ⟨orUnset (p.value.attr name)⟩

/-- Moves to an item. -/
def item (p : Probe) (key : Value) : Probe := ⟨orUnset (p.value.item key)⟩

/-- Moves to the result of calling the value. -/
def call [Patterns] (host : Host) (p : Probe) (args : List Value) (named : Named) :
    Except Fault Probe :=
  return ⟨← p.value.call host args named⟩

/-- Moves to the result of calling a method, or a function in a field. -/
def method [Patterns] (host : Host) (p : Probe) (name : String) (args : List Value)
    (named : Named) : Except Fault Probe :=
  return ⟨← (orUnset (p.value.callee name)).call host args named⟩

/-- The field of an object under a key, or `default` where there is none. -/
def get (p : Probe) (key : String) (default : Value) : Value :=
  match p.value with
  | .object fields => (fields.get? key).getD default
  | _ => default

/-- Moves along one segment of a path: a position in an array or a string if it reads as an integer,
else a key. -/
def segment (p : Probe) (s : List Char) : Probe :=
  match p.value, Text.integer? s with
  | .array _, some n => p.item (.integer n)
  | .string _, some n => p.item (.integer n)
  | _, _ => p.item (.string (String.ofList s))

/-- Moves along segments: the probe before the last of them, and the one after it. -/
def follow (parent current : Probe) : List (List Char) → Probe × Probe
  | [] => (parent, current)
  | s :: ss => follow current (current.segment s) ss

/-- The container of the member at a path, and the member. -/
def locate (p : Probe) (path : String) (separator : Char) : Probe × Probe :=
  follow p p (Text.segments separator path.toList)

/-- Moves to the member at a path. -/
def path (p : Probe) (path : String) (separator : Char) : Probe := (p.locate path separator).2

/-- Whether the probe stands at a value equal to `v`. -/
def equals (p : Probe) (v : Value) : Bool := p.value == v

end Probe

end Deferred
