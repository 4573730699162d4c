import Deferred.Number.Shortest
import Deferred.Text.Integer
import Deferred.Text.Quoted
import Deferred.Value.Basic

/-!
# The text of a value

Values are written on one line, as compact JSON with the keys of an object in ascending order. A
whole float keeps one place after the point, which tells it from an integer. What has no JSON form
is written between angle brackets.
-/

namespace Deferred

namespace Value

mutual

/-- The text of a value. -/
def render : Value → String
  | null => "null"
  | boolean true => "true"
  | boolean false => "false"
  | integer n => Text.ofInteger n
  | float x => Binary64.text x
  | string s => Quoted.quote s
  | array items => "[" ++ ",".intercalate (renderItems items) ++ "]"
  | object ⟨keys, entry⟩ =>
    "\x7b" ++ ",".intercalate ((List.finRange _).map fun i =>
      Quoted.quote keys.toList[i] ++ ":" ++ render (entry i)) ++ "\x7d"
  | unset => "<unset>"
  | function f => "<fn " ++ f.name ++ ">"
  | method _ name => "<method " ++ name ++ ">"
termination_by structural v => v

/-- The texts of values, one by one. -/
def renderItems : List Value → List String
  | [] => []
  | v :: vs => render v :: renderItems vs
termination_by structural vs => vs

end

/-- The text of a value inside other text: a string stands for itself. -/
def asText (v : Value) : String :=
  match v with
  | string s => s
  | v => v.render

theorem renderItems_eq_map (vs : List Value) : renderItems vs = vs.map render := by
  induction vs with
  | nil => rfl
  | cons v vs ih => simp [renderItems, ih]

end Value

end Deferred
