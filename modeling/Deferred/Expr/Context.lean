import Deferred.Value.Basic

/-!
# Contexts

The arguments of one resolution, and what becomes of access to data that is not there.
-/

namespace Deferred

/-- What access to an attribute, an item or a method that is not there gives. -/
inductive Navigation where
  /-- A fault. -/
  | strict
  /-- Absence. -/
  | safe
deriving DecidableEq, Repr

structure Context where
  positional : List Value
  named : Named := ∅
  navigation : Navigation := .strict

end Deferred
