import Deferred.Text.CharProperty

/-!
# Patterns

A pattern describes texts by what stands at a place and in which order. Its meaning is given by
`ends`: the places at which a match that begins at given places can end. `isMatch` asks whether a
match begins anywhere at all.

Places are counted in characters. A repetition never has to be followed further than the text is
long: beyond that some round matched nothing, and such a round can be repeated or left out freely.
-/

namespace Deferred

/-- A set of characters. -/
abbrev CharSet := Char → Bool

/-- A condition on a place, not on the characters matched. -/
inductive Assertion where
  | textStart
  | textEnd
  | lineStart
  | lineEnd
  /-- Like `lineStart`, for lines that may also end with a carriage return. -/
  | lineStartCR
  | lineEndCR
  /-- Whether exactly one of the two neighbours belongs to a word. -/
  | boundary (word : CharSet)
  | noBoundary (word : CharSet)
  | wordStart (word : CharSet)
  | wordEnd (word : CharSet)
  | wordStartHalf (word : CharSet)
  | wordEndHalf (word : CharSet)

inductive Pattern where
  /-- Matches nothing, anywhere. -/
  | empty
  /-- One character of a set. -/
  | char (set : CharSet)
  | assertion (a : Assertion)
  | sequence (p q : Pattern)
  | either (p q : Pattern)
  /-- At least `min` times, and at most `max` times if that is given. -/
  | repetition (p : Pattern) (min : Nat) (max : Option Nat)

namespace Assertion

/-- Whether the character at a place exists and is in a set. -/
def at? (text : Array Char) (i : Nat) (set : CharSet) : Bool :=
  match text[i]? with
  | some c => set c
  | none => false

/-- Whether the character before a place exists and is in a set. -/
def before? (text : Array Char) (i : Nat) (set : CharSet) : Bool :=
  match i with
  | 0 => false
  | i + 1 => at? text i set

/-- Whether the condition holds at a place. -/
def holds (text : Array Char) (i : Nat) : Assertion → Bool
  | textStart => i == 0
  | textEnd => i == text.size
  | lineStart => i == 0 || before? text i (· = '\n')
  | lineEnd => i == text.size || at? text i (· = '\n')
  | lineStartCR =>
    i == 0 || before? text i (· = '\n') || (before? text i (· = '\r') && !at? text i (· = '\n'))
  | lineEndCR =>
    i == text.size || at? text i (· = '\r') ||
      (at? text i (· = '\n') && !before? text i (· = '\r'))
  | boundary word => before? text i word != at? text i word
  | noBoundary word => before? text i word == at? text i word
  | wordStart word => !before? text i word && at? text i word
  | wordEnd word => before? text i word && !at? text i word
  | wordStartHalf word => !before? text i word
  | wordEndHalf word => !at? text i word

end Assertion

namespace Pattern

/-- Adds the places that are not there yet. -/
def union (places more : List Nat) : List Nat :=
  more.foldl (fun ps i => if ps.contains i then ps else i :: ps) places

/-- Applies `step` `n` times. -/
def iterate (step : List Nat → List Nat) : Nat → List Nat → List Nat
  | 0, places => places
  | n + 1, places => iterate step n (step places)

/-- All places reached by at most `n` applications of `step`. -/
def upTo (step : List Nat → List Nat) : Nat → List Nat → List Nat
  | 0, places => places
  | n + 1, places => union places (upTo step n (step places))

/-- The places where a match that begins at one of `places` can end. -/
def ends (text : Array Char) : Pattern → List Nat → List Nat
  | empty, places => places
  | char set, places => (places.filter fun i => Assertion.at? text i set).map (· + 1)
  | assertion a, places => places.filter fun i => a.holds text i
  | sequence p q, places => q.ends text (p.ends text places)
  | either p q, places => union (p.ends text places) (q.ends text places)
  | repetition p min max, places =>
    -- More rounds than places reach nothing new.
    let rounds := text.size + 1
    let first := iterate (fun ps => union [] (p.ends text ps)) (Nat.min min rounds) places
    let more :=
      match max with
      | some max => Nat.min (max - min) rounds
      | none => rounds
    upTo (fun ps => union [] (p.ends text ps)) more first

/-- Whether a match stands somewhere in the text. -/
def isMatch (p : Pattern) (text : List Char) : Bool :=
  let text := text.toArray
  !(p.ends text (List.range (text.size + 1))).isEmpty

/-- How many characters stand in the pattern, in its longest branches, once its counted repetitions
are written out. -/
def weight : Pattern → Nat
  | empty | assertion _ => 0
  | char _ => 1
  | sequence p q => p.weight + q.weight
  | either p q => Nat.max p.weight q.weight
  | repetition p min max => p.weight * max.getD (Nat.max min 1)

/-- The patterns one after the other. -/
def sequenceOf : List Pattern → Pattern
  | [] => empty
  | [p] => p
  | p :: ps => sequence p (sequenceOf ps)

/-- One of the patterns. -/
def eitherOf : List Pattern → Pattern
  | [] => empty
  | [p] => p
  | p :: ps => either p (eitherOf ps)

end Pattern

end Deferred
