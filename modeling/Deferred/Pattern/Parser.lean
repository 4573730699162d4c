import Deferred.Number.Power
import Deferred.Pattern.CharSet

/-!
# Reading patterns

`Pattern.parse?` reads the written form of a pattern. The form has literal characters, `.`, anchors,
escapes, bracketed classes with set operations, groups with flags, alternation, and counted and
uncounted repetition; it has neither look-around nor references to groups.

The reader works on the rest of the text, the flags in force, and the names of groups met so far.
Every pass of `alternatives` and of `classItems` consumes a character, so the length of the text
bounds their depth.
-/

namespace Deferred

namespace PatternReader

/-- What the flags in force ask for. -/
structure Flags where
  ignoreCase : Bool := false
  multiLine : Bool := false
  dotAll : Bool := false
  unicode : Bool := true
  carriageReturn : Bool := false
  /-- Blanks and comments in the written form are passed over. -/
  verbose : Bool := false

structure State where
  rest : List Char
  flags : Flags
  names : List (List Char)

/-- A reader; it fails on a text that is no pattern. -/
abbrev Reader := StateT State Option

/-! ### Characters -/

mutual

/-- Passes over blanks and comments. -/
def skipVerbose : List Char → List Char
  | [] => []
  | c :: cs =>
    if CharProperty.isBlank c then skipVerbose cs
    else if c = '#' then skipComment cs
    else c :: cs

/-- Passes over the rest of a line and what `skipVerbose` passes over after it. -/
def skipComment : List Char → List Char
  | [] => []
  | c :: cs => if c = '\n' then skipVerbose cs else skipComment cs

end

/-- The next character, which stays where it is. -/
def peek : Reader (Option Char) := do return (← get).rest.head?

/-- Passes over one character. -/
def bump : Reader Unit := modify fun s => { s with rest := s.rest.drop 1 }

/-- Passes over blanks and comments where the flags say so. -/
def skipSpace : Reader Unit :=
  modify fun s => if s.flags.verbose then { s with rest := skipVerbose s.rest } else s

/-- Passes over one character and the blanks after it. -/
def bumpSpace : Reader Unit := do
  bump
  skipSpace

/-- The next character; there has to be one. -/
def require : Reader Char := do
  match ← peek with
  | some c => return c
  | none => failure

/-- Passes over `word` if it comes next. -/
def accept (word : String) : Reader Bool := do
  let s ← get
  if word.toList.isPrefixOf s.rest then
    set { s with rest := s.rest.drop word.length }
    return true
  else return false

/-- The next character after one character and the blanks that follow it. -/
def peekSpace : Reader (Option Char) := do
  let s ← get
  let rest := s.rest.drop 1
  return (if s.flags.verbose then skipVerbose rest else rest).head?

/-- Reads characters while they satisfy `p`, passing over blanks between them. -/
def takeWhileSpaced (p : Char → Bool) : Nat → Reader (List Char)
  | 0 => return []
  | fuel + 1 => do
    match ← peek with
    | some c =>
      if p c then
        bumpSpace
        return c :: (← takeWhileSpaced p fuel)
      else return []
    | none => return []

/-- The length of what is left to read. -/
def remaining : Reader Nat := do return (← get).rest.length

/-! ### What stands for one character -/

/-- The parts that an escape, or a character that is no operator, can be. -/
inductive Atom where
  | literal (c : Char)
  /-- A byte given by two hexadecimal digits. -/
  | byte (c : Char)
  | set (s : CharSet)
  | assertion (a : Assertion)
  | dot

def isMeta (c : Char) : Bool := "\\.+*?()|[]\x7b\x7d^$#&-~".toList.contains c

/-- Whether a backslash before `c` has no effect. -/
def isEscapable (c : Char) : Bool :=
  isMeta c || (c.toNat < 128 && !c.isAlphanum && c != '<' && c != '>')

/-- The character with a number, if there is one. -/
def charOf? (n : Nat) : Option Char := if h : n.isValidChar then some (Char.ofNatAux n h) else none

def isHex (c : Char) : Bool := (CodeRanges.hexDigit? c).isSome

/-- Reads exactly `n` hexadecimal digits, with blanks passed over between them. -/
def hexDigits : Nat → Reader (List Char)
  | 0 => return []
  | n + 1 => do
    let c ← require
    if isHex c then
      bumpSpace
      return c :: (← hexDigits n)
    else failure

/-- Reads the digits of a hexadecimal escape whose letter has been read. -/
def hexEscape (digits : Nat) : Reader Atom := do
  match ← peek with
  | some '\x7b' =>
    bumpSpace
    let ds ← takeWhileSpaced (· != '\x7d') (← remaining)
    let _ ← require
    bumpSpace
    if ds.isEmpty || !ds.all isHex then failure
    else
      match charOf? (CodeRanges.hexValue ds) with
      | some c => return .literal c
      | none => failure
  | some _ =>
    let ds ← hexDigits digits
    match charOf? (CodeRanges.hexValue ds) with
    | some c => return if digits = 2 then .byte c else .literal c
    | none => failure
  | none => failure

/-- The set that the flags make of a named one. -/
def folded (flags : Flags) (s : CharSet) : CharSet :=
  if flags.ignoreCase then
    if flags.unicode then CharSet.foldCase s else CharSet.foldAscii s
  else s

/-- The complement of a set where it is asked for; outside the characters of Unicode it would hold
bytes that are no text. -/
def negatedIf (flags : Flags) (negated : Bool) (s : CharSet) : Reader CharSet :=
  if negated then if flags.unicode then return CharSet.compl s else failure
  else return s

/-- The position of `word` in a text, and what comes before and after it. -/
def cutAt (word : List Char) : List Char → Option (List Char × List Char)
  | [] => none
  | c :: cs =>
    if word.isPrefixOf (c :: cs) then some ([], (c :: cs).drop word.length)
    else (cutAt word cs).map fun (before, after) => (c :: before, after)

/-- The set that the words between the braces of a property escape name. -/
def propertySet? (name : List Char) : Option (Bool × CharSet) :=
  match cutAt ['!', '='] name with
  | some (p, v) => (CharSet.ofNameAndValue? p v).map (true, ·)
  | none =>
    match cutAt [':'] name with
    | some (p, v) => (CharSet.ofNameAndValue? p v).map (false, ·)
    | none =>
      match cutAt ['='] name with
      | some (p, v) => (CharSet.ofNameAndValue? p v).map (false, ·)
      | none => (CharSet.ofName? name).map (false, ·)

/-- Reads a property escape whose letter has been read. -/
def propertyEscape (negated : Bool) : Reader Atom := do
  let c ← require
  let name ←
    if c = '\x7b' then do
      bumpSpace
      let name ← takeWhileSpaced (· != '\x7d') (← remaining)
      let _ ← require
      bump
      pure name
    else if c = '\\' then failure
    else do
      bumpSpace
      pure [c]
  let flags := (← get).flags
  if !flags.unicode then failure
  else
    match propertySet? name with
    | some (unequal, s) => return .set (← negatedIf flags (negated != unequal) (folded flags s))
    | none => failure

/-- The characters of words under the flags. -/
def wordSet (flags : Flags) : CharSet :=
  if flags.unicode then CharProperty.isWord else CharSet.asciiWord

/-- Reads what may follow `\b`: the name of a special boundary in braces. What does not begin like a
name is left to be read as a count. -/
def boundary : Reader Assertion := do
  let start ← get
  let word := wordSet start.flags
  let isNameChar (c : Char) : Bool := c.isAlpha || c == '-'
  if ← accept "\x7b" then
    skipSpace
    let c ← require
    if !isNameChar c then
      set start
      return .boundary word
    else
      let name ← takeWhileSpaced isNameChar (← remaining)
      if (← peek) = some '\x7d' then
        bump
        match String.ofList name with
        | "start" => return .wordStart word
        | "end" => return .wordEnd word
        | "start-half" => return .wordStartHalf word
        | "end-half" => return .wordEndHalf word
        | _ => failure
      else failure
  else return .boundary word

/-- Reads an escape whose backslash has been read. -/
def escape : Reader Atom := do
  let c ← require
  let flags := (← get).flags
  if c.isDigit then failure
  else if c = 'x' ∨ c = 'u' ∨ c = 'U' then
    bumpSpace
    hexEscape (if c = 'x' then 2 else if c = 'u' then 4 else 8)
  else if c = 'p' ∨ c = 'P' then
    bumpSpace
    propertyEscape (c = 'P')
  else
    bump
    match CharSet.ofLetter? flags.unicode c.toLower with
    | some s => return .set (← negatedIf flags c.isUpper s)
    | none =>
      if isEscapable c then return .literal c
      else
        match c with
        | 'a' => return .literal '\x07'
        | 'f' => return .literal '\x0C'
        | 't' => return .literal '\t'
        | 'n' => return .literal '\n'
        | 'r' => return .literal '\r'
        | 'v' => return .literal '\x0B'
        | 'A' => return .assertion .textStart
        | 'z' => return .assertion .textEnd
        | 'b' => return .assertion (← boundary)
        | 'B' => return .assertion (.noBoundary (wordSet flags))
        | '<' => return .assertion (.wordStart (wordSet flags))
        | '>' => return .assertion (.wordEnd (wordSet flags))
        | _ => failure

/-! ### Classes in brackets -/

/-- The character that an end of a range can be. -/
def rangeEnd (flags : Flags) : Atom → Option Char
  | .literal c => if flags.unicode || c.toNat < 128 then some c else none
  | .byte c => if flags.unicode || c.toNat < 128 then some c else none
  | _ => none

/-- The set that an item of a class can be. -/
def itemSet (flags : Flags) : Atom → Option CharSet
  | .set s => some s
  | a => (rangeEnd flags a).map CharSet.one

/-- Reads one character or escape of a class. -/
def classAtom : Reader Atom := do
  let c ← require
  bump
  if c = '\\' then escape else return .literal c

/-- Reads a character, an escape or a range of a class. A hyphen before the closing bracket, or
before another hyphen, is no range. -/
def classRange : Reader CharSet := do
  let first ← classAtom
  skipSpace
  let flags := (← get).flags
  let c ← require
  let next ← peekSpace
  if c != '-' || next = some ']' || next = some '-' then itemSet flags first
  else
    bumpSpace
    let second ← classAtom
    match rangeEnd flags first, rangeEnd flags second with
    | some lo, some hi => if lo ≤ hi then return CharSet.range lo hi else failure
    | _, _ => failure

/-- Reads a class such as `[:alpha:]` where one stands; the reader is at its opening bracket. -/
def namedClass : Reader (Option CharSet) := do
  let start ← get
  let flags := start.flags
  let giveUp : Reader (Option CharSet) := do
    set start
    return none
  if ← accept "[:" then
    let negated ← accept "^"
    let s ← get
    let name := s.rest.takeWhile (· != ':')
    set { s with rest := s.rest.drop name.length }
    if ← accept ":]" then
      match CharSet.asciiClass? (String.ofList name) with
      | some c => return some (← negatedIf flags negated (folded flags c))
      | none => giveUp
    else giveUp
  else return none

/-- A pending operation of a class: what it does, and its left side. -/
abbrev Pending := Option ((CharSet → CharSet → CharSet) × CharSet)

/-- Finishes a pending operation. -/
def finish (flags : Flags) (pending : Pending) (s : CharSet) : CharSet :=
  match pending with
  | some (op, left) => op (folded flags left) (folded flags s)
  | none => s

/-- The set operator that comes next: two equal characters. -/
def setOperator? (rest : List Char) : Option (CharSet → CharSet → CharSet) :=
  match rest with
  | '&' :: '&' :: _ => some CharSet.inter
  | '-' :: '-' :: _ => some CharSet.diff
  | '~' :: '~' :: _ => some CharSet.symmDiff
  | _ => none

/-- Reads hyphens that begin a class, which stand for themselves. -/
def leadingHyphens : Nat → CharSet → Bool → Reader (CharSet × Bool)
  | 0, s, any => return (s, any)
  | fuel + 1, s, any => do
    if (← require) = '-' then
      bumpSpace
      leadingHyphens fuel (CharSet.union s (CharSet.one '-')) true
    else return (s, any)

/-- Reads the beginning of a class up to its first ordinary item: whether it is negated, and the
characters that stand for themselves there. The reader is at the opening bracket. -/
def classStart : Reader (Bool × CharSet) := do
  bumpSpace
  let negated := (← require) = '^'
  if negated then bumpSpace
  let (s, any) ← leadingHyphens (← remaining) CharSet.none false
  if (← require) = ']' && !any then
    bumpSpace
    let _ ← require
    return (negated, CharSet.one ']')
  else return (negated, s)

/-- Reads the items of a class up to its closing bracket. Answers the set, with the greatest depth
of classes and operations inside it. -/
def classItems : Nat → Pending → CharSet → Nat → Reader (CharSet × Nat)
  | 0, _, _, _ => failure
  | fuel + 1, pending, s, depth => do
    skipSpace
    let c ← require
    let state ← get
    let flags := state.flags
    if c = ']' then
      bump
      return (finish flags pending s, depth)
    else if c = '[' then
      match ← namedClass with
      | some named => classItems fuel pending (CharSet.union s named) depth
      | none =>
        let (negated, start) ← classStart
        let (inner, innerDepth) ← classItems fuel none start 0
        let inner ← negatedIf flags negated (folded flags inner)
        classItems fuel pending (CharSet.union s inner) (max depth (innerDepth + 1))
    else
      match setOperator? state.rest with
      | some op =>
        bump
        bump
        classItems fuel (some (op, finish flags pending s)) CharSet.none (depth + 1)
      | none =>
        let item ← classRange
        classItems fuel pending (CharSet.union s item) depth

/-- Reads a class in brackets. -/
def bracketed : Reader (CharSet × Nat) := do
  let flags := (← get).flags
  let (negated, start) ← classStart
  let (s, depth) ← classItems (← remaining) none start 0
  return (← negatedIf flags negated (folded flags s), depth)

/-! ### Repetition -/

/-- Reads a decimal number of 32 bits between blanks. -/
def decimal : Reader Nat := do
  modify fun s => { s with rest := s.rest.dropWhile CharProperty.isBlank }
  let ds ← takeWhileSpaced Char.isDigit (← remaining)
  modify fun s => { s with rest := s.rest.dropWhile CharProperty.isBlank }
  let n := ds.foldl (fun n d => 10 * n + (d.toNat - '0'.toNat)) 0
  if ds.isEmpty || decide (twoTo 32 ≤ n) then failure else return n

/-- Reads a count in braces: exactly, at least, or between. The reader is at the opening brace. -/
def count : Reader (Nat × Option Nat) := do
  bumpSpace
  let min ← decimal
  let range ←
    if (← require) = ',' then do
      bumpSpace
      if (← require) = '\x7d' then pure (min, none)
      else do
        let max ← decimal
        pure (min, some max)
    else pure (min, some min)
  if (← require) = '\x7d' then
    bumpSpace
    if (range.2.all fun max => decide (min ≤ max)) then return range else failure
  else failure

/-- Passes over the mark of a repetition that prefers fewer rounds, which matches the same texts. -/
def lazyMark : Reader Unit := do
  let _ ← accept "?"

/-! ### Groups -/

/-- Whether a character may stand in the name of a group. -/
def isNameChar (first : Bool) (c : Char) : Bool :=
  c == '_' || CharProperty.isAlphabetic c ||
    (!first && (CharProperty.isNumeric c || c == '.' || c == '[' || c == ']'))

/-- Reads the name of a group up to the closing angle bracket; no two groups share a name. -/
def groupName : Reader Unit := do
  let s ← get
  let name := s.rest.takeWhile (· != '>')
  match s.rest.drop name.length, name with
  | _ :: rest, c :: cs =>
    if isNameChar true c && cs.all (isNameChar false) && !s.names.contains name then
      set { s with rest := rest, names := name :: s.names }
    else failure
  | _, _ => failure

/-- The flags with one of them set or cleared. -/
def withFlag (flags : Flags) (on : Bool) : Char → Option Flags
  | 'i' => some { flags with ignoreCase := on }
  | 'm' => some { flags with multiLine := on }
  | 's' => some { flags with dotAll := on }
  | 'U' => some flags
  | 'u' => some { flags with unicode := on }
  | 'R' => some { flags with carriageReturn := on }
  | 'x' => some { flags with verbose := on }
  | _ => none

/-- Reads flags up to a colon or a closing parenthesis, which stays. Each flag stands at most once,
so does the minus sign, and a flag has to follow it. -/
def flagItems : Nat → List Char → Bool → Flags → Reader (Flags × Bool)
  | 0, _, _, _ => failure
  | fuel + 1, seen, on, flags => do
    let c ← require
    if c = ':' ∨ c = ')' then
      if seen.head? = some '-' then failure else return (flags, seen.isEmpty)
    else if seen.contains c then failure
    else if c = '-' then
      bump
      flagItems fuel (c :: seen) false flags
    else
      match withFlag flags on c with
      | some flags =>
        bump
        flagItems fuel (c :: seen) on flags
      | none => failure

/-- How a group begins. -/
inductive GroupStart where
  /-- A group, with the flags inside it. -/
  | group (flags : Flags)
  /-- No group, but flags for what follows. -/
  | flags (flags : Flags)

/-- Reads the beginning of a group; the reader is at its parenthesis. -/
def groupStart : Reader GroupStart := do
  bumpSpace
  let s ← get
  if ["?=", "?!", "?<=", "?<!"].any fun w => w.toList.isPrefixOf s.rest then failure
  else if ← accept "?P<" then
    groupName
    return .group s.flags
  else if ← accept "?<" then
    groupName
    return .group s.flags
  else if ← accept "?" then
    let (flags, isEmpty) ← flagItems ((← remaining) + 1) [] true s.flags
    let c ← require
    bump
    if c = ')' then
      if isEmpty then failure else return .flags flags
    else return .group flags
  else return .group s.flags

/-! ### Alternatives -/

/-- A part of a pattern: its meaning, its depth, and whether it can be repeated. -/
structure Part where
  pattern : Pattern
  depth : Nat
  repeatable : Bool

/-- The pattern of one character, in both cases where case is ignored. -/
def literalPattern (flags : Flags) (c : Char) : Pattern := .char (folded flags (CharSet.one c))

/-- The part that an atom is outside brackets. -/
def atomPart (flags : Flags) : Atom → Option Part
  | .literal c => some ⟨literalPattern flags c, 0, true⟩
  | .byte c =>
    if flags.unicode || c.toNat < 128 then some ⟨literalPattern flags c, 0, true⟩ else none
  | .set s => some ⟨.char s, 0, true⟩
  | .assertion a => some ⟨.assertion a, 0, true⟩
  | .dot =>
    if !flags.unicode then none
    else if flags.dotAll then some ⟨.char CharSet.all, 0, true⟩
    else
      some ⟨.char fun c => c != '\n' && (c != '\r' || !flags.carriageReturn), 0, true⟩

/-- The start of the text, or of a line. -/
def startAssertion (flags : Flags) : Assertion :=
  if flags.multiLine then if flags.carriageReturn then .lineStartCR else .lineStart else .textStart

/-- The end of the text, or of a line. -/
def endAssertion (flags : Flags) : Assertion :=
  if flags.multiLine then if flags.carriageReturn then .lineEndCR else .lineEnd else .textEnd

/-- The greatest depth of parts. -/
def depthOf (parts : List Part) : Nat := parts.foldl (fun d p => max d p.depth) 0

/-- Parts one after the other, given last first. -/
def joined : List Part → Part
  | [] => ⟨.empty, 0, false⟩
  | [p] => p
  | parts => ⟨.sequenceOf (parts.reverse.map (·.pattern)), depthOf parts + 1, true⟩

/-- The branches of an alternation, given last first. -/
def alternation : List Part → Part
  | [] => ⟨.empty, 0, false⟩
  | [p] => p
  | branches => ⟨.eitherOf (branches.reverse.map (·.pattern)), depthOf branches + 1, true⟩

/-- Repeats the last of the parts. -/
def repeatLast (parts : List Part) (min : Nat) (max : Option Nat) : Option (List Part) :=
  match parts with
  | p :: ps =>
    if p.repeatable then some (⟨.repetition p.pattern min max, p.depth + 1, true⟩ :: ps) else none
  | [] => none

/-- Reads alternatives up to the end of the text, or inside a group up to its closing parenthesis.
`branches` and `parts` are those already read, last first. -/
def alternatives : Nat → Bool → List Part → List Part → Reader Part
  | 0, _, _, _ => failure
  | fuel + 1, inside, branches, parts => do
    skipSpace
    let flags := (← get).flags
    match ← peek with
    | none => if inside then failure else return alternation (joined parts :: branches)
    | some ')' =>
      if inside then
        bump
        return alternation (joined parts :: branches)
      else failure
    | some '|' =>
      bump
      alternatives fuel inside (joined parts :: branches) []
    | some '(' =>
      match ← groupStart with
      | .flags new =>
        modify fun s => { s with flags := new }
        alternatives fuel inside branches (⟨.empty, 0, false⟩ :: parts)
      | .group new =>
        modify fun s => { s with flags := new }
        let p ← alternatives fuel true [] []
        modify fun s => { s with flags := flags }
        alternatives fuel inside branches (⟨p.pattern, p.depth + 1, true⟩ :: parts)
    | some '[' =>
      let (s, depth) ← bracketed
      alternatives fuel inside branches (⟨.char s, depth + 1, true⟩ :: parts)
    | some '?' =>
      bump
      lazyMark
      alternatives fuel inside branches (← repeatLast parts 0 (some 1))
    | some '*' =>
      bump
      lazyMark
      alternatives fuel inside branches (← repeatLast parts 0 none)
    | some '+' =>
      bump
      lazyMark
      alternatives fuel inside branches (← repeatLast parts 1 none)
    | some '\x7b' =>
      let (min, max) ← count
      lazyMark
      alternatives fuel inside branches (← repeatLast parts min max)
    | some c =>
      bump
      let part ←
        match c with
        | '\\' => do atomPart flags (← escape)
        | '.' => atomPart flags .dot
        | '^' => atomPart flags (.assertion (startAssertion flags))
        | '$' => atomPart flags (.assertion (endAssertion flags))
        | c => atomPart flags (.literal c)
      alternatives fuel inside branches (part :: parts)

end PatternReader

namespace Pattern

/-- Parts may not be nested more deeply than this. -/
def maxDepth : Nat := 250

/-- A pattern may not be heavier than this. -/
def maxWeight : Nat := 327680

/-- The pattern that a text describes; `none` for a text that describes none. -/
def parse? (s : String) : Option Pattern :=
  let text := s.toList
  match (PatternReader.alternatives (text.length + 1) false [] []).run ⟨text, {}, []⟩ with
  | some (part, _) =>
    if part.depth ≤ maxDepth ∧ part.pattern.weight ≤ maxWeight then some part.pattern else none
  | none => none

end Pattern

end Deferred
