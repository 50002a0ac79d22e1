import Trellis.Regex.Basic
import Trellis.Regex.ClassName
import Trellis.Regex.Footprint
import Trellis.Text.Letter
import Trellis.Text.Utf8
/-!
Reading regular expressions. The reader goes through the text once, with a stack of the groups that are
open; flags hold from where they are set to the end of their group. `Regex.read?` refuses what is
ill-formed or nests too deep, and `Regex.parse?` also what takes too much memory when it is built.
-/

namespace Trellis.Regex

/-- How the characters of an expression are read at some point of it. -/
structure Flags where
  ignoreCase : Bool
  multiLine : Bool
  dotAll : Bool
  /-- Whether lines may also end in a carriage return. -/
  anyLineEnd : Bool
  /-- Whether classes hold the characters of all scripts. -/
  unicode : Bool
  /-- Whether repetitions prefer few matches unless they are marked. -/
  swapLazy : Bool
  /-- Whether blanks and comments may stand between the parts. -/
  spaced : Bool
deriving DecidableEq, Repr

namespace Reader

def startFlags : Flags := ⟨false, false, false, false, true, false, false⟩

/-- Skip blanks and comments where flags allow them. -/
def skipBlanks : Bool → List Char → List Char
  | _, [] => []
  | inComment, c :: rest =>
    if inComment then skipBlanks (c ≠ '\n') rest
    else if Text.isBlank c then skipBlanks false rest
    else if c = '#' then skipBlanks true rest
    else c :: rest

def skip (flags : Flags) (cs : List Char) : List Char :=
  if flags.spaced then skipBlanks false cs else cs

/-- Skip, and insist on something left. -/
def skipSome (flags : Flags) (cs : List Char) : Option (Char × List Char) :=
  match skip flags cs with
  | [] => none
  | c :: rest => some (c, rest)

/-- The longest start of the text whose characters pass the test, blanks between them skipped. -/
def spanSpaced (flags : Flags) (test : Char → Bool) : Nat → List Char → List Char × List Char
  | 0, cs => ([], cs)
  | fuel + 1, cs => match cs with
    | [] => ([], [])
    | c :: rest =>
      if test c then
        let more := spanSpaced flags test fuel (skip flags rest)
        (c :: more.1, more.2)
      else ([], cs)

def digitsValue (base : Nat) (cs : List Char) : Nat :=
  cs.foldl (fun n c => base * n + Unicode.digitValue c.toLower) 0

/-- The largest count of a repetition. -/
def largestCount : Nat := 4294967295

/-- A count in a repetition, with blanks around it. -/
def count? (flags : Flags) (cs : List Char) : Option (Nat × List Char) :=
  let cs := cs.dropWhile Text.isBlank
  let (digits, rest) := spanSpaced flags Char.isDigit cs.length cs
  let rest := (rest.dropWhile Text.isBlank)
  let value := digitsValue 10 digits
  if digits = [] ∨ largestCount < value then none else some (value, rest)

/-- What follows the opening brace of a repetition: its bounds. -/
def bounds? (flags : Flags) (cs : List Char) : Option (Nat × Option Nat × List Char) := do
  let (c, cs) ← skipSome flags cs
  let (least, cs) ← count? flags (c :: cs)
  match cs with
  | '}' :: rest => return (least, some least, rest)
  | ',' :: rest =>
    let (c, rest) ← skipSome flags rest
    if c = '}' then return (least, none, rest)
    else
      let (most, rest) ← count? flags (c :: rest)
      match rest with
      | '}' :: rest => if least ≤ most then return (least, some most, rest) else none
      | _ => none
  | _ => none

def isHexDigit (c : Char) : Bool := (Bytes.hexValue? c.toNat).isSome

/-- The character with the given code, if there is one. -/
def scalar? (n : Nat) : Option Char :=
  if n < 0xD800 ∨ (0xDFFF < n ∧ n < 0x110000) then some (Char.ofNat n) else none

/-- A fixed number of hexadecimal digits. -/
def hexDigits? (flags : Flags) : Nat → List Char → Option (List Char × List Char)
  | 0, cs => some ([], cs)
  | n + 1, cs => match cs with
    | [] => none
    | c :: rest =>
      if isHexDigit c then
        (hexDigits? flags n (skip flags rest)).map fun more => (c :: more.1, more.2)
      else none

/-- A character by its code: the digits in braces, or a fixed number of them. The flag tells whether the
short form was used, which may stand for a byte. -/
def hexChar? (flags : Flags) (kind : Char) (cs : List Char) :
    Option ((Char × Bool) × List Char) := do
  match skip flags cs with
  | '{' :: rest =>
    let rest := skip flags rest
    let (digits, rest) := spanSpaced flags isHexDigit rest.length rest
    match rest with
    | '}' :: rest =>
      if digits = [] then none
      else
        let c ← scalar? (digitsValue 16 digits)
        return ((c, false), skip flags rest)
    | _ => none
  | rest =>
    let length := if kind = 'x' then 2 else if kind = 'u' then 4 else 8
    let (digits, rest) ← hexDigits? flags length rest
    let c ← scalar? (digitsValue 16 digits)
    return ((c, kind = 'x'), rest)

/-- Cut a text at the first occurrence of one character, or of one character after another. -/
def cutAt (first : Char) (second : Option Char) : List Char → Option (List Char × List Char)
  | [] => none
  | c :: rest =>
    let hit := match second with
      | none => if c = first then some rest else none
      | some d => match rest with
        | e :: after => if c = first ∧ e = d then some after else none
        | [] => none
    match hit with
    | some after => some ([], after)
    | none => (cutAt first second rest).map fun cut => (c :: cut.1, cut.2)

/-- The Unicode class that the text between braces names, and whether it is negated. -/
def namedClass? (cs : List Char) : Option (CharSet × Bool) :=
  let valued (cut : List Char × List Char) :=
    ClassName.valued? (String.ofList cut.1) (String.ofList cut.2)
  match cutAt '!' (some '=') cs with
  | some cut => (valued cut).map fun set => (set, true)
  | none => match (cutAt ':' none cs).orElse fun _ => cutAt '=' none cs with
    | some cut => (valued cut).map fun set => (set, false)
    | none => (ClassName.named? (String.ofList cs)).map fun set => (set, false)

/-- What follows `p` or `P`: one letter or a name in braces. -/
def unicodeClass? (flags : Flags) (cs : List Char) : Option ((CharSet × Bool) × List Char) := do
  let (c, cs) ← skipSome flags cs
  if c = '{' then
    let cs := skip flags cs
    let (name, rest) := spanSpaced flags (fun c => c ≠ '}') cs.length cs
    match rest with
    | '}' :: rest => return (← namedClass? name, rest)
    | _ => none
  else if c = '\\' then none
  else return ((← ClassName.named? (c.toString), false), skip flags cs)

/-- Extend a set by what differs in case only, if case does not count. -/
def foldCase (flags : Flags) (set : CharSet) : CharSet :=
  if flags.ignoreCase then if flags.unicode then .anyCase set else .anyAsciiCase set else set

/-- The complement of a set, if wanted. Without Unicode classes it would hold single bytes of longer
characters and is refused. -/
def negate? (flags : Flags) (negated : Bool) (set : CharSet) : Option CharSet :=
  if negated then if flags.unicode then some (.compl set) else none else some set

/-- A backslash with what follows it. -/
inductive Escape
  /-- A character; the flag tells whether it was written as a byte. -/
  | char (c : Char) (asByte : Bool)
  | set (set : CharSet)
  | anchor (anchor : Anchor)

/-- The classes of one letter. -/
def letterClass (flags : Flags) (c : Char) : Option CharSet :=
  match c.toLower with
  | 'd' => some (if flags.unicode then CharSet.digit else CharSet.asciiDigit)
  | 's' => some (if flags.unicode then .blank else CharSet.asciiBlank)
  | 'w' => some (if flags.unicode then CharSet.word else CharSet.asciiWord)
  | _ => none

/-- The words that conditions speak of. -/
def wordKind (flags : Flags) : WordKind := if flags.unicode then .allScripts else .ascii

/-- A word boundary, which may be a named one. Braces after it that hold neither letters nor hyphens are
the bounds of a repetition and are left in place. -/
def boundary? (flags : Flags) (cs : List Char) : Option (Anchor × List Char) := do
  let words := wordKind flags
  match cs with
  | '{' :: rest =>
    let isNameChar (c : Char) : Bool := c.isAlpha || c = '-'
    let (c, rest) ← skipSome flags rest
    if isNameChar c then
      let (name, rest) := spanSpaced flags isNameChar (rest.length + 1) (c :: rest)
      match rest with
      | '}' :: rest =>
        match String.ofList name with
        | "start" => return (.wordStart words, rest)
        | "end" => return (.wordEnd words, rest)
        | "start-half" => return (.noWordBefore words, rest)
        | "end-half" => return (.noWordAfter words, rest)
        | _ => none
      | _ => none
    else return (.wordBoundary words, cs)
  | _ => return (.wordBoundary words, cs)

/-- The character that a letter after a backslash stands for. -/
def controlChar? (c : Char) : Option Char :=
  match c with
  | 'a' => some (Char.ofNat 7)
  | 'f' => some (Char.ofNat 12)
  | 't' => some '\t'
  | 'n' => some '\n'
  | 'r' => some '\r'
  | 'v' => some (Char.ofNat 11)
  | _ => none

/-- Read what follows a backslash. Punctuation stands for itself; letters and digits without a meaning
are refused. -/
def escape? (flags : Flags) (cs : List Char) : Option (Escape × List Char) := do
  match cs with
  | [] => none
  | c :: rest =>
    if c = 'x' ∨ c = 'u' ∨ c = 'U' then
      let ((value, asByte), rest) ← hexChar? flags c rest
      return (.char value asByte, rest)
    else if c = 'p' ∨ c = 'P' then
      let ((set, negated), rest) ← unicodeClass? flags rest
      if flags.unicode then
        let set ← negate? flags (negated != (c = 'P')) (foldCase flags set)
        return (.set set, rest)
      else none
    else match letterClass flags c with
      | some set => return (.set (← negate? flags c.isUpper set), rest)
      | none => match controlChar? c with
        | some value => return (.char value false, rest)
        | none =>
          if c = 'A' then return (.anchor .textStart, rest)
          else if c = 'z' then return (.anchor .textEnd, rest)
          else if c = 'b' then
            let (place, rest) ← boundary? flags rest
            return (.anchor place, rest)
          else if c = 'B' then return (.anchor (.notWordBoundary (wordKind flags)), rest)
          else if c = '<' then return (.anchor (.wordStart (wordKind flags)), rest)
          else if c = '>' then return (.anchor (.wordEnd (wordKind flags)), rest)
          else if c.isAlphanum ∨ 0x80 ≤ c.toNat then none
          else return (.char c false, rest)

/-- Whether a character may stand outside a class. A byte beyond ASCII is no character. -/
def literal? (flags : Flags) (c : Char) (asByte : Bool) : Option CharSet :=
  if flags.unicode = false ∧ asByte ∧ 0x80 ≤ c.toNat then none
  else some (foldCase flags (CharSet.one c))

/-- Whether a character may stand in a class. -/
def isClassChar (flags : Flags) (c : Char) : Bool := flags.unicode || c.toNat < 0x80

/-- An item of a class: a character, which may be the end of a range, or a set. -/
inductive Item
  | char (c : Char)
  | set (set : CharSet)

def item? (flags : Flags) (c : Char) (rest : List Char) : Option (Item × List Char) := do
  if c = '\\' then
    let (escape, rest) ← escape? flags rest
    match escape with
    | .char c _ => if isClassChar flags c then return (.char c, rest) else none
    | .set set => return (.set set, rest)
    | .anchor _ => none
  else if isClassChar flags c then return (.char c, rest)
  else none

/-- The first character that is no blank, unless it is a number sign that opens a comment: then the next
one, which may belong to the comment. -/
def peekBehindBlanks : Bool → List Char → Option Char
  | _, [] => none
  | inComment, c :: rest =>
    if Text.isBlank c then peekBehindBlanks inComment rest
    else if c = '#' ∧ inComment = false then peekBehindBlanks true rest
    else some c

/-- The character by which a hyphen is told from a range. -/
def peek (flags : Flags) (cs : List Char) : Option Char :=
  if flags.spaced then (peekBehindBlanks false cs).orElse fun _ => cs.head? else cs.head?

/-- One item, or a range from one character to another. A hyphen is no range before the end of the class
and before another hyphen. -/
def itemOrRange? (flags : Flags) (c : Char) (rest : List Char) :
    Option (CharSet × List Char) := do
  let (first, rest) ← item? flags c rest
  let (next, rest) ← skipSome flags rest
  let single : CharSet := match first with
    | .char c => CharSet.one c
    | .set set => set
  let peeked := peek flags rest
  if next ≠ '-' ∨ peeked = some ']' ∨ peeked = some '-' then return (single, next :: rest)
  else
    let (c, rest) ← skipSome flags rest
    let (last, rest) ← item? flags c rest
    match first, last with
    | .char a, .char b => if a ≤ b then return (.range a.toNat b.toNat, rest) else none
    | _, _ => none

/-- An ASCII class after its opening bracket: a name between colons. -/
def asciiClass? (cs : List Char) : Option ((CharSet × Bool) × List Char) := do
  match cs with
  | ':' :: rest =>
    let (negated, rest) := match rest with
      | '^' :: rest => (true, rest)
      | _ => (false, rest)
    let name := rest.takeWhile fun c => c ≠ ':'
    match rest.dropWhile fun c => c ≠ ':' with
    | ':' :: ']' :: rest =>
      let set ← ClassName.ascii? (String.ofList name)
      return ((set, negated), rest)
    | _ => none
  | _ => none

inductive SetOperator
  | inter
  | diff
  | symmDiff

/-- A class as far as it was read: the operand at hand with the number of its items and their depth, and
the operands before it. -/
structure ClassState where
  operand : CharSet
  items : Nat
  depth : Nat
  pending : Option (SetOperator × CharSet × Nat)

namespace ClassState

def start : ClassState := ⟨CharSet.none, 0, 0, none⟩

/-- Add an item, which nests to the given depth. -/
def add (s : ClassState) (set : CharSet) (depth : Nat) : ClassState :=
  { s with
    operand := if s.items = 0 then set else .union s.operand set
    items := s.items + 1
    depth := max s.depth depth }

/-- The depth of the operand at hand: several items nest one deeper than a single one. -/
def operandDepth (s : ClassState) : Nat := if s.items < 2 then s.depth else s.depth + 1

/-- The operands so far as one set. -/
def combined (flags : Flags) (s : ClassState) : CharSet × Nat :=
  match s.pending with
  | none => (s.operand, s.operandDepth)
  | some (operator, left, leftDepth) =>
    let left := foldCase flags left
    let right := foldCase flags s.operand
    let set := match operator with
      | .inter => CharSet.inter left right
      | .diff => .diff left right
      | .symmDiff => .symmDiff left right
    (set, max leftDepth s.operandDepth + 1)

/-- Go on after an operator. -/
def operate (flags : Flags) (operator : SetOperator) (s : ClassState) : ClassState :=
  let (set, depth) := s.combined flags
  { start with pending := some (operator, set, depth) }

end ClassState

/-- Hyphens at the start of a class are characters, and so is a closing bracket. -/
def classStart? (flags : Flags) : Nat → ClassState → List Char → Option (ClassState × List Char)
  | 0, _, _ => none
  | fuel + 1, s, cs => do
    let (c, rest) ← skipSome flags cs
    if c = '-' then classStart? flags fuel (s.add (CharSet.one c) 0) rest
    else if c = ']' ∧ s.items = 0 then
      let s := s.add (CharSet.one c) 0
      let (c, rest) ← skipSome flags rest
      return (s, c :: rest)
    else return (s, c :: rest)

mutual

/-- Read a class after its opening bracket: the set and its depth. -/
def class? (flags : Flags) : Nat → List Char → Option ((CharSet × Nat) × List Char)
  | 0, _ => none
  | fuel + 1, cs => do
    let (c, rest) ← skipSome flags cs
    let (negated, cs) := if c = '^' then (true, rest) else (false, c :: rest)
    let (s, cs) ← classStart? flags (cs.length + 1) ClassState.start cs
    let ((set, depth), rest) ← classItems? flags fuel s cs
    let set ← negate? flags negated (foldCase flags set)
    return ((set, depth + 1), rest)

/-- Read the items of a class and its closing bracket. -/
def classItems? (flags : Flags) :
    Nat → ClassState → List Char → Option ((CharSet × Nat) × List Char)
  | 0, _, _ => none
  | fuel + 1, s, cs => do
    let (c, rest) ← skipSome flags cs
    match c, rest with
    | '[', _ =>
      match asciiClass? rest with
      | some ((set, negated), rest) =>
        let set ← negate? flags negated (foldCase flags set)
        classItems? flags fuel (s.add set 0) rest
      | none =>
        let ((set, depth), rest) ← class? flags fuel rest
        classItems? flags fuel (s.add set depth) rest
    | ']', _ => return (s.combined flags, rest)
    | '&', '&' :: rest => classItems? flags fuel (s.operate flags .inter) rest
    | '-', '-' :: rest => classItems? flags fuel (s.operate flags .diff) rest
    | '~', '~' :: rest => classItems? flags fuel (s.operate flags .symmDiff) rest
    | _, _ =>
      let (set, rest) ← itemOrRange? flags c rest
      classItems? flags fuel (s.add set 0) rest

end

/-- Set or clear one flag. -/
def Flags.set? (flags : Flags) (on : Bool) : Char → Option Flags
  | 'i' => some { flags with ignoreCase := on }
  | 'm' => some { flags with multiLine := on }
  | 's' => some { flags with dotAll := on }
  | 'R' => some { flags with anyLineEnd := on }
  | 'u' => some { flags with unicode := on }
  | 'x' => some { flags with spaced := on }
  | 'U' => some { flags with swapLazy := on }
  | _ => none

/-- Read flags up to the character that ends them, a colon or a closing parenthesis. Each may occur once,
and the hyphen that clears the flags after it is not the last. The letters read before are in `seen`. -/
def flags? (flags : Flags) (seen : List Char) : List Char → Option (Flags × List Char × List Char)
  | [] => none
  | c :: rest =>
    if c = ':' ∨ c = ')' then
      if seen.head? = some '-' then none else some (flags, seen, c :: rest)
    else if c ∈ seen then none
    else if c = '-' then flags? flags (c :: seen) rest
    else match Flags.set? flags (!seen.contains '-') c with
      | none => none
      | some flags => flags? flags (c :: seen) rest

/-- A part of an expression with its plan and the depth to which it nests. -/
structure Piece where
  regex : Regex
  plan : Plan
  depth : Nat
  /-- Whether a repetition may follow; none may follow flags. -/
  repeatable : Bool

/-- The parts one after the other. -/
def sequence (pieces : List Piece) : Piece :=
  match pieces with
  | [piece] => { piece with repeatable := true }
  | pieces =>
    ⟨seqs (pieces.map (·.regex)), .ofSeq (pieces.map (·.plan)),
      if pieces = [] then 0 else (pieces.map (·.depth)).foldl max 0 + 1, true⟩

/-- A group as far as it was read: the alternatives before the one at hand and the parts of that one,
the latest first, the flags that hold after the group, and its number if it is remembered. -/
structure Group where
  alternatives : List Piece
  pieces : List Piece
  after : Flags
  number : Option Nat

namespace Group

def start (after : Flags) (number : Option Nat) : Group := ⟨[], [], after, number⟩

def add (g : Group) (piece : Piece) : Group := { g with pieces := piece :: g.pieces }

/-- Begin the next alternative. -/
def next (g : Group) : Group :=
  { g with alternatives := sequence g.pieces.reverse :: g.alternatives, pieces := [] }

/-- The alternatives of a group that has been read. -/
def alternation (g : Group) : Piece :=
  match g.alternatives with
  | [] => sequence g.pieces.reverse
  | _ =>
    let all := g.next.alternatives.reverse
    ⟨alts (all.map (·.regex)), .ofAlt (all.map (·.plan)), (all.map (·.depth)).foldl max 0 + 1, true⟩

/-- A group that has been read. -/
def whole (g : Group) : Piece :=
  let inner := g.alternation
  { inner with
    plan := match g.number with
      | some number => .group number inner.plan
      | none => inner.plan
    depth := inner.depth + 1 }

end Group

/-- The state between two parts: the group at hand, those around it, the flags, the names given and the
number of the groups that are remembered. -/
structure State where
  group : Group
  outer : List Group
  flags : Flags
  names : List String
  remembered : Nat

def State.add (s : State) (piece : Piece) : State := { s with group := s.group.add piece }

/-- Whether a character may stand in the name of a group. -/
def isNameChar (first : Bool) (c : Char) : Bool :=
  c = '_' || Text.isAlphabetic c ||
    (!first && (c = '.' || c = '[' || c = ']' || Text.isNumeric c))

/-- The name of a group up to the closing angle bracket. -/
def groupName? (cs : List Char) : Option (String × List Char) :=
  let name := cs.takeWhile fun c => c ≠ '>'
  match name, cs.drop name.length with
  | c :: more, '>' :: rest =>
    if isNameChar true c ∧ more.all (isNameChar false) then some (String.ofList name, rest) else none
  | _, _ => none

/-- Open a group that is not remembered. -/
def State.push (s : State) (flags : Flags) : State :=
  { s with group := Group.start s.flags none, outer := s.group :: s.outer, flags }

/-- Open a group that is remembered. -/
def State.pushNumbered (s : State) : State :=
  let number := s.remembered + 1
  { s with
    group := Group.start s.flags (some number)
    outer := s.group :: s.outer
    remembered := number }

/-- Open a group with a name that no other group has. -/
def State.pushNamed? (s : State) (cs : List Char) : Option (State × List Char) := do
  let (name, rest) ← groupName? cs
  if name ∈ s.names then none
  else return ({ s.pushNumbered with names := name :: s.names }, rest)

/-- Read what follows an opening parenthesis: flags for the rest of the group at hand, or the start of a
group. Conditions on the text around are not supported. -/
def open? (s : State) (cs : List Char) : Option (State × List Char) := do
  match skip s.flags cs with
  | '?' :: '=' :: _ | '?' :: '!' :: _ | '?' :: '<' :: '=' :: _ | '?' :: '<' :: '!' :: _ => none
  | '?' :: 'P' :: '<' :: rest => s.pushNamed? rest
  | '?' :: '<' :: rest => s.pushNamed? rest
  | '?' :: rest =>
    let (flags, seen, rest) ← flags? s.flags [] rest
    match rest with
    | ':' :: rest => return (s.push flags, rest)
    | _ :: rest =>
      if seen = [] then none
      else return ({ s with flags }.add ⟨.empty, .empty, 0, false⟩, rest)
    | [] => none
  | rest => return (s.pushNumbered, rest)

/-- Close the group at hand. -/
def State.pop? (s : State) : Option State :=
  match s.outer with
  | [] => none
  | outer :: more =>
    some { s with
      group := outer.add s.group.whole
      outer := more
      flags := s.group.after }

/-- Repeat the part before. A question mark behind the repetition tells whether it prefers few matches. -/
def State.repeat? (s : State) (least : Nat) (most : Option Nat) (cs : List Char) :
    Option (State × List Char) :=
  let (marked, rest) := match cs with
    | '?' :: rest => (true, rest)
    | _ => (false, cs)
  match s.group.pieces with
  | piece :: before =>
    if piece.repeatable then
      let plan := Plan.ofTimes piece.plan least most (marked != s.flags.swapLazy)
      let repetition : Piece := ⟨.times piece.regex least most, plan, piece.depth + 1, true⟩
      some ({ s with group := { s.group with pieces := repetition :: before } }, rest)
    else none
  | [] => none

/-- The set that a dot stands for. -/
def dot? (flags : Flags) : Option CharSet :=
  if flags.unicode = false then none
  else if flags.dotAll then some CharSet.any
  else if flags.anyLineEnd then
    some (.compl (.union (CharSet.one '\n') (CharSet.one '\r')))
  else some (.compl (CharSet.one '\n'))

/-- One character of a set that nests to the given depth. -/
def Piece.ofSet (set : CharSet) (depth : Nat) : Piece := ⟨.one set, .ofSet set, depth, true⟩

def Piece.ofAnchor (place : Anchor) : Piece := ⟨.anchor place, .anchor place, 0, true⟩

/-- A part that is no repetition, class, group or alternative. -/
def primitive? (flags : Flags) (c : Char) (rest : List Char) : Option (Piece × List Char) := do
  if c = '\\' then
    let (escape, rest) ← escape? flags rest
    match escape with
    | .char c asByte => return (.ofSet (← literal? flags c asByte) 0, rest)
    | .set set => return (.ofSet set 0, rest)
    | .anchor place => return (.ofAnchor place, rest)
  else if c = '.' then return (.ofSet (← dot? flags) 0, rest)
  else if c = '^' then
    return (.ofAnchor (if flags.multiLine then if flags.anyLineEnd then .anyLineStart else .lineStart
      else .textStart), rest)
  else if c = '$' then
    return (.ofAnchor (if flags.multiLine then if flags.anyLineEnd then .anyLineEnd else .lineEnd
      else .textEnd), rest)
  else return (.ofSet (foldCase flags (CharSet.one c)) 0, rest)

/-- Read the next part, which begins with `c`. -/
def step? (s : State) (c : Char) (rest : List Char) : Option (State × List Char) := do
  match c with
  | '(' => open? s rest
  | ')' => return (← s.pop?, rest)
  | '|' => return ({ s with group := s.group.next }, rest)
  | '[' =>
    let ((set, depth), rest) ← class? s.flags (2 * rest.length + 1) rest
    return (s.add (.ofSet set depth), rest)
  | '?' => s.repeat? 0 (some 1) rest
  | '*' => s.repeat? 0 none rest
  | '+' => s.repeat? 1 none rest
  | '{' =>
    let (least, most, rest) ← bounds? s.flags rest
    s.repeat? least most (skip s.flags rest)
  | _ =>
    let (piece, rest) ← primitive? s.flags c rest
    return (s.add piece, rest)

/-- Read part after part. Each takes a character or more, so the number of characters is enough fuel. -/
def steps? : Nat → State → List Char → Option State
  | fuel, s, cs => match skip s.flags cs with
    | [] => some s
    | c :: rest => match fuel with
      | 0 => none
      | fuel + 1 => match step? s c rest with
        | none => none
        | some (s, rest) => steps? fuel s rest

/-- The greatest depth to which an expression may nest. -/
def greatestDepth : Nat := 250

end Reader

/-- Read an expression, with its plan. -/
def read? (text : String) : Option (Regex × Plan) := do
  let cs := text.toList
  let flags := Reader.startFlags
  let s ← Reader.steps? cs.length ⟨Reader.Group.start flags none, [], flags, [], 0⟩ cs
  match s.outer with
  | _ :: _ => none
  | [] =>
    let whole := s.group.alternation
    if whole.depth ≤ Reader.greatestDepth then some (whole.regex, whole.plan) else none

/-- Read an expression whose automata are small enough. -/
def parse? (text : String) : Option Regex :=
  (read? text).bind fun (regex, plan) => if plan.fits then some regex else none

/-- The expression that is to match a whole text: a start and an end are added around it, each unless
the text of the expression shows one there already. -/
def anchoredText (text : String) : String :=
  let start := match text.toList with
    | '^' :: _ => ""
    | _ => "^"
  let finish := if text.toList.getLast? = some '$' then "" else "$"
  start ++ "(?:" ++ text ++ ")" ++ finish

end Trellis.Regex
