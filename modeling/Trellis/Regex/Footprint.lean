import Std.Data.HashMap
import Trellis.Regex.Plan
import Trellis.Regex.WordTrie
/-!
The memory that the automata of a plan take. There are two, one for each direction of reading; repeated parts
are built once for each time that they may repeat. A state takes 32 bytes. To it belong 8 bytes for each
byte span of a state that branches on the next byte, and 4 bytes for each way out of a fork. States that
have the same ways out are shared as far as a table of a fixed size remembers them, so the memory depends
on the numbers of the states.
-/

namespace Trellis.Regex

open Unicode (Spans)

/-- The direction in which an automaton reads. The one that reads forward also remembers groups. -/
inductive Direction
  | forward
  | backward
deriving DecidableEq, Repr

/-- An automaton under construction: the number of its states and the memory that they take besides. -/
structure Automaton where
  states : Nat
  extra : Nat
deriving DecidableEq, Repr

namespace Automaton

def empty : Automaton := ⟨0, 0⟩

/-- The memory in bytes. -/
def memory (a : Automaton) : Nat := 32 * a.states + a.extra

/-- The most memory that an automaton may take. -/
def limit : Nat := 10485760

/-- One more state, with what belongs to it. -/
def add (extra : Nat) (a : Automaton) : Automaton := ⟨a.states + 1, a.extra + extra⟩

/-- More ways out of forks. -/
def link (count : Nat) (a : Automaton) : Automaton := { a with extra := a.extra + 4 * count }

/-- Apply a step again and again as long as the memory lasts. -/
def repeated (step : Automaton → Automaton) : Nat → Automaton → Automaton
  | 0, a => a
  | n + 1, a => if limit < a.memory then a else repeated step n (step a)

/-- Mix a number into a hash. -/
def mix (hash : UInt64) (n : Nat) : UInt64 := (hash ^^^ n.toUInt64) * 1099511628211

def hashStart : UInt64 := 14695981039346656037

/-! Sets of characters, read backwards: each form is a path of its own, but paths share their ends. -/

/-- A state by the one that it leads to and the bytes that lead there. -/
structure Tail where
  target : Nat
  bytes : ByteSpan
deriving DecidableEq, Repr

/-- Remembered states by their places in a table, each with what it stands for. -/
abbrev Table (α : Type) := Std.HashMap Nat (α × Nat)

/-- The number of places for tails. -/
def tailPlaces : Nat := 1000

def Tail.place (t : Tail) : Nat :=
  (mix (mix (mix hashStart t.target) t.bytes.first) t.bytes.last).toNat % tailPlaces

/-- Build one form from its first byte on, which is read last; each byte leads to the state before it. -/
def addTails (target : Nat) (table : Table Tail) (a : Automaton) :
    ByteForm → Table Tail × Automaton
  | [] => (table, a)
  | bytes :: rest =>
    let tail : Tail := ⟨target, bytes⟩
    match table[tail.place]? with
    | some (known, state) =>
      if known = tail then addTails state table a rest
      else addTails a.states (table.insert tail.place (tail, a.states)) (a.add 0) rest
    | none => addTails a.states (table.insert tail.place (tail, a.states)) (a.add 0) rest

/-- A fork with one way out for each form, and a common end. -/
def addBackwardSet (forms : List ByteForm) (a : Automaton) : Automaton :=
  let finish := a.states + 1
  (forms.foldl
    (fun built form =>
      let (table, a) := addTails finish built.1 built.2 form
      (table, a.link 1))
    (({} : Table Tail), (a.add 0).add 0)).2

/-! Sets of characters, read forwards: forms with the same start share it, and states with the same ways
out are one. -/

/-- A way out: the bytes, and the number of the state that they lead to. -/
structure Way where
  bytes : ByteSpan
  target : Nat
deriving DecidableEq, Repr

/-- A state that may still get ways out: those it has, latest first, and the bytes of the last one, of which
the target is not built yet. -/
structure OpenState where
  ways : List Way
  latest : Option ByteSpan
deriving Repr

/-- Close the last way out. -/
def OpenState.close (s : OpenState) (target : Nat) : OpenState :=
  match s.latest with
  | none => s
  | some bytes => ⟨⟨bytes, target⟩ :: s.ways, none⟩

/-- The number of places for states. -/
def statePlaces : Nat := 10000

def placeOf (ways : List Way) : Nat :=
  (ways.foldl (fun hash way => mix (mix (mix hash way.bytes.first) way.bytes.last) way.target)
    hashStart).toNat % statePlaces

/-- The automaton with the table of its states, and the path of open states, the deepest first. -/
structure Weaving where
  automaton : Automaton
  table : Table (List Way)
  path : List OpenState

/-- Build a state, or find one with the same ways out. -/
def Weaving.build (w : Weaving) (ways : List Way) : Weaving × Nat :=
  let place := placeOf ways
  let new := w.automaton.states
  let added := { w with
    automaton := w.automaton.add (8 * ways.length)
    table := w.table.insert place (ways, new) }
  match w.table[place]? with
  | some (known, state) => if known = ways then (w, state) else (added, new)
  | none => (added, new)

/-- Build the deepest open states, as many as told, and close the way out of the one above them. -/
def Weaving.buildDeepest (target : Nat) : Nat → Weaving → Weaving
  | 0, w => match w.path with
    | [] => w
    | s :: above => { w with path := s.close target :: above }
  | n + 1, w => match w.path with
    | [] => w
    | s :: above =>
      let (w, state) := w.build (s.close target).ways.reverse
      buildDeepest state n { w with path := above }

/-- The number of open states, from the top, whose last way out is the form's. -/
def sharedDepth : List OpenState → ByteForm → Nat
  | s :: path, bytes :: form => if s.latest = some bytes then sharedDepth path form + 1 else 0
  | _, _ => 0

/-- Add the bytes of a form from some depth on. -/
def Weaving.extend (w : Weaving) (form : ByteForm) : Weaving :=
  match w.path, form with
  | s :: above, bytes :: rest =>
    let deeper := rest.map fun bytes => (⟨[], some bytes⟩ : OpenState)
    { w with path := deeper.reverse ++ { s with latest := some bytes } :: above }
  | _, _ => w

/-- Add a form; the forms come in order. -/
def Weaving.add (finish : Nat) (w : Weaving) (form : ByteForm) : Weaving :=
  let depth := sharedDepth w.path.reverse form
  (Weaving.buildDeepest finish (w.path.length - 1 - depth) w).extend (form.drop depth)

def addForwardSet (forms : List ByteForm) (a : Automaton) : Automaton :=
  let finish := a.states
  let woven := forms.foldl (Weaving.add finish) ⟨a.add 0, {}, [⟨[], none⟩]⟩
  let woven := woven.buildDeepest finish (woven.path.length - 1)
  match woven.path with
  | root :: _ => (woven.build root.ways.reverse).1.automaton
  | [] => woven.automaton

/-- A set of characters. A set of ASCII alone takes one state, which branches on all of it. -/
def addSet (direction : Direction) (spans : Spans) (forms : List ByteForm) (a : Automaton) :
    Automaton :=
  if spans.all (fun s => s.last < 0x80) then (a.add 0).add (8 * spans.length)
  else match direction with
    | .forward => addForwardSet forms a
    | .backward => addBackwardSet forms a

/-! Alternatives that are words become a trie. -/

/-- The state for the branches between two word ends, if there are any, and a way to it. -/
def addBranches (count : Nat) (a : Automaton) : Automaton :=
  if count = 0 then a else (a.add (if count = 1 then 0 else 8 * count)).link 1

/-- The states of a node, of which some branches have been passed since the last word end. -/
def addTrie : WordTrie → Nat → Automaton → Automaton
  | .done, count, a => (addBranches count a).add 0
  | .wordEnd rest, count, a => addTrie rest 0 ((addBranches count a).link 1)
  | .branch _ below rest, count, a =>
    addTrie rest (count + 1) (if below.isLeaf then a else addTrie below 0 a)

/-- Alternatives that are words, with their common end. -/
def addWords (direction : Direction) (words : List (List Nat)) (a : Automaton) : Automaton :=
  let words := match direction with
    | .forward => words
    | .backward => words.map List.reverse
  addTrie (.ofWords words) 0 (a.add 0)

end Automaton

/-- The words that are the alternatives, if all are texts. -/
def Plan.words? : Plan → Option (List (List Nat))
  | .text chars => some [chars.flatMap ByteForm.encode]
  | .alt first rest => do return (← first.words?) ++ (← rest.words?)
  | _ => none

/-- An automaton, and whether its last state is a fork, from which one more way leads on to what follows. -/
structure Built where
  automaton : Automaton
  openFork : Bool

namespace Built

/-- An automaton whose last state has its one way on already. -/
def closed (a : Automaton) : Built := ⟨a, false⟩

/-- Go on from the last state. -/
def leadOn (b : Built) : Automaton := if b.openFork then b.automaton.link 1 else b.automaton

end Built

namespace Automaton

/-- An expression `count` times, one after the other. -/
def addCopies (build : Automaton → Built) (count : Nat) (a : Automaton) : Built :=
  match count with
  | 0 => .closed (a.add 0)
  | n + 1 =>
    let first := build a
    let another (a : Automaton) : Automaton :=
      (build (if first.openFork then a.link 1 else a)).automaton
    ⟨repeated another n first.automaton, first.openFork⟩

/-- An expression any number of times. What may be empty is repeated behind a fork of its own. -/
def addStar (build : Automaton → Built) (mayBeEmpty : Bool) (a : Automaton) : Built :=
  if mayBeEmpty then
    let looped := ((build a).leadOn.add 0).link 2
    .closed (((looped.add 0).add 0).link 2)
  else ⟨(build ((a.add 0).link 1)).leadOn, true⟩

/-- An expression `least` times or more, at least once. -/
def addMore (build : Automaton → Built) (least : Nat) (a : Automaton) : Built :=
  let before := if least ≤ 1 then a else (addCopies build (least - 1) a).leadOn
  ⟨((build before).leadOn.add 0).link 1, true⟩

/-- An expression `least` times, and up to `more` times after that, with a fork before each. -/
def addBounded (build : Automaton → Built) (least more : Nat) (a : Automaton) : Built :=
  let required := addCopies build least a
  if more = 0 then required
  else
    let optional (a : Automaton) : Automaton := (build ((a.add 0).link 2)).leadOn
    .closed (repeated optional more (required.leadOn.add 0))

/-- A repetition of what `build` builds. -/
def addRepetition (build : Automaton → Built) (mayBeEmpty : Bool) (least : Nat)
    (most : Option Nat) (a : Automaton) : Built :=
  match least, most with
  | 0, none => addStar build mayBeEmpty a
  | least, none => addMore build least a
  | 0, some 1 => .closed ((build ((a.add 0).link 2)).leadOn.add 0)
  | least, some most => addBounded build least (most - least) a

end Automaton

/-- The place of a plan among alternatives. -/
inductive Branch
  /-- The only plan, or the first of several. -/
  | leading
  | second
  | later
deriving DecidableEq, Repr

/-- Join an alternative to those before it. With the second one come the fork and the common end. -/
def Branch.join : Branch → Built → Built
  | leading, b => b
  | second, b => .closed (((b.leadOn.add 0).add 0).link 2)
  | later, b => .closed (b.leadOn.link 1)

namespace Plan

open Automaton

/-- Add the states of a plan. -/
def build (direction : Direction) : Plan → Branch → Automaton → Built
  | empty, branch, a | anchor _, branch, a => branch.join (.closed (a.add 0))
  | text chars, branch, a =>
    branch.join (.closed { a with states := a.states + (chars.map ByteForm.width).sum })
  | set spans forms, branch, a => branch.join (.closed (addSet direction spans forms a))
  | group _ inner, branch, a => branch.join (match direction with
    | .forward => .closed ((inner.build .forward .leading (a.add 0)).leadOn.add 0)
    | .backward => inner.build .backward .leading a)
  | times inner least most _, branch, a =>
    let mayBeEmpty : Bool := inner.leastLength.getD 0 = 0
    branch.join (addRepetition (inner.build direction .leading) mayBeEmpty least most a)
  | seq first rest, branch, a => branch.join (match direction with
    | .forward => rest.build .forward .leading (first.build .forward .leading a).leadOn
    | .backward => first.build .backward .leading (rest.build .backward .leading a).leadOn)
  | alt first rest, .leading, a => match (alt first rest).words? with
    | some words => .closed (addWords direction words a)
    | none => rest.build direction .second (first.build direction .leading a).leadOn
  | alt first rest, branch, a =>
    rest.build direction .later (branch.join (first.build direction .leading a)).automaton

/-- The states that look for the start of a match; one is enough if it can only be the first place. -/
def entrance (direction : Direction) (p : Plan) : Automaton :=
  let fixed := match direction with
    | .forward => p.startsText
    | .backward => p.endsText
  let one := Automaton.empty.add 0
  if fixed then one else ((one.add 0).add 8).link 2

/-- The automaton that looks for matches of a plan. Its last state is the one that accepts. -/
def automaton (direction : Direction) (p : Plan) : Automaton :=
  match direction with
  | .forward =>
    ((p.build .forward .leading ((p.entrance .forward).add 0)).leadOn.add 0).add 0
  | .backward => (p.build .backward .leading (p.entrance .backward)).leadOn.add 0

/-- Whether the automata of a plan are small enough. -/
def fits (p : Plan) : Bool :=
  (p.automaton .forward).memory ≤ Automaton.limit && (p.automaton .backward).memory ≤ Automaton.limit

end Plan

end Trellis.Regex
