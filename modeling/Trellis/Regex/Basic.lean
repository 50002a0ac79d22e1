import Trellis.Regex.Anchor
/-!
Regular expressions over characters, and the places that they match. A place is an index between 0 and
the length of the text. `Regex.run` takes a set of places where a match may begin to the set of places
where one may end; it works on the expression located in the text. Sets of places are numbers whose binary
digits say which places belong.
-/

namespace Trellis

inductive Regex
  | empty
  /-- One character of a set. -/
  | one (set : CharSet)
  | anchor (anchor : Anchor)
  | seq (first second : Regex)
  | alt (first second : Regex)
  /-- At least `least` and at most `most` matches one after the other; without `most`, any number. -/
  | times (inner : Regex) (least : Nat) (most : Option Nat)
deriving DecidableEq

/-- A set of places in a text: bit `i` tells whether place `i` belongs. -/
abbrev Places := Nat

namespace Places

/-- The set of the places whose entry in the list is true. -/
def ofFlags : List Bool → Places
  | [] => 0
  | flag :: rest => 2 * ofFlags rest + flag.toNat

/-- All places of a text. -/
def all (text : List Char) : Places := (1 <<< (text.length + 1)) - 1

end Places

/-- An expression in one text: sets and anchors have become the places where they hold. -/
inductive Located
  | empty
  | one (here : Places)
  | anchor (here : Places)
  | seq (first second : Located)
  | alt (first second : Located)
  /-- `least` matches one after the other, and up to `more` after them. -/
  | times (inner : Located) (least more : Nat)

namespace Located

/-- Apply a step again and again to what it gives, stopping early when nothing changes any more. -/
def power (step : Places → Places) : Nat → Places → Places
  | 0, starts => starts
  | n + 1, starts =>
    let ends := step starts
    if ends = starts then starts else power step n ends

/-- The places reached in at most `n` steps. -/
def within (step : Places → Places) : Nat → Places → Places
  | 0, starts => starts
  | n + 1, starts =>
    let reached := starts ||| step starts
    if reached = starts then starts else within step n reached

/-- The ends of the matches that begin at one of the given places. -/
def run : Located → Places → Places
  | empty, starts => starts
  | one here, starts => (starts &&& here) <<< 1
  | anchor here, starts => starts &&& here
  | seq first second, starts => second.run (first.run starts)
  | alt first second, starts => first.run starts ||| second.run starts
  | times inner least more, starts => within inner.run more (power inner.run least starts)

end Located

namespace Regex

/-- At which places the next character is a member. -/
def nextMembers (set : CharSet) (text : List Char) : Places :=
  Places.ofFlags (text.map set.contains)

/-- At which places an anchor holds, given the character before the text. -/
def anchorFlags (a : Anchor) (before : Option Char) : List Char → List Bool
  | [] => [a.holds before none]
  | c :: rest => a.holds before (some c) :: anchorFlags a (some c) rest

/-- The expression in a text. A repetition without an upper bound reaches everything it can in as many
steps as the text has places. -/
def locate (text : List Char) : Regex → Located
  | empty => .empty
  | one set => .one (nextMembers set text)
  | anchor a => .anchor (Places.ofFlags (anchorFlags a none text))
  | seq first second => .seq (locate text first) (locate text second)
  | alt first second => .alt (locate text first) (locate text second)
  | times inner least most => .times (locate text inner) least (match most with
    | none => text.length + 1
    | some most => most - least)

/-- The ends of the matches that begin at one of the given places. -/
def run (text : List Char) (r : Regex) (starts : Places) : Places := (locate text r).run starts

/-- Whether the expression matches somewhere in the text. -/
def occursIn (r : Regex) (text : String) : Bool :=
  run text.toList r (Places.all text.toList) != 0

/-- Whether the expression matches the text from its start to its end. -/
def matchesAll (r : Regex) (text : String) : Bool :=
  (run text.toList r 1).testBit text.toList.length

/-- One match after the other. -/
def seqs : List Regex → Regex
  | [] => empty
  | [r] => r
  | r :: rest => .seq r (seqs rest)

/-- One match of any of the expressions. -/
def alts : List Regex → Regex
  | [] => .one CharSet.none
  | [r] => r
  | r :: rest => .alt r (alts rest)

def char (c : Char) : Regex := .one (CharSet.one c)

/-- The characters of a text one after the other. -/
def chars (text : String) : Regex := seqs (text.toList.map char)

def optional (r : Regex) : Regex := .times r 0 (some 1)

def star (r : Regex) : Regex := .times r 0 none

def plus (r : Regex) : Regex := .times r 1 none

def exactly (n : Nat) (r : Regex) : Regex := .times r n (some n)

end Regex

end Trellis
