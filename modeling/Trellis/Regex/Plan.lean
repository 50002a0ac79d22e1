import Trellis.Regex.Anchor
import Trellis.Regex.ByteForm
/-!
Expressions in the normal form from which their automata are built. Sequences and alternatives lean to the
right: the first part of a sequence is none itself, and the same holds of alternatives. Plans are made by
the functions that are named for the constructors with `of`, which keep the form.
-/

namespace Trellis.Regex

open Unicode (Span Spans)

inductive Plan
  | empty
  /-- One character after the other, at least one. -/
  | text (chars : List Nat)
  /-- One character of a set that has no members or several. -/
  | set (spans : Spans) (forms : List ByteForm)
  | anchor (place : Anchor)
  /-- A group that is remembered, by its number. -/
  | group (number : Nat) (inner : Plan)
  /-- At least `least` and at most `most` times; `lazy` prefers few. -/
  | times (inner : Plan) (least : Nat) (most : Option Nat) (lazy : Bool)
  | seq (first rest : Plan)
  | alt (first rest : Plan)
deriving DecidableEq, Repr

namespace Plan

/-- The fewest bytes of a match, if there may be one. -/
def leastLength : Plan → Option Nat
  | empty | anchor _ => some 0
  | text chars => some ((chars.map ByteForm.width).sum)
  | set spans _ => spans.head?.map fun s => ByteForm.width s.first
  | group _ inner => inner.leastLength
  | times inner least _ _ => inner.leastLength.map (least * ·)
  | seq first rest => do return (← first.leastLength) + (← rest.leastLength)
  | alt first rest => do return min (← first.leastLength) (← rest.leastLength)

/-- The most bytes of a match, if there is a bound. -/
def greatestLength : Plan → Option Nat
  | empty | anchor _ => some 0
  | text chars => some ((chars.map ByteForm.width).sum)
  | set spans _ => spans.getLast?.map fun s => ByteForm.width s.last
  | group _ inner => inner.greatestLength
  | times inner _ most _ => do return (← most) * (← inner.greatestLength)
  | seq first rest => do return (← first.greatestLength) + (← rest.greatestLength)
  | alt first rest => do return max (← first.greatestLength) (← rest.greatestLength)

/-- Whether no match takes a character. -/
def isZeroWidth (p : Plan) : Bool := p.greatestLength = some 0

/-- Whether every match begins at the start of the text. -/
def startsText : Plan → Bool
  | anchor place => place = .textStart
  | group _ inner => inner.startsText
  | times inner least _ _ => least ≠ 0 && inner.startsText
  | seq first rest => first.startsText || (first.isZeroWidth && rest.startsText)
  | alt first rest => first.startsText && rest.startsText
  | _ => false

/-- Whether every match ends at the end of the text. -/
def endsText : Plan → Bool
  | anchor place => place = .textEnd
  | group _ inner => inner.endsText
  | times inner least _ _ => least ≠ 0 && inner.endsText
  | seq first rest => rest.endsText || (rest.isZeroWidth && first.endsText)
  | alt first rest => first.endsText && rest.endsText
  | _ => false

/-- Whether a condition speaks of words of all scripts. -/
def readsWords : Plan → Bool
  | anchor place => place.words? = some .allScripts
  | group _ inner | times inner _ _ _ => inner.readsWords
  | seq first rest | alt first rest => first.readsWords || rest.readsWords
  | _ => false

/-! Making plans. -/

/-- One character of a set. -/
def ofSpans (spans : Spans) : Plan :=
  match spans with
  | [s] => if s.first = s.last then text [s.first] else set spans (ByteForm.ofSpans spans)
  | _ => set spans (ByteForm.ofSpans spans)

/-- One character of a set. -/
def ofSet (members : CharSet) : Plan := ofSpans members.spans.scalars

/-- The parts of a sequence. -/
def parts : Plan → List Plan
  | empty => []
  | seq first rest => first :: rest.parts
  | p => [p]

/-- Join texts that follow each other. -/
def joinTexts : List Plan → List Plan
  | text first :: rest =>
    match joinTexts rest with
    | text second :: more => text (first ++ second) :: more
    | rest => text first :: rest
  | p :: rest => p :: joinTexts rest
  | [] => []

/-- A sequence of parts that are none themselves. -/
def chain : List Plan → Plan
  | [] => empty
  | [p] => p
  | p :: rest => seq p (chain rest)

/-- One after the other. -/
def ofSeq (plans : List Plan) : Plan := chain (joinTexts (plans.flatMap parts))

/-- The alternatives of a plan. -/
def branches : Plan → List Plan
  | alt first rest => first :: rest.branches
  | p => [p]

/-- Alternatives that have none themselves. -/
def choice : List Plan → Plan
  | [] => ofSpans []
  | [p] => p
  | p :: rest => alt p (choice rest)

/-- The character of a text of one. -/
def char? : Plan → Option Span
  | text [c] => some ⟨c, c⟩
  | _ => none

/-- The members of a set. -/
def set? : Plan → Option Spans
  | set spans _ => some spans
  | _ => none

/-- One of several plans; single characters become a set, and so do sets. -/
def ofBranches (plans : List Plan) : Plan :=
  match plans.mapM char?, plans.mapM set? with
  | some chars, _ => if plans.length = 1 then choice plans else ofSpans (Spans.ofList chars)
  | none, some sets => if plans.length = 1 then choice plans else ofSpans (Spans.ofList sets.flatten)
  | none, none => choice plans

/-- The longest common start of two lists. -/
def commonStart : List Plan → List Plan → List Plan
  | p :: ps, q :: qs => if p = q then p :: commonStart ps qs else []
  | _, _ => []

/-- The parts with which all of several sequences begin; nothing unless all are sequences. -/
def sharedStart (plans : List Plan) : List Plan :=
  let sequences := plans.filterMap fun p => match p with
    | seq _ _ => some p.parts
    | _ => none
  if sequences.length ≠ plans.length then []
  else match sequences with
    | [] => []
    | first :: rest => rest.foldl commonStart first

/-- One of several plans; what sequences begin with alike comes before the choice. -/
def ofAlt (plans : List Plan) : Plan :=
  let plans := plans.flatMap branches
  let start := if plans.length < 2 then [] else sharedStart plans
  if start = [] then ofBranches plans
  else
    let rests := plans.map fun p => ofSeq (p.parts.drop start.length)
    ofSeq (start ++ [ofBranches (rests.flatMap branches)])

/-- The bounds of a repetition; what takes no character is not repeated. -/
def boundsFor (inner : Plan) (least : Nat) (most : Option Nat) : Nat × Option Nat :=
  if inner.isZeroWidth then (min least 1, some ((most.map (min · 1)).getD 1)) else (least, most)

/-- A plan again and again. -/
def ofTimes (inner : Plan) (least : Nat) (most : Option Nat) (lazy : Bool) : Plan :=
  let (least, most) := boundsFor inner least most
  if most = some 0 then empty
  else if least = 1 ∧ most = some 1 then inner
  else times inner least most lazy

end Plan

end Trellis.Regex
