import RuleDraft.Pattern.Fault

/-!
# Pattern trees

The structure of a regular expression as far as it decides whether the
expression can be used: repetitions, groups, assertions and alternatives. A
single character, a set and a class all match one character, so they are one
kind of node. The width of a tree is the least and the greatest number of
characters that it matches; a lookbehind needs the two to agree.
-/

namespace RuleDraft
namespace Pattern

structure Width where
  least : Nat
  greatest : Nat
  deriving DecidableEq, Repr

/--
A repetition without an upper bound counts up to here. Greatest widths are
counted up to here too, and least widths up to one less.
-/
def maxRepeat : Nat := 4294967295

/-- A matcher can step back by less than this. -/
def reachBound : Nat := 0x80000000

inductive Node where
  /-- One character. -/
  | unit
  /-- A place that matches no character. -/
  | anchor
  /-- The text of an earlier group, whose width is known. -/
  | backreference (width : Width)
  /-- Parts in parentheses, with a number or flags of their own if `marked`. -/
  | group (marked : Bool) (body : List Node)
  | atomic (body : List Node)
  | look (behind : Bool) (body : List Node)
  | repetition (greed : Greed) (least greatest : Nat) (body : List Node)
  | branch (alternatives : List (List Node))
  | conditional (yes : List Node) (no : Option (List Node))
  deriving Repr

/-- The parts of a node that only holds them together. -/
def Node.parts : Node → List Node
  | .group false body => body
  | n => [n]

namespace Width

def zero : Width := ⟨0, 0⟩

/-- One after the other. -/
def add (a b : Width) : Width := ⟨a.least + b.least, a.greatest + b.greatest⟩

/-- One or the other. -/
def join (a b : Width) : Width := ⟨min a.least b.least, max a.greatest b.greatest⟩

/-- Up to the bounds of counting. They differ, so a width beyond both is not fixed. -/
def clamp (w : Width) : Width := ⟨min w.least (maxRepeat - 1), min w.greatest maxRepeat⟩

def times (w : Width) (least greatest : Nat) : Width :=
  ⟨w.least * least, w.greatest * greatest⟩

def isFixed (w : Width) : Bool := w.least = w.greatest

end Width

mutual

/-- The width after a node, given the width before it. -/
def Node.widthAfter (before : Width) : Node → Width
  | .unit => before.add ⟨1, 1⟩
  | .anchor => before
  | .backreference w => before.add w
  | .group _ body => before.add (widthOf .zero body)
  | .atomic body => before.add (widthOf .zero body)
  | .look _ _ => before
  | .repetition _ least greatest body => before.add ((widthOf .zero body).times least greatest)
  | .branch alternatives => before.add (widthOfAny ⟨maxRepeat - 1, 0⟩ alternatives)
  | .conditional yes no =>
      let w := widthOf .zero yes
      match no with
      | some body => before.add (w.join (widthOf .zero body))
      | none => before.add ⟨0, w.greatest⟩

def widthOf (before : Width) : List Node → Width
  | [] => before.clamp
  | n :: ns => widthOf (n.widthAfter before) ns

def widthOfAny (sofar : Width) : List (List Node) → Width
  | [] => sofar
  | ns :: rest => widthOfAny (sofar.join (widthOf .zero ns)) rest

end

def width (nodes : List Node) : Width := widthOf .zero nodes

mutual

/-- The first thing in a node that a matcher cannot be built for. -/
def Node.buildFault? (template : Bool) : Node → Option Fault
  | .unit => none
  | .anchor => none
  | .backreference _ => none
  | .group _ body => buildFault? template body
  | .atomic body => buildFault? template body
  | .look behind body =>
      if behind ∧ ¬ (width body).isFixed then some .lookbehindWidth
      else buildFault? template body
  | .repetition greed _ _ body =>
      if template then some (.templateOperator greed) else buildFault? template body
  | .branch alternatives => buildFaultOfAny? template alternatives
  | .conditional yes no =>
      match buildFault? template yes with
      | some fault => some fault
      | none =>
          match no with
          | some body => buildFault? template body
          | none => none

def buildFault? (template : Bool) : List Node → Option Fault
  | [] => none
  | n :: ns =>
      match n.buildFault? template with
      | some fault => some fault
      | none => buildFault? template ns

def buildFaultOfAny? (template : Bool) : List (List Node) → Option Fault
  | [] => none
  | ns :: rest =>
      match buildFault? template ns with
      | some fault => some fault
      | none => buildFaultOfAny? template rest

end

mutual

/-- How many levels of nodes are below a node, itself included if it has parts. -/
def Node.height : Node → Nat
  | .unit => 0
  | .anchor => 0
  | .backreference _ => 0
  | .group _ body => height body + 1
  | .atomic body => height body + 1
  | .look _ body => height body + 1
  | .repetition _ _ _ body => height body + 1
  | .branch alternatives => heightOfAny alternatives + 1
  | .conditional yes no =>
      match no with
      | some body => max (height yes) (height body) + 1
      | none => height yes + 1

def height : List Node → Nat
  | [] => 0
  | n :: ns => max n.height (height ns)

def heightOfAny : List (List Node) → Nat
  | [] => 0
  | ns :: rest => max (height ns) (heightOfAny rest)

end

mutual

/-- The least widths of the lookbehinds in a node. -/
def Node.reaches : Node → List Nat
  | .unit => []
  | .anchor => []
  | .backreference _ => []
  | .group _ body => reaches body
  | .atomic body => reaches body
  | .look behind body => if behind then (width body).least :: reaches body else reaches body
  | .repetition _ _ _ body => reaches body
  | .branch alternatives => reachesOfAny alternatives
  | .conditional yes no =>
      reaches yes ++
        match no with
        | some body => reaches body
        | none => []

def reaches : List Node → List Nat
  | [] => []
  | n :: ns => n.reaches ++ reaches ns

def reachesOfAny : List (List Node) → List Nat
  | [] => []
  | ns :: rest => reaches ns ++ reachesOfAny rest

end

end Pattern
end RuleDraft
