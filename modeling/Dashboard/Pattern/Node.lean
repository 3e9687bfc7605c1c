import Dashboard.Pattern.CharSet

/-!
# Pattern.Node · the structure of patterns

A pattern is built from character sets and conditions on a place by sequence, choice, repetition
and capture. A choice prefers its first branch, and a repetition as many or as few rounds as it
can.
-/

namespace Dashboard

namespace Pattern

/-- A condition on a place in a text. Word conditions hold for all of Unicode or, with `ascii`, for
ASCII words. -/
inductive Look where
  | textStart
  | textEnd
  | lineStart
  | lineEnd
  /-- Start of a line that `\r\n`, `\r` or `\n` ends. -/
  | anyLineStart
  | anyLineEnd
  | wordBoundary (ascii : Bool)
  | notWordBoundary (ascii : Bool)
  | wordStart (ascii : Bool)
  | wordEnd (ascii : Bool)
  /-- No word character before the place. -/
  | wordStartHalf (ascii : Bool)
  /-- No word character after the place. -/
  | wordEndHalf (ascii : Bool)
deriving DecidableEq, Repr

/-- A pattern. -/
inductive Node where
  | empty
  | chars (set : CharSet)
  | look (condition : Look)
  | capture (index : Nat) (body : Node)
  | seq (first second : Node)
  | alt (first second : Node)
  /-- At least `least` and at most `most` rounds; greedy ones prefer more. -/
  | iterate (least : Nat) (most : Option Nat) (greedy : Bool) (body : Node)
deriving DecidableEq, Repr, Inhabited

namespace Node

/-- Whether the pattern can match the empty text. Conditions count as empty. -/
def matchesEmpty : Node → Bool
  | .empty | .look _ => true
  | .chars _ => false
  | .capture _ body => body.matchesEmpty
  | .seq a b => a.matchesEmpty && b.matchesEmpty
  | .alt a b => a.matchesEmpty || b.matchesEmpty
  | .iterate least _ _ body => least == 0 || body.matchesEmpty

/-- An estimate of the room that a compiled pattern takes. -/
def weight : Node → Nat
  | .empty | .look _ => 1
  | .chars set => 1 + 2 * set.weight
  | .capture _ body => body.weight + 2
  | .seq a b => a.weight + b.weight
  | .alt a b => a.weight + b.weight + 1
  | .iterate least most _ body => (body.weight + 1) * (max 1 (most.getD (least + 1)))

/-- The sequence of nodes. -/
def ofList : List Node → Node
  | [] => .empty
  | [n] => n
  | n :: rest => .seq n (ofList rest)

/-- The choice between nodes. -/
def choice : List Node → Node
  | [] => .empty
  | [n] => n
  | n :: rest => .alt n (choice rest)

end Node

end Pattern

end Dashboard
