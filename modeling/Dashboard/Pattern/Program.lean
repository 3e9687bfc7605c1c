import Dashboard.Pattern.Reader

/-!
# Pattern.Program · patterns as instructions

A pattern is compiled to instructions, so that all ways to match are followed side by side and no
text takes more than a fixed number of steps for each character.

* **`Program`** is a list of instructions with an address to begin with. A fork prefers its first
  branch, which is how greed and the order of alternatives are kept.
* **`compileNode`** puts the instructions of a node in front of those that follow it.
* **`Pattern.ofString?`** reads and compiles a text.
-/

namespace Dashboard

namespace Pattern

/-- An instruction. Addresses are positions in the list of instructions. -/
inductive Instruction where
  /-- The pattern has matched. -/
  | accept
  /-- Reads a character of a set. -/
  | read (set : CharSet) (next : Nat)
  /-- Goes on if a condition holds. -/
  | check (condition : Look) (next : Nat)
  /-- Stores the current place in a slot. -/
  | store (slot : Nat) (next : Nat)
  /-- Goes on in two ways, of which the first is preferred. -/
  | fork (first second : Nat)

/-- Instructions in the order of their addresses. -/
abbrev Instructions := Array Instruction

/-- Appends an instruction; gives its address. -/
def emit (code : Instructions) (i : Instruction) : Nat × Instructions := (code.size, code.push i)

/-- A fork into a repetition and out of it. -/
def forkInto (greedy : Bool) (inside outside : Nat) : Instruction :=
  if greedy then .fork inside outside else .fork outside inside

/-! ## Repetitions

`body next code` puts the instructions of the repeated node in front of the address `next`. -/

/-- The node a number of times. -/
def compileCopies (body : Nat → Instructions → Nat × Instructions) :
    Nat → Nat → Instructions → Nat × Instructions
  | 0, next, code => (next, code)
  | n + 1, next, code =>
    let (start, code) := body next code
    compileCopies body n start code

/-- The node at most a number of times. -/
def compileOptions (body : Nat → Instructions → Nat × Instructions) (greedy : Bool)
    (outside : Nat) : Nat → Nat → Instructions → Nat × Instructions
  | 0, next, code => (next, code)
  | n + 1, next, code =>
    let (start, code) := body next code
    let (choice, code) := emit code (forkInto greedy start outside)
    compileOptions body greedy outside n choice code

/-- The node at least once. Gives the address of the node and that of the fork after it. -/
def compileLoop (body : Nat → Instructions → Nat × Instructions) (greedy : Bool) (next : Nat)
    (code : Instructions) : Nat × Nat × Instructions :=
  let (again, code) := emit code (.fork next next)
  let (start, code) := body again code
  (start, again, code.setIfInBounds again (forkInto greedy start next))

/-- The node at least `least` times. Where no round can be empty, the loop is entered at its fork;
else a fork in front decides about the first round. -/
def compileUnbounded (body : Nat → Instructions → Nat × Instructions) (greedy mayBeEmpty : Bool)
    (least : Nat) (next : Nat) (code : Instructions) : Nat × Instructions :=
  let (start, again, code) := compileLoop body greedy next code
  match least with
  | 0 => if mayBeEmpty then emit code (forkInto greedy start next) else (again, code)
  | n + 1 => compileCopies body n start code

/-! ## Nodes -/

/-- Puts the instructions of a node in front of the address `next`; gives the address at which they
begin. -/
def compileNode : Node → Nat → Instructions → Nat × Instructions
  | .empty, next, code => (next, code)
  | .chars set, next, code => emit code (.read set next)
  | .look condition, next, code => emit code (.check condition next)
  | .capture index body, next, code =>
    let (close, code) := emit code (.store (2 * index + 1) next)
    let (start, code) := compileNode body close code
    emit code (.store (2 * index) start)
  | .seq a b, next, code =>
    let (middle, code) := compileNode b next code
    compileNode a middle code
  | .alt a b, next, code =>
    let (second, code) := compileNode b next code
    let (first, code) := compileNode a next code
    emit code (.fork first second)
  | .iterate least most greedy body, next, code =>
    match most with
    | none => compileUnbounded (compileNode body) greedy body.matchesEmpty least next code
    | some most =>
      let (start, code) :=
        compileOptions (compileNode body) greedy next (most - least) next code
      compileCopies (compileNode body) least start code

/-- Instructions with the address at which they begin. -/
structure Program where
  code : Instructions
  start : Nat

/-- The program of a node. The whole match is stored as group 0. -/
def Program.ofNode (n : Node) : Program :=
  let (start, code) := compileNode (.capture 0 n) 0 #[.accept]
  ⟨code, start⟩

end Pattern

/-- A pattern that is ready to be searched for. -/
structure Pattern where
  program : Pattern.Program
  /-- How many groups there are, the whole match not counted. -/
  groups : Nat
  /-- The numbers of the groups that have a name. -/
  names : List (String × Nat)

/-- The pattern that a text writes. -/
def Pattern.ofString? (s : String) : Option Pattern :=
  (Pattern.read? s.toList).map fun (body, groups, names) => ⟨.ofNode body, groups, names⟩

end Dashboard
