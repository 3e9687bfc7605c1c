import Dashboard.Yaml.Node
import Dashboard.Yaml.Token

/-!
# Yaml.Reader · reading YAML

**`Yaml.read?`** reads a text that holds one document. The scanners take a list of tokens and give a
node with the tokens after it; collections may be nested 128 deep.
-/

namespace Dashboard

namespace Yaml

/-- What is left out. -/
def absent : Node := .scalar false ""

/-- A reader of nodes. -/
abbrev Scan := List Token → Option (Node × List Token)

/-- Reads a node, unless one of some tokens stands there; then it is left out. -/
def orAbsent (scan? : Scan) (stops : List Token) (s : List Token) : Option (Node × List Token) :=
  match s with
  | [] => none
  | t :: _ => if stops.contains t then some (absent, s) else scan? s

/-! ## Block collections -/

/-- Reads the items of a sequence; `fuel` bounds their number. -/
def scanBlockItems? (scan? : Scan) : Nat → List Token → Option (List Node × List Token)
  | 0, _ => none
  | _ + 1, .blockEnd :: s => some ([], s)
  | fuel + 1, .item :: s => do
    let (n, s) ← orAbsent scan? [.item, .blockEnd] s
    let (rest, s) ← scanBlockItems? scan? fuel s
    some (n :: rest, s)
  | _ + 1, _ => none

/-- Reads the items of a sequence that is not indented further than the key before it. -/
def scanFlushItems? (scan? : Scan) : Nat → List Token → Option (List Node × List Token)
  | 0, _ => none
  | fuel + 1, .item :: s => do
    let (n, s) ← orAbsent scan? [.item, .key, .value, .blockEnd] s
    let (rest, s) ← scanFlushItems? scan? fuel s
    some (n :: rest, s)
  | _ + 1, s => some ([], s)

/-- Reads the value of a key, if there is one. -/
def scanBlockValue? (scan? : Scan) (s : List Token) : Option (Node × List Token) :=
  match s with
  | .value :: s => orAbsent scan? [.key, .value, .blockEnd] s
  | s => some (absent, s)

/-- Reads the members of a mapping; `fuel` bounds their number. -/
def scanBlockMembers? (scan? : Scan) :
    Nat → List Token → Option (List (Node × Node) × List Token)
  | 0, _ => none
  | _ + 1, .blockEnd :: s => some ([], s)
  | fuel + 1, .key :: s => do
    let (key, s) ← orAbsent scan? [.key, .value, .blockEnd] s
    let (value, s) ← scanBlockValue? scan? s
    let (rest, s) ← scanBlockMembers? scan? fuel s
    some ((key, value) :: rest, s)
  | fuel + 1, .value :: s => do
    let (value, s) ← scanBlockValue? scan? (.value :: s)
    let (rest, s) ← scanBlockMembers? scan? fuel s
    some ((absent, value) :: rest, s)
  | _ + 1, _ => none

/-! ## Flow collections -/

/-- Reads the value of a key, if there is one, before the end of a collection or a comma. -/
def scanFlowValue? (scan? : Scan) (close : Token) (s : List Token) : Option (Node × List Token) :=
  match s with
  | .value :: s => orAbsent scan? [.comma, close] s
  | s => some (absent, s)

/-- Reads an item of a list; a key with a value is a mapping of one member. -/
def scanFlowItem? (scan? : Scan) (s : List Token) : Option (Node × List Token) :=
  match s with
  | .key :: s => do
    let (key, s) ← orAbsent scan? [.value, .comma, .closeList] s
    let (value, s) ← scanFlowValue? scan? .closeList s
    some (.mapping [(key, value)], s)
  | s => scan? s

/-- Reads a member of a map; without a colon the value is left out. -/
def scanFlowMember? (scan? : Scan) (s : List Token) : Option ((Node × Node) × List Token) :=
  match s with
  | .key :: s => do
    let (key, s) ← orAbsent scan? [.value, .comma, .closeMap] s
    let (value, s) ← scanFlowValue? scan? .closeMap s
    some ((key, value), s)
  | s => (scan? s).map fun (key, s) => ((key, absent), s)

/-- Reads parts with commas between them up to a closing token; one comma may stand at the end. -/
def scanFlowParts? {α : Type} (part? : List Token → Option (α × List Token)) (close : Token) :
    Nat → List Token → Option (List α × List Token)
  | 0, _ => none
  | _ + 1, [] => none
  | fuel + 1, t :: s =>
    if t = close then some ([], s)
    else do
      let (part, s) ← part? (t :: s)
      match s with
      | .comma :: s => do
        let (rest, s) ← scanFlowParts? part? close fuel s
        some (part :: rest, s)
      | t :: s => if t = close then some ([part], s) else none
      | [] => none

/-! ## Nodes -/

/-- Reads the items or members after a token that opens a collection, where `block?` and `flow?`
read the nodes in it. -/
def scanCollection? (block? flow? : Scan) (t : Token) (s : List Token) :
    Option (Node × List Token) :=
  let fuel := s.length + 1
  match t with
  | .blockSequence => (scanBlockItems? block? fuel s).map fun (items, s) => (.sequence items, s)
  | .blockMapping => (scanBlockMembers? block? fuel s).map fun (ms, s) => (.mapping ms, s)
  | .item =>
    (scanFlushItems? block? fuel (.item :: s)).map fun (items, s) => (.sequence items, s)
  | .openList =>
    (scanFlowParts? (scanFlowItem? flow?) .closeList fuel s).map fun (items, s) =>
      (.sequence items, s)
  | .openMap =>
    (scanFlowParts? (scanFlowMember? flow?) .closeMap fuel s).map fun (ms, s) => (.mapping ms, s)
  | _ => none

/-- Reads a node in which collections are nested at most `depth` deep. Inside a flow collection no
block collection may stand. -/
def scanNode? (inFlow : Bool) : Nat → Scan
  | _, [] => none
  | _, .scalar quoted text :: s => some (.scalar quoted text, s)
  | 0, _ => none
  | depth + 1, t :: s =>
    if inFlow && (t = .blockSequence ∨ t = .blockMapping ∨ t = .item) then none
    else scanCollection? (scanNode? inFlow depth) (scanNode? true depth) t s

/-- How deep collections may be nested. -/
def maxDepth : Nat := 128

/-- Whether only marks of the end of a document are left. -/
def isFinished (s : List Token) : Bool := s.all (· == .documentEnd)

/-- Reads the node of a document. -/
def scanDocument? (s : List Token) : Option (Node × List Token) :=
  match s.dropWhile (· == .documentEnd) with
  | [] => some (absent, [])
  | .documentStart :: s =>
    match s with
    | [] => some (absent, [])
    | s => orAbsent (scanNode? false maxDepth) [.documentStart, .documentEnd] s
  | s => scanNode? false maxDepth s

/-- Reads a text that holds one document. -/
def read? (s : String) : Option Node := do
  let tokens ← tokens? s.toList
  let (n, rest) ← scanDocument? tokens
  if isFinished rest then some n else none

end Yaml

end Dashboard
