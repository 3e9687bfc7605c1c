import Dashboard.Yaml.ScalarText

/-!
# Yaml.Token · the words of a YAML text

Indentation and the colon after a key become tokens of their own, so that a text is a list of tokens
with balanced collections.

* **`Token`** lists the kinds of tokens.
* **`Scanner`** is the state between two tokens. Before every scalar or flow collection that may
  turn out to be a key it leaves an empty place, which a colon on the same line fills.
* **`tokens?`** gives the tokens of a text.

Anchors, aliases, tags, directives and block scalars are not supported and refused.
-/

namespace Dashboard

namespace Yaml

/-- A word of a text. -/
inductive Token where
  /-- The start of a mapping or sequence by indentation. -/
  | blockMapping
  | blockSequence
  /-- The end of such a collection. -/
  | blockEnd
  /-- A hyphen before an item. -/
  | item
  /-- What follows is a key. -/
  | key
  /-- What follows is the value of a key. -/
  | value
  | openList
  | closeList
  | openMap
  | closeMap
  | comma
  | scalar (quoted : Bool) (text : String)
  | documentStart
  | documentEnd
deriving DecidableEq, Repr

/-- A place before a token that may turn out to be a key. -/
structure KeyPlace where
  /-- The number of the empty place. -/
  slot : Nat
  line : Nat
  column : Nat
  index : Nat
  /-- Whether only a key may stand there. -/
  isNeeded : Bool

/-- The state between two tokens. -/
structure Scanner where
  /-- Groups of tokens; a group that is empty may still be filled. -/
  groups : Array (List Token)
  /-- The columns of the open block collections, innermost first. -/
  indents : List Nat
  /-- For each open flow collection and the block around them, innermost first, the place of what
  may be a key. -/
  keys : List (Option KeyPlace)
  /-- Whether a key may begin here. -/
  keyAllowed : Bool
  rest : List Spot

namespace Scanner

/-- The state at the start of a text. -/
def start (s : List Spot) : Scanner := ⟨#[], [], [none], true, s⟩

/-- Whether a flow collection is open. -/
def inFlow (st : Scanner) : Bool := st.keys.length > 1

/-- Adds tokens. -/
def emit (st : Scanner) (tokens : List Token) : Scanner :=
  { st with groups := st.groups.push tokens }

/-! ## Filler -/

/-- Skips blanks, comments and line ends. After a line end outside of flow collections a key is
allowed; where one is allowed there, a tab is not skipped. -/
def skipFiller (inFlow : Bool) : Bool → Bool → List Spot → Bool × List Spot
  | keyAllowed, _, [] => (keyAllowed, [])
  | keyAllowed, inComment, p :: rest =>
    if isBreak p.char then skipFiller inFlow (keyAllowed || !inFlow) false rest
    else if inComment then skipFiller inFlow keyAllowed true rest
    else if p.char = ' ' ∨ (p.char = '\t' ∧ (inFlow ∨ !keyAllowed)) then
      skipFiller inFlow keyAllowed false rest
    else if p.char = '#' then skipFiller inFlow keyAllowed true rest
    else (keyAllowed, p :: rest)

/-- The state after filler. -/
def skip (st : Scanner) : Scanner :=
  let (keyAllowed, rest) := skipFiller st.inFlow st.keyAllowed false st.rest
  { st with keyAllowed, rest }

/-! ## Keys -/

/-- How long the text of a key may be. -/
def maxKeyLength : Nat := 1024

/-- Whether a place can no longer be that of a key: the line has ended, or the text is too long. -/
def KeyPlace.isStale (place : KeyPlace) (p : Spot) : Bool :=
  place.line < p.line || place.index + maxKeyLength < p.index

/-- Gives up places that can no longer be those of keys. A needed key must not be given up. -/
def dropStale? (p : Spot) : List (Option KeyPlace) → Option (List (Option KeyPlace))
  | [] => some []
  | none :: rest => (dropStale? p rest).map (none :: ·)
  | some place :: rest =>
    if KeyPlace.isStale place p then
      if place.isNeeded then none else (dropStale? p rest).map (none :: ·)
    else (dropStale? p rest).map (some place :: ·)

/-- Gives up the innermost place. A needed key must not be given up. -/
def forgetKey? (st : Scanner) : Option Scanner :=
  match st.keys with
  | some place :: outer =>
    if place.isNeeded then none else some { st with keys := none :: outer }
  | _ => some st

/-- Whether a column is that of the innermost block collection. -/
def atIndent (st : Scanner) (column : Nat) : Bool :=
  !st.inFlow && st.indents.head? == some column

/-- Leaves an empty place before a token that may turn out to be a key. -/
def saveKey? (st : Scanner) (p : Spot) : Option Scanner :=
  if st.keyAllowed then do
    let st ← st.forgetKey?
    let place : KeyPlace := ⟨st.groups.size, p.line, p.column, p.index, st.atIndent p.column⟩
    some { st.emit [] with keys := some place :: st.keys.drop 1 }
  else some st

/-! ## Indentation -/

/-- Closes the block collections that are indented further than a column. -/
def closeBlocks (column : Nat) : List Nat → List Nat × List Token
  | [] => ([], [])
  | indent :: outer =>
    if column < indent then
      let (left, closed) := closeBlocks column outer
      (left, .blockEnd :: closed)
    else (indent :: outer, [])

/-- The state at a token in a column. -/
def unroll (st : Scanner) (column : Nat) : Scanner :=
  if st.inFlow then st
  else
    let (indents, closed) := closeBlocks column st.indents
    { st.emit closed with indents }

/-- The state at the end of a document: all block collections are closed. -/
def unrollAll (st : Scanner) : Scanner :=
  { st.emit (st.indents.map fun _ => .blockEnd) with indents := [] }

/-- Whether a block collection begins at a column. -/
def opensBlock (st : Scanner) (column : Nat) : Bool :=
  !st.inFlow &&
    match st.indents with
    | indent :: _ => indent < column
    | [] => true

/-- Opens a block collection at a column, unless one is open there. -/
def roll (st : Scanner) (column : Nat) (token : Token) : Scanner × List Token :=
  if st.opensBlock column then ({ st with indents := column :: st.indents }, [token])
  else (st, [])

/-! ## Tokens -/

/-- Reads the mark of the start or the end of a document. -/
def documentMark? (st : Scanner) (token : Token) (rest : List Spot) : Option Scanner := do
  let st ← st.unrollAll.forgetKey?
  some { st.emit [token] with keyAllowed := false, rest }

/-- Reads the start of a flow collection. -/
def openFlow? (st : Scanner) (token : Token) (p : Spot) (rest : List Spot) : Option Scanner := do
  let st ← st.saveKey? p
  some { st.emit [token] with keys := none :: st.keys, keyAllowed := true, rest }

/-- Reads the end of a flow collection. -/
def closeFlow? (st : Scanner) (token : Token) (rest : List Spot) : Option Scanner := do
  let st ← st.forgetKey?
  let keys := if st.inFlow then st.keys.drop 1 else st.keys
  some { st.emit [token] with keys, keyAllowed := false, rest }

/-- Reads a comma. -/
def comma? (st : Scanner) (rest : List Spot) : Option Scanner := do
  let st ← st.forgetKey?
  some { st.emit [.comma] with keyAllowed := true, rest }

/-- Reads the mark before an item or an explicit key. -/
def blockMark? (st : Scanner) (collection token : Token) (p : Spot) (rest : List Spot) :
    Option Scanner :=
  if st.inFlow || st.keyAllowed then do
    let (st, opened) := st.roll p.column collection
    let st ← (st.emit opened).forgetKey?
    some { st.emit [token] with keyAllowed := !st.inFlow || token == .item, rest }
  else none

/-- Reads the colon before a value. If a place for a key is left, it is filled. -/
def value? (st : Scanner) (p : Spot) (rest : List Spot) : Option Scanner :=
  match st.keys with
  | some place :: outer =>
    let (st, opened) := st.roll place.column .blockMapping
    let groups := st.groups.setIfInBounds place.slot (opened ++ [.key])
    some { { st with groups }.emit [.value] with keys := none :: outer, keyAllowed := false, rest }
  | _ =>
    if st.inFlow then some { st.emit [.value] with keyAllowed := false, rest }
    else if st.keyAllowed then
      let (st, opened) := st.roll p.column .blockMapping
      some { st.emit (opened ++ [.value]) with keyAllowed := true, rest }
    else none

/-- Reads a scalar in quotation marks, where `scanned?` is its text and what follows it. -/
def quoted? (st : Scanner) (p : Spot) (scanned? : Option (String × List Spot)) :
    Option Scanner := do
  let st ← st.saveKey? p
  let (text, rest) ← scanned?
  some { st.emit [.scalar true text] with keyAllowed := false, rest }

/-- Reads a scalar without quotation marks. -/
def plain? (st : Scanner) (p : Spot) (rest : List Spot) : Option Scanner := do
  let st ← st.saveKey? p
  let indent := match st.indents with
    | column :: _ => column + 1
    | [] => 0
  let read ← scanPlain? st.inFlow indent (p :: rest)
  some { st.emit [.scalar false read.text] with keyAllowed := read.broken, rest := read.rest }

/-- The marks with which no scalar begins. -/
def reservedMarks : List Char :=
  ['-', '?', ':', ',', '[', ']', '\x7b', '\x7d', '#', '&', '*', '!', '|', '>', '\'', '"', '%', '@',
    Char.ofNat 96, '\t']

/-- Whether a scalar without quotation marks begins with a character. -/
def beginsPlain (inFlow : Bool) (c : Char) (rest : List Spot) : Bool :=
  !reservedMarks.contains c || (c == '-' && !(rest.head?.any fun p => isBlank p.char)) ||
    (!inFlow && (c == '?' || c == ':') && !endsWord rest)

/-- Reads the token that begins with a character. -/
def dispatch? (st : Scanner) (p : Spot) (rest : List Spot) : Option Scanner :=
  if atDocumentMark (p :: rest) then
    st.documentMark? (if p.char = '-' then .documentStart else .documentEnd) (rest.drop 2)
  else
    match p.char with
    | '[' => st.openFlow? .openList p rest
    | '\x7b' => st.openFlow? .openMap p rest
    | ']' => st.closeFlow? .closeList rest
    | '\x7d' => st.closeFlow? .closeMap rest
    | ',' => st.comma? rest
    | '\'' => st.quoted? p (scanSingle? [] .empty rest)
    | '"' => st.quoted? p (scanDouble? (rest.length + 1) [] .empty rest)
    | c =>
      if c = '-' && endsWord rest then st.blockMark? .blockSequence .item p rest
      else if c = '?' && (st.inFlow || endsWord rest) then
        st.blockMark? .blockMapping .key p rest
      else if c = ':' && (st.inFlow || endsWord rest) then st.value? p rest
      else if beginsPlain st.inFlow c rest then st.plain? p rest
      else none

/-- Reads all tokens; `fuel` need not exceed the length of the text. -/
def run? : Nat → Scanner → Option (List Token)
  | fuel, st =>
    let st := st.skip
    match st.rest with
    | [] => st.unrollAll.forgetKey?.map fun st => st.groups.toList.flatten
    | p :: rest =>
      match fuel with
      | 0 => none
      | fuel + 1 => do
        let keys ← dropStale? p st.keys
        let st ← ({ st with keys }.unroll p.column).dispatch? p rest
        run? fuel st

end Scanner

/-- The tokens of a text. -/
def tokens? (s : List Char) : Option (List Token) := do
  let spots ← spots? s
  Scanner.run? (spots.length + 1) (.start spots)

end Yaml

end Dashboard
