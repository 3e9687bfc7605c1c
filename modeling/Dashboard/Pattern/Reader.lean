import Dashboard.Numeral
import Dashboard.Pattern.Node
import Dashboard.Text.Blank

/-!
# Pattern.Reader · reading patterns

* **`Pattern.read?`** reads a text as a pattern and gives its structure with the number of its
  groups and their names; `none` means that it is no pattern.
* Classes in brackets are read by `scanClass?`, escapes by `scanEscape?`, groups and their flags by
  `scanGroup?`.

Not supported, and so refused: references back to a group and conditions on the text around a
place, except those on words, lines and the ends of the text.
-/

namespace Dashboard

namespace Pattern

/-- How the following part of a pattern is meant. -/
structure Flags where
  ignoreCase : Bool
  /-- `^` and `$` stand for the ends of lines. -/
  multiLine : Bool
  /-- `.` stands also for a line break. -/
  dotNewLine : Bool
  /-- Repetitions are not greedy unless they are marked. -/
  swapGreed : Bool
  /-- Classes and case are those of Unicode. -/
  unicode : Bool
  /-- `\r` also ends a line. -/
  anyLine : Bool
  /-- White space and comments are ignored. -/
  verbose : Bool
deriving DecidableEq, Repr

/-- The flags at the start of a pattern. -/
def Flags.initial : Flags := ⟨false, false, false, false, true, false, false⟩

/-! ## White space and comments -/

/-- Skips white space and comments. -/
def skipComments (inComment : Bool) : List Char → List Char
  | [] => []
  | c :: s =>
    if inComment then skipComments (c != '\n') s
    else if Text.isBlank c then skipComments false s
    else if c = '#' then skipComments true s
    else c :: s

/-- Skips what the flags say to ignore. -/
def Flags.skip (flags : Flags) (s : List Char) : List Char :=
  if flags.verbose then skipComments false s else s

/-! ## Sets and conditions under flags -/

/-- A set with case variants, if case is ignored. -/
def Flags.fold (flags : Flags) (set : CharSet) : CharSet :=
  if flags.ignoreCase then if flags.unicode then .folded set else .asciiFolded set else set

/-- The set of a letter class, which is in capitals for the complement. -/
def Flags.letterClass? (flags : Flags) (c : Char) : Option CharSet :=
  let set? :=
    match c.toLower with
    | 'd' => some (if flags.unicode then digitSet else asciiDigitSet)
    | 's' => some (if flags.unicode then spaceSet else asciiSpaceSet)
    | 'w' => some (if flags.unicode then wordSet else asciiWordSet)
    | _ => none
  set?.map fun set => if c.isUpper then .complement set else set

/-- A set outside brackets. Without Unicode it must not go beyond ASCII, since it would match parts
of characters. -/
def Flags.admit? (flags : Flags) (set : CharSet) : Option CharSet :=
  if !flags.unicode && set.beyondAscii then none else some set

/-- The set that a point stands for. -/
def Flags.dot? (flags : Flags) : Option CharSet :=
  flags.admit? <|
    if flags.dotNewLine then .all
    else if flags.anyLine then .complement (.ranges [(10, 10), (13, 13)])
    else .complement (.single '\n')

/-- The condition that `^` stands for. -/
def Flags.caret (flags : Flags) : Look :=
  if flags.multiLine then if flags.anyLine then .anyLineStart else .lineStart else .textStart

/-- The condition that `$` stands for. -/
def Flags.dollar (flags : Flags) : Look :=
  if flags.multiLine then if flags.anyLine then .anyLineEnd else .lineEnd else .textEnd

/-! ## Escapes -/

/-- What a simple part of a pattern stands for. -/
inductive Atom where
  | char (c : Char)
  | set (s : CharSet)
  | look (condition : Look)

/-- The character of a code point that is one. -/
def charOf? (n : Nat) : Option Char :=
  if n < 0xD800 ∨ (0xDFFF < n ∧ n < 0x110000) then some (Char.ofNat n) else none

/-- Splits off what stands before a mark. The mark itself is dropped. -/
def scanUntil? (mark : Char) : List Char → Option (List Char × List Char)
  | [] => none
  | c :: s =>
    if c = mark then some ([], s) else (scanUntil? mark s).map fun (read, rest) => (c :: read, rest)

/-- Reads the given number of hexadecimal digits. -/
def scanHexDigits? (flags : Flags) : Nat → List Char → List Char → Option (List Char × List Char)
  | 0, read, s => some (read.reverse, s)
  | _ + 1, _, [] => none
  | n + 1, read, c :: s =>
    if (Numeral.hexDigit? c).isSome then
      scanHexDigits? flags n (c :: read) (if n = 0 then s else flags.skip s)
    else none

/-- Reads the digits after the mark of a hexadecimal escape: in braces, or as many as the mark
asks for. -/
def scanHex? (flags : Flags) (count : Nat) (s : List Char) : Option (Char × List Char) := do
  let (digits, rest) ← match flags.skip s with
    | '\x7b' :: s => do
      let (digits, rest) ← scanUntil? '\x7d' s
      some (if flags.verbose then digits.filter (!Text.isBlank ·) else digits, flags.skip rest)
    | s => scanHexDigits? flags count [] s
  let n ← Numeral.ofDigits? Numeral.hexDigit? 16 digits
  let c ← charOf? n
  some (c, rest)

/-- Reads what follows the mark `x`. Without braces the digits stand for a byte if classes are not
those of Unicode, and a byte beyond ASCII is only a part of a character. -/
def scanShortHex? (flags : Flags) (s : List Char) : Option (Char × List Char) := do
  let (c, rest) ← scanHex? flags 2 s
  if !flags.unicode && (flags.skip s).head? != some '\x7b' && 127 < c.toNat then none
  else some (c, rest)

/-- Splits a name of a property at the sign between name and value. -/
def splitProperty (name : List Char) : Option (Bool × List Char × List Char) :=
  let before (mark : List Char) :=
    match Text.split mark name with
    | first :: _ :: _ => some (first, name.drop (first.length + mark.length))
    | _ => none
  match before ['!', '='] with
  | some (n, v) => some (true, n, v)
  | none =>
    match (before [':']).or (before ['=']) with
    | some (n, v) => some (false, n, v)
    | none => none

/-- Reads the name of a property, in braces or as one letter. -/
def scanProperty? (flags : Flags) (s : List Char) : Option (CharSet × List Char) :=
  match flags.skip s with
  | '\x7b' :: s => do
    let (name, rest) ← scanUntil? '\x7d' s
    match splitProperty name with
    | some (negated, name, value) => do
      let set ← propertyValue? name value
      some (if negated then .complement set else set, rest)
    | none => do
      let set ← property? name
      some (set, rest)
  | '\\' :: _ => none
  | c :: s => (property? [c]).map (·, flags.skip s)
  | [] => none

/-- The conditions with a name in braces. -/
def namedLooks (ascii : Bool) : List (String × Look) :=
  [("start", .wordStart ascii), ("end", .wordEnd ascii), ("start-half", .wordStartHalf ascii),
    ("end-half", .wordEndHalf ascii)]

/-- Reads what follows the mark of a word boundary: maybe a name in braces. -/
def scanBoundary? (flags : Flags) (s : List Char) : Option (Look × List Char) :=
  let ascii := !flags.unicode
  match s with
  | '\x7b' :: rest =>
    match flags.skip rest with
    | c :: after =>
      if c.isAlpha || c == '-' then do
        let (name, rest) ← scanUntil? '\x7d' (c :: after)
        let name := if flags.verbose then name.filter (!Text.isBlank ·) else name
        let look ← (namedLooks ascii).lookup (String.ofList name)
        some (look, rest)
      else some (.wordBoundary ascii, s)
    | [] => none
  | _ => some (.wordBoundary ascii, s)

/-- The marks with a meaning of their own. -/
def metaMarks : List Char := "\\.+*?()|[]\x7b\x7d^$#&-~".toList

/-- Whether a character may stand after a reverse solidus for itself. -/
def isEscapable (c : Char) : Bool :=
  metaMarks.contains c || (c.toNat < 128 && !c.isAlphanum && c != '<' && c != '>')

/-- Reads an escape after its reverse solidus. -/
def scanEscape? (flags : Flags) (s : List Char) : Option (Atom × List Char) :=
  match s with
  | [] => none
  | c :: rest =>
    if isEscapable c then some (.char c, rest)
    else
      match c with
      | 'x' => (scanShortHex? flags rest).map fun (c, rest) => (.char c, rest)
      | 'u' => (scanHex? flags 4 rest).map fun (c, rest) => (.char c, rest)
      | 'U' => (scanHex? flags 8 rest).map fun (c, rest) => (.char c, rest)
      | 'p' =>
        if flags.unicode then
          (scanProperty? flags rest).map fun (set, rest) => (.set (flags.fold set), rest)
        else none
      | 'P' =>
        if flags.unicode then
          (scanProperty? flags rest).map fun (set, rest) =>
            (.set (.complement (flags.fold set)), rest)
        else none
      | 'a' => some (.char (Char.ofNat 7), rest)
      | 'f' => some (.char (Char.ofNat 12), rest)
      | 't' => some (.char '\t', rest)
      | 'n' => some (.char '\n', rest)
      | 'r' => some (.char '\r', rest)
      | 'v' => some (.char (Char.ofNat 11), rest)
      | 'A' => some (.look .textStart, rest)
      | 'z' => some (.look .textEnd, rest)
      | 'b' => (scanBoundary? flags rest).map fun (look, rest) => (.look look, rest)
      | 'B' => some (.look (.notWordBoundary !flags.unicode), rest)
      | '<' => some (.look (.wordStart !flags.unicode), rest)
      | '>' => some (.look (.wordEnd !flags.unicode), rest)
      | c => ((flags.letterClass? c).bind flags.admit?).map fun set => (.set set, rest)

/-! ## Classes in brackets -/

/-- The operations between sets of a class. -/
inductive ClassOp where
  | inter
  | diff
  | symmDiff
deriving DecidableEq, Repr

/-- Applies an operation. Case variants are added to its operands. -/
def ClassOp.apply (flags : Flags) (op : ClassOp) (a b : CharSet) : CharSet :=
  match op with
  | .inter => .inter (flags.fold a) (flags.fold b)
  | .diff => .diff (flags.fold a) (flags.fold b)
  | .symmDiff => .symmDiff (flags.fold a) (flags.fold b)

/-- A class that has been opened: what stands before it in the outer class, whether it is negated,
and a left operand with its operation. -/
structure ClassFrame where
  outer : CharSet
  negated : Bool
  pending : Option (ClassOp × CharSet)

/-- The set of a class frame with the members read after its operation. -/
def ClassFrame.combine (flags : Flags) (frame : ClassFrame) (read : CharSet) : CharSet :=
  match frame.pending with
  | some (op, left) => op.apply flags left read
  | none => read

/-- Reads a class such as `[:alpha:]` after its bracket. Its case variants belong to it before it is
negated. -/
def scanNamedClass? (flags : Flags) (s : List Char) : Option (CharSet × List Char) := do
  let s ← match s with
    | ':' :: s => some s
    | _ => none
  let (negated, s) := match s with
    | '^' :: s => (true, s)
    | s => (false, s)
  let (name, s) ← scanUntil? ':' s
  match s with
  | ']' :: s => do
    let rs ← namedClasses.lookup (String.ofList name)
    let set := flags.fold (.ranges rs)
    some (if negated then .complement set else set, s)
  | _ => none

/-- Reads an item of a class: an escape or a character. -/
def scanClassItem? (flags : Flags) : List Char → Option (Atom × List Char)
  | '\\' :: s => scanEscape? flags s
  | c :: s => some (.char c, s)
  | [] => none

/-- The set of an item of a class. -/
def Atom.classSet? (flags : Flags) : Atom → Option CharSet
  | .char c => if flags.unicode ∨ c.toNat < 128 then some (.single c) else none
  | .set s => some s
  | .look _ => none

/-- Reads an item or a range of a class. -/
def scanClassRange? (flags : Flags) (s : List Char) : Option (CharSet × List Char) := do
  let (first, s) ← scanClassItem? flags s
  let s := flags.skip s
  match s with
  | [] => none
  | '-' :: after =>
    match flags.skip after with
    | [] => none
    | next :: _ =>
      if next = ']' ∨ next = '-' then (first.classSet? flags).map (·, s)
      else do
        let (last, rest) ← scanClassItem? flags (flags.skip after)
        match first, last with
        | .char a, .char b =>
          if a ≤ b ∧ (flags.unicode ∨ b.toNat < 128) then
            some (.ranges [(a.toNat, b.toNat)], rest)
          else none
        | _, _ => none
  | _ => (first.classSet? flags).map (·, s)

/-- Reads the marks after an opening bracket: a negation, hyphens that stand for themselves, and a
closing bracket that stands for itself. -/
def scanClassStart? (flags : Flags) (s : List Char) : Option (Bool × CharSet × List Char) :=
  let s := flags.skip s
  let (negated, s) := match s with
    | '^' :: s => (true, flags.skip s)
    | s => (false, s)
  let hyphens : CharSet × List Char := scanHyphens s.length s .empty
  match hyphens with
  | (_, []) => none
  | (read, ']' :: rest) =>
    if read = .empty then
      match flags.skip rest with
      | [] => none
      | rest => some (negated, .single ']', rest)
    else some (negated, read, ']' :: rest)
  | (read, rest) => some (negated, read, rest)
where
  /-- Reads hyphens at the start of a class. -/
  scanHyphens : Nat → List Char → CharSet → CharSet × List Char
    | fuel + 1, '-' :: s, _ => scanHyphens fuel (flags.skip s) (.single '-')
    | _, s, read => (read, s)

/-- Closes a class: adds case variants, then negates. -/
def closeClass? (flags : Flags) (frame : ClassFrame) (read : CharSet) : Option CharSet :=
  let set := flags.fold (frame.combine flags read)
  flags.admit? (if frame.negated then .complement set else set)

/-- Reads the rest of a class in brackets up to its end. The frames of the opened classes are given
innermost first, and `read` holds the members read last. -/
def scanClassRest? (flags : Flags) :
    Nat → ClassFrame → List ClassFrame → CharSet → List Char → Option (CharSet × List Char)
  | 0, _, _, _, _ => none
  | fuel + 1, frame, outer, read, s =>
    match flags.skip s with
    | [] => none
    | '[' :: rest =>
      match scanNamedClass? flags rest with
      | some (set, rest) =>
        match flags.admit? set with
        | some set => scanClassRest? flags fuel frame outer (.union read set) rest
        | none => none
      | none =>
        match scanClassStart? flags rest with
        | some (negated, start, rest) =>
          scanClassRest? flags fuel ⟨read, negated, none⟩ (frame :: outer) start rest
        | none => none
    | ']' :: rest =>
      match closeClass? flags frame read, outer with
      | none, _ => none
      | some set, [] => some (set, rest)
      | some set, next :: outer =>
        scanClassRest? flags fuel next outer (.union frame.outer set) rest
    | '&' :: '&' :: rest =>
      let left := frame.combine flags read
      scanClassRest? flags fuel { frame with pending := some (.inter, left) } outer .empty rest
    | '-' :: '-' :: rest =>
      let left := frame.combine flags read
      scanClassRest? flags fuel { frame with pending := some (.diff, left) } outer .empty rest
    | '~' :: '~' :: rest =>
      let left := frame.combine flags read
      scanClassRest? flags fuel { frame with pending := some (.symmDiff, left) } outer .empty rest
    | s =>
      match scanClassRange? flags s with
      | some (set, rest) => scanClassRest? flags fuel frame outer (.union read set) rest
      | none => none

/-- Reads a class after its opening bracket. -/
def scanClass? (flags : Flags) (s : List Char) : Option (CharSet × List Char) := do
  let (negated, start, rest) ← scanClassStart? flags s
  scanClassRest? flags (rest.length + 1) ⟨.empty, negated, none⟩ [] start rest

/-! ## Groups -/

/-- Changes one flag by its letter. -/
def Flags.set? (flags : Flags) (letter : Char) (value : Bool) : Option Flags :=
  match letter with
  | 'i' => some { flags with ignoreCase := value }
  | 'm' => some { flags with multiLine := value }
  | 's' => some { flags with dotNewLine := value }
  | 'U' => some { flags with swapGreed := value }
  | 'u' => some { flags with unicode := value }
  | 'R' => some { flags with anyLine := value }
  | 'x' => some { flags with verbose := value }
  | _ => none

/-- Reads flags up to a colon or a closing parenthesis. No letter and no minus sign may occur
twice, and a letter must follow the minus sign. -/
def scanFlags? (flags : Flags) (seen : List Char) (value : Bool) :
    List Char → Option (Flags × Char × Bool × List Char)
  | [] => none
  | c :: s =>
    if c = ':' ∨ c = ')' then
      if seen.head? = some '-' then none else some (flags, c, seen.isEmpty, s)
    else if c ∈ seen then none
    else if c = '-' then scanFlags? flags ('-' :: seen) false s
    else
      match flags.set? c value with
      | some flags => scanFlags? flags (c :: seen) value s
      | none => none

/-- Whether a character may stand in the name of a group. -/
def isNameChar (first : Bool) (c : Char) : Bool :=
  let letter := c == '_' || alphabeticSet.contains c.toNat
  if first then letter
  else letter || c == '.' || c == '[' || c == ']' || numberSet.contains c.toNat

/-- Reads the name of a group up to its closing mark. -/
def scanName? (s : List Char) : Option (String × List Char) := do
  let (name, rest) ← scanUntil? '>' s
  match name with
  | [] => none
  | c :: more =>
    if isNameChar true c && more.all (isNameChar false) then some (String.ofList name, rest)
    else none

/-- A group that has been opened, with what stands before it. -/
structure Opened where
  /-- The number of the group, if it captures. -/
  index : Option Nat
  flags : Flags
  branches : List Node
  items : List (Option Node)

/-- The state of reading. Branches and items stand last first; an item without a node is a setting
of flags. -/
structure State where
  flags : Flags
  groups : Nat
  names : List (String × Nat)
  branches : List Node
  items : List (Option Node)
  opened : List Opened

/-- The state at the start. -/
def State.initial : State := ⟨.initial, 0, [], [], [], []⟩

/-- Adds a node to the current branch. -/
def State.push (st : State) (n : Node) : State := { st with items := some n :: st.items }

/-- The node of the current group. -/
def State.body (st : State) : Node :=
  Node.choice ((Node.ofList (st.items.reverse.filterMap id) :: st.branches).reverse)

/-- How deep groups may be nested. -/
def maxOpened : Nat := 250

/-- Opens a group. -/
def State.openGroup? (st : State) (index : Option Nat) (inner : Flags) : Option State :=
  if maxOpened ≤ st.opened.length then none
  else
    some { st with
      flags := inner
      branches := []
      items := []
      opened := ⟨index, st.flags, st.branches, st.items⟩ :: st.opened }

/-- Closes a group; the flags are again those from before it. -/
def State.closeGroup? (st : State) : Option State :=
  match st.opened with
  | [] => none
  | group :: opened =>
    let node := match group.index with
      | some index => .capture index st.body
      | none => st.body
    some { st with
      flags := group.flags
      branches := group.branches
      items := some node :: group.items
      opened := opened }

/-- Opens a capturing group, maybe with a name. -/
def State.openCapture? (st : State) (name : Option String) : Option State :=
  let index := st.groups + 1
  let st := { st with groups := index }
  match name with
  | none => st.openGroup? (some index) st.flags
  | some name =>
    if (st.names.lookup name).isSome then none
    else { st with names := (name, index) :: st.names }.openGroup? (some index) st.flags

/-- Reads what follows an opening parenthesis. -/
def scanGroup? (st : State) (s : List Char) : Option (State × List Char) :=
  match st.flags.skip s with
  | '?' :: 'P' :: '<' :: s => do
    let (name, rest) ← scanName? s
    let st ← st.openCapture? (some name)
    some (st, rest)
  | '?' :: '<' :: s =>
    match s with
    | '=' :: _ | '!' :: _ => none
    | s => do
      let (name, rest) ← scanName? s
      let st ← st.openCapture? (some name)
      some (st, rest)
  | '?' :: s => do
    let (flags, stop, isBare, rest) ← scanFlags? st.flags [] true s
    if stop = ')' then
      if isBare then none else some ({ st with flags, items := none :: st.items }, rest)
    else do
      let st ← st.openGroup? none flags
      some (st, rest)
  | s => do
    let st ← st.openCapture? none
    some (st, s)

/-! ## Repetitions -/

/-- Takes a mark `?` that turns greed around. -/
def scanLazy (s : List Char) : Bool × List Char :=
  match s with
  | '?' :: rest => (true, rest)
  | _ => (false, s)

/-- Repeats the last node of the current branch. -/
def State.repeatLast? (st : State) (least : Nat) (most : Option Nat) (isLazy : Bool) :
    Option State :=
  match st.items with
  | some n :: items =>
    some { st with items := some (.iterate least most (isLazy == st.flags.swapGreed) n) :: items }
  | _ => none

/-- Reads digits of a count, with white space around them, as a number below `2 ^ 32`. -/
def scanCount? (flags : Flags) (s : List Char) : Option (Nat × List Char) :=
  let s := Text.trimStart s
  let (digits, rest) := scanDigits s.length s []
  let n := Decimal.ofDigits digits
  if digits.isEmpty ∨ 2 ^ (32 : Nat) ≤ n then none
  else some (n, Text.trimStart (flags.skip rest))
where
  /-- Reads digits, skipping what the flags ignore between them. -/
  scanDigits : Nat → List Char → List Char → List Char × List Char
    | fuel + 1, c :: s, read =>
      if c.isDigit then scanDigits fuel (flags.skip s) (c :: read) else (read.reverse, c :: s)
    | _, s, read => (read.reverse, s)

/-- Reads the bounds of a repetition after the opening brace. -/
def scanBounds? (flags : Flags) (s : List Char) : Option (Nat × Option Nat × List Char) := do
  let (least, s) ← scanCount? flags (flags.skip s)
  match s with
  | '\x7d' :: rest => some (least, some least, flags.skip rest)
  | ',' :: rest =>
    match flags.skip rest with
    | '\x7d' :: rest => some (least, none, flags.skip rest)
    | rest => do
      let (most, s) ← scanCount? flags rest
      match s with
      | '\x7d' :: rest => if least ≤ most then some (least, some most, flags.skip rest) else none
      | _ => none
  | _ => none

/-! ## Patterns -/

/-- The node of a simple part of a pattern. -/
def Atom.node? (flags : Flags) : Atom → Option Node
  | .char c => some (.chars (flags.fold (.single c)))
  | .set s => (flags.admit? s).map .chars
  | .look condition => some (.look condition)

/-- Reads one part of a pattern. -/
def scanPart? (st : State) (c : Char) (rest : List Char) : Option (State × List Char) :=
  match c with
  | '(' => scanGroup? st rest
  | ')' => st.closeGroup?.map (·, rest)
  | '|' =>
    some ({ st with
      branches := Node.ofList (st.items.reverse.filterMap id) :: st.branches
      items := [] }, rest)
  | '[' => (scanClass? st.flags rest).map fun (set, rest) => (st.push (.chars set), rest)
  | '?' =>
    let (isLazy, rest) := scanLazy rest
    (st.repeatLast? 0 (some 1) isLazy).map (·, rest)
  | '*' =>
    let (isLazy, rest) := scanLazy rest
    (st.repeatLast? 0 none isLazy).map (·, rest)
  | '+' =>
    let (isLazy, rest) := scanLazy rest
    (st.repeatLast? 1 none isLazy).map (·, rest)
  | '\x7b' => do
    let (least, most, rest) ← scanBounds? st.flags rest
    let (isLazy, rest) := scanLazy rest
    let st ← st.repeatLast? least most isLazy
    some (st, rest)
  | '.' => st.flags.dot?.map fun set => (st.push (.chars set), rest)
  | '^' => some (st.push (.look st.flags.caret), rest)
  | '$' => some (st.push (.look st.flags.dollar), rest)
  | '\\' => do
    let (atom, rest) ← scanEscape? st.flags rest
    let n ← atom.node? st.flags
    some (st.push n, rest)
  | c => some (st.push (.chars (st.flags.fold (.single c))), rest)

/-- Reads parts up to the end of the text. -/
def scanParts? : Nat → State → List Char → Option State
  | 0, _, _ => none
  | fuel + 1, st, s =>
    match st.flags.skip s with
    | [] => some st
    | c :: rest =>
      match scanPart? st c rest with
      | some (st, rest) => scanParts? fuel st rest
      | none => none

/-- The room that a compiled pattern may take. -/
def maxWeight : Nat := 250000

/-- Reads a pattern: its structure, the number of its groups and their names. -/
def read? (s : List Char) : Option (Node × Nat × List (String × Nat)) := do
  let st ← scanParts? (s.length + 1) .initial s
  if st.opened.isEmpty ∧ st.body.weight ≤ maxWeight then some (st.body, st.groups, st.names)
  else none

end Pattern

end Dashboard
