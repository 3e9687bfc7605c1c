import Dashboard.Pattern.Program

/-!
# Pattern.Search · finding matches

All ways to match are threads that read the text in step. They are kept in the order of preference,
and of two threads at the same instruction the later one is dropped.

* **`findFrom?`** finds the first match at or after a place: the leftmost one, and of those that
  begin there the preferred one.
* **`Pattern.allMatches`** lists the matches of a text from left to right, none overlapping another.
  An empty match does not stand directly after another match.
-/

namespace Dashboard

namespace Pattern

/-! ## Conditions -/

/-- Whether a character belongs to a word. -/
def isWordChar (ascii : Bool) (c : Option Char) : Bool :=
  match c with
  | some c => (if ascii then asciiWordSet else wordSet).contains c.toNat
  | none => false

/-- Whether a condition holds between two characters, of which one is absent at an end of the
text. -/
def Look.holds (before after : Option Char) : Look → Bool
  | .textStart => before.isNone
  | .textEnd => after.isNone
  | .lineStart => before.isNone || before == some '\n'
  | .lineEnd => after.isNone || after == some '\n'
  | .anyLineStart =>
    before.isNone || before == some '\n' || (before == some '\r' && after != some '\n')
  | .anyLineEnd =>
    after.isNone || after == some '\r' || (after == some '\n' && before != some '\r')
  | .wordBoundary ascii => isWordChar ascii before != isWordChar ascii after
  | .notWordBoundary ascii => isWordChar ascii before == isWordChar ascii after
  | .wordStart ascii => !isWordChar ascii before && isWordChar ascii after
  | .wordEnd ascii => isWordChar ascii before && !isWordChar ascii after
  | .wordStartHalf ascii => !isWordChar ascii before
  | .wordEndHalf ascii => !isWordChar ascii after

/-! ## Threads -/

/-- Places by slot: the start of group `i` is in slot `2 * i`, its end in the slot after it. -/
abbrev Slots := Array (Option Nat)

/-- A way to match so far. -/
structure Thread where
  address : Nat
  slots : Slots

/-- The threads that wait at a place for a character, or have matched, last first, and the
addresses that have been visited there. -/
structure Waiting where
  threads : List Thread
  visited : Array Bool

/-- A place in a text: the characters around it and its number. -/
structure Place where
  before : Option Char
  after : Option Char
  index : Nat

/-- Follows threads, the first on top of the stack, up to where they wait. Every address is visited
once, so `fuel` need not exceed twice the number of instructions and the height of the stack. -/
def follow (code : Instructions) (place : Place) : Nat → List Thread → Waiting → Waiting
  | 0, _, waiting => waiting
  | _ + 1, [], waiting => waiting
  | fuel + 1, thread :: stack, waiting =>
    if waiting.visited.getD thread.address true then follow code place fuel stack waiting
    else
      let waiting :=
        { waiting with visited := waiting.visited.setIfInBounds thread.address true }
      match code[thread.address]? with
      | some (.check condition next) =>
        if condition.holds place.before place.after then
          follow code place fuel ({ thread with address := next } :: stack) waiting
        else follow code place fuel stack waiting
      | some (.store slot next) =>
        let slots := thread.slots.setIfInBounds slot (some place.index)
        follow code place fuel (⟨next, slots⟩ :: stack) waiting
      | some (.fork first second) =>
        follow code place fuel (⟨first, thread.slots⟩ :: ⟨second, thread.slots⟩ :: stack) waiting
      | _ =>
        follow code place fuel stack { waiting with threads := thread :: waiting.threads }

/-- The threads that wait at a place when some threads arrive there, in order of preference. -/
def arrive (code : Instructions) (place : Place) (threads : List Thread) : List Thread :=
  (follow code place (2 * code.size + threads.length + 1) threads
    ⟨[], Array.replicate code.size false⟩).threads.reverse

/-- The threads preferred to the first that has matched, and the slots of that one. -/
def splitAccepted (code : Instructions) : List Thread → List Thread × Option Slots
  | [] => ([], none)
  | thread :: rest =>
    match code[thread.address]? with
    | some .accept => ([], some thread.slots)
    | _ =>
      let (ahead, accepted) := splitAccepted code rest
      (thread :: ahead, accepted)

/-- The thread after a character, if it reads that. -/
def Thread.advance? (code : Instructions) (c : Char) (thread : Thread) : Option Thread :=
  match code[thread.address]? with
  | some (.read set next) =>
    if set.contains c.toNat then some ⟨next, thread.slots⟩ else none
  | _ => none

/-! ## Matches -/

/-- Follows the threads that arrive at a place. While nothing has matched, a match may also begin
there. Gives the threads still preferred and the best match so far. -/
def settle (program : Program) (fresh : Slots) (place : Place) (threads : List Thread)
    (best : Option Slots) : List Thread × Option Slots :=
  let threads := if best.isSome then threads else threads ++ [⟨program.start, fresh⟩]
  let (ahead, accepted) := splitAccepted program.code (arrive program.code place threads)
  (ahead, accepted.or best)

/-- Runs threads over a text; gives the slots of the match. -/
def run (program : Program) (fresh : Slots) (before : Option Char) (index : Nat)
    (threads : List Thread) (best : Option Slots) : List Char → Option Slots
  | [] => (settle program fresh ⟨before, none, index⟩ threads best).2
  | c :: rest =>
    let (ahead, best) := settle program fresh ⟨before, some c, index⟩ threads best
    if ahead.isEmpty && best.isSome then best
    else
      run program fresh (some c) (index + 1) (ahead.filterMap (·.advance? program.code c)) best rest

/-- A match: where it begins and ends, and the places of the groups. -/
structure Match where
  start : Nat
  stop : Nat
  slots : Slots

/-- The first match in the text after a place. -/
def findFrom? (pattern : Pattern) (before : Option Char) (index : Nat) (s : List Char) :
    Option Match := do
  let fresh := Array.replicate (2 * (pattern.groups + 1)) none
  let slots ← run pattern.program fresh before index [] none s
  let start ← slots.getD 0 none
  let stop ← slots.getD 1 none
  some ⟨start, stop, slots⟩

/-- The matches in the text after a place, where `last` is the end of the match before it. -/
def matchesFrom (pattern : Pattern) :
    Nat → Option Char → Nat → Option Nat → List Char → List Match
  | 0, _, _, _, _ => []
  | fuel + 1, before, index, last, s =>
    match findFrom? pattern before index s with
    | none => []
    | some found =>
      if found.start = found.stop ∧ last = some found.stop then
        match s with
        | [] => []
        | c :: rest => matchesFrom pattern fuel (some c) (index + 1) none rest
      else
        let length := found.stop - index
        found :: matchesFrom pattern fuel ((s.take length).getLast?.or before) found.stop
          (some found.stop) (s.drop length)

/-- The matches in a text. -/
def allMatches (pattern : Pattern) (s : List Char) : List Match :=
  matchesFrom pattern (2 * s.length + 3) none 0 none s

/-- The text of a group in a match; nothing if the group has not matched. -/
def Match.group (found : Match) (s : List Char) (index : Nat) : List Char :=
  match found.slots.getD (2 * index) none, found.slots.getD (2 * index + 1) none with
  | some start, some stop => (s.take stop).drop start
  | _, _ => []

end Pattern

end Dashboard
