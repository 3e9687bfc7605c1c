/-!
# Text.Blank · white space

The characters with the property White_Space, and trimming them from the ends of a text.
-/

namespace Dashboard

namespace Text

/-- Whether a character has the property White_Space. -/
def isBlank (c : Char) : Bool :=
  let n := c.toNat
  (9 ≤ n && n ≤ 13) || n == 0x20 || n == 0x85 || n == 0xA0 || n == 0x1680 ||
    (0x2000 ≤ n && n ≤ 0x200A) || n == 0x2028 || n == 0x2029 || n == 0x202F || n == 0x205F ||
    n == 0x3000

/-- A text without its leading white space. -/
def trimStart (s : List Char) : List Char := s.dropWhile isBlank

/-- A text without its trailing white space. -/
def trimEnd (s : List Char) : List Char := (s.reverse.dropWhile isBlank).reverse

/-- A text without white space at its ends. -/
def trim (s : List Char) : List Char := trimEnd (trimStart s)

/-- A string without white space at its ends. -/
def trimString (s : String) : String := String.ofList (trim s.toList)

end Text

end Dashboard
