/-!
# White space

The characters of Unicode's `White_Space` property, and texts without them at their ends.
`trim` cuts them off both ends, `trimEnd` off the end only, and a text is blank when it holds
nothing else.  The zero-width space and the byte order mark are not white space.
-/

namespace QueryDesk.Text

/-- A character with Unicode's `White_Space` property. -/
def isBlank (c : Char) : Bool :=
  let n := c.toNat
  (0x09 ≤ n && n ≤ 0x0D) || n == 0x20 || n == 0x85 || n == 0xA0 || n == 0x1680 ||
    (0x2000 ≤ n && n ≤ 0x200A) || n == 0x2028 || n == 0x2029 || n == 0x202F ||
    n == 0x205F || n == 0x3000

/-- Drops the characters at the end that satisfy `p`. -/
def dropEndWhile (p : Char → Bool) (s : List Char) : List Char :=
  (s.reverse.dropWhile p).reverse

/-- Drops the white space at the end. -/
def trimEnd (s : String) : String :=
  String.ofList (dropEndWhile isBlank s.toList)

/-- Drops the white space at both ends. -/
def trim (s : String) : String :=
  String.ofList (dropEndWhile isBlank (s.toList.dropWhile isBlank))

/-- A text of white space only; the empty text is one. -/
def isBlankText (s : String) : Bool :=
  s.toList.all isBlank

end QueryDesk.Text
