/-
Blank characters and the trimming of texts. A character is blank when it
has the property White_Space of the character database; core's
`Char.isWhitespace` knows the ASCII ones of them only. Texts are lists of
characters here, so that every later reader can recurse on them.
-/
namespace QueryText.Text

-- ======================================================= the property

/-- The characters with the property White_Space. -/
def isBlank (c : Char) : Bool :=
  let n := c.toNat
  (0x09 ≤ n && n ≤ 0x0D) || n == 0x20 || n == 0x85 || n == 0xA0 || n == 0x1680
    || (0x2000 ≤ n && n ≤ 0x200A) || n == 0x2028 || n == 0x2029 || n == 0x202F
    || n == 0x205F || n == 0x3000

-- ============================================================ trimming

/-- The text without the blanks it begins with. -/
def trimStart (s : List Char) : List Char :=
  s.dropWhile isBlank

/-- The text without the blanks it ends with. -/
def trimEnd (s : List Char) : List Char :=
  (s.reverse.dropWhile isBlank).reverse

/-- The text without the blanks at its two ends. -/
def trim (s : List Char) : List Char :=
  trimEnd (trimStart s)

end QueryText.Text
