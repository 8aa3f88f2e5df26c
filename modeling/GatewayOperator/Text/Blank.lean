/-!
# White space

The characters with the Unicode property `White_Space`, and trimming by them. Tabs, line ends, the
no-break and the typographic spaces count; the zero-width space U+200B, the byte order mark U+FEFF,
U+180E and the separators below U+0020 other than U+0009 to U+000D do not.
-/

set_option autoImplicit false

namespace GatewayOperator.Text

/-- Whether a character has the Unicode property `White_Space`. -/
def isBlank (c : Char) : Bool :=
  let n := c.toNat
  (0x9 ≤ n && n ≤ 0xD) || n == 0x20 || n == 0x85 || n == 0xA0 || n == 0x1680 ||
    (0x2000 ≤ n && n ≤ 0x200A) || n == 0x2028 || n == 0x2029 || n == 0x202F || n == 0x205F ||
    n == 0x3000

/-- A list of characters without the blanks at its end. -/
def dropBlankEnd (cs : List Char) : List Char :=
  (cs.reverse.dropWhile isBlank).reverse

/-- A list of characters without the blanks at either end. -/
def trimBlank (cs : List Char) : List Char :=
  dropBlankEnd (cs.dropWhile isBlank)

/-- A text without the blanks at either end. -/
def trim (s : String) : String :=
  String.ofList (trimBlank s.toList)

/-- A text without the blanks at its end. -/
def trimEnd (s : String) : String :=
  String.ofList (dropBlankEnd s.toList)

/-- The trimmed text, unless it is empty. -/
def nonBlank? (s : String) : Option String :=
  let t := trim s
  if t = "" then none else some t

end GatewayOperator.Text
