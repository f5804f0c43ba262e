/-!
# Blanks

## Main definitions

* `isBlank`: the blanks of ASCII
* `trimBlanks`: a text without blanks at its two ends
-/

namespace PreviewServer

/-- The blanks of ASCII: space, tab, line feed, vertical tab, form feed and carriage return. -/
def isBlank (c : Char) : Bool :=
  c = ' ' || (9 ≤ c.toNat && c.toNat ≤ 13)

/-- A text without the blanks at its two ends. -/
def trimBlanks (cs : List Char) : List Char :=
  ((cs.dropWhile isBlank).reverse.dropWhile isBlank).reverse

end PreviewServer
