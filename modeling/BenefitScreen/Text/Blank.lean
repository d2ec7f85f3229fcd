/-!
Blank characters at the ends of a text, and comparison that ignores the case of ASCII letters.
-/

namespace BenefitScreen.Text

/-- The white space of the Unicode standard. -/
def isBlank (c : Char) : Bool :=
  let n := c.toNat
  (9 ≤ n && n ≤ 13) || n == 0x20 || n == 0x85 || n == 0xA0 || n == 0x1680 ||
    (0x2000 ≤ n && n ≤ 0x200A) || n == 0x2028 || n == 0x2029 || n == 0x202F || n == 0x205F ||
    n == 0x3000

def trimChars (cs : List Char) : List Char :=
  ((cs.dropWhile isBlank).reverse.dropWhile isBlank).reverse

def trim (s : String) : String := String.ofList (trimChars s.toList)

/-- An ASCII letter in lower case, any other character as it is. -/
def fold (c : Char) : Char := c.toLower

/-- Equality up to the case of ASCII letters. -/
def sameLetters (s t : String) : Bool := s.toList.map fold == t.toList.map fold

/-- Whether the text ends in `ending` up to the case of ASCII letters. -/
def endsInLetters (s ending : String) : Bool :=
  (ending.toList.map fold).isSuffixOf (s.toList.map fold)

end BenefitScreen.Text
