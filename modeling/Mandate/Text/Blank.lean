/-!
# Blank characters

The characters that count as white space, and what it means to split a text at them.
-/

namespace Mandate.Text

def isBlank (c : Char) : Bool :=
  let n := c.toNat
  (9 ≤ n && n ≤ 13) || n == 0x20 || n == 0x85 || n == 0xa0 || n == 0x1680
    || (0x2000 ≤ n && n ≤ 0x200a) || n == 0x2028 || n == 0x2029 || n == 0x202f || n == 0x205f
    || n == 0x3000

/-- Whether nothing but white space is in the text. -/
def isAllBlank (s : String) : Bool :=
  s.toList.all isBlank

/-- The runs of characters between the blanks. -/
def words (cs : List Char) : List (List Char) :=
  (cs.splitOnP isBlank).filter fun w => !w.isEmpty

end Mandate.Text
