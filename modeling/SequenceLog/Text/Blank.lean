import SequenceLog.Text.Basic
/-! White space and trimming. Two classes are used: the white space of Unicode, which may
surround a numeral, and the wider class of blanks that are trimmed from a token. -/
namespace SequenceLog.Text

/-- The code points with Unicode's `White_Space` property. -/
def isSpace (c : CodePoint) : Bool :=
  let n := c.val
  (9 ≤ n && n ≤ 13) || n == 0x20 || n == 0x85 || n == 0xA0 || n == 0x1680 ||
    (0x2000 ≤ n && n ≤ 0x200A) || n == 0x2028 || n == 0x2029 || n == 0x202F || n == 0x205F ||
    n == 0x3000

/-- A blank is white space or one of the four information separators. -/
def isBlank (c : CodePoint) : Bool :=
  isSpace c || (0x1C ≤ c.val && c.val ≤ 0x1F)

def trimBy {α : Type} (p : α → Bool) (s : List α) : List α :=
  ((s.dropWhile p).reverse.dropWhile p).reverse

def trim (points : List CodePoint) : List CodePoint := trimBy isBlank points

end SequenceLog.Text
