import SequenceLog.Text.Hex
import SequenceLog.Text.Printable
/-! Quoted text, as messages show it: apostrophes around it, or quotation marks where only
apostrophes occur inside, with escapes for what has no printed form. -/
namespace SequenceLog.Text

def quotationMark (t : Text) : CodePoint :=
  if t.points.contains '\'' && !t.points.contains '"' then '"' else '\''

/-- One code point inside the given marks. -/
def escapeQuoted (mark c : CodePoint) : Text :=
  if c = mark ∨ c = '\\' then ⟨['\\', c]⟩
  else if c = '\n' then "\\n"
  else if c = '\r' then "\\r"
  else if c = '\t' then "\\t"
  else if isPrintable c then ⟨[c]⟩
  else if c.val < 0x100 then "\\x" ++ ofChars (hexDigits 2 c.val)
  else if c.val < 0x10000 then "\\u" ++ ofChars (hexDigits 4 c.val)
  else "\\U" ++ ofChars (hexDigits 8 c.val)

def quoted (t : Text) : Text :=
  let mark := quotationMark t
  ⟨mark :: t.points.flatMap (fun c => (escapeQuoted mark c).points) ++ [mark]⟩

end SequenceLog.Text
