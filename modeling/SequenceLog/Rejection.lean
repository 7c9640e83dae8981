import SequenceLog.Notice
import SequenceLog.Text.Blank
/-! Recovering the sequence token that a refused append should have carried. A rejection that
holds the token as data is trusted; otherwise the token is read from the error text, which has
the form `InvalidSequenceTokenException: ...: token`. -/
namespace SequenceLog

/-- The token an append is to be repeated with; null means that it must carry no token. -/
structure Expected where
  token : Token
  deriving DecidableEq, Repr, Inhabited

namespace Rejection

/-- The service's code for a token that does not match. -/
def mismatchCode : String := "InvalidSequenceTokenException"

def heading : Text := mismatchCode ++ ":"

/-- How the service spells that it expects no token. -/
def noToken : Text := "null"

def firstLine (points : List CodePoint) : List CodePoint :=
  points.takeWhile (· != CodePoint.ofChar '\n')

def divider : CodePoint := ':'

/-- A text has one part more than it has dividers. -/
def partCount (line : List CodePoint) : Nat := line.count divider + 1

def lastPart (line : List CodePoint) : List CodePoint :=
  (line.reverse.takeWhile (· != divider)).reverse

/-- Only the first line is looked at, and it must have at least three parts. -/
def parse (text : Text) : Option Expected :=
  if heading.points.isPrefixOf text.points then
    let line := firstLine text.points
    if partCount line < 3 then none
    else
      let token : Text := ⟨Text.trim (lastPart line)⟩
      if token.isEmpty then none
      else if token = noToken then some ⟨.null⟩
      else some ⟨.text token⟩
  else none

/-- A mismatch message that is too short to name a token is reported. -/
def parseNotices (text : Text) : List Notice :=
  let parts := partCount (firstLine text.points)
  if heading.points.isPrefixOf text.points && parts < 3 then
    [⟨.debug, .rejection, "Token mismatch message has too few parts",
      [("parts", .int parts)], none⟩]
  else []

end Rejection

inductive Evidence where
  | nothing
  | data (expected : Expected)
  | wording (text : Text)
  deriving DecidableEq, Repr

/-- What an error of the service tells. A token sent as data, even an empty one, is preferred to
the wording. -/
def ServiceError.evidence (error : ServiceError) : Evidence :=
  if error.code = some (.text Rejection.mismatchCode) then
    match error.expected with
    | none => .wording (Rejection.heading ++ " " ++ memberText "" error.message)
    | some token => .data ⟨token.orNull⟩
  else .nothing

def Fault.evidence : Fault → Evidence
  | .tokenRejected _ expected true _ => .data ⟨expected⟩
  | .service error => error.evidence
  | fault => .wording fault.message

/-- The token that an append refused with this fault is to be repeated with. None where the fault
is not a recoverable rejection. -/
def Fault.expected? (fault : Fault) : Option Expected :=
  match fault.evidence with
  | .nothing => none
  | .data expected => some expected
  | .wording text => Rejection.parse text

def Fault.expectedNotices (fault : Fault) : List Notice :=
  match fault.evidence with
  | .wording text => Rejection.parseNotices text
  | _ => []

end SequenceLog
