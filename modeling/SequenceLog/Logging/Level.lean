import SequenceLog.Fault
/-! The levels of logging: their names in any mix of cases, and what lines print for them. -/
namespace SequenceLog.Logging

def infoLevel : Int := 20

def warningLevel : Int := 30

/-- The level names and their levels. -/
def levels : List (Text × Int) :=
  [("CRITICAL", 50), ("FATAL", 50), ("ERROR", 40), ("WARNING", warningLevel), ("WARN", 30),
    ("INFO", infoLevel), ("DEBUG", 10), ("NOTSET", 0)]

/-- The capital of a letter where it lies within ASCII. No other capital occurs in a name. -/
def capital (c : CodePoint) : Text :=
  if 0x61 ≤ c.val ∧ c.val ≤ 0x7A then .ofChars [Char.ofNat (c.val - 32)]
  else match c.val with
    | 0xDF => "SS"
    | 0x131 => "I"
    | 0x17F => "S"
    | 0xFB00 => "FF"
    | 0xFB01 => "FI"
    | 0xFB02 => "FL"
    | 0xFB03 => "FFI"
    | 0xFB04 => "FFL"
    | 0xFB05 | 0xFB06 => "ST"
    | _ => ⟨[c]⟩

def capitals (name : Text) : Text := ⟨name.points.flatMap fun c => (capital c).points⟩

def unknownLevel : Fault :=
  .plain .invalidValue "Unknown level: '%(levelname)s:%(name)s:%(message)s'" none

def notALevel : Fault :=
  .plain .wrongType ("Level not an integer or a valid string: " ++
    "\x7b'%': (<class 'logging.PercentStyle'>, '%(levelname)s:%(name)s:%(message)s'), " ++
    "'\x7b': (<class 'logging.StrFormatStyle'>, " ++
    "'\x7blevelname\x7d:\x7bname\x7d:\x7bmessage\x7d'), " ++
    "'$': (<class 'logging.StringTemplateStyle'>, " ++
    "'$\x7blevelname\x7d:$\x7bname\x7d:$\x7bmessage\x7d')\x7d") none

/-- The level of a name in any mix of cases. Two names stand for constants that are no levels;
every other unknown name means the level of information. -/
def levelNamed (name : Text) : Except Fault Int :=
  let name := capitals name
  match levels.lookup name with
  | some level => .ok level
  | none =>
    if name = "BASIC_FORMAT" then .error unknownLevel
    else if name = "_STYLES" then .error notALevel
    else .ok infoLevel

def levelText (level : Int) : String :=
  if level = 50 then "CRITICAL"
  else if level = 40 then "ERROR"
  else if level = 30 then "WARNING"
  else if level = 20 then "INFO"
  else if level = 10 then "DEBUG"
  else if level = 0 then "NOTSET"
  else "Level " ++ toString level

end SequenceLog.Logging
