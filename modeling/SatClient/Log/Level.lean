import SatClient.Failure
/-!
Severities of log records, by number and name. A level is looked up under the capitals of its name;
a name that means no level falls back to the ordinary one.
-/

namespace SatClient.Log

def unset : Nat := 0
def debug : Nat := 10
def info : Nat := 20
def warning : Nat := 30
def error : Nat := 40
def critical : Nat := 50

def levelNames : List (String × Nat) :=
  [("CRITICAL", critical), ("FATAL", critical), ("ERROR", error), ("WARN", warning),
   ("WARNING", warning), ("INFO", info), ("DEBUG", debug), ("NOTSET", unset)]

def levelName (level : Int) : String :=
  if level = critical then "CRITICAL"
  else if level = error then "ERROR"
  else if level = warning then "WARNING"
  else if level = info then "INFO"
  else if level = debug then "DEBUG"
  else if level = unset then "NOTSET"
  else "Level " ++ toString level

/-- The capitals of a letter, where they are letters of the basic alphabet. -/
def capital (c : Char) : List Char :=
  if 0x61 ≤ c.toNat && c.toNat ≤ 0x7A then [Char.ofNat (c.toNat - 32)]
  else
    match c.toNat with
    | 0xDF => ['S', 'S']
    | 0x131 => ['I']
    | 0x17F => ['S']
    | 0xFB00 => ['F', 'F']
    | 0xFB01 => ['F', 'I']
    | 0xFB02 => ['F', 'L']
    | 0xFB03 => ['F', 'F', 'I']
    | 0xFB04 => ['F', 'F', 'L']
    | 0xFB05 => ['S', 'T']
    | 0xFB06 => ['S', 'T']
    | _ => [c]

def capitals (name : String) : String :=
  String.ofList (name.toList.flatMap capital)

/-- The name under which the record format is kept, which is no level. -/
def formatName : String := "BASIC_FORMAT"

def formatText : String := "%(levelname)s:%(name)s:%(message)s"

/-- The name under which the styles of formats are kept, each with its mark. -/
def stylesName : String := "_STYLES"

def stylesText : String :=
  "\x7b'%': (<class 'logging.PercentStyle'>, '%(levelname)s:%(name)s:%(message)s'), " ++
    "'\x7b': (<class 'logging.StrFormatStyle'>, '\x7blevelname\x7d:\x7bname\x7d:" ++
    "\x7bmessage\x7d'), '$': (<class 'logging.StringTemplateStyle'>, " ++
    "'$\x7blevelname\x7d:$\x7bname\x7d:$\x7bmessage\x7d')\x7d"

def level (name : String) : Except Failure Nat :=
  if capitals name = formatName then .error (.unknownLevel formatText)
  else if capitals name = stylesName then .error (.levelNotName stylesText)
  else .ok ((levelNames.lookup (capitals name)).getD info)

end SatClient.Log
