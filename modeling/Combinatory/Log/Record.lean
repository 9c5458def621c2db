import Combinatory.Log.Level
import Combinatory.Text.Category

/-!
# Log records

A record is one line of `key=value` pairs: the time, the level, the message and its attributes,
a value quoted when it needs to be. A logger keeps the records at or above its level.
-/

namespace Combinatory

/-- The value of an attribute. -/
inductive LogValue where
  | text (s : String)
  | int (i : Int)
  | bool (b : Bool)
  deriving DecidableEq, Repr, Inhabited

/-- One log record. -/
structure LogRecord where
  level : LogLevel
  message : String
  attrs : List (String × LogValue)
  deriving Repr, Inhabited

namespace LogValue

/-- Whether a text must be quoted to stand as one value. -/
def needsQuoting (s : String) : Bool :=
  s.isEmpty || s.toList.any fun c =>
    let n := c.toNat
    if n < 0x80 then c = ' ' || c = '=' || c = '"' || n < 0x20 || n = 0x7F
    else n = 0xFFFD || Unicode.isSpace c || !Unicode.isPrintable c

/-- A text as it is written as a value. -/
def quoteText (s : String) : String :=
  if needsQuoting s then Quoted.quote s.toUTF8.toList else s

/-- A value as it is written. -/
def render : LogValue → String
  | .text s => quoteText s
  | .int i => toString i
  | .bool b => if b then "true" else "false"

end LogValue

namespace LogRecord

/-- The line of a record, with `stamp` standing for the time. -/
def render (stamp : String) (r : LogRecord) : String :=
  "time=" ++ stamp ++ " level=" ++ r.level.name ++ " msg=" ++ LogValue.quoteText r.message ++
    String.join (r.attrs.map fun (k, v) => " " ++ k ++ "=" ++ v.render) ++ "\n"

/-- The records at or above `level`, written one per line. -/
def renderAll (stamp : String) (level : LogLevel) (rs : List LogRecord) : String :=
  String.join ((rs.filter fun r => r.level.rank ≥ level.rank).map (render stamp))

end LogRecord

end Combinatory
