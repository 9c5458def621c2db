import Combinatory.Text.Space
import Combinatory.Text.Quoted

/-!
# Log levels

Records are logged at one of four levels, in increasing order of importance: debug, info,
warn and error. A level is read case-insensitively (the dotted capital I folds to `i`) with
surrounding blanks ignored; the empty text and `warning` mean warn.
-/

namespace Combinatory

/-- The level of a log record. -/
inductive LogLevel where
  | debug
  | info
  | warn
  | error
  deriving DecidableEq, Repr, Inhabited

namespace LogLevel

/-- The importance of a level. -/
def rank : LogLevel → Nat
  | .debug => 0
  | .info => 1
  | .warn => 2
  | .error => 3

/-- The name printed for a level. -/
def name : LogLevel → String
  | .debug => "DEBUG"
  | .info => "INFO"
  | .warn => "WARN"
  | .error => "ERROR"

/-- Reads a level. -/
def parse (s : String) : Except String LogLevel :=
  let folded := (Unicode.trimSpace s).map fun c => if c = '\u0130' then 'i' else c
  match Unicode.lowerAscii folded with
  | "debug" => .ok .debug
  | "info" => .ok .info
  | "" | "warn" | "warning" => .ok .warn
  | "error" => .ok .error
  | _ => .error ("unknown log level " ++ Quoted.quote s.toUTF8.toList)

end LogLevel

end Combinatory
