import Combinatory.Source.File

/-!
# Diagnostics: severities, codes and messages

A diagnostic has a severity, a code, a message, a subject, a span and notes. The thousands digit
of a code names the phase that reports it.
-/

namespace Combinatory

/-- How bad a diagnostic is, from least to most. -/
inductive Severity where
  | info
  | warning
  | error
  | fatal
  deriving DecidableEq, Repr, Inhabited

namespace Severity

/-- The rank of a severity. -/
def rank : Severity → Nat
  | info => 0 | warning => 1 | error => 2 | fatal => 3

/-- The severity of a rank, if any. -/
def ofRank? : Nat → Option Severity
  | 0 => some info | 1 => some warning | 2 => some error | 3 => some fatal | _ => none

/-- The upper-case name of the severity of rank `n`. -/
def nameOf (n : Nat) : String :=
  match ofRank? n with
  | some info => "INFO" | some warning => "WARNING" | some error => "ERROR"
  | some fatal => "FATAL" | none => "UNKNOWN"

/-- The label of the severity of rank `n`. -/
def labelOf (n : Nat) : String :=
  match ofRank? n with
  | some info => "info" | some warning => "warning" | some error => "error"
  | some fatal => "fatal" | none => "unknown"

/-- The label of a severity. -/
def label (s : Severity) : String := labelOf s.rank

/-- Whether a severity makes a run fail: error and above. -/
def fails (s : Severity) : Bool := s.rank ≥ 2

/-- Reads a label. -/
def ofLabel? : String → Option Severity
  | "info" => some info | "warning" => some warning | "error" => some error
  | "fatal" => some fatal | _ => none

end Severity

/-- The phase that reports a code. -/
inductive Phase where
  | unknown
  | lexer
  | parser
  | checker
  | converter
  | io
  deriving DecidableEq, Repr, Inhabited

namespace Phase

/-- The number of a phase. -/
def index : Phase → Nat
  | unknown => 0 | lexer => 1 | parser => 2 | checker => 3 | converter => 4 | io => 5

/-- The tag printed before a diagnostic of the phase. -/
def tag : Phase → String
  | unknown => "[UNKNOWN]" | lexer => "[LEXER]" | parser => "[PARSER]"
  | checker => "[CHECKER]" | converter => "[SK CONVERTER]" | io => "[IO]"

/-- The prefix of the identifiers of the phase's codes. -/
def prefixOf : Phase → String
  | unknown => "E" | lexer => "LEX" | parser => "SYN" | checker => "CHK"
  | converter => "CNV" | io => "IO"

end Phase

namespace DiagCode

/-- The codes that are reported. -/
def unknownCharacter : Nat := 1001
def expectIdentifier : Nat := 2002
def expectAssign : Nat := 2003
def expectSemicolon : Nat := 2004
def expectExpression : Nat := 2005
def unclosedParen : Nat := 2006
def expectParamsClose : Nat := 2007
def rebinding : Nat := 3001
def undeclared : Nat := 3002
def shadowedBinder : Nat := 3003
def usedBeforeDefined : Nat := 4001
def unreachable : Nat := 4002

/-- The phase of a code: its thousands digit, 1 to 5. -/
def phase (c : Nat) : Phase :=
  if 1000 ≤ c ∧ c < 2000 then .lexer
  else if 2000 ≤ c ∧ c < 3000 then .parser
  else if 3000 ≤ c ∧ c < 4000 then .checker
  else if 4000 ≤ c ∧ c < 5000 then .converter
  else if 5000 ≤ c ∧ c < 6000 then .io
  else .unknown

/-- The number `n` in at least four digits. -/
def fourDigits (n : Nat) : String :=
  let s := toString n
  String.ofList (List.replicate (4 - s.length) '0') ++ s

/-- The identifier of a code, such as `SYN2005`; `E0000` for a code of no phase. -/
def id (c : Nat) : String :=
  match phase c with
  | .unknown => "E0000"
  | p => p.prefixOf ++ fourDigits c

/-- The title of a code. -/
def title (c : Nat) : String :=
  match c with
  | 1000 => "Lexical information"
  | 1001 => "Unknown character"
  | 2000 => "Syntax information"
  | 2001 => "Unexpected token"
  | 2002 => "Expected identifier"
  | 2003 => "Expected '='"
  | 2004 => "Expected ';'"
  | 2005 => "Expected expression"
  | 2006 => "Unclosed parenthesis"
  | 2007 => "Expected '.' or '->' after parameters"
  | 3000 => "Scope information"
  | 3001 => "top level name bound more than once"
  | 3002 => "non declared identifier used"
  | 3003 => "binder shadows a name already in scope"
  | 4000 => "Conversion information"
  | 4001 => "identifier used before being defined"
  | 4002 => "unreachable converter state"
  | 5001 => "I/O load file error"
  | _ => "Unknown error"

/-- The identifier and title of a code, as `[SYN2005]: Expected expression`. -/
def describe (c : Nat) : String := "[" ++ id c ++ "]: " ++ title c

/-- The tag of a code's phase. -/
def tag (c : Nat) : String := (phase c).tag

end DiagCode

/-- A note attached to a diagnostic. -/
structure Note where
  span : Span
  message : String
  deriving DecidableEq, Repr, Inhabited

/-- A diagnostic. -/
structure Diagnostic where
  severity : Severity
  code : Nat
  message : String
  subject : List UInt8
  primary : Span
  notes : List Note
  deriving DecidableEq, Repr, Inhabited

namespace Diagnostic

/-- An error diagnostic without subject or notes. -/
def error (code : Nat) (primary : Span) (message : String) : Diagnostic :=
  { severity := .error, code, message, subject := [], primary, notes := [] }

/-- The same diagnostic about `subject`. -/
def withSubject (d : Diagnostic) (subject : List UInt8) : Diagnostic := { d with subject }

/-- The same diagnostic with one more note. -/
def withNote (d : Diagnostic) (span : Span) (message : String) : Diagnostic :=
  { d with notes := d.notes ++ [⟨span, message⟩] }

/-- The message followed by the subject, when there is one. -/
def text (d : Diagnostic) : List UInt8 :=
  if d.subject.isEmpty then d.message.toUTF8.toList
  else d.message.toUTF8.toList ++ [32] ++ d.subject

end Diagnostic

end Combinatory
