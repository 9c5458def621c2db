import Combinatory.Syntax.Stream
import Combinatory.Diagnostic.Bag
import Combinatory.Tree.Parser

/-!
# Tokenizing a file

The tokens of a file, with the diagnostics of its invalid characters in a bag.
-/

namespace Combinatory

/-- The tokens of one file and the diagnostics of the lexer. -/
structure Tokenized where
  files : FileSet
  file : SourceFile
  tokens : List Token
  bag : Bag
  deriving Inhabited

/-- Tokenizes `content` under file name `name`, keeping at most `maxDiagnostics` diagnostics
(no limit when not positive). -/
def tokenizeSource (name : String) (content : ByteArray) (maxDiagnostics : Int) : Tokenized :=
  let (files, id) := FileSet.empty.addVirtual name content
  let file := (files.get? id).getD default
  let (tokens, lexer) := (Lexer.Stream.start file (Reporter.toBag (Bag.empty maxDiagnostics) false)).all
  ⟨files, file, tokens, lexer.reporter.bag⟩

end Combinatory
