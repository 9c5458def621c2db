import Combinatory.Source.Path

/-!
# Source file names

Every source file name must end in `.ld` with something before it.
-/

namespace Combinatory

/-- The extension of source files. -/
def sourceExt : String := ".ld"

/-- The complaint about a file name without the source extension. -/
def extensionMessage : String := "filename must have the following regular expression '*.ld'"

/-- Checks that the base name of `path` is longer than `.ld` and ends with it. -/
def validatePath (path : String) : Except String Unit :=
  let b := Path.base path
  if b.utf8ByteSize ≤ sourceExt.utf8ByteSize ∨ !b.endsWith sourceExt then .error (path ++ ": " ++ extensionMessage)
  else .ok ()

end Combinatory
