import Colonnade.Files.Tree
import Colonnade.Spec.Loading
import Colonnade.Text.LineEnd
import Colonnade.Text.Utf8

/-!
# Specification files

A specification file is UTF-8 text with line ends of any kind.
-/

namespace Colonnade

/-- Why a file is not a specification. -/
inductive SourceFault where
  | file (cause : Files.Fault)
  | encoding (cause : Text.Utf8.Fault)
  | document (cause : LoadFault)
  deriving DecidableEq, Repr

/-- The wording of a fault. -/
def SourceFault.message : SourceFault → String
  | .file ⟨.zeroByte, _⟩ => Files.zeroMessage
  | .file cause => "Cannot read file: " ++ cause.message
  | .encoding cause => cause.message
  | .document cause => cause.message

namespace Spec

/-- The specification that bytes store. -/
def ofBytes (bytes : List UInt8) : Except SourceFault Spec := do
  let text ← (Text.Utf8.decode bytes).mapError .encoding
  (load (Text.unifyLineEnds text)).mapError .document

/-- The specification in the file at a path. -/
def ofFile (t : Files.Tree) (p : Files.Path) : Except SourceFault Spec := do
  let bytes ← (t.read p).mapError .file
  ofBytes bytes

end Spec

end Colonnade
