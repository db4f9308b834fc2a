import Colonnade.Files.Tree
import Colonnade.Gltf.Container

/-!
# Scene files

Writing pillars to a file changes nothing unless they have a file of a scene and the path can be
written.
-/

namespace Colonnade.Gltf

/-- Why no scene file is written. -/
inductive ExportFault where
  | scene (cause : EncodeFault)
  | file (cause : Files.Fault)
  deriving DecidableEq, Repr

/-- The wording of a fault. -/
def ExportFault.message : ExportFault → String
  | .scene cause => "Failed to export glTF: " ++ cause.message
  | .file cause => "Failed to export glTF: " ++ cause.message

/-- The tree after pillars are written to the file at a path. -/
def write (t : Files.Tree) (p : Files.Path) (gs : List Generated) :
    Except ExportFault Files.Tree := do
  let bytes ← (encode gs).mapError .scene
  (t.write p bytes).mapError .file

end Colonnade.Gltf
