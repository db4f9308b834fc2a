import Colonnade.Digest.Sha256
import Colonnade.Files.Tree
import Colonnade.Json.Basic
import Colonnade.Spec.Generation

/-!
# Build manifests

A manifest records how a file was built: by which version of the tool, where and when, from which
input to which output, and what pillars it holds.  Files are recorded by path and digest, so that
a later reader can tell whether they are still the same.
-/

namespace Colonnade

/-- The name of the tool. -/
def toolName : String := "pillargen"

/-- The version of the tool. -/
def toolVersion : String := "0.2.0"

/-- What a run knows about its surroundings: the version of what runs the tool, the revision of
the work tree, if it is in one, and the time. -/
structure Surroundings where
  runtime : String
  revision : Option String
  time : String
  deriving DecidableEq, Repr

namespace Manifest

/-- A file by path and digest. -/
structure FileEntry where
  path : Files.Path
  digest : String
  deriving DecidableEq, Repr

/-- A pillar with the size of its mesh. -/
structure PillarEntry where
  id : Text.Loose
  label : String
  vertexCount : Nat
  triangleCount : Nat
  deriving DecidableEq, Repr

end Manifest

/-- A build manifest. -/
structure Manifest where
  surroundings : Surroundings
  input : Manifest.FileEntry
  output : Manifest.FileEntry
  pillars : List Manifest.PillarEntry
  arguments : Option (List String)
  deriving DecidableEq, Repr

namespace Manifest

/-- The record of the file at a path. -/
def FileEntry.of (t : Files.Tree) (p : Files.Path) : Except Files.Fault FileEntry :=
  (t.read p).map fun bytes => ⟨p, (Digest.Sha256.digest bytes).text⟩

/-- The record of a pillar. -/
def PillarEntry.of (g : Generated) : PillarEntry :=
  ⟨g.pillar.id, g.pillar.label, g.mesh.vertexCount, g.mesh.triangleCount⟩

/-- The manifest of a build from an input to an output, which are both there. -/
def of (s : Surroundings) (t : Files.Tree) (input output : Files.Path) (gs : List Generated)
    (arguments : Option (List String)) : Except Files.Fault Manifest := do
  let input ← FileEntry.of t input
  let output ← FileEntry.of t output
  pure ⟨s, input, output, gs.map PillarEntry.of, arguments⟩

/-- A file in a manifest. -/
def FileEntry.toJson (f : FileEntry) : Json :=
  .object [("path", .text f.path.text), ("sha256", .text f.digest)]

/-- A pillar in a manifest. -/
def PillarEntry.toJson (p : PillarEntry) : Json :=
  .object [("id", .text p.id), ("type", .text p.label), ("vertices", .nat p.vertexCount),
    ("triangles", .nat p.triangleCount)]

/-- The tool in a manifest. -/
def toolJson (s : Surroundings) : Json :=
  .object [("name", .text toolName), ("version", .text toolVersion), ("python", .text s.runtime),
    ("git_sha", (s.revision.map fun revision : String => .text revision).getD .null)]

/-- The member for the arguments of the run, if they are recorded. -/
def argumentMembers : Option (List String) → List (String × Json)
  | none => []
  | some arguments =>
    [("command_args", .list (arguments.map fun argument : String => .text argument))]

/-- A manifest as a document. -/
def toJson (m : Manifest) : Json :=
  .object ([("manifest_version", .int 1), ("tool", toolJson m.surroundings),
    ("timestamp", .text m.surroundings.time), ("input", m.input.toJson),
    ("output", m.output.toJson), ("pillars", .list (m.pillars.map PillarEntry.toJson))] ++
    argumentMembers m.arguments)

/-- The text of a manifest. -/
def text (m : Manifest) : String := m.toJson.indentedText

end Manifest

end Colonnade
