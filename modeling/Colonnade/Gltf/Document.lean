import Colonnade.Gltf.Scene
import Colonnade.Json.Basic

/-!
# Scene documents

The JSON document that describes a scene.  What has no members and what has no text is left out.
A document has a strict text only if all of its numbers are finite.
-/

namespace Colonnade.Gltf

/-- A member, unless its text is empty. -/
def textMember (name : String) (text : Text.Loose) : List (String × Json) :=
  if text.isEmpty then [] else [(name, .text text)]

/-- A member, unless its list is empty. -/
def listMember (name : String) (items : List Json) : List (String × Json) :=
  if items.isEmpty then [] else [(name, .list items)]

/-- A vector as a list of numbers. -/
def vectorJson (v : Vec3) : Json := .list [.float v.x, .float v.y, .float v.z]

/-- The code of the numbers that an element is made of: floats or unsigned integers. -/
def Element.component : Element → Nat
  | .vector3 => 5126
  | .vector2 => 5126
  | .corner => 5125

/-- The name of an element. -/
def Element.name : Element → String
  | .vector3 => "VEC3"
  | .vector2 => "VEC2"
  | .corner => "SCALAR"

/-- The code of a target. -/
def Target.code : Target → Nat
  | .vertices => 34962
  | .corners => 34963

/-- An accessor in a document. -/
def Accessor.toJson (a : Accessor) : Json :=
  .object ([("bufferView", .nat a.view), ("byteOffset", .int 0),
    ("componentType", .nat a.element.component), ("normalized", .bool false),
    ("count", .nat a.count), ("type", .text a.element.name)] ++
    match a.bounds with
    | none => []
    | some b => [("max", vectorJson b.high), ("min", vectorJson b.low)])

/-- A view in a document. -/
def View.toJson (v : View) : Json :=
  .object [("buffer", .int 0), ("byteOffset", .nat v.offset), ("byteLength", .nat v.length),
    ("target", .nat v.target.code)]

/-- A mesh in a document: one primitive made of triangles. -/
def MeshEntry.toJson (m : MeshEntry) : Json :=
  .object ([("primitives", .list [.object [
      ("extras", .object [("pillar_type", .text m.form)]),
      ("attributes", .object [("POSITION", .nat m.positions), ("NORMAL", .nat m.normals),
        ("TEXCOORD_0", .nat m.uvs)]),
      ("indices", .nat m.corners), ("mode", .int 4)]])] ++ textMember "name" m.name)

/-- A node in a document. -/
def Node.toJson (n : Node) : Json :=
  .object ([("mesh", .nat n.mesh)] ++
    (match n.offset with
      | none => []
      | some v => [("translation", vectorJson v)]) ++ textMember "name" n.name)

/-- Who made a document, and by which version of the format. -/
def assetJson : Json :=
  .object [("generator", .text "pygltflib@v1.16.5"), ("version", .text "2.0")]

namespace Scene

/-- The buffer in a document; there is none without bytes. -/
def bufferJson (s : Scene) : List Json :=
  if s.blob.isEmpty then [] else [.object [("byteLength", .nat s.blob.length)]]

/-- The document of a scene. -/
def toJson (s : Scene) : Json :=
  .object (listMember "accessors" (s.accessors.map Accessor.toJson) ++ [("asset", assetJson)] ++
    listMember "bufferViews" (s.views.map View.toJson) ++ listMember "buffers" s.bufferJson ++
    listMember "meshes" (s.meshes.map MeshEntry.toJson) ++
    listMember "nodes" (s.nodes.map Node.toJson) ++
    [("scene", .int 0),
      ("scenes", .list [.object (listMember "nodes" (s.nodeNumbers.map Json.nat))])])

end Scene

/-- A number of a scene that is not finite. -/
structure NotFinite where
  deriving DecidableEq, Repr

/-- The wording of a scene that has no document. -/
def NotFinite.message (_ : NotFinite) : String := Json.notStrictMessage

/-- The text of the document of a scene. -/
def Scene.documentText (s : Scene) : Except NotFinite String :=
  let j := s.toJson
  if j.isStrict then .ok j.compactText else .error ⟨⟩

end Colonnade.Gltf
