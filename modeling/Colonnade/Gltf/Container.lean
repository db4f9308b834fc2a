import Colonnade.Gltf.Document
import Colonnade.Text.Utf8

/-!
# Binary containers

A container is one file with a document and a blob.  It has a header with a mark, a version and
the length of the whole file, then a chunk for the document and, if there is a blob, one for the
blob.  A chunk has its length and kind before its bytes.  The bytes of a chunk fill up whole words:
documents are padded with spaces, blobs with zeros.  A file whose length does not fit into one word
is not made.
-/

namespace Colonnade.Gltf

/-- A chunk: the four letters of its kind, and its bytes. -/
structure Chunk where
  kind : List UInt8
  bytes : List UInt8
  deriving DecidableEq, Repr

/-- A container: the version of the format, the length that its header states, and its chunks. -/
structure Container where
  version : Nat
  length : Nat
  chunks : List Chunk
  deriving DecidableEq, Repr

/-- The mark of the format: the letters `glTF`. -/
def magic : List UInt8 := [0x67, 0x6C, 0x54, 0x46]

/-- The version of the format. -/
def formatVersion : Nat := 2

/-- The kind of the chunk with the document: the letters `JSON`. -/
def documentKind : List UInt8 := [0x4A, 0x53, 0x4F, 0x4E]

/-- The kind of the chunk with the blob: the letters `BIN` and a zero. -/
def blobKind : List UInt8 := [0x42, 0x49, 0x4E, 0x00]

/-- Bytes filled up to whole words. -/
def padded (filler : UInt8) (bytes : List UInt8) : List UInt8 :=
  bytes ++ List.replicate ((4 - bytes.length % 4) % 4) filler

/-- Filled bytes are whole words. -/
theorem length_padded_mod (filler : UInt8) (bytes : List UInt8) :
    (padded filler bytes).length % 4 = 0 := by
  simp [padded]
  omega

namespace Chunk

/-- The bytes of a chunk with its length and kind. -/
def encode (c : Chunk) : List UInt8 :=
  Bytes.encodeWord (.ofNat c.bytes.length) ++ c.kind ++ c.bytes

/-- The chunk at the start of some bytes, and the rest. -/
def decode? (bytes : List UInt8) : Option (Chunk × List UInt8) :=
  match bytes with
  | a :: b :: c :: d :: rest =>
    let length := (Bytes.decodeWord a b c d).toNat
    let body := rest.drop 4
    if rest.length < 4 ∨ body.length < length then none
    else some (⟨rest.take 4, body.take length⟩, body.drop length)
  | _ => none

/-- All chunks in some bytes. -/
def decodeAll? : Nat → List UInt8 → Option (List Chunk)
  | _, [] => some []
  | 0, _ => none
  | fuel + 1, bytes =>
    match decode? bytes with
    | none => none
    | some (chunk, rest) => (decodeAll? fuel rest).map (chunk :: ·)

end Chunk

namespace Container

/-- The bytes of chunks behind a header. -/
def encode (chunks : List Chunk) : List UInt8 :=
  let body := chunks.flatMap Chunk.encode
  magic ++ Bytes.encodeWord (.ofNat formatVersion) ++
    Bytes.encodeWord (.ofNat (12 + body.length)) ++ body

/-- The container that some bytes are. -/
def decode? (bytes : List UInt8) : Option Container :=
  if bytes.take 4 ≠ magic then none
  else
    match bytes.drop 4 with
    | v0 :: v1 :: v2 :: v3 :: l0 :: l1 :: l2 :: l3 :: body =>
      (Chunk.decodeAll? body.length body).map fun chunks =>
        ⟨(Bytes.decodeWord v0 v1 v2 v3).toNat, (Bytes.decodeWord l0 l1 l2 l3).toNat, chunks⟩
    | _ => none

end Container

/-- The chunks of a document and a blob. -/
def chunksOf (document : String) (blob : List UInt8) : List Chunk :=
  ⟨documentKind, padded 0x20 (Text.Utf8.encode document)⟩ ::
    if blob.isEmpty then [] else [⟨blobKind, padded 0 blob⟩]

/-- The header has one word for the length of a file, so files are shorter than this. -/
def lengthLimit : Nat := 4294967296

/-- Why a scene has no file: it has no document, or the file would be too long. -/
inductive EncodeFault where
  | notFinite (cause : NotFinite)
  | tooLong
  deriving DecidableEq, Repr

/-- The wording of a scene that has no file. -/
def EncodeFault.message : EncodeFault → String
  | .notFinite cause => cause.message
  | .tooLong => "'I' format requires 0 <= number <= 4294967295"

/-- The file of a document and a blob. -/
def encodeFile (document : String) (blob : List UInt8) : Except EncodeFault (List UInt8) :=
  let bytes := Container.encode (chunksOf document blob)
  if lengthLimit ≤ bytes.length then .error .tooLong else .ok bytes

/-- The file of a scene. -/
def Scene.encode (s : Scene) : Except EncodeFault (List UInt8) := do
  let document ← s.documentText.mapError .notFinite
  encodeFile document s.blob

/-- The file of some pillars. -/
def encode (gs : List Generated) : Except EncodeFault (List UInt8) :=
  (Scene.ofGenerated gs).encode

end Colonnade.Gltf
