import Colonnade.Gltf.Container
import Colonnade.Proofs.Gltf.ReadBack
import Colonnade.Proofs.Warning.Run
import Mathlib.Algebra.GroupWithZero.Nat

/-!
# Containers can be read back

A container is read chunk by chunk, each by the length that stands before it, and the reader is
content only if the last chunk ends where the file does.  What `Container.encode` writes is read
back as it was, as long as the lengths fit into words: `Container.decode?_encode`.

For the file of a scene this gives its layout: the document with at most three spaces behind it,
and, exactly if some pillar has a mesh, the blob of the scene (`encode_reads_back`).  That there is
no blob without a mesh, and one as soon as there is a mesh, is `blob_ofGenerated_eq_nil_iff`.
-/

namespace Colonnade

/-! ## Words -/

/-- A word is read from the four bytes it is written to, whatever follows. -/
theorem Bytes.exists_encodeWord (w : UInt32) :
    ∃ a b c d, encodeWord w = [a, b, c, d] ∧ decodeWord a b c d = w :=
  ⟨_, _, _, _, rfl, decodeWord_ofNat w⟩

@[simp] theorem Bytes.length_encodeWord (w : UInt32) : (encodeWord w).length = 4 := rfl

namespace Gltf

/-! ## Chunks -/

namespace Chunk

/-- A chunk that can be written: its kind has four letters, and its length fits into a word. -/
structure IsWritable (c : Chunk) : Prop where
  kind : c.kind.length = 4
  length_lt : c.bytes.length < 2 ^ 32

/-- A chunk takes eight bytes more than it holds. -/
theorem IsWritable.length_encode {c : Chunk} (h : c.IsWritable) :
    c.encode.length = 8 + c.bytes.length := by
  simp only [encode, List.length_append, Bytes.length_encodeWord, h.kind]

/-- A chunk is read back from the start of any bytes that it begins. -/
theorem IsWritable.decode?_encode {c : Chunk} (h : c.IsWritable) (rest : List UInt8) :
    decode? (c.encode ++ rest) = some (c, rest) := by
  obtain ⟨b₀, b₁, b₂, b₃, hbytes, hword⟩ := Bytes.exists_encodeWord (.ofNat c.bytes.length)
  have hlength : (Bytes.decodeWord b₀ b₁ b₂ b₃).toNat = c.bytes.length := by
    rw [hword]
    exact UInt32.toNat_ofNat_of_lt h.length_lt
  have hkind : (c.kind ++ (c.bytes ++ rest)).take 4 = c.kind := by
    rw [← h.kind, List.take_left]
  have hbody : (c.kind ++ (c.bytes ++ rest)).drop 4 = c.bytes ++ rest := by
    rw [← h.kind, List.drop_left]
  have hroom : ¬((c.kind ++ (c.bytes ++ rest)).length < 4 ∨
      (c.bytes ++ rest).length < c.bytes.length) := by
    simp only [List.length_append, h.kind]
    omega
  have hstart : c.encode ++ rest = b₀ :: b₁ :: b₂ :: b₃ :: (c.kind ++ (c.bytes ++ rest)) := by
    rw [encode, hbytes, List.append_assoc, List.append_assoc]
    rfl
  rw [hstart, decode?]
  simp only [hlength, hbody, hkind, if_neg hroom, List.take_left, List.drop_left]

/-- Chunks that stand one after the other are read back one after the other. -/
theorem decodeAll?_encode {cs : List Chunk} (h : ∀ c ∈ cs, c.IsWritable) {fuel : Nat}
    (hfuel : cs.length ≤ fuel) : decodeAll? fuel (cs.flatMap encode) = some cs := by
  induction cs generalizing fuel with
  | nil => rw [List.flatMap_nil, decodeAll?]
  | cons c rest ih =>
    obtain ⟨fuel, rfl⟩ : ∃ n, fuel = n + 1 := ⟨fuel - 1, by rw [List.length_cons] at hfuel; omega⟩
    have hc := h c List.mem_cons_self
    have hrest := ih (fun d hd => h d (List.mem_cons_of_mem c hd)) (Nat.le_of_succ_le_succ hfuel)
    have hne : c.encode ++ rest.flatMap encode ≠ [] := by
      apply List.ne_nil_of_length_pos
      rw [List.length_append, hc.length_encode]
      omega
    rw [List.flatMap_cons, decodeAll?, hc.decode?_encode]
    · simp only [hrest, Option.map_some]
    · exact hne

/-- How many bytes chunks take in all. -/
theorem length_flatMap_encode {cs : List Chunk} (h : ∀ c ∈ cs, c.IsWritable) :
    (cs.flatMap encode).length = (cs.map fun c => 8 + c.bytes.length).sum := by
  have hlengths : cs.map (List.length ∘ encode) = cs.map fun c => 8 + c.bytes.length :=
    List.map_congr_left fun c hc => (h c hc).length_encode
  rw [List.length_flatMap, ← hlengths]
  rfl

theorem length_le_length_flatMap_encode {cs : List Chunk} (h : ∀ c ∈ cs, c.IsWritable) :
    cs.length ≤ (cs.flatMap encode).length := by
  induction cs with
  | nil => exact Nat.zero_le _
  | cons c rest ih =>
    have hrest := ih fun d hd => h d (List.mem_cons_of_mem c hd)
    rw [List.flatMap_cons, List.length_append, (h c List.mem_cons_self).length_encode,
      List.length_cons]
    omega

end Chunk

/-! ## Containers -/

namespace Container

/-- A container has a header of twelve bytes. -/
theorem length_encode (cs : List Chunk) :
    (encode cs).length = 12 + (cs.flatMap Chunk.encode).length := by
  simp only [encode, List.length_append, Bytes.length_encodeWord]
  rfl

/-- The chunks of a container whose length fits into a word can be written, if their kinds have four
letters. -/
theorem isWritable_of_length_lt {cs : List Chunk} (hkinds : ∀ c ∈ cs, c.kind.length = 4)
    (hlength : (encode cs).length < 2 ^ 32) : ∀ c ∈ cs, c.IsWritable := by
  intro c hc
  refine ⟨hkinds c hc, ?_⟩
  obtain ⟨before, after, rfl⟩ := List.append_of_mem hc
  rw [length_encode, List.flatMap_append, List.flatMap_cons, List.length_append,
    List.length_append] at hlength
  have hle : c.bytes.length ≤ c.encode.length := by
    rw [Chunk.encode, List.length_append]
    omega
  omega

/-- A container is read back as it was written.  The reader finds the version of the format, the
length of the whole file and all chunks. -/
theorem decode?_encode {cs : List Chunk} (hkinds : ∀ c ∈ cs, c.kind.length = 4)
    (hlength : (encode cs).length < 2 ^ 32) :
    decode? (encode cs) = some ⟨formatVersion, (encode cs).length, cs⟩ := by
  have hwritable := isWritable_of_length_lt hkinds hlength
  have hchunks :=
    Chunk.decodeAll?_encode hwritable (Chunk.length_le_length_flatMap_encode hwritable)
  have hlong := length_encode cs
  obtain ⟨v₀, v₁, v₂, v₃, hversion, hversionWord⟩ :=
    Bytes.exists_encodeWord (.ofNat formatVersion)
  obtain ⟨l₀, l₁, l₂, l₃, hsize, hsizeWord⟩ :=
    Bytes.exists_encodeWord (.ofNat (12 + (cs.flatMap Chunk.encode).length))
  have hbytes : encode cs = magic ++ v₀ :: v₁ :: v₂ :: v₃ :: l₀ :: l₁ :: l₂ :: l₃ ::
      cs.flatMap Chunk.encode := by
    rw [encode, hversion, hsize, List.append_assoc, List.append_assoc]
    rfl
  have htotal : (Bytes.decodeWord l₀ l₁ l₂ l₃).toNat = (encode cs).length := by
    have hfits : 12 + (cs.flatMap Chunk.encode).length < 2 ^ 32 := by omega
    rw [hsizeWord, hlong]
    exact UInt32.toNat_ofNat_of_lt hfits
  have hformat : (Bytes.decodeWord v₀ v₁ v₂ v₃).toNat = formatVersion := by
    rw [hversionWord]
    rfl
  have hmagic (rest : List UInt8) : (magic ++ rest).take 4 = magic := rfl
  have hrest (rest : List UInt8) : (magic ++ rest).drop 4 = rest := rfl
  rw [← htotal, ← hformat, hbytes, decode?, hmagic, if_neg (by simp), hrest]
  simp only [hchunks, Option.map_some]

end Container

/-! ## The blob of a scene -/

/-- The bytes of the arrays of a mesh, in a row. -/
def meshBytes (m : Mesh) : List UInt8 :=
  (columns m).flatMap fun c => Bytes.encodeWords c.words

namespace Scene

theorem blob_foldl_addColumn (s : Scene) (cs : List Column) :
    (cs.foldl addColumn s).blob = s.blob ++ cs.flatMap fun c => Bytes.encodeWords c.words := by
  induction cs generalizing s with
  | nil => simp
  | cons c rest ih =>
    rw [List.foldl_cons, ih, List.flatMap_cons, ← List.append_assoc]
    rfl

theorem blob_foldl_addPillar (s : Scene) (gs : List Generated) :
    (gs.foldl addPillar s).blob = s.blob ++ gs.flatMap fun g => meshBytes g.mesh := by
  induction gs generalizing s with
  | nil => simp
  | cons g rest ih =>
    rw [List.foldl_cons, ih, addPillar_eq_foldl, blob_foldl_addColumn, List.flatMap_cons,
      ← List.append_assoc]
    rfl

end Scene

/-- A mesh with vertices has bytes. -/
theorem meshBytes_ne_nil {m : Mesh} (h : m.isEmpty = false) : meshBytes m ≠ [] := by
  have hcount : m.positions.size ≠ 0 := by simpa [Mesh.isEmpty, Mesh.vertexCount] using h
  have hwords : (m.positions.toList.flatMap vectorWords).length = m.positions.size * 3 := by
    simp [vectorWords]
  apply List.ne_nil_of_length_pos
  rw [meshBytes, columns, List.flatMap_cons, List.length_append, Bytes.length_encodeWords, hwords]
  omega

/-- A scene has no blob exactly if no pillar has a mesh. -/
theorem blob_ofGenerated_eq_nil_iff (gs : List Generated) :
    (Scene.ofGenerated gs).blob = [] ↔ ∀ g ∈ gs, g.mesh.isEmpty = true := by
  rw [Scene.ofGenerated_eq_foldl, Scene.blob_foldl_addPillar]
  show [] ++ _ = [] ↔ _
  rw [List.nil_append, List.flatMap_eq_nil_iff]
  constructor
  · intro hnil g hg
    by_contra hfull
    have hkept : g ∈ gs.filter fun g => !g.mesh.isEmpty := List.mem_filter.2 ⟨hg, by simp [hfull]⟩
    exact meshBytes_ne_nil (Bool.eq_false_iff.2 hfull) (hnil g hkept)
  · intro hempty g hg
    obtain ⟨hmem, hfull⟩ := List.mem_filter.1 hg
    simp [hempty g hmem] at hfull

/-- Without a mesh there is nothing in a scene. -/
theorem ofGenerated_eq_empty {gs : List Generated} (h : ∀ g ∈ gs, g.mesh.isEmpty = true) :
    Scene.ofGenerated gs = {} := by
  have hnone : (gs.filter fun g => !g.mesh.isEmpty) = [] := by
    rw [List.filter_eq_nil_iff]
    intro g hg
    simp [h g hg]
  rw [Scene.ofGenerated_eq_foldl, hnone]
  rfl

/-! ## Members of a document -/

theorem lookup_member (name key : String) (value : Json) (rest : List (String × Json)) :
    ((name, value) :: rest).lookup key = if key = name then some value else rest.lookup key := by
  by_cases h : key = name
  · simp [h]
  · simp [List.lookup_cons, h, beq_eq_false_iff_ne.2 h]

/-- Looking up a member whose list is left out when it is empty. -/
theorem lookup_listMember (name key : String) (items : List Json) (rest : List (String × Json)) :
    (listMember name items ++ rest).lookup key =
      if key = name ∧ items ≠ [] then some (.list items) else rest.lookup key := by
  unfold listMember
  cases items with
  | nil => simp
  | cons item more => simp [lookup_member]

/-- The document of a scene with a blob has one buffer, which is as long as the blob. -/
theorem get?_buffers {s : Scene} (h : s.blob ≠ []) :
    s.toJson.get? "buffers" = some (.list [.object [("byteLength", .nat s.blob.length)]]) := by
  have hbuffer : s.bufferJson = [.object [("byteLength", .nat s.blob.length)]] := by
    rw [Scene.bufferJson, if_neg (by simpa using h)]
  simp only [Scene.toJson, Json.get?, List.append_assoc, List.cons_append, List.nil_append,
    lookup_listMember, lookup_member, hbuffer]
  simp

/-! ## Files of scenes -/

/-- The kinds of the chunks of a file have four letters. -/
theorem length_kind_of_mem_chunksOf {document : String} {blob : List UInt8} {c : Chunk}
    (h : c ∈ chunksOf document blob) : c.kind.length = 4 := by
  unfold chunksOf at h
  split at h <;> simp only [List.mem_cons, List.not_mem_nil, or_false] at h
  · rw [h]
    rfl
  · rcases h with rfl | rfl <;> rfl

/-- The chunks of a file are whole words. -/
theorem length_mod_of_mem_chunksOf {document : String} {blob : List UInt8} {c : Chunk}
    (h : c ∈ chunksOf document blob) : c.bytes.length % 4 = 0 := by
  unfold chunksOf at h
  split at h <;> simp only [List.mem_cons, List.not_mem_nil, or_false] at h
  · rw [h]
    exact length_padded_mod _ _
  · rcases h with rfl | rfl <;> exact length_padded_mod _ _

theorem encodeFile_eq_ok_iff {document : String} {blob bytes : List UInt8} :
    encodeFile document blob = .ok bytes ↔
      bytes = Container.encode (chunksOf document blob) ∧ bytes.length < 2 ^ 32 := by
  have hword : lengthLimit = 2 ^ 32 := by decide
  rw [encodeFile]
  by_cases hlimit : lengthLimit ≤ (Container.encode (chunksOf document blob)).length
  · rw [if_pos hlimit]
    simp only [reduceCtorEq, false_iff, not_and]
    rintro rfl
    omega
  · rw [if_neg hlimit, Except.ok.injEq]
    constructor
    · rintro rfl
      exact ⟨rfl, by omega⟩
    · exact fun h => h.1.symm

/-- Pillars have a file if their scene has a document and the length of the file fits into a
word. -/
theorem encode_eq_ok_iff {gs : List Generated} {bytes : List UInt8} :
    encode gs = .ok bytes ↔ ∃ text, (Scene.ofGenerated gs).documentText = .ok text ∧
      bytes = Container.encode (chunksOf text (Scene.ofGenerated gs).blob) ∧
      bytes.length < 2 ^ 32 := by
  rw [encode, Scene.encode, except_bind_eq_ok_iff]
  simp only [mapError_eq_ok_iff, encodeFile_eq_ok_iff]

/-- The file of some pillars is a container that is read back: the header has the length of the file,
every chunk is made of whole words, and the chunks fill the file.  The first chunk is the text of the
document with at most three spaces behind it.  If some pillar has a mesh, there is one more chunk,
which begins with the blob, and the document gives the length of the blob as that of its one buffer.
If no pillar has a mesh, there is no other chunk, and the document names no buffers, views, accessors,
meshes or nodes. -/
theorem encode_reads_back {gs : List Generated} {bytes : List UInt8}
    (hencode : encode gs = .ok bytes) :
    let scene := Scene.ofGenerated gs
    ∃ container text,
      Container.decode? bytes = some container ∧
      scene.documentText = .ok text ∧ text = scene.toJson.compactText ∧
      container.version = 2 ∧
      container.length = bytes.length ∧
      12 + (container.chunks.map fun c => 8 + c.bytes.length).sum = bytes.length ∧
      (∀ c ∈ container.chunks, c.bytes.length % 4 = 0) ∧
      (∃ spaces ≤ 3, container.chunks.head? =
        some ⟨documentKind, Text.Utf8.encode text ++ List.replicate spaces 0x20⟩) ∧
      ((∃ g ∈ gs, g.mesh.isEmpty = false) →
        (∃ zeros ≤ 3, container.chunks.tail =
          [⟨blobKind, scene.blob ++ List.replicate zeros 0⟩]) ∧
        scene.toJson.get? "buffers" =
          some (.list [.object [("byteLength", .nat scene.blob.length)]])) ∧
      ((∀ g ∈ gs, g.mesh.isEmpty = true) →
        container.chunks.tail = [] ∧
        ∀ name ∈ ["buffers", "bufferViews", "accessors", "meshes", "nodes"],
          scene.toJson.get? name = none) := by
  intro scene
  obtain ⟨text, htext, rfl, hsize⟩ := encode_eq_ok_iff.1 hencode
  have hkinds : ∀ c ∈ chunksOf text scene.blob, c.kind.length = 4 :=
    fun _ => length_kind_of_mem_chunksOf
  have hwritable := Container.isWritable_of_length_lt hkinds hsize
  have hfiller (filled : List UInt8) : (4 - filled.length % 4) % 4 ≤ 3 := by omega
  refine ⟨_, text, Container.decode?_encode hkinds hsize, htext, ?_, rfl, rfl, ?_,
    fun _ => length_mod_of_mem_chunksOf, ⟨_, hfiller _, rfl⟩, ?_, ?_⟩
  · rw [Scene.documentText] at htext
    split at htext
    · exact (Except.ok.inj htext).symm
    · cases htext
  · rw [Container.length_encode, Chunk.length_flatMap_encode hwritable]
  · rintro ⟨g, hg, hfull⟩
    have hblob : scene.blob ≠ [] := by
      intro hnil
      rw [(blob_ofGenerated_eq_nil_iff gs).1 hnil g hg] at hfull
      cases hfull
    refine ⟨⟨_, hfiller scene.blob, ?_⟩, get?_buffers hblob⟩
    show (if scene.blob.isEmpty then [] else [_]) = _
    rw [if_neg (by simpa using hblob)]
    rfl
  · intro hempty
    have hscene : Scene.ofGenerated gs = {} := ofGenerated_eq_empty hempty
    simp only [scene, hscene]
    exact ⟨rfl, by decide⟩

/-- A triangle as a mesh. -/
def flatTriangle : Mesh where
  positions := #[⟨0.0, 0.0, 0.0⟩, ⟨1.0, 0.0, 0.0⟩, ⟨0.0, 0.0, 1.0⟩]
  normals := #[⟨0.0, -1.0, 0.0⟩, ⟨0.0, -1.0, 0.0⟩, ⟨0.0, -1.0, 0.0⟩]
  uvs := #[⟨0.0, 0.0⟩, ⟨1.0, 0.0⟩, ⟨0.0, 1.0⟩]
  triangles := [⟨0, 1, 2⟩]

/-- Reading back the file of a triangle between two pillars without a mesh. -/
theorem encode_reads_back_triangle :
    let gs : List Generated :=
      [⟨Scene.walkless, .empty⟩, ⟨Scene.threeSided, flatTriangle⟩, ⟨Scene.walkless, .empty⟩]
    ∃ bytes container, encode gs = .ok bytes ∧
      Container.decode? bytes = some container ∧ container.length = bytes.length ∧
      ∃ zeros ≤ 3, container.chunks.tail =
        [⟨blobKind, (Scene.ofGenerated gs).blob ++ List.replicate zeros 0⟩] := by
  intro gs
  have hfile : (encode gs).isOk = true := by decide +kernel
  obtain ⟨bytes, hencode⟩ : ∃ bytes, encode gs = .ok bytes := by
    cases h : encode gs with
    | error _ =>
      rw [h] at hfile
      cases hfile
    | ok bytes => exact ⟨bytes, rfl⟩
  obtain ⟨container, _, hread, _, _, _, hstated, _, _, _, hmesh, _⟩ := encode_reads_back hencode
  have hfull : ∃ g ∈ gs, g.mesh.isEmpty = false :=
    ⟨⟨Scene.threeSided, flatTriangle⟩, by simp [gs], by decide⟩
  exact ⟨bytes, container, hencode, hread, hstated, (hmesh hfull).1⟩

end Gltf

end Colonnade
