import Colonnade.Gltf.Scene
import Colonnade.Proofs.Spec.Generation

/-!
# Reading a scene back

A reader of a scene starts from a mesh entry, follows its numbers to accessors, these to views, and
cuts the bytes of a view out of the blob.  `Scene.read?` is this reader, and it is strict: it gives
nothing if a number leads nowhere, if the blob ends too early, or if the bytes are not exactly as
many as the elements need.

* Adding to a scene only appends (`Scene.Extends`), and what was read before is read after:
  `Scene.Extends.read?`.
* An array that was just added is read: `Scene.read?_addColumn`.
* So the arrays of one pillar are read when it has been added (`Scene.holds_addPillar`), and they
  still are at the end (`Scene.exists_holds`).

Nothing has to be known about offsets and numbers except that each is a length at the time of
adding.
-/

namespace Colonnade

/-! ## Narrowed floats -/

/-- The bits of a binary32 number are a word. -/
theorem Number.singleBits_lt (x : Float) : singleBits x < 2 ^ 32 := by
  have hsign (negative : Bool) : (if negative then twoTo 31 else 0) ≤ 2 ^ 31 := by
    cases negative <;> decide
  have hinfinity : binary32.infinity < 2 ^ 31 := by decide
  unfold singleBits
  split
  · decide
  · rename_i negative _
    have := hsign negative
    omega
  · rename_i negative mantissa exponent _
    have := hsign negative
    have := binary32.nearest_le_infinity (fraction mantissa exponent).1
      (fraction mantissa exponent).2
    simp only
    omega

namespace Gltf

/-- The bits of the binary32 numbers nearest to the coordinates of a vector. -/
def vectorBits (v : Vec3) : List Nat :=
  [Number.singleBits v.x, Number.singleBits v.y, Number.singleBits v.z]

/-- The bits of the binary32 numbers nearest to a texture coordinate. -/
def uvBits (t : Uv) : List Nat := [Number.singleBits t.u, Number.singleBits t.v]

theorem toNat_single (x : Float) : (single x).toNat = Number.singleBits x :=
  UInt32.toNat_ofNat_of_lt (Number.singleBits_lt x)

theorem map_toNat_vectorWords (vs : List Vec3) :
    (vs.flatMap vectorWords).map UInt32.toNat = vs.flatMap vectorBits := by
  have hrow (v : Vec3) : (vectorWords v).map UInt32.toNat = vectorBits v := by
    simp only [vectorWords, vectorBits, List.map_cons, List.map_nil, toNat_single]
  rw [List.map_flatMap, funext hrow]

theorem map_toNat_uvWords (ts : List Uv) :
    (ts.flatMap uvWords).map UInt32.toNat = ts.flatMap uvBits := by
  have hrow (t : Uv) : (uvWords t).map UInt32.toNat = uvBits t := by
    simp only [uvWords, uvBits, List.map_cons, List.map_nil, toNat_single]
  rw [List.map_flatMap, funext hrow]

/-! ## The reader -/

/-- The bytes of a view, if the blob has all of them. -/
def View.slice? (v : View) (blob : List UInt8) : Option (List UInt8) :=
  if v.offset + v.length ≤ blob.length then some ((blob.drop v.offset).take v.length) else none

/-- An array that was read: what its elements are, how many there are, and their words in a row. -/
structure Rows where
  element : Element
  count : Nat
  words : List UInt32
  deriving DecidableEq, Repr

/-- The array of the accessor with a given number. -/
def Scene.read? (s : Scene) (number : Nat) : Option Rows := do
  let accessor ← s.accessors[number]?
  let view ← s.views[accessor.view]?
  let bytes ← view.slice? s.blob
  if bytes.length = 4 * (accessor.count * accessor.element.width) then
    some ⟨accessor.element, accessor.count, Bytes.decodeWords bytes⟩
  else none

/-- An array to be added, as it is to be read. -/
def Column.rows (c : Column) : Rows := ⟨c.element, c.count, c.words⟩

/-- An array has as many words as its elements need. -/
def Column.IsWhole (c : Column) : Prop :=
  c.words.length = c.count * c.element.width

/-- The four arrays of a mesh have as many words as their elements need. -/
theorem isWhole_of_mem_columns {m : Mesh} {c : Column} (h : c ∈ columns m) : c.IsWhole := by
  simp only [columns, List.mem_cons, List.not_mem_nil, or_false] at h
  rcases h with rfl | rfl | rfl | rfl
  · simp [Column.IsWhole, vectorWords, Element.width]
  · simp [Column.IsWhole, vectorWords, Element.width]
  · simp [Column.IsWhole, uvWords, Element.width]
  · simp [Column.IsWhole, triangleWords, Triangle.corners, Element.width, Mesh.triangleCount,
      Nat.mul_comm]

/-- A view still has its bytes when the blob goes on. -/
theorem View.slice?_append {v : View} {blob bytes : List UInt8} (h : v.slice? blob = some bytes)
    (more : List UInt8) : v.slice? (blob ++ more) = some bytes := by
  unfold slice? at h ⊢
  split at h
  · rename_i hroom
    have hdrop : v.offset ≤ blob.length := by omega
    have htake : v.length ≤ (blob.drop v.offset).length := by
      rw [List.length_drop]
      omega
    rw [if_pos (by rw [List.length_append]; omega), List.drop_append_of_le_length hdrop,
      List.take_append_of_le_length htake]
    exact h
  · cases h

/-- A view of what follows a blob has exactly that. -/
theorem View.slice?_end (blob bytes : List UInt8) (target : Target) :
    (⟨blob.length, bytes.length, target⟩ : View).slice? (blob ++ bytes) = some bytes := by
  unfold slice?
  rw [if_pos (by rw [List.length_append]), List.drop_left, List.take_length]

namespace Scene

/-! ## Scenes only grow -/

/-- A scene has everything that another one has, at the same places. -/
structure Extends (s t : Scene) : Prop where
  accessors : s.accessors <+: t.accessors
  views : s.views <+: t.views
  meshes : s.meshes <+: t.meshes
  blob : s.blob <+: t.blob

theorem Extends.refl (s : Scene) : s.Extends s :=
  ⟨List.prefix_rfl, List.prefix_rfl, List.prefix_rfl, List.prefix_rfl⟩

theorem Extends.trans {s t u : Scene} (h : s.Extends t) (k : t.Extends u) : s.Extends u :=
  ⟨h.accessors.trans k.accessors, h.views.trans k.views, h.meshes.trans k.meshes,
    h.blob.trans k.blob⟩

private theorem getElem?_of_isPrefix {α : Type} {as bs : List α} (h : as <+: bs) {i : Nat} {a : α}
    (ha : as[i]? = some a) : bs[i]? = some a := by
  obtain ⟨hi, rfl⟩ := List.getElem?_eq_some_iff.1 ha
  exact List.prefix_iff_getElem?.1 h i hi

/-- What is read from a scene is read from every scene that extends it. -/
theorem Extends.read? {s t : Scene} (h : s.Extends t) {number : Nat} {rows : Rows}
    (hread : s.read? number = some rows) : t.read? number = some rows := by
  simp only [Scene.read?, Option.bind_eq_bind, Option.bind_eq_some_iff] at hread ⊢
  obtain ⟨accessor, haccessor, view, hview, bytes, hbytes, hrows⟩ := hread
  obtain ⟨more, hmore⟩ := h.blob
  refine ⟨accessor, getElem?_of_isPrefix h.accessors haccessor, view,
    getElem?_of_isPrefix h.views hview, bytes, ?_, hrows⟩
  rw [← hmore]
  exact View.slice?_append hbytes more

theorem Extends.meshes_getElem? {s t : Scene} (h : s.Extends t) {i : Nat} {entry : MeshEntry}
    (hentry : s.meshes[i]? = some entry) : t.meshes[i]? = some entry :=
  getElem?_of_isPrefix h.meshes hentry

theorem extends_addColumn (s : Scene) (c : Column) : s.Extends (s.addColumn c) :=
  ⟨List.prefix_append _ _, List.prefix_append _ _, List.prefix_rfl, List.prefix_append _ _⟩

theorem extends_foldl_addColumn (s : Scene) (cs : List Column) :
    s.Extends (cs.foldl addColumn s) := by
  induction cs generalizing s with
  | nil => exact .refl s
  | cons c rest ih => exact (extends_addColumn s c).trans (ih (s.addColumn c))

/-- The entry that a pillar gets when it is added to a scene. -/
def entryFor (s : Scene) (g : Generated) : MeshEntry :=
  let first := s.accessors.length
  ⟨g.pillar.displayName, g.pillar.label, first, first + 1, first + 2, first + 3⟩

/-- A scene with the entry and the node of one more pillar, but without its arrays. -/
def withEntry (s : Scene) (g : Generated) : Scene :=
  { s with
    meshes := s.meshes ++ [s.entryFor g]
    nodes := s.nodes ++ [⟨s.meshes.length, g.pillar.displayName, g.pillar.offset?⟩]
    nodeNumbers := s.nodeNumbers ++ [s.nodes.length] }

/-- A pillar is added in two steps: its entry and then its arrays. -/
theorem addPillar_eq_foldl (s : Scene) (g : Generated) :
    s.addPillar g = (columns g.mesh).foldl addColumn (s.withEntry g) := rfl

theorem extends_withEntry (s : Scene) (g : Generated) : s.Extends (s.withEntry g) :=
  ⟨List.prefix_rfl, List.prefix_rfl, List.prefix_append _ _, List.prefix_rfl⟩

theorem extends_addPillar (s : Scene) (g : Generated) : s.Extends (s.addPillar g) := by
  rw [addPillar_eq_foldl]
  exact (extends_withEntry s g).trans (extends_foldl_addColumn _ _)

theorem length_meshes_addPillar (s : Scene) (g : Generated) :
    (s.addPillar g).meshes.length = s.meshes.length + 1 := by
  have hcolumns (t : Scene) (cs : List Column) : (cs.foldl addColumn t).meshes = t.meshes := by
    induction cs generalizing t with
    | nil => rfl
    | cons c rest ih => exact ih (t.addColumn c)
  rw [addPillar_eq_foldl, hcolumns]
  exact List.length_append

theorem extends_foldl_addPillar (s : Scene) (gs : List Generated) :
    s.Extends (gs.foldl addPillar s) := by
  induction gs generalizing s with
  | nil => exact .refl s
  | cons g rest ih => exact (extends_addPillar s g).trans (ih (s.addPillar g))

/-! ## What was just added is read -/

/-- An array that was just added is read. -/
theorem read?_addColumn (s : Scene) {c : Column} (h : c.IsWhole) :
    (s.addColumn c).read? s.accessors.length = some c.rows := by
  have haccessor : (s.addColumn c).accessors[s.accessors.length]? =
      some ⟨s.views.length, c.element, c.count, c.bounds⟩ := List.getElem?_concat_length ..
  have hview : (s.addColumn c).views[s.views.length]? =
      some ⟨s.blob.length, (Bytes.encodeWords c.words).length, c.target⟩ :=
    List.getElem?_concat_length ..
  have hslice := View.slice?_end s.blob (Bytes.encodeWords c.words) c.target
  have hlength : (Bytes.encodeWords c.words).length = 4 * (c.count * c.element.width) := by
    rw [Bytes.length_encodeWords, h]
  rw [Scene.read?, haccessor]
  show ((s.addColumn c).views[s.views.length]?.bind _) = _
  rw [hview]
  show ((View.slice? _ (s.blob ++ _)).bind _) = _
  rw [hslice]
  show (if _ then _ else _) = _
  rw [if_pos hlength, Bytes.decodeWords_encodeWords]
  rfl

/-- Of several arrays that were added one after the other, each is read under its number. -/
theorem read?_foldl_addColumn (s : Scene) {cs : List Column} (h : ∀ c ∈ cs, c.IsWhole) {k : Nat}
    {c : Column} (hc : cs[k]? = some c) :
    (cs.foldl addColumn s).read? (s.accessors.length + k) = some c.rows := by
  induction cs generalizing s k with
  | nil => cases hc
  | cons first rest ih =>
    cases k with
    | zero =>
      obtain rfl : first = c := Option.some.inj hc
      exact (extends_foldl_addColumn _ rest).read? (read?_addColumn s (h first List.mem_cons_self))
    | succ k =>
      have hrest := ih (s.addColumn first) (fun c hmem => h c (List.mem_cons_of_mem first hmem)) hc
      have hnumber : (s.addColumn first).accessors.length + k = s.accessors.length + (k + 1) := by
        rw [addColumn, List.length_append, List.length_singleton]
        omega
      rw [hnumber] at hrest
      exact hrest

/-- A scene holds a mesh under an entry if the numbers of the entry lead to the arrays of the
mesh. -/
structure Holds (s : Scene) (entry : MeshEntry) (m : Mesh) : Prop where
  positions : s.read? entry.positions =
    some ⟨.vector3, m.positions.size, m.positions.toList.flatMap vectorWords⟩
  normals : s.read? entry.normals =
    some ⟨.vector3, m.normals.size, m.normals.toList.flatMap vectorWords⟩
  uvs : s.read? entry.uvs = some ⟨.vector2, m.uvs.size, m.uvs.toList.flatMap uvWords⟩
  corners : s.read? entry.corners =
    some ⟨.corner, m.indices.length, m.indices.map UInt32.ofNat⟩

theorem Holds.extend {s t : Scene} {entry : MeshEntry} {m : Mesh} (h : s.Holds entry m)
    (hst : s.Extends t) : t.Holds entry m :=
  ⟨hst.read? h.positions, hst.read? h.normals, hst.read? h.uvs, hst.read? h.corners⟩

/-- A pillar that was just added has the last entry, and the scene holds its mesh under it. -/
theorem holds_addPillar (s : Scene) (g : Generated) :
    (s.addPillar g).meshes[s.meshes.length]? = some (s.entryFor g) ∧
      (s.addPillar g).Holds (s.entryFor g) g.mesh := by
  have hentry : (s.withEntry g).meshes[s.meshes.length]? = some (s.entryFor g) :=
    List.getElem?_concat_length ..
  have hread (k : Nat) (hk : k < 4) : ((columns g.mesh).foldl addColumn (s.withEntry g)).read?
      (s.accessors.length + k) = some (columns g.mesh)[k].rows :=
    read?_foldl_addColumn (s.withEntry g) (fun _ => isWhole_of_mem_columns)
      (List.getElem?_eq_getElem hk)
  have hcorners : g.mesh.triangles.flatMap triangleWords = g.mesh.indices.map UInt32.ofNat :=
    List.map_flatMap.symm
  rw [addPillar_eq_foldl]
  refine ⟨(extends_foldl_addColumn _ _).meshes_getElem? hentry, ?_⟩
  refine ⟨hread 0 (by decide), hread 1 (by decide), hread 2 (by decide), ?_⟩
  rw [← hcorners, g.mesh.length_indices]
  exact hread 3 (by decide)

/-- The pillars that are added to a scene get entries one after the other, and at the end the scene
holds all of their meshes. -/
theorem exists_holds (s : Scene) {gs : List Generated} {i : Nat} {g : Generated}
    (hg : gs[i]? = some g) :
    ∃ entry, (gs.foldl addPillar s).meshes[s.meshes.length + i]? = some entry ∧
      (gs.foldl addPillar s).Holds entry g.mesh := by
  induction gs generalizing s i with
  | nil => cases hg
  | cons first rest ih =>
    have hlater := extends_foldl_addPillar (s.addPillar first) rest
    cases i with
    | zero =>
      obtain rfl : first = g := Option.some.inj hg
      obtain ⟨hentry, hholds⟩ := holds_addPillar s first
      exact ⟨s.entryFor first, hlater.meshes_getElem? hentry, hholds.extend hlater⟩
    | succ i =>
      have hrest := ih (s.addPillar first) hg
      rw [length_meshes_addPillar, Nat.add_right_comm] at hrest
      exact hrest

/-! ## The scene of a generation -/

theorem length_meshes_foldl_addPillar (s : Scene) (gs : List Generated) :
    (gs.foldl addPillar s).meshes.length = s.meshes.length + gs.length := by
  induction gs generalizing s with
  | nil => rfl
  | cons g rest ih =>
    rw [List.foldl_cons, ih, length_meshes_addPillar, List.length_cons]
    omega

/-- The scene of some pillars adds those that have a mesh. -/
theorem ofGenerated_eq_foldl (gs : List Generated) :
    ofGenerated gs = (gs.filter fun g => !g.mesh.isEmpty).foldl addPillar {} := by
  have hadd : add = fun s g => if !g.mesh.isEmpty then addPillar s g else s := by
    funext s g
    rw [add]
    cases g.mesh.isEmpty <;> rfl
  rw [List.foldl_filter, ofGenerated, hadd]

/-- The corners of a mesh can be told from words, as long as there are no more vertices than
words. -/
theorem map_toNat_corners {m : Mesh} (h : m.IsSound) (hcount : m.vertexCount ≤ 2 ^ 32) :
    (m.indices.map UInt32.ofNat).map UInt32.toNat = m.indices := by
  have hcorner : ∀ c ∈ m.indices, (UInt32.toNat ∘ UInt32.ofNat) c = id c := by
    intro c hc
    have hlt : c < m.vertexCount := h.corner_lt c hc
    exact UInt32.toNat_ofNat_of_lt (Nat.lt_of_lt_of_le hlt hcount)
  rw [List.map_map, List.map_congr_left hcorner, List.map_id]

/-- Every mesh of a generation can be read back from the scene.  There is one entry for each pillar
whose mesh is not empty, in order.  From the entry, the numbers lead over accessors and views to the
binary32 bits of all positions, normals and texture coordinates, row by row, and to the corners of
all triangles, as words; no corner that is read is beyond the positions. -/
theorem generate_read_back {s : Spec} {p : Policy} {gs : List Generated}
    (hrun : (s.generate.run p).result = .ok gs) :
    let scene := ofGenerated gs
    let kept := gs.filter fun g => !g.mesh.isEmpty
    scene.meshes.length = kept.length ∧
      ∀ (i : Nat) (g : Generated), kept[i]? = some g →
        ∃ entry positions normals uvs corners,
          scene.meshes[i]? = some entry ∧
          scene.read? entry.positions = some ⟨.vector3, g.mesh.positions.size, positions⟩ ∧
          scene.read? entry.normals = some ⟨.vector3, g.mesh.normals.size, normals⟩ ∧
          scene.read? entry.uvs = some ⟨.vector2, g.mesh.uvs.size, uvs⟩ ∧
          scene.read? entry.corners = some ⟨.corner, g.mesh.indices.length, corners⟩ ∧
          positions.map UInt32.toNat = g.mesh.positions.toList.flatMap vectorBits ∧
          normals.map UInt32.toNat = g.mesh.normals.toList.flatMap vectorBits ∧
          uvs.map UInt32.toNat = g.mesh.uvs.toList.flatMap uvBits ∧
          corners = g.mesh.indices.map UInt32.ofNat ∧
          (g.mesh.vertexCount ≤ 2 ^ 32 → corners.map UInt32.toNat = g.mesh.indices) ∧
          ∀ c ∈ corners, c.toNat < g.mesh.positions.size := by
  intro scene kept
  have hscene : scene = kept.foldl addPillar {} := ofGenerated_eq_foldl gs
  rw [hscene]
  constructor
  · rw [length_meshes_foldl_addPillar]
    exact Nat.zero_add _
  · intro i g hg
    have hmem : g ∈ gs := List.mem_of_mem_filter (List.mem_of_getElem? hg)
    have hsound := Spec.isSound_of_generate hrun hmem
    obtain ⟨entry, hentry, hholds⟩ := exists_holds {} hg
    rw [show ({} : Scene).meshes.length + i = i from Nat.zero_add i] at hentry
    refine ⟨entry, _, _, _, _, hentry, hholds.positions, hholds.normals, hholds.uvs,
      hholds.corners, map_toNat_vectorWords _, map_toNat_vectorWords _, map_toNat_uvWords _, rfl,
      map_toNat_corners hsound, ?_⟩
    -- A corner may lose its upper bits as a word, but only becomes less by that.
    intro word hword
    obtain ⟨c, hc, rfl⟩ := List.mem_map.1 hword
    have hlt : c < g.mesh.positions.size := hsound.corner_lt c hc
    rw [UInt32.toNat_ofNat']
    exact Nat.lt_of_le_of_lt (Nat.mod_le c _) hlt

/-- A pillar whose string has no steps, so that it has no mesh. -/
def walkless : Pillar :=
  { label := "lsystem", id := "a", seed := some "", rules := some [], iterations := some 0
    angle := some 90.0, segmentLength := some 1.0, thickness := some 0.1 }

/-- A column of three sides. -/
def threeSided : Pillar :=
  { label := "fluted", id := "b", radius := some 1.0, segments := some 3, flutes := some 0
    fluteDepth := some 0.0 }

/-- A generation of both pillars gives a mesh for the column only. -/
theorem generate_walkless_threeSided :
    ∃ m, (Spec.generate { version := "0.2", pillars := [walkless, threeSided] }
        |>.run .permissive).result = .ok [⟨walkless, .empty⟩, ⟨threeSided, m⟩] ∧
      m.isEmpty = false ∧
      m.indices = [0, 4, 1, 1, 4, 5, 1, 5, 2, 2, 5, 6, 2, 6, 3, 3, 6, 7] := by
  obtain ⟨m, hcolumn, hfull, hindices⟩ :
      ∃ m, (threeSided.generate.run .permissive).result = .ok m ∧ m.isEmpty = false ∧
        m.indices = [0, 4, 1, 1, 4, 5, 1, 5, 2, 2, 5, 6, 2, 6, 3, 3, 6, 7] :=
    ⟨_, by rfl, by rfl, by rfl⟩
  have hwalkless : (walkless.generate.run .permissive).result = .ok .empty := by rfl
  refine ⟨m, ?_, hfull, hindices⟩
  rw [Spec.generate, Report.traverse, Report.result_bind_eq_ok_iff]
  refine ⟨_, Report.result_bind_eq_ok_iff.2 ⟨_, hwalkless, rfl⟩, ?_⟩
  refine Report.result_bind_eq_ok_iff.2 ⟨[⟨threeSided, m⟩], ?_, rfl⟩
  exact Report.result_bind_eq_ok_iff.2
    ⟨_, Report.result_bind_eq_ok_iff.2 ⟨_, hcolumn, rfl⟩, rfl⟩

theorem filter_walkless_threeSided {m : Mesh} (h : m.isEmpty = false) :
    ([⟨walkless, .empty⟩, ⟨threeSided, m⟩] : List Generated).filter
      (fun g => !g.mesh.isEmpty) = [⟨threeSided, m⟩] := by
  rw [List.filter_cons_of_neg (by decide), List.filter_cons_of_pos (by rw [h]; rfl),
    List.filter_nil]

/-- Reading back a column after a pillar without a mesh: the column has the first entry. -/
theorem generate_read_back_column :
    ∃ gs, (Spec.generate { version := "0.2", pillars := [walkless, threeSided] }
        |>.run .permissive).result = .ok gs ∧
      (ofGenerated gs).meshes.length = 1 ∧
      ∃ entry, (ofGenerated gs).meshes[0]? = some entry ∧
        (ofGenerated gs).read? entry.corners =
          some ⟨.corner, 18, [0, 4, 1, 1, 4, 5, 1, 5, 2, 2, 5, 6, 2, 6, 3, 3, 6, 7]⟩ := by
  obtain ⟨m, hrun, hfull, hindices⟩ := generate_walkless_threeSided
  obtain ⟨hlength, hread⟩ := generate_read_back hrun
  rw [filter_walkless_threeSided hfull] at hlength hread
  obtain ⟨entry, _, _, _, corners, hentry, _, _, _, hcorners, _, _, _, hwords, _⟩ :=
    hread 0 ⟨threeSided, m⟩ rfl
  rw [hwords, hindices] at hcorners
  exact ⟨_, hrun, hlength, entry, hentry, hcorners⟩

end Scene

end Gltf

end Colonnade
