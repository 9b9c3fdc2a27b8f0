import PlanarMesh.Proofs.Edit.Growth
import PlanarMesh.Proofs.Edit.Rollback
import PlanarMesh.Proofs.Incidence

/-!
# Adding triangles between nodes

A side of the new triangle is a half-edge that is there already, or else a new edge (`Sided`).
The triangle is added if every missing side can be added and the sides then fit; what the edit
is refused for is that a side is missing and cannot be added (`Unsided`), or that the sides do
not fit, and the error says why (`Unfit`).  Taking back the edges that were added restores the
mesh as it was, up to the order of free half-edges if the sides could not be joined.  That
question only arises between live nodes.
-/

namespace PlanarMesh

namespace Mesh

/-- `h` leads from one node to the other in `m'`: it is what a search finds in `m`, or it is
new. -/
inductive Sided (m : Mesh) (n₁ n₂ : NodeId) (h : HalfedgeId) : Mesh → Prop
  | present (found : m.findHalfedge n₁ n₂ = .ok (some h)) (leads : m.Leads h n₁ n₂) :
      Sided m n₁ n₂ h m
  | new {e : EdgeId} {m' : Mesh} (missing : ∀ g, ¬ m.Leads g n₁ n₂)
      (able : m.Connectable n₁ n₂) (first : h = e.first) (added : m.AddedEdge n₁ n₂ e m') :
      Sided m n₁ n₂ h m'

/-- No half-edge leads from one node to the other, and none can be added. -/
structure Unsided (m : Mesh) (n₁ n₂ : NodeId) (error : MeshError) : Prop where
  missing : ∀ g, ¬ m.Leads g n₁ n₂
  unable : m.Unconnectable n₁ n₂ error

/-- `m₃` is `m` with the edges that were missing between three nodes. -/
structure Outlined (m : Mesh) (a b c : NodeId) (h₁ h₂ h₃ : HalfedgeId) (m₁ m₂ m₃ : Mesh) :
    Prop where
  side₁ : m.Sided a b h₁ m₁
  side₂ : m₁.Sided b c h₂ m₂
  side₃ : m₂.Sided c a h₃ m₃

/-- No triangle can be added between three nodes: a side is missing and cannot be added, or the
sides do not fit. -/
inductive Unfit (m : Mesh) (a b c : NodeId) (error : MeshError) : Prop
  | side₁ (unsided : m.Unsided a b error)
  | side₂ {h₁ : HalfedgeId} {m₁ : Mesh} (side₁ : m.Sided a b h₁ m₁)
      (unsided : m₁.Unsided b c error)
  | side₃ {h₁ h₂ : HalfedgeId} {m₁ m₂ : Mesh} (side₁ : m.Sided a b h₁ m₁)
      (side₂ : m₁.Sided b c h₂ m₂) (unsided : m₂.Unsided c a error)
  | face {h₁ h₂ h₃ : HalfedgeId} {m₁ m₂ m₃ : Mesh}
      (outlined : m.Outlined a b c h₁ h₂ h₃ m₁ m₂ m₃) (misfit : m₃.Misfit h₁ h₂ h₃ error)

namespace Sided

variable {m m' : Mesh} {n₁ n₂ : NodeId} {h : HalfedgeId} (sided : m.Sided n₁ n₂ h m')

include sided

theorem sound (sound : m.Sound) : m'.Sound := by
  cases sided with
  | present => exact sound
  | new _ _ _ added => exact added.sound

theorem grown (sound : m.Sound) : m.Grown m' := by
  cases sided with
  | present => exact .refl m
  | new _ _ _ added => exact added.grown sound

theorem faces : m'.faces = m.faces := by
  cases sided with
  | present => rfl
  | new _ _ _ added => exact added.faces

theorem containsNode (n : NodeId) : m'.containsNode n = m.containsNode n := by
  cases sided with
  | present => rfl
  | new _ _ _ added => rw [Mesh.containsNode, added.node?, Option.isSome_map, Mesh.containsNode]

theorem live (sound : m.Sound) : m.containsNode n₁ = true ∧ m.containsNode n₂ = true := by
  cases sided with
  | present _ leads =>
    exact ⟨sound.origin_live h n₁ leads.start, sound.origin_live h.pair n₂ leads.finish⟩
  | new _ able => exact ⟨able.live₁, able.live₂⟩

end Sided

namespace Outlined

variable {m m₁ m₂ m₃ : Mesh} {a b c : NodeId} {h₁ h₂ h₃ : HalfedgeId}
  (outlined : m.Outlined a b c h₁ h₂ h₃ m₁ m₂ m₃)

include outlined

theorem sound (sound : m.Sound) : m₃.Sound :=
  outlined.side₃.sound (outlined.side₂.sound (outlined.side₁.sound sound))

theorem grown (sound : m.Sound) : m.Grown m₃ := by
  have sound₁ := outlined.side₁.sound sound
  have grown₂ := outlined.side₂.grown sound₁
  have grown₃ := outlined.side₃.grown (outlined.side₂.sound sound₁)
  exact (outlined.side₁.grown sound).trans (grown₂.trans grown₃)

theorem faces : m₃.faces = m.faces := by
  rw [outlined.side₃.faces, outlined.side₂.faces, outlined.side₁.faces]

theorem live (sound : m.Sound) : ∀ n ∈ [a, b, c], m.containsNode n = true := by
  have first := outlined.side₁.live sound
  have second := (outlined.side₂.live (outlined.side₁.sound sound)).2
  rw [outlined.side₁.containsNode] at second
  simpa using ⟨first.1, first.2, second⟩

end Outlined

end Mesh

namespace Edit

open Mesh

variable {s : Session}

theorem findOrAddEdge_ends (sound : s.mesh.Sound) {n₁ n₂ : NodeId} :
    (findOrAddEdge n₁ n₂).Ends s
      (fun side m => s.mesh.Sided n₁ n₂ side.1 m ∧ s.mesh.Extended side.2 m)
      (fun error m => s.mesh.Unsided n₁ n₂ error ∧ s.mesh.SameRecords m) := by
  unfold findOrAddEdge
  cases live : s.mesh.containsNode n₁ with
  | false =>
    rw [ends_bind_of_refused (query_of_error
      (by rw [findHalfedge, outgoing, node_of_dead live]; rfl))]
    refine ⟨⟨fun g leads => ?_, .dead₁ live⟩, .refl _⟩
    have alive := sound.origin_live g n₁ leads.start
    rw [live] at alive
    cases alive
  | true =>
    rcases sound.exists_findHalfedge live n₂ with ⟨found, answers, sides, missing⟩
    rw [ends_bind_of_ok (query_of_ok answers)]
    cases found with
    | some h => exact ⟨.present answers (sides h rfl), .refl⟩
    | none =>
      apply (addEdge_ends sound).bind
      · rintro h t ⟨able, e, rfl, added⟩
        exact ⟨.new (missing rfl) able rfl added, .edge .refl able added⟩
      · rintro error m ⟨unable, same⟩
        exact ⟨⟨missing rfl, unable⟩, same⟩

/-- If the edit after some edges were added is refused, these edges are taken back. -/
theorem undoing_ends {α : Type} {m : Mesh} {added : List EdgeId} {edit : Edit α}
    (reason : MeshError → Prop) {exact : MeshError → Prop} {returns : α → Mesh → Prop}
    (sound : m.Sound) (extended : m.Extended added s.mesh)
    (ends : edit.Ends s returns fun error m' =>
      reason error ∧ m'.Sound ∧ s.mesh.RolledBack (exact error) m') :
    (undoing added edit).Ends s returns fun error m' =>
      reason error ∧ m'.Sound ∧ m.RolledBack (exact error) m' := by
  apply ends.onRefusal
  rintro error t ⟨why, still, rolledBack⟩
  apply (removeEdges_ends sound extended rolledBack still).bind
  · exact fun _ _ undone => ⟨why, undone⟩
  · exact fun _ _ => False.elim

theorem addTriangle_ends (sound : s.mesh.Sound) {a b c : NodeId} :
    (addTriangle a b c).Ends s
      (fun f m => ∃ h₁ h₂ h₃ m₁ m₂ m₃, s.mesh.Outlined a b c h₁ h₂ h₃ m₁ m₂ m₃ ∧
        m₃.Fits h₁ h₂ h₃ ∧ m₃.AddedFace h₁ h₂ h₃ f m)
      (fun error m => s.mesh.Unfit a b c error ∧ m.Sound ∧ s.mesh.RolledBack
        ((∀ n ∈ [a, b, c], s.mesh.containsNode n = true) → error ≠ .addFace .nonManifold) m) := by
  unfold addTriangle
  apply (findOrAddEdge_ends sound).bind
  rotate_left
  · rintro error m ⟨unsided, same⟩
    exact ⟨.side₁ unsided, same.sound sound, same.rolledBack⟩
  rintro ⟨h₁, added₁⟩ t₁ ⟨side₁, extended₁⟩
  have sound₁ := side₁.sound sound
  refine (undoing_ends (s.mesh.Unfit a b c) sound extended₁
    ((findOrAddEdge_ends sound₁).mono (fun _ _ => id) ?_)).bind ?_ fun _ _ => id
  · rintro error m ⟨unsided, same⟩
    exact ⟨.side₂ side₁ unsided, same.sound sound₁, same.rolledBack⟩
  rintro ⟨h₂, added₂⟩ t₂ ⟨side₂, extended₂⟩
  have sound₂ := side₂.sound sound₁
  have both := extended₁.append extended₂
  refine (undoing_ends (s.mesh.Unfit a b c) sound both
    ((findOrAddEdge_ends sound₂).mono (fun _ _ => id) ?_)).bind ?_ fun _ _ => id
  · rintro error m ⟨unsided, same⟩
    exact ⟨.side₃ side₁ side₂ unsided, same.sound sound₂, same.rolledBack⟩
  rintro ⟨h₃, added₃⟩ t₃ ⟨side₃, extended₃⟩
  have all := both.append extended₃
  rw [← List.append_assoc] at all
  have outlined : s.mesh.Outlined a b c h₁ h₂ h₃ t₁.mesh t₂.mesh t₃.mesh := ⟨side₁, side₂, side₃⟩
  refine undoing_ends _ sound all ((addFace_ends (side₃.sound sound₂)).mono ?_ ?_)
  · rintro f m ⟨fits, added⟩
    exact ⟨h₁, h₂, h₃, t₁.mesh, t₂.mesh, t₃.mesh, outlined, fits, added⟩
  · rintro error m ⟨misfit, still, rearranged, reason⟩
    have rolledBack := rearranged.rolledBack_of_refused reason
    exact ⟨.face outlined misfit, still,
      rolledBack.mono fun other => other (outlined.live sound)⟩

end Edit

end PlanarMesh
