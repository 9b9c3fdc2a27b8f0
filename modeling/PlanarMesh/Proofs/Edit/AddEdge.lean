import PlanarMesh.Proofs.Edit.Docking

/-!
# Adding edges

Between nodes that are connectable an edge is added, and otherwise it is refused.  An edge that is
refused leaves all records as they were: a side that cannot be attached takes back what was done
before it.
-/

namespace PlanarMesh

namespace Mesh

section TakeBack

variable {m m₂ : Mesh} {n : NodeId} {e : EdgeId}

theorem sameRecords_withoutEdge (n₁ n₂ : NodeId) (key : e = m.edges.nextKey) {m' : Mesh}
    (node? : ∀ n, m'.node? n = m.node? n) (faces : m'.faces = m.faces)
    (halfedge? : ∀ h : HalfedgeId, h.edge ≠ e →
      m'.halfedge? h = (m.withEdge n₁ n₂).halfedge? h) : m.SameRecords (m'.withoutEdge e) where
  node? := node?
  face? f := by
    rw [face?, face?, ← faces]
    rfl
  halfedge? h := by
    rw [halfedge?_withoutEdge]
    by_cases new : h.edge = e
    · rw [if_pos new, halfedge?_of_fresh (new.trans key)]
    · rw [if_neg new, halfedge? h new, halfedge?_withEdge, if_neg (key ▸ new)]

/-- A node without room is interior, whether it is looked at before or while an edge is added. -/
theorem interior_of_faced (sound : m.Sound) {record : Node} {r : HalfedgeId}
    {ring : Cycle HalfedgeId} (found : m.node? n = some record) (chosen : record.halfedge = some r)
    (around : ∀ ring, m.Ring n ring → m₂.Orbit ring) (orbit : m₂.Orbit ring) (mem : r ∈ ring)
    (faced : ∀ a ∈ ring, ¬ m₂.Free a.pair) (same : ∀ a, m.Free a → m₂.Free a) : m.Interior n := by
  have starts := sound.representative n record r found chosen
  refine ⟨⟨r, starts⟩, fun a start free => ?_⟩
  rcases sound.exists_ring n with ⟨ring', around'⟩
  have equal := (around ring' around').unique orbit ((around'.mem_iff r).2 starts) mem
  exact faced a (equal ▸ (around'.mem_iff a).2 start) (same _ free)

end TakeBack

end Mesh

namespace Edit

open Mesh

variable {s : Session}

/-- A side for which there is no room is taken back. -/
theorem attachSide_ends {h : HalfedgeId} {n : NodeId} {takeBack : Edit Unit}
    {returns full : Mesh → Prop} (restored : Mesh → Prop)
    (attached : (attach h n).Ends s (fun _ m => returns m)
      fun error m => error = .topology (.noFreeSlot n) ∧ full m)
    (restores : ∀ t, full t.mesh → takeBack.Ends t (fun _ m => restored m) (fun _ _ => False)) :
    (attachSide h n takeBack).Ends s (fun _ m => returns m)
      fun error m => error = .attachToCompleteMesh (.noFreeSlot n) ∧ restored m := by
  apply attached.onRefusal
  rintro error t ⟨rfl, refused⟩
  apply (restores t refused).bind
  · exact fun _ _ back => ⟨rfl, back⟩
  · exact fun _ _ => False.elim

theorem insertEdge_withEdge (n₁ n₂ : NodeId) (s : Session) :
    insertEdge n₁ n₂ s =
      .ok s.mesh.edges.nextKey { s with mesh := s.mesh.withEdge n₁ n₂ } :=
  rfl

section AttachSides

variable {m : Mesh} {n₁ n₂ : NodeId} {e : EdgeId} (sound : m.Sound)
  (key : e = m.edges.nextKey)

include sound key

theorem attach_first_ends {journal : Array JournalEntry} {record : Node}
    (found : m.node? n₁ = some record) :
    (attach e.first n₁).Ends ⟨m.withEdge n₁ n₂, journal⟩
      (fun _ m' => (m.withEdge n₁ n₂).Docks e.first n₁ m')
      (fun error m' => error = .topology (.noFreeSlot n₁) ∧
        m' = m.withEdge n₁ n₂ ∧ m.Interior n₁) := by
  have orbits : ∀ ring, m.Ring n₁ ring → (m.withEdge n₁ n₂).Orbit ring := fun ring around =>
    around.toOrbit.of_keeps fun _ _ _ => Follows.withEdge
  have starts : (m.withEdge n₁ n₂).origin? e.first = some n₁ := by
    rw [origin?_withEdge, ← key, if_pos rfl]
  refine (attach_ends found starts (follows_self_withEdge key) ?_).mono (fun _ _ => id) ?_
  · intro r chosen
    rcases sound.exists_ring_from found chosen with ⟨l, around, start⟩
    refine ⟨l, orbits _ around, start, fun mem => ?_⟩
    exact edge_ne_nextKey (h := e.first) (around.live mem) key
  · rintro error m' ⟨same, why, r, l, chosen, orbit, mem, faced⟩
    refine ⟨why, same, interior_of_faced sound found chosen orbits orbit mem faced fun a free => ?_⟩
    exact (free_withEdge (edge_ne_nextKey (containsHalfedge_iff_faceOf?.2 ⟨none, free⟩))).2 free

theorem attach_second_ends (ne : n₁ ≠ n₂) {t : Session} {record : Node}
    (docks : (m.withEdge n₁ n₂).Docks e.first n₁ t.mesh) (found : m.node? n₂ = some record) :
    (attach e.second n₂).Ends t (fun _ m' => t.mesh.Docks e.second n₂ m')
      (fun error m' => error = .topology (.noFreeSlot n₂) ∧ m' = t.mesh ∧ m.Interior n₂) := by
  have orbits : ∀ ring, m.Ring n₂ ring → t.mesh.Orbit ring := by
    intro ring around
    apply orbit_of_docks_first key docks sound around.toOrbit
    intro x mem
    rw [(around.mem_iff x).1 mem]
    exact fun same => ne (Option.some.inj same).symm
  have starts : t.mesh.origin? e.second = some n₂ := by
    rw [docks.origin?, origin?_withEdge, ← key, if_neg (first_ne_second e).symm, if_pos rfl]
  have foundHere : t.mesh.node? n₂ = some record := by
    rw [docks.node?, if_neg ne.symm]
    exact found
  have loop : t.mesh.Follows e.second e.second := by
    have alone : (m.withEdge n₁ n₂).Orbit ↑[e.second] :=
      ⟨List.nodup_singleton _, (Cycle.chain_singleton _ _).2 (follows_self_withEdge key)⟩
    refine (Cycle.chain_singleton _ _).1 (docks.orbit_of_avoids alone ?_ ?_).chain
    · exact fun mem => first_ne_second e (by simpa using mem)
    · intro record r found chosen mem
      have live := containsHalfedge_of_origin? (sound.representative n₁ record r found chosen)
      have second : r = e.second := by simpa using mem
      exact edge_ne_nextKey live (second ▸ key)
  refine (attach_ends foundHere starts loop ?_).mono (fun _ _ => id) ?_
  · intro r chosen
    rcases sound.exists_ring_from found chosen with ⟨l, around, start⟩
    refine ⟨l, orbits _ around, start, fun mem => ?_⟩
    exact edge_ne_nextKey (h := e.second) (around.live mem) key
  · rintro error m' ⟨same, why, r, l, chosen, orbit, mem, faced⟩
    refine ⟨why, same, interior_of_faced sound found chosen orbits orbit mem faced fun a free => ?_⟩
    rw [Free, docks.faceOf?]
    exact (free_withEdge (edge_ne_nextKey (containsHalfedge_iff_faceOf?.2 ⟨none, free⟩))).2 free

end AttachSides

theorem addEdge_ends (sound : s.mesh.Sound) {n₁ n₂ : NodeId} :
    (addEdge n₁ n₂).Ends s
      (fun h m => s.mesh.Connectable n₁ n₂ ∧
        ∃ e, h = e.first ∧ s.mesh.AddedEdge n₁ n₂ e m)
      (fun error m => s.mesh.Unconnectable n₁ n₂ error ∧ s.mesh.SameRecords m) := by
  unfold addEdge
  cases live₁ : s.mesh.containsNode n₁ with
  | false =>
    rw [ends_bind_of_refused (query_of_error (node_of_dead live₁))]
    exact ⟨.dead₁ live₁, .refl _⟩
  | true =>
  rcases Option.isSome_iff_exists.1 live₁ with ⟨record₁, found₁⟩
  rw [ends_bind_of_ok (query_node found₁)]
  cases live₂ : s.mesh.containsNode n₂ with
  | false =>
    rw [ends_bind_of_refused (query_of_error (node_of_dead live₂))]
    exact ⟨.dead₂ live₁ live₂, .refl _⟩
  | true =>
  rcases Option.isSome_iff_exists.1 live₂ with ⟨record₂, found₂⟩
  rw [ends_bind_of_ok (query_node found₂)]
  by_cases ne : n₁ = n₂
  · rw [if_pos ne, ends_bind_of_refused (refuse_apply _ _)]
    exact ⟨.loop live₁ ne, .refl _⟩
  rw [if_neg ne]
  dsimp only
  rw [ends_bind_of_ok (insertEdge_withEdge n₁ n₂ s)]
  obtain ⟨e, key⟩ : ∃ e, e = s.mesh.edges.nextKey := ⟨_, rfl⟩
  rw [← key]
  refine (attachSide_ends (fun m => s.mesh.Interior n₁ ∧ s.mesh.SameRecords m)
    (attach_first_ends sound key found₁) ?_).bind ?_ ?_
  · rintro t ⟨same, interior⟩
    rw [ends_bind_of_ok (dropEdge_apply e t), ends_pure]
    refine ⟨interior, ?_⟩
    apply sameRecords_withoutEdge n₁ n₂ key
    · exact fun _ => same ▸ rfl
    · exact same ▸ rfl
    · exact fun _ _ => same ▸ rfl
  rotate_left
  · rintro _ m ⟨rfl, interior, same⟩
    exact ⟨.interior₁ live₁ live₂ ne interior, same⟩
  rintro - t docks₁
  have room₁ := not_interior_first_of_docks sound docks₁
  refine (attachSide_ends (fun m => s.mesh.Interior n₂ ∧ s.mesh.SameRecords m)
    (attach_second_ends sound key ne docks₁ found₂) ?_).bind ?_ ?_
  · rintro t' ⟨same, interior⟩
    rcases docks₁.exists_follows with ⟨u, v, before, after⟩
    have foundHere : t'.mesh.node? n₁ = some (record₁.adopt (some e.first)) := by
      rw [same, docks₁.node?, if_pos rfl, show (s.mesh.withEdge n₁ n₂).node? n₁ = _ from found₁]
      rfl
    have startsHere : t'.mesh.origin? e.first = some n₁ := by
      rw [same, docks₁.origin?, origin?_withEdge, ← key, if_pos rfl]
    refine (detach_ends foundHere startsHere (same ▸ before) (same ▸ after)).bind ?_
      (fun _ _ => False.elim)
    rintro - t'' detached
    rw [ends_bind_of_ok (dropEdge_apply e t''), ends_pure]
    rw [same] at detached
    refine ⟨interior, ?_⟩
    apply sameRecords_withoutEdge n₁ n₂ key
    · intro n
      rw [detached]
      exact docks₁.node?_undock after n
    · rw [detached, faces_undock, docks₁.faces]
      rfl
    · intro h old
      rw [detached]
      exact docks₁.halfedge?_undock before after (fun same => old (edge_eq_iff.2 (.inl same)))
        fun same => old (edge_eq_iff.2 (.inr same))
  rotate_left
  · rintro _ m ⟨rfl, interior, same⟩
    exact ⟨.interior₂ live₁ live₂ ne room₁ interior, same⟩
  rintro - t' docks₂
  have added := addedEdge_of_docks sound ne key docks₁ docks₂ live₁ live₂
  have room₂ := not_interior_second_of_docks sound ne key docks₁ docks₂
  rw [ends_bind_of_ok (record_apply _ _)]
  refine (ends_bind_of_ok (checkAfter_of_sound ?_)).2 ?_
  · exact added.sound
  · exact ⟨⟨live₁, live₂, ne, room₁, room₂⟩, e, rfl, added⟩

end Edit

end PlanarMesh
