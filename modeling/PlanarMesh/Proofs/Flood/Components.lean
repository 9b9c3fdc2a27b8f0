import PlanarMesh.Proofs.Flood.Depths
import PlanarMesh.Proofs.Flood.Reach

/-!
# Components

Faces belong to one component if a path leads from one to the other across edges.  The scan for
components goes through the faces in order.  No path leads out of what it has seen, so every further
component is new as a whole, and the face at which the scan found it is the smallest of it
(`Sound.exists_componentsFrom`).
-/

namespace PlanarMesh

namespace Mesh

/-- The lists are the components that the given faces make up, each in increasing order, and they
are ordered by their smallest faces. -/
structure Components (m : Mesh) (faces : FaceId → Prop) (cs : List (List FaceId)) : Prop where
  increasing : ∀ c ∈ cs, c.Pairwise (· < ·)
  connected : ∀ c ∈ cs, ∃ f, c.head? = some f ∧
    ∀ g, g ∈ c ↔ (m.faceGraph .edge).Reachable f g
  nodup : cs.flatten.Nodup
  mem_flatten : ∀ f, f ∈ cs.flatten ↔ faces f
  ordered : cs.Pairwise fun c c' => ∀ f ∈ c.head?, ∀ g ∈ c', f < g

variable {m : Mesh}

/-- The component of the smallest face comes first. -/
theorem Components.cons {faces : FaceId → Prop} {f : FaceId} {c : List FaceId}
    {cs : List (List FaceId)} (others : m.Components (fun g => faces g ∧ g ∉ c) cs)
    (increasing : c.Pairwise (· < ·)) (mem_iff : ∀ g, g ∈ c ↔ (m.faceGraph .edge).Reachable f g)
    (given : ∀ g ∈ c, faces g) (least : ∀ g, faces g → g ≠ f → f < g) :
    m.Components faces (c :: cs) := by
  have mem : f ∈ c := (mem_iff f).2 .rfl
  have head : c.head? = some f :=
    head?_eq_some_of_least increasing mem fun g mem => least g (given g mem)
  constructor
  case increasing => exact List.forall_mem_cons.2 ⟨increasing, others.increasing⟩
  case connected => exact List.forall_mem_cons.2 ⟨⟨f, head, mem_iff⟩, others.connected⟩
  case nodup =>
    rw [List.flatten_cons]
    exact increasing.nodup.append others.nodup fun g mem mem' =>
      ((others.mem_flatten g).1 mem').2 mem
  case mem_flatten =>
    intro g
    rw [List.flatten_cons, List.mem_append, others.mem_flatten]
    by_cases mem : g ∈ c
    · simp [mem, given g mem]
    · simp [mem]
  case ordered =>
    refine List.pairwise_cons.2 ⟨fun c' mem' f' isHead g gMem => ?_, others.ordered⟩
    cases head.symm.trans isHead
    rcases (others.mem_flatten g).1 (List.mem_flatten.2 ⟨c', mem', gMem⟩) with ⟨isGiven, apart⟩
    exact least g isGiven fun same => apart (same ▸ mem)

namespace Sound

variable (sound : m.Sound)

include sound

/-- What is left of the faces is put into components if no path leads out of what was seen. -/
theorem exists_componentsFrom (l assigned : List FaceId) (increasing : l.Pairwise (· < ·))
    (live : ∀ f ∈ l, m.containsFace f = true)
    (covered : ∀ f, m.containsFace f = true → f ∉ assigned → f ∈ l)
    (closed : ∀ f ∈ assigned, ∀ g, (m.faceGraph .edge).Reachable f g → g ∈ assigned) :
    ∃ cs, m.componentsFrom assigned l = .ok cs ∧
      m.Components (fun f => m.containsFace f = true ∧ f ∉ assigned) cs := by
  induction l generalizing assigned with
  | nil =>
    have none (f : FaceId) : ¬ (m.containsFace f = true ∧ f ∉ assigned) := fun ⟨live, left⟩ => by
      cases covered f live left
    exact ⟨[], rfl, by simp, by simp, .nil, by simpa using none, .nil⟩
  | cons f rest inductionHypothesis =>
    rcases List.pairwise_cons.1 increasing with ⟨before, increasing'⟩
    rcases List.forall_mem_cons.1 live with ⟨fLive, live'⟩
    by_cases seen : f ∈ assigned
    · rw [componentsFrom, if_pos seen]
      refine inductionHypothesis assigned increasing' live' (fun g gLive left => ?_) closed
      exact (List.mem_cons.1 (covered g gLive left)).resolve_left fun same => left (same ▸ seen)
    · rcases sound.exists_reachedFaces_unlimited { order := .breadthFirst } (fun _ => rfl)
        (List.forall_mem_singleton.2 fLive) rfl with ⟨c, reached, cIncreasing, mem_iff⟩
      simp only [List.mem_singleton, exists_eq_left] at mem_iff
      have apart (g : FaceId) (mem : g ∈ c) : g ∉ assigned := fun seen' =>
        seen (closed g seen' f ((mem_iff g).1 mem).symm)
      have covered' (g : FaceId) (gLive : m.containsFace g = true) (left : g ∉ c ++ assigned) :
          g ∈ rest := by
        rw [List.mem_append, not_or] at left
        refine (List.mem_cons.1 (covered g gLive left.2)).resolve_left fun same => left.1 ?_
        rw [same, mem_iff]
      have closed' (g : FaceId) (mem : g ∈ c ++ assigned) (g' : FaceId)
          (reachable : (m.faceGraph .edge).Reachable g g') : g' ∈ c ++ assigned := by
        rcases List.mem_append.1 mem with mem | mem
        · exact List.mem_append_left _ ((mem_iff g').2 (((mem_iff g).1 mem).trans reachable))
        · exact List.mem_append_right _ (closed g mem g' reachable)
      rcases inductionHypothesis (c ++ assigned) increasing' live' covered' closed' with
        ⟨cs, result, components⟩
      refine ⟨c :: cs, ?_, .cons (f := f) ?_ cIncreasing mem_iff ?_ ?_⟩
      · rw [componentsFrom, if_neg seen, reached]
        simp only [bind, Except.bind, result, pure, Except.pure]
      · refine { components with mem_flatten := fun g => (components.mem_flatten g).trans ?_ }
        rw [List.mem_append, not_or, and_assoc, and_comm (a := g ∉ c)]
      · intro g mem
        exact ⟨sound.face_live_of_reachable ((mem_iff g).1 mem) fLive, apart g mem⟩
      · rintro g ⟨gLive, left⟩ other
        exact before g ((List.mem_cons.1 (covered g gLive left)).resolve_left other)

/-- The scan of a sound mesh lists all components. -/
theorem exists_components :
    ∃ cs, m.components = .ok cs ∧ m.Components (fun f => m.containsFace f = true) cs := by
  rcases sound.exists_componentsFrom m.faceIds [] m.faces.pairwise_keys
    (fun f => mem_faceIds.1) (fun f live _ => mem_faceIds.2 live) (by simp) with
    ⟨cs, result, components⟩
  exact ⟨cs, result, by simpa using components⟩

end Sound

/-- Whatever operations were run: the live faces are listed by components, and the faces that are
connected to a live face are listed with the lengths of shortest paths there. -/
theorem components_depthMap_of_operations (operations : List Operation) :
    let m := empty.run operations
    (∃ cs, m.components = .ok cs ∧ m.Components (fun f => m.containsFace f = true) cs) ∧
      ∀ seed, m.containsFace seed = true → ∃ l, m.depthMap seed = .ok l ∧
        (l.map Prod.fst).Pairwise (· < ·) ∧ ∀ f d, (f, d) ∈ l ↔
          (m.faceGraph .edge).Reachable seed f ∧ (m.faceGraph .edge).dist seed f = d := by
  intro m
  have sound : m.Sound := sound_empty.run operations
  exact ⟨sound.exists_components, fun seed live => sound.exists_depthMap live⟩

end Mesh

end PlanarMesh
