import PlanarMesh.Proofs.Adjacency
import PlanarMesh.Proofs.Boundary.Loops

/-!
# What local walks list

A walk around a node lists every half-edge that starts there once, and a walk along a loop lists
the half-edges that `next` leads to, each once (`walks_of_operations`).  What is read off a walk
around a node is then exact as well: how many half-edges start there, the faces that have the node
as a corner, and whether an edge leads to a given other node.
-/

namespace PlanarMesh

namespace Mesh

/-- The edge leads from the one node to the other, on one of its sides. -/
def Connects (m : Mesh) (e : EdgeId) (n n' : NodeId) : Prop :=
  ∃ h ∈ e.halfedges, m.origin h = .ok n ∧ m.target h = .ok n'

variable {m : Mesh}

/-! ## Around a node -/

theorem connects_iff {n n' : NodeId} : (∃ e, m.Connects e n n') ↔ ∃ h, m.Leads h n n' := by
  simp only [Connects, origin_eq_ok_iff, target_eq_ok_iff]
  constructor
  · rintro ⟨e, h, -, start, finish⟩
    exact ⟨h, start, finish⟩
  · rintro ⟨h, start, finish⟩
    exact ⟨h.edge, h, h.mem_halfedges_edge, start, finish⟩

/-- A face has one corner only at a node. -/
theorem Sound.eq_of_corner (sound : m.Sound) {g h : HalfedgeId} {n : NodeId} {f : FaceId}
    (start : m.origin? g = some n) (start' : m.origin? h = some n)
    (reports : m.faceOf? g = some (some f)) (reports' : m.faceOf? h = some (some f)) : g = h := by
  rcases sound.exists_triangle reports with ⟨⟨g, h₂, h₃⟩, rfl, triangle⟩
  rcases triangle.chain sound with ⟨a, b, c, chain⟩
  have first := chain.side₁.eq_start start
  rcases Corners.mem_toList.1 ((triangle.reports_iff h).1 reports') with rfl | rfl | rfl
  · rfl
  · exact absurd (first.trans (chain.side₂.eq_start start').symm) chain.ab
  · exact absurd ((chain.side₃.eq_start start').trans first.symm) chain.ca

/-- No face is listed twice at a node. -/
theorem Tour.nodup_incidentFaces {n : NodeId} {l : List HalfedgeId} (tour : m.Tour n l)
    (sound : m.Sound) : (l.filterMap fun h => (m.faceOf? h).join).Nodup := by
  have nodup : l.Nodup := tour.ring.nodup
  apply List.pairwise_filterMap.2
  apply nodup.imp_of_mem
  intro g h gMem hMem differ f reports f' reports' same
  subst same
  rw [Option.join_eq_some_iff] at reports reports'
  exact differ (sound.eq_of_corner ((tour.ring.mem_iff g).1 gMem) ((tour.ring.mem_iff h).1 hMem)
    reports reports')

/-- A half-edge from one node to another is found if and only if an edge leads there. -/
theorem Sound.exists_joining (sound : m.Sound) {n : NodeId} (live : m.containsNode n = true)
    (n' : NodeId) : ∃ found, m.findHalfedge n n' = .ok found ∧
      (found.isSome = true ↔ ∃ e, m.Connects e n n') ∧
      ∀ h ∈ found, m.origin h = .ok n ∧ m.target h = .ok n' := by
  rcases sound.exists_findHalfedge live n' with ⟨found, asked, leads, missing⟩
  refine ⟨found, asked, ?_, fun h mem => (leads h mem).reads⟩
  rw [connects_iff]
  constructor
  · intro some
    rcases Option.isSome_iff_exists.1 some with ⟨h, same⟩
    exact ⟨h, leads h same⟩
  · rintro ⟨h, lead⟩
    rw [Option.isSome_iff_ne_none]
    exact fun none => missing none h lead

/-! ## Along a loop -/

/-- A loop has the half-edges to which `next` leads. -/
theorem Circles.mem_iff_reaches {h : HalfedgeId} {l : List HalfedgeId} (circles : m.Circles h l)
    (sound : m.Sound) (g : HalfedgeId) :
    g ∈ l ↔ Relation.ReflTransGen (fun g k => m.next g = .ok k) h g := by
  constructor
  · -- Passing on backwards from a half-edge that is not reached, one would come to `h`.
    intro mem
    by_contra unreached
    have closed : ∀ g k, m.next? g = some k →
        ¬ Relation.ReflTransGen (fun g k => m.next g = .ok k) h k →
        ¬ Relation.ReflTransGen (fun g k => m.next g = .ok k) h g := by
      intro g k next unreached reached
      exact unreached (reached.tail (next_eq_ok_iff.2 next))
    exact circles.forall_of_closed closed mem unreached h circles.start_mem .refl
  · intro reached
    induction reached with
    | refl => exact circles.start_mem
    | tail _ next inductionHypothesis =>
      exact (circles.mem_iff sound (next_eq_ok_iff.1 next)).1 inductionHypothesis

/-- The sides of a face, as they are listed, are a loop. -/
theorem Triangle.circles {f : FaceId} {t : Corners HalfedgeId} (triangle : m.Triangle f t)
    (sound : m.Sound) : m.Circles t.a t.toList where
  head? := rfl
  nodup := sound.nodup_triangle triangle
  chain := by
    simp [Corners.toList, next_eq_ok_iff, triangle.next_a, triangle.next_b]
  closes := by
    simp [Corners.toList, next_eq_ok_iff, triangle.next_c]

/-- Whatever operations were run: a walk around a live node lists the half-edges that start there,
the faces there and the edges to other nodes, nothing twice and nothing else; a walk from a live
half-edge lists the half-edges that `next` leads to, each once; and the sides of a live face are
such a walk. -/
theorem walks_of_operations (operations : List Operation) :
    let m := empty.run operations
    (∀ n, m.containsNode n = true →
      (∃ l, m.outgoing n = .ok l ∧ l.Nodup ∧ (∀ h, h ∈ l ↔ m.origin h = .ok n) ∧
        m.degree n = .ok l.length) ∧
      (∃ fs, m.incidentFaces n = .ok fs ∧ fs.Nodup ∧ ∀ f, f ∈ fs ↔ m.HasCorner n f) ∧
      ∀ n', ∃ found, m.findHalfedge n n' = .ok found ∧
        (found.isSome = true ↔ ∃ e, m.Connects e n n') ∧
        ∀ h ∈ found, m.origin h = .ok n ∧ m.target h = .ok n') ∧
    (∀ h, m.containsHalfedge h = true → ∃ l, m.loop h = .ok l ∧ l.head? = some h ∧ l.Nodup ∧
      ∀ g, g ∈ l ↔ Relation.ReflTransGen (fun g k => m.next g = .ok k) h g) ∧
    ∀ f, m.containsFace f = true → ∃ record t, m.face f = .ok record ∧
      m.faceHalfedges f = .ok t ∧ m.loop record.halfedge = .ok t.toList := by
  intro m
  have sound : m.Sound := sound_empty.run operations
  refine ⟨fun n live => ⟨?around, ?faces, sound.exists_joining live⟩, ?loops, ?sides⟩
  case around =>
    rcases sound.exists_tour live with ⟨l, tour⟩
    refine ⟨l, tour.lists, tour.ring.nodup, fun h => ?_, ?_⟩
    · rw [origin_eq_ok_iff]
      exact tour.ring.mem_iff h
    · rw [degree, tour.lists]
      rfl
  case faces =>
    rcases sound.exists_tour live with ⟨l, tour⟩
    rcases sound.exists_incidentFaces live with ⟨fs, listed, mem_iff⟩
    cases tour.incidentFaces.symm.trans listed
    exact ⟨_, listed, tour.nodup_incidentFaces sound, mem_iff⟩
  case loops =>
    intro h live
    rcases sound.exists_loop live with ⟨l, walked, circles⟩
    exact ⟨l, walked, circles.head?, circles.nodup, circles.mem_iff_reaches sound⟩
  case sides =>
    intro f live
    rcases Option.isSome_iff_exists.1 live with ⟨record, found⟩
    rcases sound.triangle f record found with ⟨t, first, triangle⟩
    refine ⟨record, t, face_eq_ok_iff.2 found, faceHalfedges_of_triangle found first triangle, ?_⟩
    rw [← first]
    exact (triangle.circles sound).loop

end Mesh

end PlanarMesh
