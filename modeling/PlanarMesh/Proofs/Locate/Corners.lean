import PlanarMesh.Mesh.Validity
import PlanarMesh.Proofs.Edit.Clear
import PlanarMesh.Proofs.Geometry.Plane

/-!
# Where faces lie

On a sound mesh every face has three corners with positions.  `Cornered` names them all at once:
the sides of a face, the nodes where these start, and the points where the nodes lie, in loop
order.  A face can be read from any of its sides on (`Cornered.rotate`, `Sound.exists_cornered`).
-/

namespace PlanarMesh

namespace Mesh

variable {m : Mesh}

/-- No node lies at an infinite place or nowhere. -/
def FinitePositions (m : Mesh) : Prop :=
  ∀ n p, m.position n = .ok p → p.isFinite = true

theorem finitePositions_iff : m.FinitePositions ↔
    ∀ n ∈ m.nodeIds, ∀ p ∈ (m.position n).toOption, p.isFinite = true := by
  constructor
  · intro finite n _ p placed
    exact finite n p (toOption_eq_some_iff.1 placed)
  · intro checked n p placed
    exact checked n (mem_nodeIds.2 (containsNode_of_position placed)) p
      (toOption_eq_some_iff.2 placed)

instance : Decidable m.FinitePositions :=
  decidable_of_iff _ finitePositions_iff.symm

/-- No corner of a face lies at an infinite place. -/
def FiniteCorners (m : Mesh) : Prop :=
  ∀ f c, m.facePositions f = .ok c → ∀ p ∈ c.toList, p.isFinite = true

theorem facePositions_eq_ok_iff {f : FaceId} {c : Corners Point} : m.facePositions f = .ok c ↔
    ∃ ns, m.faceNodes f = .ok ns ∧ m.position ns.a = .ok c.a ∧ m.position ns.b = .ok c.b ∧
      m.position ns.c = .ok c.c := by
  constructor
  · intro found
    rcases bind_eq_ok_iff.1 found with ⟨ns, nodes, positions⟩
    rcases bind_eq_ok_iff.1 positions with ⟨a, first, rest⟩
    rcases bind_eq_ok_iff.1 rest with ⟨b, second, rest'⟩
    rcases bind_eq_ok_iff.1 rest' with ⟨c', third, same⟩
    cases same
    exact ⟨ns, nodes, first, second, third⟩
  · rintro ⟨ns, nodes, first, second, third⟩
    simp [facePositions, nodes, Corners.mapM, first, second, third, bind, Except.bind, pure,
      Except.pure]

theorem FinitePositions.corners (finite : m.FinitePositions) : m.FiniteCorners := by
  intro f c found p mem
  rcases facePositions_eq_ok_iff.1 found with ⟨ns, -, first, second, third⟩
  rcases Corners.mem_toList.1 mem with rfl | rfl | rfl
  · exact finite _ _ first
  · exact finite _ _ second
  · exact finite _ _ third

/-- The half-edge borders a face. -/
def Faced (m : Mesh) (h : HalfedgeId) : Prop :=
  ∃ f, m.faceOf? h = some (some f)

instance (h : HalfedgeId) : Decidable (m.Faced h) :=
  decidable_of_iff ((m.faceOf? h).join.isSome = true) <| by
    rw [Option.isSome_iff_exists]
    simp only [Option.join_eq_some_iff]
    rfl

theorem Leads.segment {h : HalfedgeId} {n n' : NodeId} {a b : Point} (leads : m.Leads h n n')
    (start : m.position n = .ok a) (finish : m.position n' = .ok b) :
    m.segment h = .ok (a, b) := by
  simp [Mesh.segment, target, origin_eq_orInvalid, leads.start, leads.finish, start, finish,
    orInvalid, bind, Except.bind, pure, Except.pure]

/-- The face `f` has the sides `t`, these start at the nodes `ns`, and the nodes lie at `c`. -/
structure Cornered (m : Mesh) (f : FaceId) (t : Corners HalfedgeId) (ns : Corners NodeId)
    (c : Corners Point) : Prop where
  triangle : m.Triangle f t
  chain : m.Chain t.a t.b t.c ns.a ns.b ns.c
  position_a : m.position ns.a = .ok c.a
  position_b : m.position ns.b = .ok c.b
  position_c : m.position ns.c = .ok c.c

namespace Cornered

variable {f : FaceId} {t : Corners HalfedgeId} {ns : Corners NodeId} {c : Corners Point}
  (cornered : m.Cornered f t ns c)

include cornered

theorem rotate : m.Cornered f t.rotate ns.rotate c.rotate :=
  ⟨cornered.triangle.rotate, cornered.chain.rotate, cornered.position_b, cornered.position_c,
    cornered.position_a⟩

theorem segment_a : m.segment t.a = .ok (c.a, c.b) :=
  cornered.chain.side₁.segment cornered.position_a cornered.position_b

theorem segment_b : m.segment t.b = .ok (c.b, c.c) :=
  cornered.rotate.segment_a

theorem segment_c : m.segment t.c = .ok (c.c, c.a) :=
  cornered.rotate.rotate.segment_a

theorem faced_a : m.Faced t.a :=
  ⟨f, cornered.triangle.faceOf?_a⟩

/-- A face has one set of corners when it is read from a given side on. -/
theorem unique {f' : FaceId} {t' : Corners HalfedgeId} {ns' : Corners NodeId}
    {c' : Corners Point} (cornered' : m.Cornered f' t' ns' c') (same : t'.a = t.a) :
    f' = f ∧ t' = t ∧ ns' = ns ∧ c' = c := by
  rcases t with ⟨h₁, h₂, h₃⟩
  rcases t' with ⟨h₁', h₂', h₃'⟩
  rcases ns with ⟨n₁, n₂, n₃⟩
  rcases ns' with ⟨n₁', n₂', n₃'⟩
  rcases c with ⟨p₁, p₂, p₃⟩
  rcases c' with ⟨p₁', p₂', p₃'⟩
  cases same
  have second := cornered'.triangle.next_a.symm.trans cornered.triangle.next_a
  cases second
  have third := cornered'.triangle.next_b.symm.trans cornered.triangle.next_b
  cases third
  have face := cornered'.triangle.faceOf?_a.symm.trans cornered.triangle.faceOf?_a
  cases face
  cases cornered'.chain.side₁.eq_start cornered.chain.side₁.start
  cases cornered'.chain.side₂.eq_start cornered.chain.side₂.start
  cases cornered'.chain.side₃.eq_start cornered.chain.side₃.start
  cases cornered'.position_a.symm.trans cornered.position_a
  cases cornered'.position_b.symm.trans cornered.position_b
  cases cornered'.position_c.symm.trans cornered.position_c
  exact ⟨rfl, rfl, rfl, rfl⟩

end Cornered

namespace Sound

variable (sound : m.Sound)

include sound

theorem exists_cornered_of_triangle {f : FaceId} {t : Corners HalfedgeId}
    (triangle : m.Triangle f t) : ∃ ns c, m.Cornered f t ns c := by
  rcases triangle.chain sound with ⟨n₁, n₂, n₃, chain⟩
  rcases exists_position (sound.origin_live _ _ chain.side₁.start) with ⟨p₁, at₁⟩
  rcases exists_position (sound.origin_live _ _ chain.side₂.start) with ⟨p₂, at₂⟩
  rcases exists_position (sound.origin_live _ _ chain.side₃.start) with ⟨p₃, at₃⟩
  exact ⟨⟨n₁, n₂, n₃⟩, ⟨p₁, p₂, p₃⟩, triangle, chain, at₁, at₂, at₃⟩

/-- Every half-edge that borders a face is the first side of the face, suitably read. -/
theorem exists_cornered {h : HalfedgeId} {f : FaceId} (faced : m.faceOf? h = some (some f)) :
    ∃ t ns c, t.a = h ∧ m.Cornered f t ns c := by
  rcases sound.exists_triangle faced with ⟨t, first, triangle⟩
  rcases sound.exists_cornered_of_triangle triangle with ⟨ns, c, cornered⟩
  exact ⟨t, ns, c, first, cornered⟩

/-- The corners of a face, read from the half-edge that its record names. -/
theorem exists_facePositions {f : FaceId} (live : m.containsFace f = true) :
    ∃ t ns c, m.faceHalfedges f = .ok t ∧ m.facePositions f = .ok c ∧ m.Cornered f t ns c := by
  rcases Option.isSome_iff_exists.1 live with ⟨record, found⟩
  rcases sound.triangle f record found with ⟨t, first, triangle⟩
  rcases sound.exists_cornered_of_triangle triangle with ⟨ns, c, cornered⟩
  have nodes := faceNodes_of_triangle found first triangle cornered.chain.side₁.start
    cornered.chain.side₂.start cornered.chain.side₃.start
  have positions := facePositions_eq_ok_iff.2
    ⟨ns, nodes, cornered.position_a, cornered.position_b, cornered.position_c⟩
  exact ⟨t, ns, c, faceHalfedges_of_triangle found first triangle, positions, cornered⟩

end Sound

namespace Cornered

variable {f : FaceId} {t : Corners HalfedgeId} {ns : Corners NodeId} {c : Corners Point}
  (cornered : m.Cornered f t ns c) (sound : m.Sound)

include cornered sound

/-- The positions of a face are its corners, read from some side on. -/
theorem facePositions : m.facePositions f = .ok c ∨ m.facePositions f = .ok c.rotate ∨
    m.facePositions f = .ok c.rotate.rotate := by
  have live := sound.face_live t.a f cornered.triangle.faceOf?_a
  rcases sound.exists_facePositions live with ⟨t', ns', c', -, positions, cornered'⟩
  have first : t'.a ∈ t.toList := by
    rw [← cornered.triangle.reports_iff]
    exact cornered'.triangle.faceOf?_a
  rw [positions]
  rcases Corners.mem_toList.1 first with same | same | same
  · exact .inl (congrArg _ (cornered.unique cornered' same).2.2.2)
  · exact .inr (.inl (congrArg _ (cornered.rotate.unique cornered' same).2.2.2))
  · exact .inr (.inr (congrArg _ (cornered.rotate.rotate.unique cornered' same).2.2.2))

variable (finite : m.FiniteCorners)

include finite

theorem finite_a : c.a.isFinite = true := by
  rcases cornered.facePositions sound with found | found | found
  · exact finite _ _ found _ (by simp)
  · exact finite _ _ found _ (by simp [Corners.rotate])
  · exact finite _ _ found _ (by simp [Corners.rotate])

theorem finite_b : c.b.isFinite = true :=
  cornered.rotate.finite_a sound finite

theorem finite_c : c.c.isFinite = true :=
  cornered.rotate.rotate.finite_a sound finite

end Cornered

/-! ## Counter-clockwise faces -/

/-- An exact kernel tells a counter-clockwise face between finite places by its determinant. -/
theorem faceOrientation_eq_positive_iff {kernel : Kernel} (exact : kernel.IsExact) {f : FaceId}
    {c : Corners Point} (positions : m.facePositions f = .ok c)
    (finite : ∀ q ∈ c.toList, q.isFinite = true) :
    m.faceOrientation kernel f = .ok .positive ↔ 0 < determinant c.a c.b c.c := by
  simp only [faceOrientation, positions, bind, Except.bind, pure, Except.pure,
    Kernel.triangleOrientation, Except.ok.injEq]
  rw [exact _ _ _ (finite c.a (by simp)) (finite c.b (by simp)) (finite c.c (by simp)),
    OrientedSide.ofSign_eq_positive_iff]

/-- The faces are counter-clockwise triangles between finite places. -/
structure CounterClockwise (m : Mesh) (kernel : Kernel) : Prop where
  finite : m.FiniteCorners
  positive : ∀ f, m.containsFace f = true → m.faceOrientation kernel f = .ok .positive

namespace CounterClockwise

variable {kernel : Kernel} {f : FaceId} {t : Corners HalfedgeId} {ns : Corners NodeId}
  {c : Corners Point} (wound : m.CounterClockwise kernel) (sound : m.Sound)
  (exact : kernel.IsExact)

include wound sound exact

theorem determinant_pos_of_facePositions (cornered : m.Cornered f t ns c)
    (positions : m.facePositions f = .ok c) : 0 < determinant c.a c.b c.c :=
  (faceOrientation_eq_positive_iff exact positions (wound.finite f c positions)).1
    (wound.positive f (sound.face_live t.a f cornered.triangle.faceOf?_a))

/-- The corners of a face run counter-clockwise, from whichever side they are read. -/
theorem determinant_pos (cornered : m.Cornered f t ns c) : 0 < determinant c.a c.b c.c := by
  rcases cornered.facePositions sound with found | found | found
  · exact wound.determinant_pos_of_facePositions sound exact cornered found
  · have positive := wound.determinant_pos_of_facePositions sound exact cornered.rotate found
    rwa [Corners.rotate, determinant_rotate] at positive
  · have positive :=
      wound.determinant_pos_of_facePositions sound exact cornered.rotate.rotate found
    rwa [Corners.rotate, Corners.rotate, determinant_rotate, determinant_rotate] at positive

theorem turn_pos (cornered : m.Cornered f t ns c) :
    0 < turn c.a.place c.b.place c.c.place := by
  rw [turn_place]
  exact Int.cast_pos.2 (wound.determinant_pos sound exact cornered)

end CounterClockwise

end Mesh

end PlanarMesh
