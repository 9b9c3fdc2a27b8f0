import PlanarMesh.Proofs.Locate.Endless
import PlanarMesh.Proofs.Locate.Rounds
import PlanarMesh.Proofs.Reachability

/-!
# Right answers

Locating a point gives a right location or none, whatever the faces look like: they may overlap,
run clockwise or be degenerate.  On a mesh that operations lead to, with nodes at finite places,
no record is found missing on the way.  What can go wrong is that there is no face to start from,
that a budget is used up, or that a walk without a budget goes round for ever.
-/

namespace PlanarMesh

namespace Mesh

/-- What can come of locating the point: the last argument is the answer. -/
inductive Answer (m : Mesh) (kernel : Kernel) (p : Point) (start : Option FaceId)
    (options : LocateOptions) : Option (Except MeshError PointLocation) → Prop
  | located {location} : m.Locates p location →
      Answer m kernel p start options (some (.ok location))
  | exhausted {budget} : options.maxSteps = some budget →
      Answer m kernel p start options (some (.error (.walkExhausted budget)))
  | noFaces : start = none → m.faceIds = [] →
      Answer m kernel p start options (some (.error .noFaces))
  | endless : options.maxSteps = none →
      (∀ budget, m.locateWithin kernel p start budget = .error (.walkExhausted budget)) →
      Answer m kernel p start options none

variable {m : Mesh} {kernel : Kernel} {p : Point}

/-- A walk starts with the first round of a face. -/
theorem Sound.walkStart_of_face (sound : m.Sound) (p : Point) {f : FaceId}
    (live : m.containsFace f = true) :
    ∃ s, m.walkStart (some f) = .ok s ∧ m.Round p s := by
  rcases Option.isSome_iff_exists.1 live with ⟨record, found⟩
  rcases sound.triangle f record found with ⟨t, first, triangle⟩
  rcases sound.exists_cornered_of_triangle triangle with ⟨ns, c, cornered⟩
  refine ⟨⟨t.a, t.a⟩, ?_, .first cornered⟩
  simp [walkStart, face_eq_ok_iff.2 found, first, bind, Except.bind, pure, Except.pure]

theorem walkStart_none_of_faceIds {f : FaceId} {rest : List FaceId}
    (listed : m.faceIds = f :: rest) : m.walkStart none = m.walkStart (some f) := by
  simp [walkStart, listed, orInvalid, bind, Except.bind, pure, Except.pure]

/-- A walk starts with the first round of a face, unless there is none. -/
theorem Sound.exists_walkStart (sound : m.Sound) (p : Point) {start : Option FaceId}
    (live : ∀ f, start = some f → m.containsFace f = true) :
    (∃ s, m.walkStart start = .ok s ∧ m.Round p s) ∨
      start = none ∧ m.faceIds = [] ∧ m.walkStart start = .error .noFaces := by
  cases start with
  | some f => exact .inl (sound.walkStart_of_face p (live f rfl))
  | none =>
    cases listed : m.faceIds with
    | nil =>
      right
      refine ⟨rfl, rfl, ?_⟩
      simp [walkStart, listed, orInvalid, bind, Except.bind]
    | cons f rest =>
      left
      rw [walkStart_none_of_faceIds listed]
      apply sound.walkStart_of_face p
      rw [← mem_faceIds, listed]
      exact List.mem_cons_self

section Answer

variable {start : Option FaceId} {options : LocateOptions}

theorem locateWith_of_walkStart {s : WalkState} (started : m.walkStart start = .ok s) :
    m.locateWith kernel p start options =
      match options.maxSteps with
      | none => m.walk kernel p m.sufficientSteps s
      | some budget =>
        some ((m.walk kernel p budget s).getD (.error (.walkExhausted budget))) := by
  cases limited : options.maxSteps <;>
    simp [locateWith, locate, locateWithin, limited, started, bind, Except.bind]

theorem locateWith_of_refused {error : MeshError} (refused : m.walkStart start = .error error) :
    m.locateWith kernel p start options = some (.error error) := by
  cases limited : options.maxSteps <;>
    simp [locateWith, locate, locateWithin, limited, refused, bind, Except.bind]

theorem Sound.answer (sound : m.Sound) (exact : kernel.IsExact) (finite : m.FiniteCorners)
    (pFinite : p.isFinite = true) (live : ∀ f, start = some f → m.containsFace f = true) :
    m.Answer kernel p start options (m.locateWith kernel p start options) := by
  rcases sound.exists_walkStart p live with ⟨s, started, round⟩ | ⟨unset, empty, refused⟩
  · have right {steps : Nat} {answer : Except MeshError PointLocation}
        (ends : m.walk kernel p steps s = some answer) :
        m.Answer kernel p start options (some answer) := by
      rcases round.walk sound exact finite pFinite ends with ⟨location, rfl, located⟩
      exact .located located
    rw [locateWith_of_walkStart started]
    cases limited : options.maxSteps with
    | none =>
      cases ends : m.walk kernel p m.sufficientSteps s with
      | some answer => exact right ends
      | none =>
        have never : m.locate kernel p start = none := by
          simp only [locate, started, ends]
        exact .endless limited (locate_eq_none_iff.1 never)
    | some budget =>
      cases ends : m.walk kernel p budget s with
      | some answer =>
        simp only [ends, Option.getD_some]
        exact right ends
      | none =>
        simp only [ends, Option.getD_none]
        exact .exhausted limited
  · rw [locateWith_of_refused refused]
    exact .noFaces unset empty

end Answer

/-- Whatever operations were run: with an exact kernel, and as long as all nodes and the point lie
at finite places, locating the point from a live face gives a location that is right.  Otherwise
the budget was used up, or there is no budget and the walk never ends, or there is no face. -/
theorem locateWith_of_operations (operations : List Operation) {kernel : Kernel} (p : Point)
    (start : Option FaceId) (options : LocateOptions) (exact : kernel.IsExact)
    (finite : (empty.run operations).FinitePositions) (pFinite : p.isFinite = true)
    (live : ∀ f, start = some f → (empty.run operations).containsFace f = true) :
    (empty.run operations).Answer kernel p start options
      ((empty.run operations).locateWith kernel p start options) :=
  (sound_empty.run operations).answer exact finite.corners pFinite live

/-- Two triangles on either side of a short diagonal. -/
def kite : List Operation :=
  [.build ⟨[⟨0, -1⟩, ⟨3, 0⟩, ⟨0, 1⟩, ⟨-3, 0⟩], [⟨0, 1, 2⟩, ⟨0, 2, 3⟩]⟩]

/-- A walk from the right half of a kite finds a point in the left half. -/
theorem locateWith_kite :
    let m := empty.run kite
    let right : FaceId := ⟨1, 0⟩
    let left : FaceId := ⟨2, 0⟩
    m.FinitePositions ∧ m.containsFace right = true ∧
      m.locateWith .integral ⟨-1, 0⟩ (some right) {} = some (.ok (.inFace left)) ∧
      m.Answer .integral ⟨-1, 0⟩ (some right) {} (some (.ok (.inFace left))) := by
  have finite : (empty.run kite).FinitePositions := by decide +kernel
  have live : (empty.run kite).containsFace ⟨1, 0⟩ = true := by decide +kernel
  have found : (empty.run kite).locateWith .integral ⟨-1, 0⟩ (some ⟨1, 0⟩) {} =
      some (.ok (.inFace ⟨2, 0⟩)) := by decide +kernel
  have answer := locateWith_of_operations kite ⟨-1, 0⟩ (some ⟨1, 0⟩) {}
    Kernel.integral_isExact finite (by decide +kernel) fun f chosen => Option.some.inj chosen ▸ live
  rw [found] at answer
  exact ⟨finite, live, found, answer⟩

end Mesh

end PlanarMesh
