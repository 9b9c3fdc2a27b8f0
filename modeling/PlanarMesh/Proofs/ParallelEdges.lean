import PlanarMesh.Proofs.TriangleOutcome

/-!
# Parallel edges

Several edges may join the same two nodes.  A search for a half-edge between them returns the first
one in the walk around the first node, whether or not it has a face.  So a triangle between three
nodes can be refused because a side has a face although another half-edge, between the same nodes
and in the same direction, has none (`doubled_refused`).

It is refused for this reason exactly if all three sides are there or can be added and one of those
that were found has a face (`addTriangle_notFree_of_operations`).  Without parallel edges the search
has no choice, and then a side without a face is reused if there is one.
-/

namespace PlanarMesh

namespace Mesh

/-- What a search between the nodes returns has a face. -/
def SideTaken (m : Mesh) (n₁ n₂ : NodeId) : Prop :=
  ∃ h f, m.findHalfedge n₁ n₂ = .ok (some h) ∧ m.faceOf h = .ok (some f)

/-- No half-edge leads from one node to the other, or one without a face does. -/
def SideReusable (m : Mesh) (n₁ n₂ : NodeId) : Prop :=
  (∀ h, m.origin h = .ok n₁ → m.target h ≠ .ok n₂) ∨
    ∃ h, m.origin h = .ok n₁ ∧ m.target h = .ok n₂ ∧ m.faceOf h = .ok none

/-- No two half-edges lead from one node to the other. -/
def SideSingle (m : Mesh) (n₁ n₂ : NodeId) : Prop :=
  ∀ g h, m.origin g = .ok n₁ → m.target g = .ok n₂ → m.origin h = .ok n₁ →
    m.target h = .ok n₂ → g = h

variable {m m' : Mesh} {n₁ n₂ : NodeId} {h : HalfedgeId}

instance (n₁ n₂ : NodeId) : Decidable (m.SideReusable n₁ n₂) :=
  decidable_of_iff ((∀ h ∈ m.halfedgeIds, m.origin h = .ok n₁ → m.target h ≠ .ok n₂) ∨
      ∃ h ∈ m.halfedgeIds, m.origin h = .ok n₁ ∧ m.target h = .ok n₂ ∧ m.faceOf h = .ok none) <| by
    have listed (h : HalfedgeId) (start : m.origin h = .ok n₁) : h ∈ m.halfedgeIds :=
      mem_halfedgeIds.2 (containsHalfedge_of_origin? (origin_eq_ok_iff.1 start))
    apply or_congr
    · exact forall_congr' fun h =>
        ⟨fun none start => none (listed h start) start, fun none _ start => none start⟩
    · exact exists_congr fun h => and_iff_right_of_imp fun side => listed h side.1

/-- Where the search has no choice, it finds a side without a face if there is one. -/
theorem SideReusable.not_sideTaken (reusable : m.SideReusable n₁ n₂) (sound : m.Sound)
    (single : m.SideSingle n₁ n₂) : ¬ m.SideTaken n₁ n₂ := by
  rintro ⟨h, f, found, reports⟩
  rcases (sound.leads_of_findHalfedge found).reads with ⟨start, finish⟩
  rcases reusable with none | ⟨g, start', finish', free⟩
  · exact none h start finish
  · cases single g h start' finish' start finish
    cases free.symm.trans reports

namespace Provided

variable (provided : m.Provided n₁ n₂ h m')

include provided

theorem sideReady : m.SideReady m.Interior n₁ n₂ := by
  cases provided with
  | present found => exact .inl ⟨h, found⟩
  | new missing _ room₁ room₂ => exact .inr ⟨missing, room₁, room₂⟩

/-- In the outline a side has a face exactly if the search found it with one. -/
theorem sideTaken_iff (sound : m.Sound) : m.SideTaken n₁ n₂ ↔ ¬ m'.Free h := by
  cases provided with
  | present found free_iff =>
    rw [free_iff]
    constructor
    · rintro ⟨g, f, found', reports⟩ free
      cases found.symm.trans found'
      cases (faceOf_eq_none_iff.2 free).symm.trans reports
    · intro taken
      have live := (sound.leads_of_findHalfedge found).live
      rcases containsHalfedge_iff_faceOf?.1 live with ⟨- | f, reports⟩
      · exact absurd reports taken
      · exact ⟨h, f, found, faceOf_eq_ok_iff.2 reports⟩
  | new missing _ _ _ free =>
    refine iff_of_false ?_ (not_not_intro free)
    rintro ⟨g, f, found, -⟩
    cases missing.symm.trans found

end Provided

namespace Outlined

variable {m₁ m₂ m₃ : Mesh} {a b c : NodeId} {h₁ h₂ h₃ : HalfedgeId}
  (outlined : m.Outlined a b c h₁ h₂ h₃ m₁ m₂ m₃) (sound : m.Sound)

include outlined sound

theorem ready : m.OutlineReady m.Interior a b c := by
  have chain := outlined.chain sound
  constructor
  case live => exact outlined.live sound
  case ab => exact chain.ab
  case bc => exact chain.bc
  case ca => exact chain.ca
  case side₁ => exact (outlined.provided₁ sound).sideReady
  case side₂ => exact (outlined.provided₂ sound).sideReady
  case side₃ => exact (outlined.provided₃ sound).sideReady

theorem sideTaken_iff : (∃ side ∈ [(a, b), (b, c), (c, a)], m.SideTaken side.1 side.2) ↔
    ∃ h ∈ Corners.toList ⟨h₁, h₂, h₃⟩, ¬ m₃.Free h := by
  simp only [List.mem_cons, List.not_mem_nil, or_false, exists_eq_or_imp, exists_eq_left,
    Corners.toList, (outlined.provided₁ sound).sideTaken_iff sound,
    (outlined.provided₂ sound).sideTaken_iff sound, (outlined.provided₃ sound).sideTaken_iff sound]

/-- The sides of the outline are not free exactly if the search found one with a face. -/
theorem notFree_iff {error : MeshError} (misfit : m₃.Misfit h₁ h₂ h₃ error) :
    error = .addFace .notFree ↔
      ∃ side ∈ [(a, b), (b, c), (c, a)], m.SideTaken side.1 side.2 := by
  have chain := outlined.chain sound
  have allFree (free₁ : m₃.Free h₁) (free₂ : m₃.Free h₂) (free₃ : m₃.Free h₃) :
      ¬ ∃ h ∈ Corners.toList ⟨h₁, h₂, h₃⟩, ¬ m₃.Free h := by
    simp [free₁, free₂, free₃]
  rw [outlined.sideTaken_iff sound]
  cases misfit with
  | @dead h mem missing =>
    have live : m₃.containsHalfedge h = true := by
      rcases Corners.mem_toList.1 mem with rfl | rfl | rfl
      · exact chain.side₁.live
      · exact chain.side₂.live
      · exact chain.side₃.live
    cases live.symm.trans missing
  | @faced h f mem reports =>
    exact iff_of_true rfl ⟨h, mem, fun free => by cases free.symm.trans reports⟩
  | unchained free₁ free₂ free₃ => exact iff_of_false (by simp) (allFree free₁ free₂ free₃)
  | blocked free₁ free₂ free₃ => exact iff_of_false (by simp) (allFree free₁ free₂ free₃)

end Outlined

/-- What is refused before the sides are there is not refused because of a face. -/
theorem Unsided.ne_notFree {error : MeshError} (unsided : m.Unsided n₁ n₂ error) :
    error ≠ .addFace .notFree := by
  cases unsided.unable <;> simp

theorem Unfit.notFree_iff {a b c : NodeId} {error : MeshError} (unfit : m.Unfit a b c error)
    (sound : m.Sound) : error = .addFace .notFree ↔ m.OutlineReady m.Interior a b c ∧
      ∃ side ∈ [(a, b), (b, c), (c, a)], m.SideTaken side.1 side.2 := by
  constructor
  · intro same
    cases unfit with
    | side₁ unsided => exact absurd same unsided.ne_notFree
    | side₂ _ unsided => exact absurd same unsided.ne_notFree
    | side₃ _ _ unsided => exact absurd same unsided.ne_notFree
    | face outlined misfit =>
      exact ⟨outlined.ready sound, (outlined.notFree_iff sound misfit).1 same⟩
  · rintro ⟨ready, taken⟩
    rcases unfit.exists_misfit sound ready with ⟨h₁, h₂, h₃, m₁, m₂, m₃, outlined, misfit⟩
    exact (outlined.notFree_iff sound misfit).2 taken

/-- Adding a triangle fails because of a face exactly if the sides are ready and one that was found
has a face. -/
theorem Sound.outcome_addTriangle_notFree_iff (sound : m.Sound) (a b c : NodeId) :
    ((Operation.addTriangle a b c).outcome m).1 = .error (.refused (.addFace .notFree)) ↔
      m.OutlineReady m.Interior a b c ∧
        ∃ side ∈ [(a, b), (b, c), (c, a)], m.SideTaken side.1 side.2 := by
  have ends : (Operation.addTriangle a b c).edit.Ends (Session.on m)
      (fun _ _ => ¬ ∃ side ∈ [(a, b), (b, c), (c, a)], m.SideTaken side.1 side.2)
      (fun error _ => m.Unfit a b c error) := by
    apply (Edit.addTriangle_ends (s := Session.on m) sound).bind
    · rintro f t ⟨h₁, h₂, h₃, m₁, m₂, m₃, outlined, fits, -⟩ taken
      rcases (outlined.sideTaken_iff sound).1 taken with ⟨h, mem, unfree⟩
      exact unfree (fits.free h mem)
    · exact fun _ _ refused => refused.1
  rcases Operation.outcome_of_ends ends with
    ⟨reply, m', ended, untaken⟩ | ⟨error, m', ended, unfit⟩
  · rw [ended]
    exact iff_of_false (by simp) fun taken => untaken taken.2
  · rw [ended, ← unfit.notFree_iff sound]
    simp

/-- Whatever operations were run: adding a triangle fails because a side has a face exactly if all
sides are there or can be added, and a side that the search finds has one.  Where no parallel
half-edges leave a choice, it does not fail so if each side is missing or has no face. -/
theorem addTriangle_notFree_of_operations (operations : List Operation) (a b c : NodeId) :
    let m := empty.run operations
    let result := (Operation.addTriangle a b c).outcome m
    let sides := [(a, b), (b, c), (c, a)]
    ∃ classes, m.classifyNodes = .ok classes ∧
      (result.1 = .error (.refused (.addFace .notFree)) ↔
        m.OutlineReady (· ∈ classes.interior) a b c ∧
          ∃ side ∈ sides, m.SideTaken side.1 side.2) ∧
      ((∀ side ∈ sides, m.SideSingle side.1 side.2) →
        (∀ side ∈ sides, m.SideReusable side.1 side.2) →
          result.1 ≠ .error (.refused (.addFace .notFree))) := by
  intro m result sides
  have sound : m.Sound := sound_empty.run operations
  have refused := sound.outcome_addTriangle_notFree_iff a b c
  rcases sound.exists_interior with ⟨classes, classified, interior⟩
  refine ⟨classes, classified, ?_, fun single reusable failed => ?_⟩
  · rw [show (· ∈ classes.interior) = m.Interior from funext fun n => propext (interior n)]
    exact refused
  · rcases (refused.1 failed).2 with ⟨side, mem, taken⟩
    exact (reusable side mem).not_sideTaken sound (single side mem) taken

/-- Two parallel edges, one of which has a triangle at its side, and a node on the same side. -/
def doubled : List Operation :=
  [.addNode ⟨0, 0⟩, .addNode ⟨2, 0⟩, .addNode ⟨1, 2⟩, .addNode ⟨1, 3⟩,
    .addEdge ⟨1, 0⟩ ⟨2, 0⟩, .addEdge ⟨1, 0⟩ ⟨2, 0⟩, .addTriangle ⟨1, 0⟩ ⟨2, 0⟩ ⟨3, 0⟩]

/-- Another triangle is refused because of the face at the first of the edges, although the second
one has none and the other sides are missing. -/
theorem doubled_refused :
    let m := empty.run doubled
    let a : NodeId := ⟨1, 0⟩
    let b : NodeId := ⟨2, 0⟩
    let c : NodeId := ⟨4, 0⟩
    (∀ n ∈ [a, b, c], m.containsNode n = true) ∧ a ≠ b ∧ b ≠ c ∧ c ≠ a ∧
      (∀ side ∈ [(a, b), (b, c), (c, a)], m.SideReusable side.1 side.2) ∧
      ((Operation.addTriangle a b c).outcome m).1 = .error (.refused (.addFace .notFree)) := by
  decide +kernel

end Mesh

end PlanarMesh
