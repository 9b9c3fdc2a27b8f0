import PlanarMesh.Proofs.Build.Fan
import PlanarMesh.Proofs.Reachability

/-!
# Building triangle lists

A triangle list is built exactly if it can be (`TriangleList.Buildable`), whatever mesh it is built
into.  Along the list the mesh stays a drawing of the triangles so far.  A triangle that is refused
shows that the list up to it cannot be built, and a drawing of the whole list shows that the list
can.  What has then been added is described by `Builds`.
-/

namespace PlanarMesh

namespace Mesh

open TriangleList (sides Fanned)

/-- The corners of the face are the nodes at the places that the triangle names. -/
def HasCorners (m : Mesh) (ns : List NodeId) (t : Corners Nat) (f : FaceId) : Prop :=
  ∃ a b c, ns[t.a]? = some a ∧ ns[t.b]? = some b ∧ ns[t.c]? = some c ∧
    m.faceNodes f = .ok ⟨a, b, c⟩

/-- The edge connects the `v`-th node with the `x`-th. -/
def Joins (m : Mesh) (ns : List NodeId) (e : EdgeId) (v x : Nat) : Prop :=
  ∃ h, h.edge = e ∧ m.Spans ns h v x

/-- `m'` is `m` with the points and triangles of the list, `ns` being the new nodes. -/
structure Builds (m : Mesh) (list : TriangleList) (ns : List NodeId) (m' : Mesh) : Prop where
  nodeCount : m'.nodeCount = m.nodeCount + list.points.length
  edgeCount : m'.edgeCount = m.edgeCount + (pairs (sides list.triangles)).card
  faceCount : m'.faceCount = m.faceCount + list.triangles.length
  nodes_nodup : ns.Nodup
  nodes_new : ∀ n ∈ ns, m.containsNode n = false
  nodes : ∀ n, m'.containsNode n = true ↔ n ∈ ns ∨ m.containsNode n = true
  positions : List.Forall₂ (fun p n => m'.position n = .ok p) list.points ns
  faces : ∃ fs : List FaceId, fs.Nodup ∧ (∀ f ∈ fs, m.containsFace f = false) ∧
    (∀ f, m'.containsFace f = true ↔ f ∈ fs ∨ m.containsFace f = true) ∧
    List.Forall₂ (m'.HasCorners ns) list.triangles fs
  edges : ∀ v x, (v, x) ∈ sides list.triangles → ∃! e, m'.Joins ns e v x
  edges_new : ∀ e v x, m'.Joins ns e v x → m.containsEdge e = false
  edges_iff : ∀ e, m'.containsEdge e = true ↔ m.containsEdge e = true ∨
    ∃ v x, (v, x) ∈ sides list.triangles ∧ m'.Joins ns e v x
  node? : ∀ n, m.containsNode n = true → m'.node? n = m.node? n
  halfedge? : ∀ h, m.containsHalfedge h = true → m'.halfedge? h = m.halfedge? h
  face? : ∀ f, m.containsFace f = true → m'.face? f = m.face? f

/-- `fs` are the new faces of `m`, one for each triangle. -/
structure Filled (base : Mesh) (ns : List NodeId) (triangles : List (Corners Nat))
    (fs : List FaceId) (m : Mesh) : Prop where
  nodup : fs.Nodup
  fresh : ∀ f ∈ fs, base.containsFace f = false
  containsFace : ∀ f, m.containsFace f = true ↔ f ∈ fs ∨ base.containsFace f = true
  corners : List.Forall₂ (m.HasCorners ns) triangles fs
  faceCount : m.faceCount = base.faceCount + triangles.length

variable {m base m₁ m₂ m₃ m' : Mesh} {ns : List NodeId} {triangles : List (Corners Nat)}
  {lines : List (Nat × Nat)} {t : Corners Nat} {a b c : NodeId} {h₁ h₂ h₃ : HalfedgeId}

/-! ## One triangle -/

theorem Filled.nil (base : Mesh) (ns : List NodeId) : base.Filled ns [] [] base where
  nodup := .nil
  fresh := by simp
  containsFace := by simp
  corners := .nil
  faceCount := rfl

section Triangle

variable (drawn : base.Drawn ns triangles lines m) (atA : ns[t.a]? = some a)
  (atB : ns[t.b]? = some b) (atC : ns[t.c]? = some c)
  (outlined : m.Outlined a b c h₁ h₂ h₃ m₁ m₂ m₃) (fits : m₃.Fits h₁ h₂ h₃)
  {f : FaceId} (added : m₃.AddedFace h₁ h₂ h₃ f m')

include drawn atA atB atC outlined fits added

theorem Drawn.of_triangle (corners : t.toList.Nodup) :
    base.Drawn ns (triangles ++ [t]) (lines ++ t.sides) m' := by
  rcases drawn.of_outlined atA atB atC outlined with ⟨drawn₃, side₁, side₂, side₃⟩
  exact drawn₃.of_addedFace side₁ side₂ side₃ added fits (List.subset_append_right _ _) corners

theorem Filled.of_triangle {fs : List FaceId} (filled : base.Filled ns triangles fs m) :
    base.Filled ns (triangles ++ [t]) (fs ++ [f]) m' := by
  rcases drawn.of_outlined atA atB atC outlined with ⟨drawn₃, side₁, side₂, side₃⟩
  have contains : ∀ g, m₃.containsFace g = m.containsFace g := fun g => by
    rw [Mesh.containsFace, Mesh.containsFace, Mesh.face?, Mesh.face?, outlined.faces]
  have dead := added.not_contains
  rw [contains, Bool.eq_false_iff, ne_eq, filled.containsFace, not_or] at dead
  have grown := (outlined.grown drawn.sound).trans (added.grown drawn₃.sound fits)
  constructor
  case nodup =>
    rw [← List.concat_eq_append, List.nodup_concat]
    exact ⟨dead.1, filled.nodup⟩
  case fresh =>
    intro g mem
    rcases List.mem_append.1 mem with old | new
    · exact filled.fresh g old
    · rw [List.mem_singleton.1 new]
      exact Bool.eq_false_iff.2 dead.2
  case containsFace =>
    intro g
    rw [added.containsFace, contains, filled.containsFace, List.mem_append, List.mem_singleton]
    tauto
  case corners =>
    refine List.rel_append (filled.corners.imp ?_) (.cons ⟨a, b, c, atA, atB, atC, ?_⟩ .nil)
    · rintro t' g ⟨a', b', c', atA', atB', atC', corners⟩
      exact ⟨a', b', c', atA', atB', atC', grown.faceNodes drawn.sound corners⟩
    · exact faceNodes_of_triangle added.found rfl added.triangle
        ((added.origin? _).trans (side₁.starts atA)) ((added.origin? _).trans (side₂.starts atB))
        ((added.origin? _).trans (side₃.starts atC))
  case faceCount =>
    have same : m₃.faceCount = m.faceCount := by
      rw [Mesh.faceCount, outlined.faces]
      rfl
    rw [added.faceCount, same, filled.faceCount, List.length_append]
    rfl

end Triangle

/-! ## The whole list -/

section Whole

variable {points : List Point} {fs : List FaceId} (sound : m.Sound)
  (planted : m.Planted points ns base) (drawn : base.Drawn ns triangles (sides triangles) m')
  (filled : base.Filled ns triangles fs m')

include sound planted drawn filled

theorem builds_of_drawn : m.Builds ⟨points, triangles⟩ ns m' := by
  have spared := planted.spared.trans drawn.spared
  have fresh : ∀ n, m.containsNode n = true → n ∉ ns := fun n live mem => by
    rw [planted.fresh n mem] at live
    cases live
  have contains : ∀ f, base.containsFace f = m.containsFace f := fun f => by
    rw [Mesh.containsFace, Mesh.containsFace, Mesh.face?, Mesh.face?, planted.faces]
  have counts : base.edgeCount = m.edgeCount ∧ base.faceCount = m.faceCount := by
    rw [Mesh.edgeCount, Mesh.faceCount, planted.edges, planted.faces]
    exact ⟨rfl, rfl⟩
  have joined : ∀ {e v x}, m'.Joins ns e v x → m.containsEdge e = false := by
    rintro - v x ⟨h, rfl, spans⟩
    rw [← containsHalfedge_eq_containsEdge, Bool.eq_false_iff]
    intro live
    rcases spans.exists_start with ⟨n, atV, start⟩
    rw [spared.origin? live] at start
    exact fresh n (sound.origin_live h n start) (List.mem_of_getElem? atV)
  constructor
  case nodeCount => rw [drawn.nodeCount, planted.nodeCount]
  case edgeCount => rw [drawn.edgeCount, counts.1]
  case faceCount => rw [filled.faceCount, counts.2]
  case nodes_nodup => exact planted.nodup
  case nodes_new => exact planted.fresh
  case nodes =>
    intro n
    by_cases mem : n ∈ ns
    · simp [mem, drawn.grown.containsNode (planted.live n mem)]
    · rw [containsNode, containsNode, spared.node? n mem]
      simp [mem]
  case positions =>
    apply planted.placed.imp
    intro p n placed
    have live : base.containsNode n = true := Option.isSome_iff_exists.2 ⟨_, placed⟩
    rw [position_eq_orInvalid, drawn.grown.position n live, placed]
    rfl
  case faces =>
    refine ⟨fs, filled.nodup, fun f mem => ?_, fun f => ?_, filled.corners⟩
    · rw [← contains, filled.fresh f mem]
    · rw [filled.containsFace, contains]
  case edges =>
    intro v x side
    rcases drawn.line v x side with ⟨h, spans⟩
    refine ⟨h.edge, ⟨h, rfl, spans⟩, ?_⟩
    rintro - ⟨g, rfl, spans'⟩
    rw [drawn.unique g h v x spans' spans]
  case edges_new => exact fun _ _ _ => joined
  case edges_iff =>
    intro e
    constructor
    · intro live
      have side : m'.containsHalfedge e.first = true :=
        (containsHalfedge_eq_containsEdge m' e.first).trans live
      refine (drawn.within e.first side).imp (fun old => ?_) ?_
      · rwa [containsHalfedge, planted.halfedge?, ← containsHalfedge,
          containsHalfedge_eq_containsEdge] at old
      · rintro ⟨v, x, spans, line | line⟩
        · exact ⟨v, x, line, e.first, rfl, spans⟩
        · exact ⟨x, v, line, e.first.pair, rfl, spans.pair⟩
    · rintro (old | ⟨v, x, -, h, rfl, spans⟩)
      · have side : m.containsHalfedge e.first = true :=
          (containsHalfedge_eq_containsEdge m e.first).trans old
        exact (containsHalfedge_eq_containsEdge m' e.first).symm.trans
          (spared.containsHalfedge side)
      · rw [← containsHalfedge_eq_containsEdge, spans.live]
  case node? => exact fun n live => spared.node? n (fresh n live)
  case halfedge? => exact spared.halfedge?
  case face? => exact spared.face?

end Whole

end Mesh

namespace Edit

open Mesh
open TriangleList (sides Fanned)

variable {s : Session}

section Triangles

variable {base : Mesh} {ns : List NodeId} {built rest : List (Corners Nat)} {fs : List FaceId}
  (drawn : base.Drawn ns built (sides built) s.mesh) (filled : base.Filled ns built fs s.mesh)

include drawn filled

/-- A triangle is added if the list up to it can be built. -/
theorem addTriangle_ends_of_drawn {t : Corners Nat} (places : ∀ v ∈ t.toList, v < ns.length)
    (corners : t.toList.Nodup) :
    (addTriangle (ns.getD t.a Key.null) (ns.getD t.b Key.null) (ns.getD t.c Key.null)).Ends s
      (fun _ m => base.Drawn ns (built ++ [t]) (sides (built ++ [t])) m ∧
        ∃ fs, base.Filled ns (built ++ [t]) fs m)
      (fun _ _ => ¬ (Fanned (built ++ [t]) ∧ (sides (built ++ [t])).Nodup)) := by
  have place : ∀ v ∈ t.toList, ns[v]? = some (ns.getD v Key.null) := fun v mem => by
    simp [places v mem]
  have atA := place t.a (by simp)
  have atB := place t.b (by simp)
  have atC := place t.c (by simp)
  apply (addTriangle_ends drawn.sound).mono
  · rintro f m ⟨h₁, h₂, h₃, m₁, m₂, m₃, outlined, fits, added⟩
    rw [TriangleList.sides_concat]
    exact ⟨drawn.of_triangle atA atB atC outlined fits added corners, _,
      filled.of_triangle drawn atA atB atC outlined fits added⟩
  · rintro error m ⟨unfit, -⟩ ⟨fanned, nodup⟩
    exact drawn.not_unfit corners fanned nodup (List.Subset.refl _) atA atB atC unfit

/-- Triangles are added one after another as long as the list up to each can be built. -/
theorem forM_addTriangle_ends
    (proper : ∀ t ∈ rest, (∀ v ∈ t.toList, v < ns.length) ∧ t.toList.Nodup) :
    (rest.forM fun t => do
        let _ ← addTriangle (ns.getD t.a Key.null) (ns.getD t.b Key.null)
          (ns.getD t.c Key.null)).Ends s
      (fun _ m => base.Drawn ns (built ++ rest) (sides (built ++ rest)) m ∧
        ∃ fs, base.Filled ns (built ++ rest) fs m)
      (fun _ _ => ¬ (Fanned (built ++ rest) ∧ (sides (built ++ rest)).Nodup)) := by
  induction rest generalizing built fs s with
  | nil =>
    rw [List.append_nil]
    exact ⟨drawn, fs, filled⟩
  | cons t rest inductionHypothesis =>
    rcases proper t List.mem_cons_self with ⟨places, corners⟩
    rw [show built ++ t :: rest = (built ++ [t]) ++ rest by simp]
    apply (addTriangle_ends_of_drawn drawn filled places corners).discard.bind
    · rintro - u ⟨drawn', fs', filled'⟩
      exact inductionHypothesis drawn' filled' fun t' mem => proper t' (List.mem_cons_of_mem t mem)
    · rintro - - refused ⟨fanned, nodup⟩
      rw [TriangleList.sides_append] at nodup
      exact refused ⟨fanned.of_append, nodup.of_append_left⟩

end Triangles

/-- A list of triangles is drawn on new nodes if it can be built, and otherwise refused. -/
theorem build_draws (sound : s.mesh.Sound) (list : TriangleList) :
    (build list).Ends s (fun ns m => list.Buildable ∧ ∃ base fs,
        s.mesh.Planted list.points ns base ∧
        base.Drawn ns list.triangles (sides list.triangles) m ∧
        base.Filled ns list.triangles fs m)
      (fun _ _ => ¬ list.Buildable) := by
  unfold build
  cases defect : list.firstDefect? with
  | some error =>
    intro buildable
    have proper := TriangleList.firstDefect?_eq_none_iff.2 fun t mem =>
      ⟨buildable.places t mem, buildable.corners t mem⟩
    rw [defect] at proper
    cases proper
  | none =>
    have proper := TriangleList.firstDefect?_eq_none_iff.1 defect
    refine (mapM_addNode_ends sound).bind ?_ fun _ _ => False.elim
    intro ns t planted
    have ground := planted.ground sound
    rw [planted.placed.length_eq] at proper
    apply (forM_addTriangle_ends ground.drawn (.nil t.mesh ns) proper).bind
    · rintro - u ⟨drawn, fs, filled⟩
      rw [ends_bind_of_ok (record_apply _ _)]
      refine ⟨?_, t.mesh, fs, planted, drawn, filled⟩
      rw [← planted.placed.length_eq] at proper
      exact ⟨fun t mem => (proper t mem).1, fun t mem => (proper t mem).2, drawn.sides_nodup,
        drawn.fanned⟩
    · exact fun _ _ refused buildable => refused ⟨buildable.fanned, buildable.sides⟩

/-- A list of triangles is built if it can be, and otherwise refused. -/
theorem build_ends (sound : s.mesh.Sound) (list : TriangleList) :
    (build list).Ends s (fun ns m => list.Buildable ∧ s.mesh.Builds list ns m)
      (fun _ _ => ¬ list.Buildable) := by
  refine (build_draws sound list).mono ?_ fun _ _ => id
  rintro ns m ⟨buildable, base, fs, planted, drawn, filled⟩
  exact ⟨buildable, builds_of_drawn sound planted drawn filled⟩

end Edit

namespace Operation

open Mesh

variable {m : Mesh}

/-- The operation is not refused. -/
def Succeeds (operation : Operation) (m : Mesh) : Prop :=
  ∃ reply m', operation.outcome m = (.ok reply, m')

/-- What comes of building a list into a sound mesh. -/
theorem outcome_build (sound : m.Sound) (list : TriangleList) :
    (list.Buildable ∧ ∃ ns m', (build list).outcome m = (.ok (.nodes ns), m') ∧
        m.Builds list ns m') ∨
      ¬ list.Buildable ∧ ∃ error m', (build list).outcome m = (.error (.refused error), m') := by
  have ends : (build list).edit.Ends (Session.on m)
      (fun reply m' => ∃ ns, reply = .nodes ns ∧ list.Buildable ∧ m.Builds list ns m')
      (fun _ _ => ¬ list.Buildable) := by
    refine (Edit.build_ends (s := Session.on m) sound list).bind ?_ fun _ _ => id
    exact fun ns t built => ⟨ns, rfl, built⟩
  rcases outcome_of_ends ends with
    ⟨_, m', ended, ns, rfl, buildable, builds⟩ | ⟨error, m', ended, refused⟩
  · exact .inl ⟨buildable, ns, m', ended, builds⟩
  · exact .inr ⟨refused, error, m', ended⟩

theorem succeeds_build_iff (sound : m.Sound) (list : TriangleList) :
    (build list).Succeeds m ↔ list.Buildable := by
  rcases outcome_build sound list with
    ⟨buildable, ns, m', ended, -⟩ | ⟨refused, error, m', ended⟩
  · exact iff_of_true ⟨_, m', ended⟩ buildable
  · refine iff_of_false ?_ refused
    rintro ⟨reply, m'', ended'⟩
    rw [ended] at ended'
    cases ended'

end Operation

namespace Mesh

/-- Whatever operations were run: a list of triangles is built exactly if it can be, so that the
order of the triangles does not matter, and then just its points and triangles are new. -/
theorem build_of_operations (operations : List Operation) (points : List Point)
    (triangles : List (Corners Nat)) :
    let m := empty.run operations
    let list : TriangleList := ⟨points, triangles⟩
    ((list.Buildable ∧ ∃ ns m', (Operation.build list).outcome m = (.ok (.nodes ns), m') ∧
          m.Builds list ns m') ∨
        ¬ list.Buildable ∧ ∃ error m',
          (Operation.build list).outcome m = (.error (.refused error), m')) ∧
      ∀ triangles', triangles.Perm triangles' →
        ((Operation.build ⟨points, triangles'⟩).Succeeds m ↔
          (Operation.build list).Succeeds m) := by
  have sound := sound_empty.run operations
  refine ⟨Operation.outcome_build sound _, fun triangles' same => ?_⟩
  rw [Operation.succeeds_build_iff sound, Operation.succeeds_build_iff sound]
  exact (TriangleList.buildable_iff_of_perm same).symm

end Mesh

end PlanarMesh
