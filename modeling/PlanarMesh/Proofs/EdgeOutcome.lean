import PlanarMesh.Proofs.Boundary.Classes
import PlanarMesh.Proofs.Edit.Growth

/-!
# When an edge can be added

An edge is refused because an end of it is dead, because its ends are the same node, or because an
end is listed as interior when the nodes are classified.  Otherwise it is added
(`addEdge_of_operations`): two half-edges without a face, each of them put into the walk around
its node somewhere, and nothing else.

The search for a free place looks at the half-edges that arrive at a node, the classification at
those in both directions.  They agree because where a half-edge without a face leaves a node,
another one arrives (`Sound.mem_interior_iff`).
-/

namespace PlanarMesh

namespace Mesh

variable {m m' : Mesh}

/-! ## Interior nodes -/

/-- Where a half-edge without a face starts, another one ends. -/
theorem Sound.exists_free_finish (sound : m.Sound) {h : HalfedgeId} {n : NodeId} (free : m.Free h)
    (start : m.origin? h = some n) : ∃ g, m.Free g.pair ∧ m.origin? g = some n := by
  rcases sound.exists_follows_to start with ⟨g, follows, start'⟩
  exact ⟨g, (sound.free_iff follows).1 free, start'⟩

theorem Sound.interior_iff (sound : m.Sound) {n : NodeId} :
    m.Interior n ↔ (∃ h, m.origin? h = some n) ∧ ¬ ∃ h, m.Free h ∧ m.origin? h = some n := by
  refine and_congr_right fun _ => ⟨?_, ?_⟩
  · rintro faced ⟨h, free, start⟩
    rcases sound.exists_free_finish free start with ⟨g, free', start'⟩
    exact faced g start' free'
  · intro faced h start free
    exact faced (sound.exists_free_start free start)

/-- The nodes that are classified as interior are those without room for an edge. -/
theorem Sound.exists_interior (sound : m.Sound) :
    ∃ classes, m.classifyNodes = .ok classes ∧ ∀ n, n ∈ classes.interior ↔ m.Interior n := by
  rcases sound.exists_classifyNodes with ⟨classes, place, classified, lies, -, interior, -⟩
  refine ⟨classes, classified, fun n => ?_⟩
  rw [interior, sound.interior_iff]
  constructor
  · rintro ⟨live, inner⟩
    have places := lies n live
    rw [inner] at places
    refine ⟨?_, by simpa using places.boundary_iff⟩
    simpa using places.isolated_iff
  · rintro ⟨⟨h, start⟩, faced⟩
    have live := sound.origin_live h n start
    refine ⟨live, ?_⟩
    cases inner : place n with
    | interior => rfl
    | isolated => exact absurd start ((lies n live).isolated_iff.1 inner h)
    | boundary => exact absurd ((lies n live).boundary_iff.1 inner) faced

/-! ## The walk around an end -/

/-- In `m'` the walk around `n` lists what it lists in `m`, and somewhere `h` as well; it starts
as before if there was something to start from. -/
def Inserts (m : Mesh) (n : NodeId) (h : HalfedgeId) (m' : Mesh) : Prop :=
  ∃ A B, m.Tour n (A ++ B) ∧ m'.Tour n (A ++ h :: B) ∧ (A = [] → B = [])

/-- A docked half-edge is put into the walk around its node. -/
theorem Docked.inserts {h : HalfedgeId} {n : NodeId} (docked : m.Docked h n m') (sound : m.Sound)
    (sound' : m'.Sound) (live : m.containsNode n = true) (room : ¬ m.Interior n)
    (kept : ∀ record r, m.node? n = some record → record.halfedge = some r →
      m'.node? n = some record) : m.Inserts n h m' := by
  rcases Option.isSome_iff_exists.1 live with ⟨record, found⟩
  cases chosen : record.halfedge with
  | none =>
    have alone := docked.ring_of_isolated record found chosen
    have start : m'.origin? h = some n := (alone.mem_iff h).1 (by simp)
    rcases sound'.exists_tour (sound'.origin_live h n start) with ⟨l, tour⟩
    have only : l = [h] := by
      simpa using Cycle.coe_eq_coe.1 (tour.ring.unique alone)
    exact ⟨[], [], sound.tour_of_isolated found chosen, only ▸ tour, fun _ => rfl⟩
  | some r =>
    rcases sound.exists_firstFree_of_room found chosen room with ⟨l, A, u, B, around, start, first⟩
    have entered := docked.ring record r l A u B found chosen around start first
    have split : l = (A ++ [u]) ++ B := by simpa using first.split
    subst split
    refine ⟨A ++ [u], B, around.tour found chosen start, ?_, by simp⟩
    have start' : (A ++ u :: h :: B).head? = some r := by
      cases A <;> simpa using start
    have tour := entered.tour (kept record r found chosen) chosen start'
    simpa using tour

/-! ## The new edge -/

/-- `m'` is `m` with a new edge, of which `h` leads from one node to the other, as readers see
it. -/
structure GainsEdge (m : Mesh) (n₁ n₂ : NodeId) (h : HalfedgeId) (m' : Mesh) : Prop where
  fresh : m.containsEdge h.edge = false
  containsEdge : ∀ e, m'.containsEdge e = true ↔ e = h.edge ∨ m.containsEdge e = true
  edgeCount : m'.edgeCount = m.edgeCount + 1
  origin : m'.origin h = .ok n₁
  target : m'.target h = .ok n₂
  isBoundary : m'.isBoundary h = .ok true ∧ m'.isBoundary h.pair = .ok true
  origin_of_ne : ∀ g : HalfedgeId, g.edge ≠ h.edge → m'.origin g = m.origin g
  faceOf_of_ne : ∀ g : HalfedgeId, g.edge ≠ h.edge → m'.faceOf g = m.faceOf g
  inserts₁ : m.Inserts n₁ h m'
  inserts₂ : m.Inserts n₂ h.pair m'
  tour_of_ne : ∀ n, n ≠ n₁ → n ≠ n₂ → m.containsNode n = true →
    ∃ l, m.Tour n l ∧ m'.Tour n l
  representative : ∀ n record r, m.node n = .ok record → record.halfedge = some r →
    m'.node n = .ok record
  position : ∀ n, m'.position n = m.position n
  face : ∀ f, m'.face f = m.face f

namespace AddedEdge

variable {n₁ n₂ : NodeId} {e : EdgeId} (added : m.AddedEdge n₁ n₂ e m')

include added

theorem containsEdge (e' : EdgeId) :
    m'.containsEdge e' = true ↔ e' = e ∨ m.containsEdge e' = true := by
  have told : m'.containsHalfedge e'.first = true ↔
      e' = e ∨ m.containsHalfedge e'.first = true := by
    rw [containsHalfedge_iff_faceOf?, containsHalfedge_iff_faceOf?, added.faceOf?]
    by_cases new : e' = e <;> simp [new, Key.first]
  rwa [containsHalfedge_eq_containsEdge, containsHalfedge_eq_containsEdge] at told

theorem inserts_first (sound : m.Sound) (able : m.Connectable n₁ n₂) :
    m.Inserts n₁ e.first m' :=
  added.docked₁.inserts sound added.sound able.live₁ able.room₁ fun _ _ =>
    added.node?_of_represented

theorem inserts_second (sound : m.Sound) (able : m.Connectable n₁ n₂) :
    m.Inserts n₂ e.second m' :=
  added.docked₂.inserts sound added.sound able.live₂ able.room₂ fun _ _ =>
    added.node?_of_represented

/-- Around other nodes the walk stays. -/
theorem tour_of_ne {n : NodeId} (sound : m.Sound) (other₁ : n ≠ n₁) (other₂ : n ≠ n₂)
    (live : m.containsNode n = true) : ∃ l, m.Tour n l ∧ m'.Tour n l := by
  rcases sound.exists_tour live with ⟨l, tour⟩
  refine ⟨l, tour, tour.of_ring sound ?_ ?_⟩
  · exact added.node?_of_ne other₁ other₂
  · exact added.ring_of_ne n l other₁ other₂ tour.ring

theorem gainsEdge (sound : m.Sound) (able : m.Connectable n₁ n₂) :
    m.GainsEdge n₁ n₂ e.first m' where
  fresh := added.not_contains
  containsEdge := added.containsEdge
  edgeCount := added.edgeCount
  origin := origin_eq_ok_iff.2 added.origin?_first
  target := target_eq_ok_iff.2 added.origin?_second
  isBoundary := by
    constructor
    · exact isBoundary_eq_true_iff.2 (added.free_new rfl)
    · exact isBoundary_eq_true_iff.2 (added.free_new rfl)
  origin_of_ne g old := by
    rw [origin_eq_orInvalid, origin_eq_orInvalid, added.origin?_of_ne old]
  faceOf_of_ne g old := by
    rw [faceOf_eq_orInvalid, faceOf_eq_orInvalid, added.faceOf?,
      if_neg (show g.edge ≠ e from old)]
  inserts₁ := added.inserts_first sound able
  inserts₂ := added.inserts_second sound able
  tour_of_ne _ := added.tour_of_ne sound
  representative n record r found chosen := by
    rw [node_eq_ok_iff] at found ⊢
    exact added.node?_of_represented found chosen
  position n := by
    rw [position_eq_orInvalid, position_eq_orInvalid, added.position]
  face f := by
    rw [face, face, added.face?]

end AddedEdge

/-- Whatever operations were run: an edge is added exactly if its ends are live, different and not
interior, and otherwise it is refused for the first of these reasons. -/
theorem addEdge_of_operations (operations : List Operation) (n₁ n₂ : NodeId) :
    let m := empty.run operations
    let result := (Operation.addEdge n₁ n₂).outcome m
    ∃ classes, m.classifyNodes = .ok classes ∧ (∀ n, n ∈ classes.interior ↔ m.Interior n) ∧
      ((∃ reply, result.1 = .ok reply) ↔ m.containsNode n₁ = true ∧ m.containsNode n₂ = true ∧
        n₁ ≠ n₂ ∧ n₁ ∉ classes.interior ∧ n₂ ∉ classes.interior) ∧
      (∀ reply, result.1 = .ok reply →
        ∃ h, reply = .halfedge h ∧ m.GainsEdge n₁ n₂ h result.2) ∧
      ∀ fault, result.1 = .error fault →
        ∃ error, fault = .refused error ∧ m.Unconnectable n₁ n₂ error := by
  intro m result
  have sound : m.Sound := sound_empty.run operations
  rcases sound.exists_interior with ⟨classes, classified, interior⟩
  refine ⟨classes, classified, interior, ?_⟩
  have able_iff : m.Connectable n₁ n₂ ↔ m.containsNode n₁ = true ∧ m.containsNode n₂ = true ∧
      n₁ ≠ n₂ ∧ n₁ ∉ classes.interior ∧ n₂ ∉ classes.interior := by
    rw [interior, interior]
    constructor
    · exact fun able => ⟨able.live₁, able.live₂, able.ne, able.room₁, able.room₂⟩
    · exact fun ⟨live₁, live₂, ne, room₁, room₂⟩ => ⟨live₁, live₂, ne, room₁, room₂⟩
  rw [← able_iff]
  have ends : (Operation.addEdge n₁ n₂).edit.Ends (Session.on m)
      (fun reply m' => m.Connectable n₁ n₂ ∧
        ∃ h, reply = .halfedge h ∧ m.GainsEdge n₁ n₂ h m')
      (fun error _ => m.Unconnectable n₁ n₂ error) := by
    apply (Edit.addEdge_ends (s := Session.on m) sound).bind
    · rintro h t ⟨able, e, rfl, added⟩
      exact ⟨able, _, rfl, added.gainsEdge sound able⟩
    · exact fun _ _ refused => refused.1
  rcases Operation.outcome_of_ends ends with
    ⟨reply, m', ended, able, gains⟩ | ⟨error, m', ended, unable⟩
  · have answer : result.1 = .ok reply := congrArg Prod.fst ended
    have after : result.2 = m' := congrArg Prod.snd ended
    rw [answer, after]
    simpa [able] using gains
  · have answer : result.1 = .error (.refused error) := congrArg Prod.fst ended
    rw [answer]
    simpa [unable.not_connectable] using unable

/-- Between the hub of a closed fan and a node beside it no edge can be added. -/
example :
    let fan : Operation := .build ⟨[⟨0, 0⟩, ⟨1, 0⟩, ⟨0, 1⟩, ⟨-1, -1⟩, ⟨5, 5⟩],
      [⟨0, 1, 2⟩, ⟨0, 2, 3⟩, ⟨0, 3, 1⟩]⟩
    ((Operation.addEdge ⟨5, 0⟩ ⟨1, 0⟩).outcome (empty.run [fan])).1 =
      .error (.refused (.attachToCompleteMesh (.noFreeSlot ⟨1, 0⟩))) := by
  decide +kernel

end Mesh

end PlanarMesh
