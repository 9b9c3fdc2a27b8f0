import PlanarMesh.Proofs.Intact
import PlanarMesh.Proofs.Splice.Visits

/-!
# Free places on damaged meshes

The search for a half-edge without a face that arrives at a node follows pointers, and it relies on
none of them.  On any mesh its answer tells what a walk over the arriving half-edges would come to
that is not bounded at all (`freeIncident_of_represents`): a half-edge without a face, the start
again, a half-edge that is not live, or a cycle from which nothing leads back to the start.  The
bound serves to notice the last of these, and it never ends a search that would have ended
otherwise.
-/

namespace PlanarMesh

namespace Mesh

/-- On any mesh, whatever its records contain, the search for a free place at a node that is
represented by `r` walks from the twin of `r` on.  It answers the first half-edge without a face if
the walk comes to one, refuses the node if the walk returns with faces only, names the first
half-edge that is not live, and reports the node if the walk runs into a cycle past its start.
There is no other answer, and more steps make no difference. -/
theorem freeIncident_of_represents (m : Mesh) {n : NodeId} {r : HalfedgeId}
    (represents : m.Represents n r) :
    let start := r.pair
    let answer := m.freeIncident n
    (∀ h, answer = .ok h ↔ m.Visits start start h ∧ m.isBoundary h = .ok true) ∧
      (answer = .error (.topology (.noFreeSlot n)) ↔
        ∃ h, m.Visits start start h ∧ m.Skips h start) ∧
      (∀ h, answer = .error (.invalidHalfedge h) ↔
        m.Visits start start h ∧ m.containsHalfedge h = false) ∧
      (answer = violated (.searchOpen n) ↔ ∃ c : Cycle HalfedgeId,
        c.Chain m.Skips ∧ start ∉ c ∧ ∃ h ∈ c, m.Visits start start h) ∧
      ((∃ h, answer = .ok h) ∨ answer = .error (.topology (.noFreeSlot n)) ∨
        (∃ h, answer = .error (.invalidHalfedge h)) ∨ answer = violated (.searchOpen n)) ∧
      ∀ bound, m.halfedgeCount < bound → m.freeSlotFrom n start bound start = answer := by
  intro start answer
  rcases represents with ⟨record, found, chosen⟩
  have answers {result : Except MeshError HalfedgeId} :
      answer = result ↔ m.Searched n start start result := freeIncident_eq_iff found chosen
  have searched : m.Searched n start start answer := answers.1 rfl
  refine ⟨fun h => ?free, ?closed, fun h => ?dead, ?trapped, searched.cases, fun bound enough => ?_⟩
  case free => rw [answers, searched_ok_iff]
  case closed => rw [answers, searched_noFreeSlot_iff]
  case dead => rw [answers, searched_invalidHalfedge_iff]
  case trapped => rw [answers, searched_violated_iff]
  exact (freeSlotFrom_eq_iff enough).2 searched

/-- Four nodes at which a search ends in different ways.  From the first one it comes to a half-edge
without a face, and from the second it returns at once; from the third it comes to a half-edge of
an edge that there is not, and from the fourth to where the second search starts, which it never
leaves. -/
def snarl : Mesh :=
  let n₁ : NodeId := ⟨1, 0⟩
  let n₂ : NodeId := ⟨2, 0⟩
  let n₃ : NodeId := ⟨3, 0⟩
  let n₄ : NodeId := ⟨4, 0⟩
  let e₁ : EdgeId := ⟨1, 0⟩
  let e₂ : EdgeId := ⟨2, 0⟩
  let e₃ : EdgeId := ⟨3, 0⟩
  let e₄ : EdgeId := ⟨4, 0⟩
  let missing : EdgeId := ⟨5, 0⟩
  let f : FaceId := ⟨1, 0⟩
  { nodes := .ofSlots [⟨0, some ⟨⟨0, 0⟩, some e₁.first⟩⟩, ⟨0, some ⟨⟨1, 0⟩, some e₂.first⟩⟩,
      ⟨0, some ⟨⟨0, 1⟩, some e₃.first⟩⟩, ⟨0, some ⟨⟨1, 1⟩, some e₄.first⟩⟩]
    edges := .ofSlots
      [⟨0, some ⟨⟨n₁, e₁.second, e₁.second, none⟩, ⟨n₂, e₁.second, e₁.first, some f⟩⟩⟩,
        ⟨0, some ⟨⟨n₂, e₂.second, e₂.second, some f⟩, ⟨n₁, e₂.first, e₂.first, some f⟩⟩⟩,
        ⟨0, some ⟨⟨n₃, e₃.second, e₃.second, some f⟩, ⟨n₁, missing.first, e₃.first, some f⟩⟩⟩,
        ⟨0, some ⟨⟨n₄, e₄.second, e₄.second, some f⟩, ⟨n₁, e₂.first, e₄.first, some f⟩⟩⟩]
    faces := .ofSlots [⟨0, some ⟨e₂.first⟩⟩]
    cachedBox := none }

/-- All four answers occur. -/
theorem freeIncident_snarl :
    let n₁ : NodeId := ⟨1, 0⟩
    let n₂ : NodeId := ⟨2, 0⟩
    let n₃ : NodeId := ⟨3, 0⟩
    let n₄ : NodeId := ⟨4, 0⟩
    let e₁ : EdgeId := ⟨1, 0⟩
    let e₂ : EdgeId := ⟨2, 0⟩
    let e₃ : EdgeId := ⟨3, 0⟩
    let e₄ : EdgeId := ⟨4, 0⟩
    let missing : EdgeId := ⟨5, 0⟩
    (snarl.Represents n₁ e₁.first ∧ snarl.Represents n₂ e₂.first ∧ snarl.Represents n₃ e₃.first ∧
        snarl.Represents n₄ e₄.first) ∧
      (snarl.freeIncident n₁ = .ok e₁.first ∧ snarl.Visits e₁.second e₁.second e₁.first) ∧
      (snarl.freeIncident n₂ = .error (.topology (.noFreeSlot n₂)) ∧
        ∃ h, snarl.Visits e₂.second e₂.second h ∧ snarl.Skips h e₂.second) ∧
      (snarl.freeIncident n₃ = .error (.invalidHalfedge missing.second) ∧
        snarl.Visits e₃.second e₃.second missing.second) ∧
      (snarl.freeIncident n₄ = violated (.searchOpen n₄) ∧ ∃ c : Cycle HalfedgeId,
        c.Chain snarl.Skips ∧ e₄.second ∉ c ∧ ∃ h ∈ c, snarl.Visits e₄.second e₄.second h) := by
  intro n₁ n₂ n₃ n₄ e₁ e₂ e₃ e₄ missing
  have represents₁ : snarl.Represents n₁ e₁.first := ⟨_, rfl, rfl⟩
  have represents₂ : snarl.Represents n₂ e₂.first := ⟨_, rfl, rfl⟩
  have represents₃ : snarl.Represents n₃ e₃.first := ⟨_, rfl, rfl⟩
  have represents₄ : snarl.Represents n₄ e₄.first := ⟨_, rfl, rfl⟩
  have free : snarl.freeIncident n₁ = .ok e₁.first := by decide +kernel
  have closed : snarl.freeIncident n₂ = .error (.topology (.noFreeSlot n₂)) := by decide +kernel
  have dead : snarl.freeIncident n₃ = .error (.invalidHalfedge missing.second) := by
    decide +kernel
  have trapped : snarl.freeIncident n₄ = violated (.searchOpen n₄) := by decide +kernel
  obtain ⟨free_iff, -⟩ := freeIncident_of_represents snarl represents₁
  obtain ⟨-, closed_iff, -⟩ := freeIncident_of_represents snarl represents₂
  obtain ⟨-, -, dead_iff, -⟩ := freeIncident_of_represents snarl represents₃
  obtain ⟨-, -, -, trapped_iff, -⟩ := freeIncident_of_represents snarl represents₄
  exact ⟨⟨represents₁, represents₂, represents₃, represents₄⟩,
    ⟨free, ((free_iff _).1 free).1⟩, ⟨closed, closed_iff.1 closed⟩,
    ⟨dead, ((dead_iff _).1 dead).1⟩, ⟨trapped, trapped_iff.1 trapped⟩⟩

end Mesh

end PlanarMesh
