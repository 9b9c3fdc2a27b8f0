import PlanarMesh.Proofs.Atomicity

/-!
# Edges added and removed again

Edges that were added one after the other, and are removed again in reverse order, leave all
records as they were (`restored_of_operations`): the same handles are live, nodes have the same
positions and representatives, half-edges the same origins, faces and neighbours on their loops.

Each removal meets the mesh that the matching addition left, up to records that are the same.  So
the edges are taken back one at a time, and between two removals the records are those from between
the two additions (`Extended.takenBack`).
-/

namespace PlanarMesh

namespace Operation

open Mesh

/-- An edge is added between each of the given pairs of nodes. -/
def addEdges (ends : List (NodeId × NodeId)) : List Operation :=
  ends.map fun pair => .addEdge pair.1 pair.2

/-- The edges of the given half-edges are removed, the last one first. -/
def removeEdgesOf (hs : List HalfedgeId) : List Operation :=
  hs.reverse.map fun h => .removeEdge h.edge

/-- An edge that answers was added between two nodes that could be connected. -/
theorem exists_addedEdge {m : Mesh} {n₁ n₂ : NodeId} {reply : Reply} (sound : m.Sound)
    (answers : ((addEdge n₁ n₂).outcome m).1 = .ok reply) :
    ∃ e, reply = .halfedge e.first ∧ m.Connectable n₁ n₂ ∧
      m.AddedEdge n₁ n₂ e ((addEdge n₁ n₂).result m) := by
  have ends : (addEdge n₁ n₂).edit.Ends (Session.on m)
      (fun reply m' => m.Connectable n₁ n₂ ∧
        ∃ e, reply = .halfedge e.first ∧ m.AddedEdge n₁ n₂ e m') fun _ _ => True := by
    apply (Edit.addEdge_ends sound).bind
    · rintro h t ⟨able, e, rfl, added⟩
      exact ⟨able, e, rfl, added⟩
    · exact fun _ _ _ => trivial
  rcases outcome_of_ends ends with
    ⟨reply', m', ended, able, e, first, added⟩ | ⟨error, m', ended, -⟩
  · rw [ended] at answers
    cases answers
    exact ⟨e, first, able, by rwa [result, ended]⟩
  · rw [ended] at answers
    cases answers

/-- The edge that was added last is removed without a refusal, and what was there before it is
there again. -/
theorem outcome_removeEdge_of_added {P : Prop} {m m₁ m₂ : Mesh} {n₁ n₂ : NodeId} {e : EdgeId}
    (sound : m.Sound) (able : m.Connectable n₁ n₂) (added : m.AddedEdge n₁ n₂ e m₁)
    (rolledBack : m₁.RolledBack P m₂) (still : m₂.Sound) :
    ((removeEdge e).outcome m₂).1 = .ok .done ∧ ((removeEdge e).result m₂).Sound ∧
      m.RolledBack P ((removeEdge e).result m₂) := by
  have ends : (removeEdge e).edit.Ends (Session.on m₂)
      (fun reply m' => reply = .done ∧ m'.Sound ∧ m.RolledBack P m') fun _ _ => False := by
    apply (Edit.removeEdge_ends_of_added sound able added rolledBack still).bind
    · exact fun _ t removed => ⟨rfl, removed⟩
    · exact fun _ _ => id
  rcases outcome_of_ends ends with ⟨reply, m', ended, rfl, removed⟩ | ⟨error, m', -, refused⟩
  · rw [result, ended]
    exact ⟨rfl, removed⟩
  · exact refused.elim

end Operation

namespace Mesh

open Operation (addEdges removeEdgesOf)

variable {m m₁ m₂ : Mesh} {P : Prop}

/-- Additions that all succeed extend the mesh edge by edge. -/
theorem Sound.extended_of_replies (sound : m.Sound) {ends : List (NodeId × NodeId)}
    {hs : List HalfedgeId}
    (answers : m.replies (addEdges ends) = hs.map fun h => .ok (.halfedge h)) :
    m.Extended (hs.reverse.map HalfedgeId.edge) (m.run (addEdges ends)) := by
  induction ends generalizing m hs with
  | nil =>
    cases hs with
    | nil => exact .refl
    | cons h hs => cases answers
  | cons pair ends inductionHypothesis =>
    cases hs with
    | nil => cases answers
    | cons h hs =>
      rcases List.cons.inj answers with ⟨answer, answers'⟩
      rcases Operation.exists_addedEdge sound answer with ⟨e, ⟨⟩, able, added⟩
      have first := Extended.edge .refl able added
      have rest := inductionHypothesis added.sound answers'
      rw [List.reverse_cons, List.map_append]
      exact first.append rest

/-- The edges are removed without a refusal, and after the last removal the records are those from
before the first addition. -/
theorem Extended.takenBack {edges : List EdgeId} (extended : m.Extended edges m₁) (sound : m.Sound)
    (rolledBack : m₁.RolledBack P m₂) (still : m₂.Sound) :
    m₂.replies (edges.map .removeEdge) = List.replicate edges.length (.ok .done) ∧
      m.RolledBack P (m₂.run (edges.map .removeEdge)) := by
  induction extended generalizing m₂ with
  | refl => exact ⟨rfl, rolledBack⟩
  | edge extended able added inductionHypothesis =>
    obtain ⟨answer, still', rolledBack'⟩ := Operation.outcome_removeEdge_of_added
      (extended.sound sound) able added rolledBack still
    obtain ⟨answers, restored⟩ := inductionHypothesis rolledBack' still'
    refine ⟨?_, restored⟩
    rw [List.map_cons, replies_cons, answer, answers]
    rfl

/-- Whatever operations were run: if edges are added between pairs of nodes, and all of them can be,
then they can be removed again in reverse order, and every record is as it was.  In particular this
holds of a single edge. -/
theorem restored_of_operations (operations : List Operation) {ends : List (NodeId × NodeId)}
    {hs : List HalfedgeId}
    (added : (empty.run operations).replies (addEdges ends) = hs.map fun h => .ok (.halfedge h)) :
    let m := empty.run operations
    let m' := m.run (addEdges ends)
    m'.replies (removeEdgesOf hs) = List.replicate hs.length (.ok .done) ∧
      m.SameRecords (m'.run (removeEdgesOf hs)) := by
  intro m m'
  have sound : m.Sound := sound_empty.run operations
  have extended : m.Extended (hs.reverse.map HalfedgeId.edge) m' := sound.extended_of_replies added
  have unchanged : m'.RolledBack True m' := (SameRecords.refl m').rolledBack
  have takenBack := extended.takenBack sound unchanged (extended.sound sound)
  rw [List.length_map, List.length_reverse, List.map_map] at takenBack
  exact ⟨takenBack.1, takenBack.2.sameRecords sound trivial⟩

/-- An isolated node is tied to a corner of a triangle by two parallel edges, and a third edge
closes a loop around them.  Taken back, they leave the node isolated. -/
theorem restored_bowtie :
    let operations := bowtie ++ [.addNode ⟨3, 0⟩]
    let m := empty.run operations
    let ends : List (NodeId × NodeId) :=
      [(⟨8, 0⟩, ⟨5, 0⟩), (⟨8, 0⟩, ⟨5, 0⟩), (⟨7, 0⟩, ⟨8, 0⟩)]
    let hs : List HalfedgeId := [Key.first ⟨11, 0⟩, Key.first ⟨12, 0⟩, Key.first ⟨13, 0⟩]
    m.replies (addEdges ends) = hs.map (fun h => .ok (.halfedge h)) ∧
      (m.run (addEdges ends)).replies (removeEdgesOf hs) = List.replicate hs.length (.ok .done) ∧
      m.SameRecords ((m.run (addEdges ends)).run (removeEdgesOf hs)) := by
  intro operations m ends hs
  have added : m.replies (addEdges ends) = hs.map fun h => .ok (.halfedge h) := by
    decide +kernel
  exact ⟨added, restored_of_operations operations added⟩

end Mesh

end PlanarMesh
