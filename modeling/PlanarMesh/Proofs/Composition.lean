import PlanarMesh.Edit.Operation

/-!
# What edits are composed of

Every operation is composed of a few building blocks: questions, changes to the fields of a record,
and single records stored and dropped (`Operation.composed_edit`).  Where a node is stored or
dropped, what was derived from the positions is forgotten at once.

Hence a relation between meshes that holds across each of the blocks, and is transitive, holds
between the mesh before an operation and the mesh that it leaves (`Stepwise.operation`).  It does
not matter how the operation ends, or whether the records of the mesh fit together.
-/

namespace PlanarMesh

namespace Edit

variable {α β : Type}

/-- The mesh that an edit leaves, however it ends. -/
def leaves (edit : Edit α) (s : Session) : Mesh :=
  match edit s with
  | .ok _ t => t.mesh
  | .error _ t => t.mesh

/-- An edit on a mesh of its own leaves that mesh, or the one that was there. -/
theorem leaves_replacing (edit : Edit α) (s : Session) :
    (replacing edit).leaves s = edit.leaves ⟨.empty, s.journal⟩ ∨
      (replacing edit).leaves s = s.mesh := by
  unfold leaves replacing
  cases edit ⟨.empty, s.journal⟩ with
  | ok a t => exact .inl rfl
  | error fault t => exact .inr rfl

/-! ## Composed edits -/

/-- The edit is composed of building blocks. -/
inductive Composed : {α : Type} → Edit α → Prop
  | still {α : Type} {edit : Edit α} (same : ∀ s, edit.leaves s = s.mesh) : Composed edit
  | modifyHalfedge (h : HalfedgeId) (f : Halfedge → Halfedge) : Composed (modifyHalfedge h f)
  | setRepresentative (n : NodeId) (h : Option HalfedgeId) : Composed (setRepresentative n h)
  | insertEdge (n₁ n₂ : NodeId) : Composed (insertEdge n₁ n₂)
  | dropEdge (e : EdgeId) : Composed (dropEdge e)
  | insertFace (record : Face) : Composed (insertFace record)
  | dropFace (f : FaceId) : Composed (dropFace f)
  | storeNode {α : Type} (record : Node) {next : NodeId → Edit α}
      (later : ∀ n, Composed (next n)) : Composed (do
        let n ← insertNode record
        invalidateCache
        next n)
  | removeNode {α : Type} (n : NodeId) {next : Bool → Edit α}
      (later : ∀ live, Composed (next live)) : Composed (do
        let live ← dropNode n
        invalidateCache
        next live)
  | bind {α β : Type} {edit : Edit α} {next : α → Edit β} (first : Composed edit)
      (later : ∀ a, Composed (next a)) : Composed (edit >>= next)
  | onRefusal {α : Type} {edit : Edit α} {handler : MeshError → Edit α} (first : Composed edit)
      (handles : ∀ error, Composed (handler error)) : Composed (onRefusal edit handler)

namespace Composed

theorem pure (a : α) : Composed (Pure.pure a : Edit α) := still fun _ => rfl

theorem refuse (error : MeshError) : Composed (refuse error : Edit α) := still fun _ => rfl

theorem record (entry : JournalEntry) : Composed (record entry) := still fun _ => rfl

theorem get : Composed (MonadState.get : Edit Session) := still fun _ => rfl

theorem query (question : Mesh → Except MeshError α) : Composed (query question) :=
  still fun s => by
    rw [leaves, query_apply]
    cases question s.mesh <;> rfl

theorem checkAfter (kind : CheckedEdit) : Composed (checkAfter kind) :=
  still fun s => by
    rw [leaves, checkAfter_apply]
    cases s.mesh.checkInvariants <;> rfl

theorem mapM {f : α → Edit β} {l : List α} (each : ∀ a, Composed (f a)) :
    Composed (l.mapM f) := by
  induction l with
  | nil => exact .pure []
  | cons a l inductionHypothesis =>
    rw [List.mapM_cons]
    exact (each a).bind fun _ => inductionHypothesis.bind fun _ => .pure _

theorem forM {f : α → Edit PUnit} {l : List α} (each : ∀ a, Composed (f a)) :
    Composed (l.forM f) := by
  induction l with
  | nil => exact .pure _
  | cons a l inductionHypothesis => exact (each a).bind fun _ => inductionHypothesis

/-- What the edit answers can be turned into something else. -/
theorem map {edit : Edit α} (composed : Composed edit) (f : α → β) :
    Composed (do return f (← edit)) :=
  composed.bind fun _ => .pure _

end Composed

/-! ## Splices -/

theorem composed_link (h g : HalfedgeId) : Composed (link h g) :=
  (Composed.modifyHalfedge h _).bind fun _ => .modifyHalfedge g _

theorem composed_attach (h : HalfedgeId) (n : NodeId) : Composed (attach h n) := by
  apply (Composed.query _).bind
  intro record
  apply (Composed.modifyHalfedge h _).bind
  intro _
  cases record.halfedge with
  | none =>
    exact (Composed.setRepresentative n _).bind fun _ => (composed_link _ _).bind fun _ => .record _
  | some _ =>
    exact (Composed.query _).bind fun _ => (Composed.query _).bind fun _ =>
      (composed_link _ _).bind fun _ => (composed_link _ _).bind fun _ => .record _

theorem composed_mergeAdjacent (incoming out : HalfedgeId) :
    Composed (mergeAdjacent incoming out) := by
  apply (Composed.query _).bind
  intro b
  split
  · exact .pure _
  · exact (Composed.query _).bind fun _ => (Composed.query _).bind fun _ =>
      (Composed.query _).bind fun _ => (composed_link _ _).bind fun _ =>
      (composed_link _ _).bind fun _ => (composed_link _ _).bind fun _ => .record _

theorem composed_detach (h : HalfedgeId) : Composed (detach h) := by
  have rest (n : NodeId) (after : HalfedgeId) : Composed (do
      let before ← Edit.query fun m => m.prev h
      link before after
      Edit.record (.detach h n)) :=
    (Composed.query _).bind fun _ => (composed_link _ _).bind fun _ => .record _
  apply (Composed.query _).bind
  intro n
  apply (Composed.query _).bind
  intro after
  apply (Composed.query _).bind
  intro record
  split
  · exact (Composed.setRepresentative n _).bind fun _ => rest n after
  · exact rest n after

/-! ## Elementary edits -/

theorem composed_addNode (position : Point) : Composed (addNode position) :=
  .storeNode ⟨position, none⟩ fun _ => (Composed.record _).bind fun _ => .pure _

theorem composed_removeFace (f : FaceId) : Composed (removeFace f) :=
  (Composed.query _).bind fun _ => (Composed.query _).bind fun _ => (Composed.query _).bind fun _ =>
    (Composed.modifyHalfedge _ _).bind fun _ => (Composed.modifyHalfedge _ _).bind fun _ =>
    (Composed.modifyHalfedge _ _).bind fun _ => (Composed.dropFace f).bind fun _ =>
    (Composed.record _).bind fun _ => .checkAfter _

theorem composed_requireFree (h : HalfedgeId) : Composed (requireFree h) := by
  apply (Composed.query _).bind
  intro free
  split
  · exact .pure _
  · exact .refuse _

theorem composed_requireChained (h g : HalfedgeId) : Composed (requireChained h g) := by
  apply (Composed.query _).bind
  intro finish
  apply (Composed.query _).bind
  intro start
  split
  · exact .pure _
  · exact .refuse _

theorem composed_mergeCorner (incoming out : HalfedgeId) : Composed (mergeCorner incoming out) := by
  apply (composed_mergeAdjacent incoming out).onRefusal
  intro error
  split
  · exact .refuse _
  · exact .refuse _

theorem composed_addFace (h₁ h₂ h₃ : HalfedgeId) : Composed (addFace h₁ h₂ h₃) :=
  (composed_requireFree h₁).bind fun _ => (composed_requireFree h₂).bind fun _ =>
    (composed_requireFree h₃).bind fun _ => (composed_requireChained h₁ h₂).bind fun _ =>
    (composed_requireChained h₂ h₃).bind fun _ => (composed_requireChained h₃ h₁).bind fun _ =>
    (composed_mergeCorner h₁ h₂).bind fun _ => (composed_mergeCorner h₂ h₃).bind fun _ =>
    (composed_mergeCorner h₃ h₁).bind fun _ => (Composed.insertFace _).bind fun _ =>
    (Composed.modifyHalfedge h₁ _).bind fun _ => (Composed.modifyHalfedge h₂ _).bind fun _ =>
    (Composed.modifyHalfedge h₃ _).bind fun _ => (Composed.record _).bind fun _ =>
    (Composed.checkAfter _).bind fun _ => .pure _

theorem composed_attachSide (h : HalfedgeId) (n : NodeId) {takeBack : Edit Unit}
    (composed : Composed takeBack) : Composed (attachSide h n takeBack) := by
  apply (composed_attach h n).onRefusal
  intro error
  apply composed.bind
  intro _
  split
  · exact .refuse _
  · exact .refuse _

theorem composed_addEdge (n₁ n₂ : NodeId) : Composed (addEdge n₁ n₂) := by
  have rest : Composed (do
      let e ← insertEdge n₁ n₂
      attachSide e.first n₁ do
        let _ ← dropEdge e
      attachSide e.second n₂ do
        detach e.first
        let _ ← dropEdge e
      Edit.record (.addEdge e n₁ n₂)
      Edit.checkAfter .addEdge
      return e.first) := by
    apply (Composed.insertEdge n₁ n₂).bind
    intro e
    have drops : Composed (do let _ ← dropEdge e) := (Composed.dropEdge e).bind fun _ => .pure _
    have takesBack := (composed_detach e.first).bind fun _ => drops
    exact (composed_attachSide _ n₁ drops).bind fun _ =>
      (composed_attachSide _ n₂ takesBack).bind fun _ =>
      (Composed.record _).bind fun _ => (Composed.checkAfter _).bind fun _ => .pure _
  apply (Composed.query _).bind
  intro _
  apply (Composed.query _).bind
  intro _
  split
  · exact (Composed.refuse _).bind fun _ => rest
  · exact rest

theorem composed_removeFaceAt (h : HalfedgeId) : Composed (removeFaceAt h) := by
  apply (Composed.query _).bind
  intro face
  cases face with
  | none => exact .pure _
  | some f => exact composed_removeFace f

theorem composed_removeEdge (e : EdgeId) : Composed (removeEdge e) :=
  (Composed.query _).bind fun _ => (composed_removeFaceAt _).bind fun _ =>
    (composed_removeFaceAt _).bind fun _ => (composed_detach _).bind fun _ =>
    (composed_detach _).bind fun _ => (Composed.dropEdge e).bind fun _ =>
    (Composed.record _).bind fun _ => .checkAfter _

theorem composed_removeEdgesAt (n : NodeId) (rounds : Nat) : Composed (removeEdgesAt n rounds) := by
  induction rounds with
  | zero => exact .pure 0
  | succ rounds inductionHypothesis =>
    apply (Composed.query _).bind
    intro record
    split
    · exact .pure 0
    · exact (composed_removeEdge _).bind fun _ => inductionHypothesis.map _

theorem composed_removeNode (n : NodeId) : Composed (removeNode n) :=
  Composed.get.bind fun _ => (composed_removeEdgesAt n _).bind fun _ =>
    .removeNode n fun _ => (Composed.record _).bind fun _ => .checkAfter _

theorem composed_findOrAddEdge (n₁ n₂ : NodeId) : Composed (findOrAddEdge n₁ n₂) := by
  apply (Composed.query _).bind
  intro found
  cases found with
  | some h => exact .pure _
  | none => exact (composed_addEdge n₁ n₂).map _

theorem Composed.undoing {edit : Edit α} (composed : Composed edit) (added : List EdgeId) :
    Composed (undoing added edit) :=
  composed.onRefusal fun error => (Composed.forM composed_removeEdge).bind fun _ => .refuse error

theorem composed_addTriangle (a b c : NodeId) : Composed (addTriangle a b c) :=
  (composed_findOrAddEdge a b).bind fun _ => ((composed_findOrAddEdge b c).undoing _).bind fun _ =>
    ((composed_findOrAddEdge c a).undoing _).bind fun _ => (composed_addFace _ _ _).undoing _

/-! ## Composite edits -/

theorem composed_splitWing (n : NodeId) (toStart toEnd : HalfedgeId) (wing : Option Wing) :
    Composed (splitWing n toStart toEnd wing) := by
  cases wing with
  | none => exact .pure _
  | some wing =>
    exact (composed_addEdge n wing.apex).bind fun _ => (composed_addFace _ _ _).bind fun _ =>
      (composed_addFace _ _ _).bind fun _ => .pure _

theorem composed_splitEdge (e : EdgeId) (position : Point) : Composed (splitEdge e position) :=
  (Composed.query _).bind fun _ => (Composed.query _).bind fun _ => (Composed.query _).bind fun _ =>
    (Composed.query _).bind fun _ => (composed_removeEdge e).bind fun _ =>
    (composed_addNode position).bind fun _ => (composed_addEdge _ _).bind fun _ =>
    (composed_addEdge _ _).bind fun _ => (composed_splitWing _ _ _ _).bind fun _ =>
    (composed_splitWing _ _ _ _).bind fun _ => (Composed.record _).bind fun _ =>
    (Composed.checkAfter _).bind fun _ => .pure _

theorem composed_splitFace (f : FaceId) (position : Point) : Composed (splitFace f position) :=
  (Composed.query _).bind fun _ => (Composed.query _).bind fun _ =>
    (Composed.query _).bind fun _ => (Composed.query _).bind fun _ =>
    (Composed.query _).bind fun _ => (Composed.query _).bind fun _ =>
    (composed_removeFace f).bind fun _ => (composed_addNode position).bind fun _ =>
    (composed_addEdge _ _).bind fun _ => (composed_addEdge _ _).bind fun _ =>
    (composed_addEdge _ _).bind fun _ => (composed_addFace _ _ _).bind fun _ =>
    (composed_addFace _ _ _).bind fun _ => (composed_addFace _ _ _).bind fun _ =>
    (Composed.record _).bind fun _ => (Composed.checkAfter _).bind fun _ => .pure _

theorem composed_build (list : TriangleList) : Composed (build list) := by
  have built (nodes : List NodeId) : Composed (do
      list.triangles.forM fun t => do
        let _ ← addTriangle (nodes.getD t.a Key.null) (nodes.getD t.b Key.null)
          (nodes.getD t.c Key.null)
      Edit.record (.build list.points.length list.triangles.length)
      return nodes) :=
    (Composed.forM fun t => (composed_addTriangle _ _ _).bind fun _ => .pure _).bind fun _ =>
      (Composed.record _).bind fun _ => .pure nodes
  unfold build
  split
  · exact (Composed.refuse _).bind fun _ => (Composed.mapM composed_addNode).bind built
  · exact (Composed.mapM composed_addNode).bind built

end Edit

namespace Operation

theorem composed_edit (operation : Operation) : operation.edit.Composed := by
  cases operation with
  | addNode position => exact (Edit.composed_addNode position).map _
  | removeNode n => exact (Edit.composed_removeNode n).map fun _ => Reply.done
  | addEdge n₁ n₂ => exact (Edit.composed_addEdge n₁ n₂).map _
  | removeEdge e => exact (Edit.composed_removeEdge e).map fun _ => Reply.done
  | addFace h₁ h₂ h₃ => exact (Edit.composed_addFace h₁ h₂ h₃).map _
  | removeFace f => exact (Edit.composed_removeFace f).map fun _ => Reply.done
  | addTriangle a b c => exact (Edit.composed_addTriangle a b c).map _
  | splitEdge e position => exact (Edit.composed_splitEdge e position).map _
  | splitFace f position => exact (Edit.composed_splitFace f position).map _
  | build list => exact (Edit.composed_build list).map _

end Operation

/-! ## Relations across the blocks -/

/-- The relation holds across each building block, and is a preorder. -/
structure Stepwise (R : Mesh → Mesh → Prop) : Prop where
  refl : ∀ m, R m m
  trans : ∀ {m m' m''}, R m m' → R m' m'' → R m m''
  modifyHalfedge : ∀ (m : Mesh) h f, R m (m.modifyHalfedge h f)
  setRepresentative : ∀ (m : Mesh) n (h : Option HalfedgeId),
    R m (m.modifyNode n fun record => { record with halfedge := h })
  insertEdge : ∀ (m : Mesh) record, R m { m with edges := m.edges.insert record }
  dropEdge : ∀ (m : Mesh) e, R m { m with edges := m.edges.erase e }
  insertFace : ∀ (m : Mesh) record, R m { m with faces := m.faces.insert record }
  dropFace : ∀ (m : Mesh) f, R m { m with faces := m.faces.erase f }
  storeNode : ∀ (m : Mesh) record,
    R m (Mesh.invalidateCache { m with nodes := m.nodes.insert record })
  removeNode : ∀ (m : Mesh) n, R m (Mesh.invalidateCache { m with nodes := m.nodes.erase n })

namespace Stepwise

variable {R : Mesh → Mesh → Prop} (stepwise : Stepwise R)

include stepwise

/-- The relation holds across a composed edit, by induction on what it is composed of. -/
theorem composed {α : Type} {edit : Edit α} (composed : edit.Composed) (s : Session) :
    R s.mesh (edit.leaves s) := by
  induction composed generalizing s with
  | still same =>
    rw [same]
    exact stepwise.refl s.mesh
  | modifyHalfedge h f =>
    rw [Edit.leaves, Edit.modifyHalfedge_apply]
    by_cases live : s.mesh.containsHalfedge h = true
    · rw [if_pos live]
      exact stepwise.modifyHalfedge s.mesh h f
    · rw [if_neg live]
      exact stepwise.refl s.mesh
  | setRepresentative n h =>
    rw [Edit.leaves, Edit.setRepresentative, Edit.modifyNode_apply]
    by_cases live : s.mesh.containsNode n = true
    · rw [if_pos live]
      exact stepwise.setRepresentative s.mesh n h
    · rw [if_neg live]
      exact stepwise.refl s.mesh
  | insertEdge n₁ n₂ => exact stepwise.insertEdge s.mesh _
  | dropEdge e => exact stepwise.dropEdge s.mesh e
  | insertFace record => exact stepwise.insertFace s.mesh record
  | dropFace f => exact stepwise.dropFace s.mesh f
  | storeNode record later inductionHypothesis =>
    exact stepwise.trans (stepwise.storeNode s.mesh record) (inductionHypothesis _ ⟨_, s.journal⟩)
  | removeNode n later inductionHypothesis =>
    exact stepwise.trans (stepwise.removeNode s.mesh n) (inductionHypothesis _ ⟨_, s.journal⟩)
  | @bind α β edit next _ _ first later =>
    have related := first s
    unfold Edit.leaves at *
    rw [Edit.bind_apply]
    cases ended : edit s with
    | ok a t =>
      rw [ended] at related
      exact stepwise.trans related (later a t)
    | error fault t =>
      rw [ended] at related
      exact related
  | @onRefusal α edit handler _ _ first handles =>
    have related := first s
    unfold Edit.leaves at *
    rw [Edit.onRefusal_apply]
    cases ended : edit s with
    | ok a t =>
      rw [ended] at related
      exact related
    | error fault t =>
      rw [ended] at related
      cases fault with
      | refused error => exact stepwise.trans related (handles error t)
      | broken kind error => exact related

/-- The relation holds between the mesh before an operation and the mesh after it. -/
theorem operation (operation : Operation) (m : Mesh) : R m (operation.result m) := by
  have related := stepwise.composed operation.composed_edit (Session.on m)
  unfold Edit.leaves at related
  unfold Operation.result Operation.outcome
  cases ended : operation.edit (Session.on m) with
  | ok reply t =>
    rw [ended] at related
    exact related
  | error fault t =>
    rw [ended] at related
    exact related

end Stepwise

end PlanarMesh
