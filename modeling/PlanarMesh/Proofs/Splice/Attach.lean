import PlanarMesh.Proofs.Outcome
import PlanarMesh.Proofs.Splice.Search

/-!
# Attaching and detaching half-edges

`attach` puts a half-edge that stands alone into the orbit of a node: after the first member
whose twin is free, or as the only member (`Docks`).  It is refused when the node has half-edges
and all that arrive border a face.  `detach` takes a half-edge out of its orbit and lets the
next member represent the node, if it was the representative (`undock`).

While an edge is attached or detached, its two sides start at nodes whose orbits they are not
on.  So nothing here asks for a sound mesh; orbits are all that is known.  Detaching a half-edge
that was just attached restores all pointers at other edges (`halfedge?_undock_of_docks`).
-/

namespace PlanarMesh

/-- The node is represented by `h` unless it was represented before. -/
def Node.adopt (record : Node) (h : Option HalfedgeId) : Node :=
  { record with halfedge := record.halfedge.or h }

namespace Mesh

/-! ## Representatives -/

/-- The mesh in which `h` represents the node, if it is live. -/
def represent (m : Mesh) (n : NodeId) (h : Option HalfedgeId) : Mesh :=
  m.modifyNode n fun record => { record with halfedge := h }

section Represent

variable (m : Mesh) (n : NodeId) (h : Option HalfedgeId)

theorem node?_represent (n' : NodeId) : (m.represent n h).node? n' =
    if n' = n then (m.node? n).map fun record => { record with halfedge := h }
    else m.node? n' :=
  m.node?_modifyNode n n' _

@[simp]
theorem edges_represent : (m.represent n h).edges = m.edges :=
  rfl

@[simp]
theorem faces_represent : (m.represent n h).faces = m.faces :=
  rfl

@[simp]
theorem halfedge?_represent (x : HalfedgeId) : (m.represent n h).halfedge? x = m.halfedge? x :=
  rfl

@[simp]
theorem origin?_represent (x : HalfedgeId) : (m.represent n h).origin? x = m.origin? x :=
  rfl

@[simp]
theorem faceOf?_represent (x : HalfedgeId) : (m.represent n h).faceOf? x = m.faceOf? x :=
  rfl

@[simp]
theorem containsHalfedge_represent (x : HalfedgeId) :
    (m.represent n h).containsHalfedge x = m.containsHalfedge x :=
  rfl

end Represent

/-! ## Writes that change nothing -/

theorem modifySide_eq_self {e : Edge} {f : Halfedge → Halfedge} {side : Side}
    (unchanged : f (e.halfedge side) = e.halfedge side) : e.modifySide f side = e := by
  cases side with
  | first => exact congrArg (fun record => { e with first := record }) unchanged
  | second => exact congrArg (fun record => { e with second := record }) unchanged

theorem modifyHalfedge_eq_self {m : Mesh} {h : HalfedgeId} {f : Halfedge → Halfedge}
    (unchanged : ∀ record, m.halfedge? h = some record → f record = record) :
    m.modifyHalfedge h f = m := by
  have same : (m.edges.modify h.edge fun e => e.modifySide f h.side) = m.edges := by
    refine SlotStore.modify_eq_self fun e found => modifySide_eq_self (unchanged _ ?_)
    rw [halfedge?, edge?, found]
    rfl
  rw [modifyHalfedge, same]

theorem link_eq_self {m : Mesh} {h g : HalfedgeId} (next : m.next? h = some g)
    (prev : m.prev? g = some h) : m.link h g = m := by
  have first : (m.modifyHalfedge h fun record => { record with next := g }) = m := by
    apply modifyHalfedge_eq_self
    intro record found
    rw [next?, found] at next
    cases Option.some.inj next
    rfl
  rw [link, first]
  apply modifyHalfedge_eq_self
  intro record found
  rw [prev?, found] at prev
  cases Option.some.inj prev
  rfl

/-! ## Attaching -/

/-- `m'` is `m` with `h`, so far alone, on the orbit of the node `n`. -/
inductive Docks (m : Mesh) (h : HalfedgeId) (n : NodeId) : Mesh → Prop
  /-- The node had no half-edge. -/
  | alone {record : Node} (found : m.node? n = some record) (isolated : record.halfedge = none)
      (loop : m.Follows h h) : Docks m h n (m.represent n (some h))
  /-- The first member with a free twin, from the representative on, is `u`. -/
  | between {record : Node} {r u v : HalfedgeId} {l A B : List HalfedgeId}
      (found : m.node? n = some record) (chosen : record.halfedge = some r)
      (orbit : m.Orbit ↑l) (start : l.head? = some r) (new : h ∉ l)
      (first : m.FirstFree l A u B) (follows : m.Follows u v) (loop : m.Follows h h) :
      Docks m h n (m.spliceIn u h v)

namespace Docks

variable {m m' : Mesh} {h : HalfedgeId} {n : NodeId} (docks : m.Docks h n m')

include docks

theorem faces : m'.faces = m.faces := by
  cases docks <;> rfl

theorem generationAt : m'.edges.generationAt = m.edges.generationAt := by
  cases docks <;> simp [spliceIn]

theorem origin? (x : HalfedgeId) : m'.origin? x = m.origin? x := by
  cases docks <;> simp [spliceIn]

theorem faceOf? (x : HalfedgeId) : m'.faceOf? x = m.faceOf? x := by
  cases docks <;> simp [spliceIn]

theorem containsEdge (e : EdgeId) : m'.containsEdge e = m.containsEdge e := by
  cases docks with
  | alone => rfl
  | between => simp [spliceIn]

/-- The half-edge represents the node if none did before. -/
theorem node? (n' : NodeId) : m'.node? n' =
    if n' = n then (m.node? n).map fun record => record.adopt (some h) else m.node? n' := by
  cases docks with
  | alone found isolated =>
    rw [node?_represent, found]
    simp [Node.adopt, isolated]
  | @between record r u v l A B found chosen =>
    rw [show (m.spliceIn u h v).node? n' = m.node? n' from rfl]
    by_cases same : n' = n
    · have kept : record.adopt (some h) = record := by
        cases record
        simp_all [Node.adopt]
      rw [if_pos same, same, found, Option.map_some, kept]
    · rw [if_neg same]

/-- What follows is moved at half-edges with a free twin only. -/
theorem keeps_faced (free : m.Free h.pair) : m.Keeps m' fun g => m.Free g.pair := by
  cases docks with
  | alone => exact fun _ _ _ => id
  | between _ _ _ _ _ first follows loop =>
    intro g x faced before
    refine keeps_spliceIn follows loop g x ?_ before
    rintro (rfl | rfl)
    · exact faced first.free
    · exact faced free

/-- Orbits of other nodes stay. -/
theorem orbit_of_avoids {ring : Cycle HalfedgeId} (around : m.Orbit ring) (new : h ∉ ring)
    (avoids : ∀ record r, m.node? n = some record → record.halfedge = some r → r ∉ ring) :
    m'.Orbit ring := by
  cases docks with
  | alone => exact around.of_keeps fun _ _ _ => id
  | @between record r u v l A B found chosen orbit start _ first follows loop =>
    apply (keeps_spliceIn follows loop).orbit around
    rintro g mem (rfl | rfl)
    · apply avoids record r found chosen
      rw [around.unique orbit mem first.mem]
      exact List.mem_of_head? start
    · exact new mem

/-- A represented node had room for the half-edge. -/
theorem exists_free {ring : Cycle HalfedgeId} {record : Node} {r : HalfedgeId}
    (around : m.Orbit ring) (found : m.node? n = some record) (chosen : record.halfedge = some r)
    (mem : r ∈ ring) : ∃ u ∈ ring, m.Free u.pair := by
  cases docks with
  | alone found' isolated =>
    cases Option.some.inj (found.symm.trans found')
    simp [chosen] at isolated
  | @between _ _ u _ _ _ _ found' chosen' orbit start _ first =>
    cases Option.some.inj (found.symm.trans found')
    cases Option.some.inj (chosen.symm.trans chosen')
    refine ⟨u, ?_, first.free⟩
    rw [around.unique orbit mem (List.mem_of_head? start)]
    exact first.mem

theorem orbit_of_isolated {record : Node} (found : m.node? n = some record)
    (isolated : record.halfedge = none) : m'.Orbit ↑[h] := by
  cases docks with
  | alone _ _ loop => exact ⟨List.nodup_singleton h, (Cycle.chain_singleton _ h).2 loop⟩
  | between found' chosen =>
    cases Option.some.inj (found.symm.trans found')
    simp [chosen] at isolated

theorem orbit_of_firstFree {record : Node} {r u : HalfedgeId} {l A B : List HalfedgeId}
    (found : m.node? n = some record) (chosen : record.halfedge = some r) (orbit : m.Orbit ↑l)
    (start : l.head? = some r) (first : m.FirstFree l A u B) :
    m'.Orbit ↑(A ++ u :: h :: B) := by
  cases docks with
  | alone found' isolated =>
    cases Option.some.inj (found.symm.trans found')
    simp [chosen] at isolated
  | @between record' r' u' v l' A' B' found' chosen' orbit' start' new first' follows loop =>
    cases Option.some.inj (found.symm.trans found')
    cases Option.some.inj (chosen.symm.trans chosen')
    cases orbit.eq_of_head? orbit' start start'
    rcases first.unique first' with ⟨rfl, rfl, rfl⟩
    have read : ((l : List HalfedgeId) : Cycle HalfedgeId) = ↑(B ++ (A ++ [u])) := by
      rw [first.split, show A ++ u :: B = (A ++ [u]) ++ B by simp, Cycle.coe_append_comm]
    have read' : ((A ++ u :: h :: B : List HalfedgeId) : Cycle HalfedgeId) =
        ↑(B ++ (A ++ [u]) ++ [h]) := by
      rw [show A ++ u :: h :: B = (A ++ [u] ++ [h]) ++ B by simp, Cycle.coe_append_comm,
        List.append_assoc, List.append_assoc, List.append_assoc]
    rw [read] at orbit
    rw [read']
    refine orbit_spliceIn orbit loop ?_ (by simp) ?_
    · rw [first.split] at new
      simp at new ⊢
      tauto
    · obtain ⟨y, next⟩ : ∃ y, (B ++ (A ++ [u])).head? = some y := by cases B <;> cases A <;> simp
      have last : (B ++ (A ++ [u])).getLast? = some u := by simp
      rw [next, (orbit.follows (Cycle.adjacent_of_ends last next)).right_unique follows]

end Docks

/-! ## Detaching -/

/-- The mesh in which `v`, unless it is `h` itself, represents the node in place of `h`. -/
def relieve (m : Mesh) (n : NodeId) (h v : HalfedgeId) : Mesh :=
  if (m.node? n).bind Node.halfedge = some h then m.represent n (if v = h then none else some v)
  else m

/-- The mesh in which `h`, between `u` and `v` on the orbit of the node `n`, is left out. -/
def undock (m : Mesh) (n : NodeId) (u h v : HalfedgeId) : Mesh :=
  (m.relieve n h v).spliceOut u v

section Undock

variable {m : Mesh} {n : NodeId} {u h v : HalfedgeId}

theorem relieve_cases (m : Mesh) (n : NodeId) (h v : HalfedgeId) :
    m.relieve n h v = m ∨ ∃ r, m.relieve n h v = m.represent n r := by
  unfold relieve
  split
  · exact .inr ⟨_, rfl⟩
  · exact .inl rfl

theorem halfedge?_relieve (x : HalfedgeId) : (m.relieve n h v).halfedge? x = m.halfedge? x := by
  rcases relieve_cases m n h v with same | ⟨r, same⟩ <;> rw [same]
  rfl

theorem edges_relieve : (m.relieve n h v).edges = m.edges := by
  rcases relieve_cases m n h v with same | ⟨r, same⟩ <;> rw [same]
  rfl

theorem faces_undock : (m.undock n u h v).faces = m.faces := by
  rcases relieve_cases m n h v with same | ⟨r, same⟩ <;> rw [undock, same] <;> rfl

theorem generationAt_undock : (m.undock n u h v).edges.generationAt = m.edges.generationAt := by
  rw [undock, spliceOut, generationAt_edges_link, edges_relieve]

theorem origin?_undock (x : HalfedgeId) : (m.undock n u h v).origin? x = m.origin? x := by
  rw [undock, spliceOut, origin?_link, origin?, halfedge?_relieve, origin?]

theorem faceOf?_undock (x : HalfedgeId) : (m.undock n u h v).faceOf? x = m.faceOf? x := by
  rw [undock, spliceOut, faceOf?_link, faceOf?, halfedge?_relieve, faceOf?]

theorem containsEdge_undock (e : EdgeId) :
    (m.undock n u h v).containsEdge e = m.containsEdge e :=
  containsEdge_eq_of_origin? origin?_undock e

theorem next?_undock (x : HalfedgeId) : (m.undock n u h v).next? x =
    if x = u.pair then (m.next? u.pair).map fun _ => v else m.next? x := by
  rw [undock, spliceOut, next?_link]
  simp only [next?, halfedge?_relieve]

theorem prev?_undock (x : HalfedgeId) : (m.undock n u h v).prev? x =
    if x = v then (m.prev? v).map fun _ => u.pair else m.prev? x := by
  rw [undock, spliceOut, prev?_link]
  simp only [prev?, halfedge?_relieve]

theorem node?_undock (n' : NodeId) : (m.undock n u h v).node? n' =
    if n' = n ∧ (m.node? n).bind Node.halfedge = some h then
      (m.node? n).map fun record => { record with halfedge := if v = h then none else some v }
    else m.node? n' := by
  rw [show (m.undock n u h v).node? n' = (m.relieve n h v).node? n' from rfl, relieve]
  by_cases chosen : (m.node? n).bind Node.halfedge = some h
  · simp only [chosen, if_true, and_true]
    rw [node?_represent]
  · simp [chosen]

theorem follows_relieve {g x : HalfedgeId} :
    (m.relieve n h v).Follows g x ↔ m.Follows g x := by
  rw [Follows, Follows, next?, prev?, halfedge?_relieve, halfedge?_relieve, next?, prev?]

theorem keeps_undock (after : m.Follows h v) :
    m.Keeps (m.undock n u h v) fun g => g = u ∨ g = h := fun g x still follows =>
  keeps_spliceOut (follows_relieve.2 after) g x still (follows_relieve.2 follows)

theorem orbit_undock {l : List HalfedgeId} (orbit : m.Orbit ↑(l ++ [h]))
    (before : m.Follows u h) (after : m.Follows h v) : (m.undock n u h v).Orbit ↑l := by
  have relieved : (m.relieve n h v).Orbit ↑(l ++ [h]) :=
    orbit.of_keeps fun _ _ _ => follows_relieve.2
  rcases List.eq_nil_or_concat' l with rfl | ⟨front, last, rfl⟩
  · exact ⟨Cycle.nodup_nil, Cycle.Chain.nil _⟩
  · obtain ⟨first, start⟩ : ∃ x, (front ++ [last]).head? = some x := by cases front <;> simp
    have atLast : m.Follows last h := orbit.follows (Cycle.adjacent_append (by simp) rfl)
    have atFirst : m.Follows h first :=
      orbit.follows (Cycle.adjacent_of_ends (by simp) (by rw [List.head?_append, start]; rfl))
    cases before.left_unique atLast
    cases after.right_unique atFirst
    exact orbit_spliceOut relieved (by simp) start

end Undock

theorem Docks.exists_follows {m m' : Mesh} {h : HalfedgeId} {n : NodeId}
    (docks : m.Docks h n m') : ∃ u v, m'.Follows u h ∧ m'.Follows h v := by
  cases docks with
  | alone _ _ loop => exact ⟨h, h, loop, loop⟩
  | between _ _ _ _ new first follows loop =>
    exact ⟨_, _, follows_spliceIn follows loop fun same => new (same ▸ first.mem)⟩

/-- Attaching and detaching again changes nothing but the half-edge and its twin. -/
theorem Docks.halfedge?_undock {m m' : Mesh} {h u v : HalfedgeId} {n : NodeId}
    (docks : m.Docks h n m') (before : m'.Follows u h) (after : m'.Follows h v) {x : HalfedgeId}
    (other : x ≠ h) (other' : x ≠ h.pair) :
    (m'.undock n u h v).halfedge? x = m.halfedge? x := by
  refine halfedge?_ext (by rw [origin?_undock, docks.origin?]) ?_ ?_
    (by rw [faceOf?_undock, docks.faceOf?])
  · rw [next?_undock]
    cases docks with
    | alone _ _ loop =>
      cases before.left_unique loop
      rw [if_neg other']
      rfl
    | @between _ _ u' v' _ _ _ _ _ _ _ new first follows loop =>
      obtain ⟨entering, leaving⟩ := follows_spliceIn follows loop fun same => new (same ▸ first.mem)
      cases before.left_unique entering
      cases after.right_unique leaving
      by_cases moved : x = u.pair
      · rw [if_pos moved, entering.1, moved, follows.1]
        rfl
      · rw [if_neg moved, spliceIn, next?_link, if_neg other', next?_link, if_neg moved]
  · rw [prev?_undock]
    cases docks with
    | alone _ _ loop =>
      cases after.right_unique loop
      rw [if_neg other]
      rfl
    | @between _ _ u' v' _ _ _ _ _ _ _ new first follows loop =>
      obtain ⟨entering, leaving⟩ := follows_spliceIn follows loop fun same => new (same ▸ first.mem)
      cases before.left_unique entering
      cases after.right_unique leaving
      by_cases moved : x = v
      · rw [if_pos moved, leaving.2, moved, follows.2]
        rfl
      · rw [if_neg moved, spliceIn, prev?_link, if_neg moved, prev?_link, if_neg other]

/-- Attaching and detaching again also restores the representative of the node. -/
theorem Docks.node?_undock {m m' : Mesh} {h u v : HalfedgeId} {n : NodeId}
    (docks : m.Docks h n m') (after : m'.Follows h v) (n' : NodeId) :
    (m'.undock n u h v).node? n' = m.node? n' := by
  rw [Mesh.node?_undock]
  cases docks with
  | @alone record found isolated loop =>
    cases after.right_unique loop
    rw [node?_represent, node?_represent, found]
    by_cases same : n' = n
    · have restored : { record with halfedge := none } = record := by
        cases record
        simp_all
      simp [same, found, restored]
    · simp [same]
  | @between record r u' v' l A B found chosen orbit start new first follows loop =>
    have other : record.halfedge ≠ some h := by
      rw [chosen]
      exact fun same => new (Option.some.inj same ▸ List.mem_of_head? start)
    rw [show (m.spliceIn u' h v').node? n = m.node? n from rfl, found, Option.bind_some,
      if_neg fun both => other both.2]
    rfl

end Mesh

namespace Edit

open Mesh

variable {s : Session} {h : HalfedgeId} {n : NodeId}

theorem setOrigin_of_origin? (starts : s.mesh.origin? h = some n) : setOrigin h n s = .ok () s := by
  have unchanged : (s.mesh.modifyHalfedge h fun record => { record with origin := n }) =
      s.mesh := by
    apply modifyHalfedge_eq_self
    intro record found
    rw [origin?, found] at starts
    cases Option.some.inj starts
    rfl
  rw [setOrigin, modifyHalfedge_apply, if_pos (containsHalfedge_of_origin? starts), unchanged]

theorem setRepresentative_of_live {r : Option HalfedgeId} {record : Node}
    (found : s.mesh.node? n = some record) :
    setRepresentative n r s = .ok () { s with mesh := s.mesh.represent n r } := by
  rw [setRepresentative, modifyNode_apply, if_pos (by simp [containsNode, found])]
  rfl

theorem attach_ends {record : Node} (found : s.mesh.node? n = some record)
    (starts : s.mesh.origin? h = some n) (loop : s.mesh.Follows h h)
    (around : ∀ r, record.halfedge = some r →
      ∃ l : List HalfedgeId, s.mesh.Orbit ↑l ∧ l.head? = some r ∧ h ∉ l) :
    (attach h n).Ends s (fun _ m => s.mesh.Docks h n m)
      (fun error m => m = s.mesh ∧ error = .topology (.noFreeSlot n) ∧
        ∃ (r : HalfedgeId) (l : List HalfedgeId), record.halfedge = some r ∧ s.mesh.Orbit ↑l ∧
          r ∈ l ∧ ∀ a ∈ l, ¬ s.mesh.Free a.pair) := by
  have live := loop.live_left
  unfold attach
  rw [ends_bind_of_ok (query_node found), ends_bind_of_ok (setOrigin_of_origin? starts)]
  cases chosen : record.halfedge with
  | none =>
    have unlinked : (s.mesh.represent n (some h)).link h.pair h = s.mesh.represent n (some h) :=
      link_eq_self loop.1 loop.2
    dsimp only
    rw [ends_bind_of_ok (setRepresentative_of_live found),
      ends_bind_of_ok (link_of_live (by simpa using live) (by simpa using live))]
    apply ends_of_ok (record_apply _ _)
    show s.mesh.Docks h n ((s.mesh.represent n (some h)).link h.pair h)
    rw [unlinked]
    exact .alone found chosen loop
  | some r =>
    rcases around r chosen with ⟨l, orbit, start, new⟩
    dsimp only
    by_cases room : ∃ a ∈ l, s.mesh.Free a.pair
    · rcases exists_firstFree room with ⟨A, u, B, first⟩
      have search := freeIncident_of_firstFree found chosen orbit start first
      obtain ⟨v, adjacent⟩ := Cycle.exists_adjacent (show u ∈ (l : Cycle HalfedgeId) from first.mem)
      have follows := orbit.follows adjacent
      rw [ends_bind_of_ok (query_of_ok search), ends_bind_of_ok (query_next follows.1),
        ends_bind_of_ok (link_of_live (by simpa using follows.live_left) live),
        ends_bind_of_ok (link_of_live (by simpa using live) (by simpa using follows.live_right))]
      exact ends_of_ok (record_apply _ _)
        (Docks.between found chosen orbit start new first follows loop)
    · have faced : ∀ a ∈ l, ¬ s.mesh.Free a.pair := fun a mem free => room ⟨a, mem, free⟩
      rw [ends_bind_of_refused (query_of_error
        (freeIncident_of_faced found chosen orbit start faced))]
      exact ⟨rfl, rfl, r, l, rfl, orbit, List.mem_of_head? start, faced⟩

theorem detach_ends {record : Node} {u v : HalfedgeId} (found : s.mesh.node? n = some record)
    (starts : s.mesh.origin? h = some n) (before : s.mesh.Follows u h)
    (after : s.mesh.Follows h v) :
    (detach h).Ends s (fun _ m => m = s.mesh.undock n u h v) (fun _ _ => False) := by
  have uLive : s.mesh.containsHalfedge u.pair = true := by simpa using before.live_left
  have vLive : s.mesh.containsHalfedge v = true := after.live_right
  unfold detach
  rw [ends_bind_of_ok (query_origin starts), ends_bind_of_ok (query_next after.1),
    ends_bind_of_ok (query_node found)]
  by_cases chosen : record.halfedge = some h
  · let t : Session := { s with mesh := s.mesh.represent n (if v = h then none else some v) }
    rw [if_pos chosen, ends_bind_of_ok (setRepresentative_of_live found)]
    dsimp only
    rw [ends_bind_of_ok (query_prev (s := t) before.2),
      ends_bind_of_ok (link_of_live (s := t) uLive vLive)]
    apply ends_of_ok (record_apply _ _)
    rw [undock, relieve, found, Option.bind_some, if_pos chosen]
    rfl
  · rw [if_neg chosen, ends_bind_of_ok (query_prev before.2),
      ends_bind_of_ok (link_of_live uLive vLive)]
    apply ends_of_ok (record_apply _ _)
    rw [undock, relieve, found, Option.bind_some, if_neg chosen]
    rfl

end Edit

end PlanarMesh
