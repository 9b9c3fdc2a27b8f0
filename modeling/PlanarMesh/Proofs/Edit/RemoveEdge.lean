import PlanarMesh.Proofs.Edit.AddEdge
import PlanarMesh.Proofs.Edit.Face

/-!
# Removing edges and nodes

An edge is removed in three steps: the faces at its sides go (`Opened`), its half-edges leave the
rings of their nodes, and its record is dropped (`DroppedEdge`).  None of them is ever refused,
so a live edge can always be removed, and so can a node with all its edges.
-/

namespace PlanarMesh

namespace Mesh

/-- `m'` is `m` without the face at `h`, if there is one. -/
inductive Opened (m : Mesh) (h : HalfedgeId) : Mesh → Prop
  | free (free : m.Free h) : Opened m h m
  | face {f : FaceId} {t : Corners HalfedgeId} {m' : Mesh}
      (reports : m.faceOf? h = some (some f)) (removed : m.RemovedFace f t m') : Opened m h m'

/-- `m'` is `m` without the edge `e`, which bordered no face. -/
structure DroppedEdge (m : Mesh) (e : EdgeId) (m' : Mesh) : Prop where
  sound : m'.Sound
  faces : m'.faces = m.faces
  edgeCount : m'.edgeCount + 1 = m.edgeCount
  edgeGenerations : m'.edges.generationAt = (m.edges.erase e).generationAt
  position : ∀ n, (m'.node? n).map Node.position = (m.node? n).map Node.position
  represented : ∀ n record r, m.node? n = some record → record.halfedge = some r → r.edge ≠ e →
    m'.node? n = some record
  origin? : ∀ h, m'.origin? h = if h.edge = e then none else m.origin? h
  faceOf? : ∀ h, m'.faceOf? h = if h.edge = e then none else m.faceOf? h
  keeps_faced : m.Keeps m' fun g => m.Free g.pair
  ring_of_ne : ∀ n ring, (∀ h : HalfedgeId, h ∈ ring → h.edge ≠ e) → m.Ring n ring → m'.Ring n ring
  ring : ∀ n (l : List HalfedgeId) (h : HalfedgeId), h.edge = e →
    m.Ring n ↑(l ++ [h]) → m'.Ring n ↑l

/-! ## Opening a side -/

namespace Opened

variable {m m' : Mesh} {h : HalfedgeId} (opened : m.Opened h m')

include opened

theorem sound (sound : m.Sound) : m'.Sound := by
  cases opened with
  | free => exact sound
  | face _ removed => exact removed.sound

theorem nodes : m'.nodes = m.nodes := by
  cases opened with
  | free => rfl
  | face _ removed => exact removed.nodes

theorem origin? (x : HalfedgeId) : m'.origin? x = m.origin? x := by
  cases opened with
  | free => rfl
  | face _ removed => exact removed.origin? x

theorem follows {g x : HalfedgeId} : m'.Follows g x ↔ m.Follows g x := by
  cases opened with
  | free => rfl
  | face _ removed => rw [Follows, Follows, removed.next?, removed.prev?]

theorem ring {n : NodeId} {ring : Cycle HalfedgeId} (around : m.Ring n ring) : m'.Ring n ring :=
  around.of_keeps (fun x => by rw [opened.origin?]) fun _ _ _ => opened.follows.2

theorem free_self : m'.Free h := by
  cases opened with
  | free free => exact free
  | face reports removed =>
    rw [Free, removed.faceOf?, if_pos ((removed.triangle.reports_iff h).1 reports)]

theorem free_of_free {x : HalfedgeId} (free : m.Free x) : m'.Free x := by
  cases opened with
  | free => exact free
  | face _ removed =>
    rw [Free, removed.faceOf?]
    split
    · rfl
    · exact free

end Opened

/-! ## Detaching both sides -/

section Detached

variable {m : Mesh} {e : EdgeId} {n₁ n₂ : NodeId} {u₁ v₁ u₂ v₂ : HalfedgeId}

/-- The mesh without the edge, whose sides had these neighbours. -/
def dropEdge (m : Mesh) (e : EdgeId) (n₁ n₂ : NodeId) (u₁ v₁ u₂ v₂ : HalfedgeId) : Mesh :=
  ((m.undock n₁ u₁ e.first v₁).undock n₂ u₂ e.second v₂).withoutEdge e

theorem origin?_dropEdge (h : HalfedgeId) :
    (m.dropEdge e n₁ n₂ u₁ v₁ u₂ v₂).origin? h = if h.edge = e then none else m.origin? h := by
  rw [dropEdge, origin?, halfedge?_withoutEdge]
  by_cases dropped : h.edge = e
  · rw [if_pos dropped, if_pos dropped]
    rfl
  · rw [if_neg dropped, if_neg dropped, ← origin?, origin?_undock, origin?_undock]

theorem faceOf?_dropEdge (h : HalfedgeId) :
    (m.dropEdge e n₁ n₂ u₁ v₁ u₂ v₂).faceOf? h = if h.edge = e then none else m.faceOf? h := by
  rw [dropEdge, faceOf?, halfedge?_withoutEdge]
  by_cases dropped : h.edge = e
  · rw [if_pos dropped, if_pos dropped]
    rfl
  · rw [if_neg dropped, if_neg dropped, ← faceOf?, faceOf?_undock, faceOf?_undock]

theorem node?_dropEdge (ne : n₁ ≠ n₂) (n : NodeId) : (m.dropEdge e n₁ n₂ u₁ v₁ u₂ v₂).node? n =
    if n = n₂ then (m.undock n₂ u₂ e.second v₂).node? n₂
    else (m.undock n₁ u₁ e.first v₁).node? n := by
  have second : (m.undock n₁ u₁ e.first v₁).node? n₂ = m.node? n₂ := by
    rw [node?_undock, if_neg fun both => ne both.1.symm]
  rw [dropEdge, node?_withoutEdge, node?_undock, second, node?_undock (n := n₂)]
  by_cases here : n = n₂
  · simp [here, second]
  · simp [here]

theorem position_undock {n : NodeId} {u h v : HalfedgeId} (n' : NodeId) :
    ((m.undock n u h v).node? n').map Node.position = (m.node? n').map Node.position := by
  rw [node?_undock]
  split
  · next both => rw [both.1, Option.map_map, Function.comp_def]
  · rfl

theorem position_dropEdge (n : NodeId) :
    ((m.dropEdge e n₁ n₂ u₁ v₁ u₂ v₂).node? n).map Node.position =
      (m.node? n).map Node.position := by
  rw [dropEdge, node?_withoutEdge, position_undock, position_undock]

/-- A node that is represented by another edge is not written to. -/
theorem node?_undock_of_ne {n n' : NodeId} {u h v : HalfedgeId} {record : Node} {r : HalfedgeId}
    (found : m.node? n' = some record) (chosen : record.halfedge = some r) (other : r ≠ h) :
    (m.undock n u h v).node? n' = some record := by
  rw [node?_undock, if_neg, found]
  rintro ⟨rfl, same⟩
  rw [found, Option.bind_some, chosen] at same
  exact other (Option.some.inj same)

theorem represented_dropEdge {n : NodeId} {record : Node} {r : HalfedgeId}
    (found : m.node? n = some record) (chosen : record.halfedge = some r) (other : r.edge ≠ e) :
    (m.dropEdge e n₁ n₂ u₁ v₁ u₂ v₂).node? n = some record := by
  rw [dropEdge, node?_withoutEdge]
  apply node?_undock_of_ne _ chosen
  · exact fun same => other (edge_eq_iff.2 (.inr same))
  · exact node?_undock_of_ne found chosen fun same => other (edge_eq_iff.2 (.inl same))

theorem faces_dropEdge : (m.dropEdge e n₁ n₂ u₁ v₁ u₂ v₂).faces = m.faces := by
  rw [dropEdge, faces_withoutEdge, faces_undock, faces_undock]

theorem edgeCount_dropEdge (live : m.edges.contains e = true) :
    (m.dropEdge e n₁ n₂ u₁ v₁ u₂ v₂).edgeCount + 1 = m.edgeCount := by
  have same : ∀ e', ((m.undock n₁ u₁ e.first v₁).undock n₂ u₂ e.second v₂).edges.contains e' =
      m.edges.contains e' := fun e' => (containsEdge_undock e').trans (containsEdge_undock e')
  rw [edgeCount, edgeCount, ← SlotStore.size_eq_of_contains same, dropEdge, edges_withoutEdge]
  exact SlotStore.size_erase ((same e).trans live)

theorem generationAt_dropEdge (live : m.edges.contains e = true) :
    (m.dropEdge e n₁ n₂ u₁ v₁ u₂ v₂).edges.generationAt = (m.edges.erase e).generationAt := by
  have still : ((m.undock n₁ u₁ e.first v₁).undock n₂ u₂ e.second v₂).edges.contains e = true :=
    ((containsEdge_undock e).trans (containsEdge_undock e)).trans live
  funext i
  rw [dropEdge, edges_withoutEdge, SlotStore.generationAt_erase still,
    SlotStore.generationAt_erase live, generationAt_undock, generationAt_undock]

/-- What follows itself is alone on its orbit. -/
theorem Orbit.eq_of_follows_self {ring : Cycle HalfedgeId} {h : HalfedgeId}
    (orbit : m.Orbit ring) (mem : h ∈ ring) (loop : m.Follows h h) : ring = ↑[h] := by
  refine orbit.unique ⟨List.nodup_singleton h, ?_⟩ mem (by simp)
  exact (Cycle.chain_singleton _ h).2 loop

section Represented

variable {n n' : NodeId} {u h v : HalfedgeId} {record : Node} (sound : m.Sound)
  (start : m.origin? h = some n) (after : m.Follows h v)
  (found : (m.undock n u h v).node? n' = some record)

include sound start after found

theorem isolated_of_undock (isolated : record.halfedge = none) {x : HalfedgeId} (other : x ≠ h) :
    m.origin? x ≠ some n' := by
  intro start'
  rw [node?_undock] at found
  split at found
  · next both =>
    rcases Option.map_eq_some_iff.1 found with ⟨record', -, rfl⟩
    have alone : v = h := by
      by_contra further
      simp [further] at isolated
    rcases sound.exists_ring n with ⟨ring, around⟩
    have single := around.toOrbit.eq_of_follows_self ((around.mem_iff h).2 start) (alone ▸ after)
    rw [both.1, ← around.mem_iff, single] at start'
    exact other (by simpa using start')
  · exact sound.isolated n' record found isolated x start'

theorem representative_of_undock {r : HalfedgeId} (chosen : record.halfedge = some r) :
    m.origin? r = some n' ∧ r ≠ h := by
  rw [node?_undock] at found
  split at found
  · next both =>
    rcases Option.map_eq_some_iff.1 found with ⟨record', -, rfl⟩
    by_cases alone : v = h
    · simp [alone] at chosen
    · simp only [alone, if_false, Option.some.injEq] at chosen
      subst chosen
      exact ⟨(sound.origin?_of_follows after).trans (both.1 ▸ start), alone⟩
  · next other =>
    have start' := sound.representative n' record r found chosen
    refine ⟨start', ?_⟩
    rintro rfl
    cases Option.some.inj (start.symm.trans start')
    exact other ⟨rfl, by rw [found]; exact chosen⟩

end Represented

/-- The sides of the edge start at these nodes, between these neighbours. -/
structure Placed (m : Mesh) (e : EdgeId) (n₁ n₂ : NodeId) (u₁ v₁ u₂ v₂ : HalfedgeId) : Prop where
  start₁ : m.origin? e.first = some n₁
  start₂ : m.origin? e.second = some n₂
  before₁ : m.Follows u₁ e.first
  after₁ : m.Follows e.first v₁
  before₂ : m.Follows u₂ e.second
  after₂ : m.Follows e.second v₂

theorem Placed.live (placed : m.Placed e n₁ n₂ u₁ v₁ u₂ v₂) : m.edges.contains e = true := by
  have live := containsHalfedge_of_origin? placed.start₁
  rwa [containsHalfedge_eq_containsEdge] at live

theorem exists_placed (sound : m.Sound) (live : m.containsEdge e = true) :
    ∃ n₁ n₂ u₁ v₁ u₂ v₂, m.Placed e n₁ n₂ u₁ v₁ u₂ v₂ := by
  have live₁ : m.containsHalfedge e.first = true := by rwa [containsHalfedge_eq_containsEdge]
  have live₂ : m.containsHalfedge e.second = true := by rwa [containsHalfedge_eq_containsEdge]
  rcases containsHalfedge_iff_origin?.1 live₁ with ⟨n₁, start₁⟩
  rcases containsHalfedge_iff_origin?.1 live₂ with ⟨n₂, start₂⟩
  rcases sound.exists_follows_to start₁ with ⟨u₁, before₁, -⟩
  rcases sound.exists_follows start₁ with ⟨v₁, after₁, -⟩
  rcases sound.exists_follows_to start₂ with ⟨u₂, before₂, -⟩
  rcases sound.exists_follows start₂ with ⟨v₂, after₂, -⟩
  exact ⟨n₁, n₂, u₁, v₁, u₂, v₂, start₁, start₂, before₁, after₁, before₂, after₂⟩

variable (sound : m.Sound) (placed : m.Placed e n₁ n₂ u₁ v₁ u₂ v₂)

include sound placed

theorem Placed.ne : n₁ ≠ n₂ := by
  rintro rfl
  exact sound.ends_ne e.first n₁ placed.start₁ placed.start₂

/-- Around other nodes nothing happens while the first side is detached. -/
theorem follows_undock_of_origin {g h : HalfedgeId} (other : m.origin? g ≠ some n₁)
    (follows : m.Follows g h) : (m.undock n₁ u₁ e.first v₁).Follows g h := by
  refine keeps_undock placed.after₁ g h ?_ follows
  rintro (rfl | rfl)
  · exact other ((sound.origin?_of_follows placed.before₁).symm.trans placed.start₁)
  · exact other placed.start₁

/-- The neighbours of the second side are the same when the first is detached. -/
theorem Placed.undock : (m.undock n₁ u₁ e.first v₁).Follows u₂ e.second ∧
    (m.undock n₁ u₁ e.first v₁).Follows e.second v₂ := by
  have other : m.origin? e.second ≠ some n₁ := by
    rw [placed.start₂]
    exact fun same => placed.ne sound (Option.some.inj same).symm
  refine ⟨follows_undock_of_origin sound placed ?_ placed.before₂,
    follows_undock_of_origin sound placed other placed.after₂⟩
  rwa [← sound.origin?_of_follows placed.before₂]

theorem keeps_dropEdge : m.Keeps (m.dropEdge e n₁ n₂ u₁ v₁ u₂ v₂)
    fun g => g = u₁ ∨ g = u₂ ∨ g.edge = e := by
  intro g h still follows
  have gOther : g.edge ≠ e := fun same => still (.inr (.inr same))
  have hOther : h.edge ≠ e := by
    intro same
    rcases edge_eq_iff.1 same with rfl | rfl
    · exact still (.inl (follows.left_unique placed.before₁))
    · exact still (.inr (.inl (follows.left_unique placed.before₂)))
  have first := keeps_undock (u := u₁) (n := n₁) placed.after₁ g h (fun moved => moved.elim
    (fun same => still (.inl same)) fun same => gOther (edge_eq_iff.2 (.inl same))) follows
  have second := keeps_undock (u := u₂) (n := n₂) (placed.undock sound).2 g h
    (fun moved => moved.elim (fun same => still (.inr (.inl same)))
      fun same => gOther (edge_eq_iff.2 (.inr same))) first
  exact second.withoutEdge gOther hOther

theorem ring_of_ne_dropEdge {n : NodeId} {ring : Cycle HalfedgeId}
    (apart : ∀ h : HalfedgeId, h ∈ ring → h.edge ≠ e) (around : m.Ring n ring) :
    (m.dropEdge e n₁ n₂ u₁ v₁ u₂ v₂).Ring n ring where
  toOrbit := around.toOrbit.of_keeps fun g h mem follows => by
    refine keeps_dropEdge sound placed g h ?_ follows
    rintro (rfl | rfl | same)
    · exact apart e.first (around.mem_of_follows_left mem placed.before₁) rfl
    · exact apart e.second (around.mem_of_follows_left mem placed.before₂) rfl
    · exact apart g mem same
  mem_iff h := by
    rw [origin?_dropEdge, around.mem_iff]
    by_cases dropped : h.edge = e
    · simpa [dropped] using fun start => apart h ((around.mem_iff h).2 start) dropped
    · rw [if_neg dropped]

theorem ring_dropEdge {n : NodeId} {l : List HalfedgeId} {h : HalfedgeId} (dropped : h.edge = e)
    (around : m.Ring n ↑(l ++ [h])) : (m.dropEdge e n₁ n₂ u₁ v₁ u₂ v₂).Ring n ↑l := by
  have starts : ∀ x, x ∈ l ++ [h] ↔ m.origin? x = some n := around.mem_iff
  have ne := placed.ne sound
  have old : ∀ x ∈ l, x.edge ≠ e := by
    intro x mem same
    have apart : x ≠ h := (List.nodup_append.1 around.nodup).2.2 x mem h (by simp)
    have start := (starts x).1 (by simp [mem])
    have start' := (starts h).1 (by simp)
    rcases edge_eq_iff.1 same with rfl | rfl <;> rcases edge_eq_iff.1 dropped with rfl | rfl
    · exact apart rfl
    · exact ne (Option.some.inj (placed.start₁.symm.trans
        (start.trans (start'.symm.trans placed.start₂))))
    · exact ne (Option.some.inj (placed.start₁.symm.trans
        (start'.trans (start.symm.trans placed.start₂))))
    · exact apart rfl
  have detached : ((m.undock n₁ u₁ e.first v₁).undock n₂ u₂ e.second v₂).Orbit ↑l := by
    rcases placed.undock sound with ⟨before, after⟩
    have others : ∀ x ∈ l, ∀ y, m.origin? y ≠ some n → x ≠ y := by
      rintro x mem y other rfl
      exact other ((starts x).1 (by simp [mem]))
    rcases edge_eq_iff.1 dropped with rfl | rfl
    · have here : n = n₁ :=
        Option.some.inj (((starts e.first).1 (by simp)).symm.trans placed.start₁)
      have apart : m.origin? e.second ≠ some n := by
        rw [placed.start₂, here]
        exact fun same => ne (Option.some.inj same).symm
      apply (keeps_undock after).orbit (orbit_undock around.toOrbit placed.before₁ placed.after₁)
      rintro x mem (rfl | rfl)
      · exact others x mem x (by rwa [← sound.origin?_of_follows placed.before₂]) rfl
      · exact others _ mem _ apart rfl
    · have here : n = n₂ :=
        Option.some.inj (((starts e.second).1 (by simp)).symm.trans placed.start₂)
      refine orbit_undock (around.toOrbit.of_keeps fun g h mem follows => ?_) before after
      refine follows_undock_of_origin sound placed ?_ follows
      rw [(starts g).1 mem, here]
      exact fun same => ne (Option.some.inj same).symm
  refine ⟨detached.of_keeps fun g h mem follows => ?_, fun x => ?_⟩
  · exact follows.withoutEdge (old g mem) (old h (detached.mem_of_follows_left mem follows))
  · rw [origin?_dropEdge]
    by_cases gone : x.edge = e
    · simpa [gone] using fun mem => old x mem gone
    · rw [if_neg gone, ← starts]
      have other : x ≠ h := fun same => gone (same ▸ dropped)
      simp [other]

variable (free₁ : m.Free e.first) (free₂ : m.Free e.second)

include free₁ free₂

theorem keeps_faced_dropEdge :
    m.Keeps (m.dropEdge e n₁ n₂ u₁ v₁ u₂ v₂) fun g => m.Free g.pair := by
  intro g h faced follows
  refine keeps_dropEdge sound placed g h ?_ follows
  rintro (rfl | rfl | same)
  · exact faced ((sound.free_iff placed.before₁).1 free₁)
  · exact faced ((sound.free_iff placed.before₂).1 free₂)
  · rcases edge_eq_iff.1 same with rfl | rfl
    · exact faced free₂
    · exact faced free₁

theorem sound_dropEdge : (m.dropEdge e n₁ n₂ u₁ v₁ u₂ v₂).Sound where
  origin_live h n start := by
    rw [origin?_dropEdge] at start
    have live := sound.origin_live h n (by
      by_cases dropped : h.edge = e
      · simp [dropped] at start
      · rwa [if_neg dropped] at start)
    rw [containsNode, ← Option.isSome_map (f := Node.position), position_dropEdge,
      Option.isSome_map]
    exact live
  ends_ne h n start finish := by
    rw [origin?_dropEdge] at start finish
    by_cases dropped : h.edge = e
    · simp [dropped] at start
    · rw [if_neg dropped] at start
      rw [if_neg (show h.pair.edge ≠ e from dropped)] at finish
      exact sound.ends_ne h n start finish
  exists_ring n := by
    rcases sound.exists_ring n with ⟨ring, around⟩
    by_cases apart : ∀ h : HalfedgeId, h ∈ ring → h.edge ≠ e
    · exact ⟨ring, ring_of_ne_dropEdge sound placed apart around⟩
    · push Not at apart
      rcases apart with ⟨h, mem, dropped⟩
      rcases Cycle.exists_coe_concat mem with ⟨l, rfl⟩
      exact ⟨↑l, ring_dropEdge sound placed dropped around⟩
  isolated n record found isolated h start := by
    rw [origin?_dropEdge] at start
    by_cases dropped : h.edge = e
    · simp [dropped] at start
    rw [if_neg dropped] at start
    rw [node?_dropEdge (placed.ne sound)] at found
    by_cases here : n = n₂
    · subst here
      rw [if_pos rfl] at found
      exact isolated_of_undock sound placed.start₂ placed.after₂ found isolated
        (fun same => dropped (edge_eq_iff.2 (.inr same))) start
    · rw [if_neg here] at found
      exact isolated_of_undock sound placed.start₁ placed.after₁ found isolated
        (fun same => dropped (edge_eq_iff.2 (.inl same))) start
  representative n record h found chosen := by
    have starts : m.origin? h = some n ∧ h ≠ e.first ∧ h ≠ e.second := by
      have ne := placed.ne sound
      rw [node?_dropEdge ne] at found
      by_cases here : n = n₂
      · subst here
        rw [if_pos rfl] at found
        obtain ⟨start, other⟩ :=
          representative_of_undock sound placed.start₂ placed.after₂ found chosen
        refine ⟨start, ?_, other⟩
        rintro rfl
        exact ne (Option.some.inj (placed.start₁.symm.trans start))
      · rw [if_neg here] at found
        obtain ⟨start, other⟩ :=
          representative_of_undock sound placed.start₁ placed.after₁ found chosen
        refine ⟨start, other, ?_⟩
        rintro rfl
        exact here (Option.some.inj (start.symm.trans placed.start₂))
    rw [origin?_dropEdge, if_neg fun same => (edge_eq_iff.1 same).elim starts.2.1 starts.2.2]
    exact starts.1
  face_live h f reports := by
    rw [faceOf?_dropEdge] at reports
    by_cases dropped : h.edge = e
    · simp [dropped] at reports
    · rw [if_neg dropped] at reports
      rw [containsFace, face?, faces_dropEdge]
      exact sound.face_live h f reports
  triangle f record found := by
    rw [face?, faces_dropEdge] at found
    rcases sound.triangle f record found with ⟨t, first, triangle⟩
    refine ⟨t, first, (keeps_faced_dropEdge sound placed free₁ free₂).triangle sound triangle
      fun h => ?_⟩
    rw [faceOf?_dropEdge]
    by_cases dropped : h.edge = e
    · rw [if_pos dropped]
      rcases edge_eq_iff.1 dropped with rfl | rfl
      · simp [show m.faceOf? e.first = some none from free₁]
      · simp [show m.faceOf? e.second = some none from free₂]
    · rw [if_neg dropped]

theorem droppedEdge_dropEdge : m.DroppedEdge e (m.dropEdge e n₁ n₂ u₁ v₁ u₂ v₂) where
  sound := sound_dropEdge sound placed free₁ free₂
  faces := faces_dropEdge
  edgeCount := edgeCount_dropEdge placed.live
  edgeGenerations := generationAt_dropEdge placed.live
  position := position_dropEdge
  represented _ _ _ := represented_dropEdge
  origin? h := origin?_dropEdge h
  faceOf? h := faceOf?_dropEdge h
  keeps_faced := keeps_faced_dropEdge sound placed free₁ free₂
  ring_of_ne _ _ apart around := ring_of_ne_dropEdge sound placed apart around
  ring _ _ _ dropped around := ring_dropEdge sound placed dropped around

end Detached

end Mesh

namespace Edit

open Mesh

variable {s : Session}

theorem removeFaceAt_ends (sound : s.mesh.Sound) {h : HalfedgeId}
    (live : s.mesh.containsHalfedge h = true) :
    (removeFaceAt h).Ends s (fun _ m => s.mesh.Opened h m) (fun _ _ => False) := by
  unfold removeFaceAt
  rcases containsHalfedge_iff_faceOf?.1 live with ⟨face, reports⟩
  rw [ends_bind_of_ok (query_faceOf reports)]
  cases face with
  | none => exact .free reports
  | some f =>
    apply (removeFace_ends sound).mono
    · rintro - m ⟨t, removed⟩
      exact .face reports removed
    · rintro error m ⟨dead, -⟩
      rw [sound.face_live h f reports] at dead
      cases dead

/-- Detaching both sides of an edge without faces and dropping its record. -/
theorem detachBoth_ends (sound : s.mesh.Sound) {e : EdgeId} (live : s.mesh.containsEdge e = true)
    (free₁ : s.mesh.Free e.first) (free₂ : s.mesh.Free e.second) {next : Edit Unit}
    {returns : Unit → Mesh → Prop} {refuses : MeshError → Mesh → Prop}
    (continues : ∀ t, s.mesh.DroppedEdge e t.mesh → next.Ends t returns refuses) :
    (do
      detach e.first
      detach e.second
      let _ ← dropEdge e
      next).Ends s returns refuses := by
  rcases exists_placed sound live with ⟨n₁, n₂, u₁, v₁, u₂, v₂, placed⟩
  rcases placed.undock sound with ⟨before, after⟩
  obtain ⟨record₁, found₁⟩ := Option.isSome_iff_exists.1
    (sound.origin_live e.first n₁ placed.start₁)
  obtain ⟨record₂, found₂⟩ := Option.isSome_iff_exists.1
    (sound.origin_live e.second n₂ placed.start₂)
  refine (detach_ends found₁ placed.start₁ placed.before₁ placed.after₁).bind ?_
    fun _ _ => False.elim
  rintro - t first
  have foundHere : t.mesh.node? n₂ = some record₂ := by
    rw [first, node?_undock, if_neg fun both => placed.ne sound both.1.symm]
    exact found₂
  have startsHere : t.mesh.origin? e.second = some n₂ := by
    rw [first, origin?_undock]
    exact placed.start₂
  refine (detach_ends foundHere startsHere (first ▸ before) (first ▸ after)).bind ?_
    fun _ _ => False.elim
  rintro - t' second
  rw [ends_bind_of_ok (dropEdge_apply e t')]
  apply continues _
  have dropped := droppedEdge_dropEdge sound placed free₁ free₂
  rw [first] at second
  rwa [Mesh.dropEdge, ← second] at dropped

/-- Every live edge can be removed. -/
theorem removeEdge_ends (sound : s.mesh.Sound) {e : EdgeId} :
    (removeEdge e).Ends s
      (fun _ m => s.mesh.containsEdge e = true ∧ ∃ m₁ m₂, s.mesh.Opened e.first m₁ ∧
        m₁.Opened e.second m₂ ∧ m₂.DroppedEdge e m)
      (fun error m => s.mesh.containsEdge e = false ∧ m = s.mesh ∧ error = .invalidEdge e) := by
  unfold removeEdge
  cases live : s.mesh.containsEdge e with
  | false =>
    rw [ends_bind_of_refused (query_of_error (edge_of_dead live))]
    exact ⟨rfl, rfl, rfl⟩
  | true =>
    rcases Option.isSome_iff_exists.1 live with ⟨record, found⟩
    rw [ends_bind_of_ok (query_of_ok (edge_eq_ok_iff.2 found))]
    have live₁ : s.mesh.containsHalfedge e.first = true := by
      rwa [containsHalfedge_eq_containsEdge]
    refine (removeFaceAt_ends sound live₁).bind ?_ fun _ _ => False.elim
    rintro - t₁ opened₁
    have still := containsEdge_eq_of_origin? opened₁.origin? e
    have live₂ : t₁.mesh.containsHalfedge e.second = true := by
      rw [containsHalfedge_eq_containsEdge]
      exact still.trans live
    refine (removeFaceAt_ends (opened₁.sound sound) live₂).bind ?_ fun _ _ => False.elim
    rintro - t₂ opened₂
    refine detachBoth_ends (opened₂.sound (opened₁.sound sound)) ?_
      (opened₂.free_of_free opened₁.free_self) opened₂.free_self ?_
    · exact (containsEdge_eq_of_origin? opened₂.origin? e).trans (still.trans live)
    · intro t₃ dropped
      rw [ends_bind_of_ok (record_apply _ _)]
      refine ends_of_ok (checkAfter_of_sound ?_) ?_
      · exact dropped.sound
      · exact ⟨rfl, t₁.mesh, t₂.mesh, opened₁, opened₂, dropped⟩

end Edit

end PlanarMesh
