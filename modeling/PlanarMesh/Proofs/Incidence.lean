import PlanarMesh.Proofs.Validity

/-!
# Walks around nodes

On a sound mesh the walk around a node lists its ring, from the representative on
(`Sound.exists_tour`): the fuel of the walk is never what ends it.  So a half-edge between two
nodes is found exactly when there is one (`Sound.exists_findHalfedge`).
-/

namespace PlanarMesh

namespace Mesh

variable {m : Mesh}

/-! ## The walk -/

theorem walkFrom_of_isChain {step : HalfedgeId → Option HalfedgeId} {start h : HalfedgeId}
    {l : List HalfedgeId} {fuel : Nat} (chain : (h :: l).IsChain fun g g' => step g = some g')
    (closes : ∀ g ∈ (h :: l).getLast?, step g = some start) (fresh : start ∉ l)
    (enough : (h :: l).length ≤ fuel) : walkFrom step start fuel h = h :: l := by
  induction l generalizing h fuel with
  | nil =>
    rcases Nat.exists_eq_succ_of_ne_zero (Nat.ne_of_gt (Nat.zero_lt_of_lt enough)) with ⟨fuel, rfl⟩
    rw [walkFrom, closes h rfl]
    simp
  | cons x l inductionHypothesis =>
    rcases Nat.exists_eq_succ_of_ne_zero (Nat.ne_of_gt (Nat.zero_lt_of_lt enough)) with ⟨fuel, rfl⟩
    rcases List.isChain_cons_cons.1 chain with ⟨first, rest⟩
    have further : x ≠ start := fun same => fresh (by simp [same])
    have walked := inductionHypothesis rest (by simpa using closes)
      (fun mem => fresh (List.mem_cons_of_mem x mem)) (Nat.le_of_succ_le_succ enough)
    rw [walkFrom, first]
    simp only [if_neg further, walked]

theorem walkFrom_of_orbit {l : List HalfedgeId} {r : HalfedgeId} (orbit : m.Orbit ↑l)
    (start : l.head? = some r) : walkFrom m.around? r m.halfedgeCount r = l := by
  rcases List.head?_eq_some_iff.1 start with ⟨l, rfl⟩
  rcases Cycle.chain_coe_iff.1 orbit.chain with ⟨chain, closes⟩
  refine walkFrom_of_isChain (chain.imp fun _ _ follows => follows.1)
    (fun g last => (closes g last r rfl).1) (List.nodup_cons.1 orbit.nodup).1 ?_
  exact orbit.length_le

/-! ## Outgoing half-edges -/

/-- The walk around `n` lists the half-edges `l`, and they are its ring. -/
structure Tour (m : Mesh) (n : NodeId) (l : List HalfedgeId) : Prop where
  lists : m.outgoing n = .ok l
  ring : m.Ring n ↑l

theorem Tour.unique {n : NodeId} {l l' : List HalfedgeId} (tour : m.Tour n l)
    (tour' : m.Tour n l') : l = l' :=
  Except.ok.inj (tour.lists.symm.trans tour'.lists)

theorem Tour.exists_node {n : NodeId} {l : List HalfedgeId} (tour : m.Tour n l) :
    ∃ record, m.node? n = some record := by
  rcases bind_eq_ok_iff.1 tour.lists with ⟨record, found, -⟩
  exact ⟨record, node_eq_ok_iff.1 found⟩

section Tour

variable {n : NodeId} {record : Node} {l : List HalfedgeId} (found : m.node? n = some record)

include found

theorem outgoing_of_isolated (isolated : record.halfedge = none) : m.outgoing n = .ok [] := by
  rw [outgoing, node_eq_ok_iff.2 found]
  simp [bind, Except.bind, pure, Except.pure, isolated]

/-- The walk starts at the representative. -/
theorem Ring.tour (around : m.Ring n ↑l) {r : HalfedgeId} (chosen : record.halfedge = some r)
    (start : l.head? = some r) : m.Tour n l where
  lists := by
    rw [outgoing, node_eq_ok_iff.2 found]
    simp [bind, Except.bind, pure, Except.pure, chosen, walkFrom_of_orbit around.toOrbit start]
  ring := around

theorem Sound.tour_of_isolated (sound : m.Sound) (isolated : record.halfedge = none) :
    m.Tour n [] where
  lists := outgoing_of_isolated found isolated
  ring := by
    rcases sound.exists_ring n with ⟨ring, around⟩
    induction ring with
    | nil => exact around
    | cons h l _ =>
      have start := (around.mem_iff h).1 (by simp)
      exact absurd start (sound.isolated n record found isolated h)

theorem Sound.head?_of_tour (sound : m.Sound) (tour : m.Tour n l) :
    l.head? = record.halfedge := by
  cases chosen : record.halfedge with
  | none => rw [tour.unique (sound.tour_of_isolated found chosen), List.head?_nil]
  | some r =>
    rcases sound.exists_ring_from found chosen with ⟨l', around, start⟩
    rw [tour.unique (around.tour found chosen start), start]

end Tour

theorem Sound.exists_tour (sound : m.Sound) {n : NodeId} (live : m.containsNode n = true) :
    ∃ l, m.Tour n l := by
  rcases Option.isSome_iff_exists.1 live with ⟨record, found⟩
  cases chosen : record.halfedge with
  | none => exact ⟨[], sound.tour_of_isolated found chosen⟩
  | some r =>
    rcases sound.exists_ring_from found chosen with ⟨l, around, start⟩
    exact ⟨l, around.tour found chosen start⟩

/-- The walk around a node stays if its record and its ring do. -/
theorem Tour.of_ring {m' : Mesh} {n : NodeId} {l : List HalfedgeId} (tour : m.Tour n l)
    (sound : m.Sound) (same : m'.node? n = m.node? n) (around : m'.Ring n ↑l) :
    m'.Tour n l := by
  rcases tour.exists_node with ⟨record, found⟩
  have found' := same.trans found
  have start := sound.head?_of_tour found tour
  cases chosen : record.halfedge with
  | none =>
    rw [chosen, List.head?_eq_none_iff] at start
    subst start
    exact ⟨outgoing_of_isolated found' chosen, around⟩
  | some r => exact around.tour found' chosen (start.trans chosen)

/-- Applying a partial function to a list succeeds if it succeeds at every member. -/
theorem mapM_eq_ok_of_forall₂ {α β ε : Type} {f : α → Except ε β} {l : List α} {results : List β}
    (succeeds : List.Forall₂ (fun x y => f x = .ok y) l results) : l.mapM f = .ok results := by
  induction succeeds with
  | nil => rfl
  | cons here _ inductionHypothesis =>
    rw [List.mapM_cons, here, inductionHypothesis]
    rfl

/-- Just as many half-edges leave `n` as there are nodes in `ends`, and they lead there.  A walk
around `n` lists them. -/
def Surrounded (m : Mesh) (n : NodeId) (ends : List NodeId) : Prop :=
  ∃ (l : List HalfedgeId) (ns : List NodeId), m.outgoing n = .ok l ∧ m.Ring n ↑l ∧
    List.Forall₂ (fun h n' => m.Leads h n n') l ns ∧ m.neighbors n = .ok ns ∧ ns.Perm ends

/-- The neighbours of a node are the ends of the half-edges on its ring. -/
theorem Sound.surrounded (sound : m.Sound) {n : NodeId} {l : List HalfedgeId}
    {ends : List NodeId} (live : m.containsNode n = true) (around : m.Ring n ↑l)
    (leads : List.Forall₂ (fun h n' => m.Leads h n n') l ends) : m.Surrounded n ends := by
  rcases sound.exists_tour live with ⟨l', lists, around'⟩
  have rotated := Cycle.coe_eq_coe.1 (around'.unique around)
  rcases List.perm_comp_forall₂ rotated.perm leads with ⟨ns, leads', permuted⟩
  refine ⟨l', ns, lists, around', leads', ?_, permuted⟩
  rw [neighbors, lists]
  refine mapM_eq_ok_of_forall₂ (leads'.imp fun h n' leads => ?_)
  rw [target, origin_eq_orInvalid, leads.finish]
  rfl

theorem Surrounded.of_perm {n : NodeId} {ends ends' : List NodeId}
    (surrounded : m.Surrounded n ends) (same : ends.Perm ends') : m.Surrounded n ends' := by
  rcases surrounded with ⟨l, ns, lists, around, leads, ends, permuted⟩
  exact ⟨l, ns, lists, around, leads, ends, permuted.trans same⟩

theorem Surrounded.degree {n : NodeId} {ends : List NodeId} (surrounded : m.Surrounded n ends) :
    m.degree n = .ok ends.length := by
  rcases surrounded with ⟨l, ns, lists, -, leads, -, permuted⟩
  rw [Mesh.degree, lists, ← permuted.length_eq, ← leads.length_eq]
  rfl

/-- Searching a list succeeds if every test can be made. -/
theorem findM?_eq_ok {α ε : Type} {f : α → Except ε Bool} {p : α → Bool} {l : List α}
    (tests : ∀ x ∈ l, f x = .ok (p x)) : l.findM? f = .ok (l.find? p) := by
  induction l with
  | nil => rfl
  | cons x l inductionHypothesis =>
    have rest := inductionHypothesis fun y mem => tests y (List.mem_cons_of_mem x mem)
    rw [List.findM?, tests x List.mem_cons_self, List.find?_cons]
    cases p x with
    | true => rfl
    | false => exact rest

/-- The search for a half-edge between two nodes goes through the walk around the first. -/
theorem Tour.findHalfedge {n₁ : NodeId} {l : List HalfedgeId} (tour : m.Tour n₁ l)
    (sound : m.Sound) (n₂ : NodeId) :
    m.findHalfedge n₁ n₂ = .ok (l.find? fun h => decide (m.origin? h.pair = some n₂)) := by
  have tests : ∀ h ∈ l, (return (← m.target h) = n₂ : Except MeshError Bool) =
      .ok (decide (m.origin? h.pair = some n₂)) := by
    intro h mem
    rcases sound.exists_origin_pair ((tour.ring.mem_iff h).1 mem) with ⟨n, finish, -⟩
    rw [target, origin_eq_orInvalid, finish]
    simp [orInvalid, bind, Except.bind, pure, Except.pure]
  rw [Mesh.findHalfedge, tour.lists]
  exact findM?_eq_ok tests

/-- The search for a half-edge between two nodes finds one if there is one. -/
theorem Sound.exists_findHalfedge (sound : m.Sound) {n₁ : NodeId}
    (live : m.containsNode n₁ = true) (n₂ : NodeId) :
    ∃ found, m.findHalfedge n₁ n₂ = .ok found ∧
      (∀ h, found = some h → m.Leads h n₁ n₂) ∧ (found = none → ∀ h, ¬ m.Leads h n₁ n₂) := by
  rcases sound.exists_tour live with ⟨l, tour⟩
  have starts : ∀ h, h ∈ l ↔ m.origin? h = some n₁ := tour.ring.mem_iff
  refine ⟨_, tour.findHalfedge sound n₂, ?_, ?_⟩
  · intro h found
    exact ⟨(starts h).1 (List.mem_of_find?_eq_some found), by simpa using List.find?_some found⟩
  · intro missing h leads
    have passed := List.find?_eq_none.1 missing h ((starts h).2 leads.start)
    simp [leads.finish] at passed

theorem Sound.leads_of_findHalfedge (sound : m.Sound) {n₁ n₂ : NodeId} {h : HalfedgeId}
    (found : m.findHalfedge n₁ n₂ = .ok (some h)) : m.Leads h n₁ n₂ := by
  cases live : m.containsNode n₁ with
  | false =>
    rw [Mesh.findHalfedge, outgoing, node_of_dead live] at found
    cases found
  | true =>
    rcases sound.exists_findHalfedge live n₂ with ⟨answer, asked, sides, -⟩
    exact sides h (Except.ok.inj (asked.symm.trans found))

theorem Sound.findHalfedge_of_missing (sound : m.Sound) {n₁ n₂ : NodeId}
    (live : m.containsNode n₁ = true) (missing : ∀ h, ¬ m.Leads h n₁ n₂) :
    m.findHalfedge n₁ n₂ = .ok none := by
  rcases sound.exists_findHalfedge live n₂ with ⟨answer, asked, sides, -⟩
  cases answer with
  | none => exact asked
  | some h => exact absurd (sides h rfl) (missing h)

end Mesh

end PlanarMesh
