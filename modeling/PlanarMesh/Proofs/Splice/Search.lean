import PlanarMesh.Proofs.Splice.Relink
import PlanarMesh.Proofs.Splice.Visits

/-!
# Searching free places

The searches for a place where a half-edge can be put in walk an orbit.  They find the first
member whose twin borders no face (`FirstFree`), and they give up when they come to the end of
their stretch without having met one.  The bound on their steps is never what ends them.
-/

namespace PlanarMesh

namespace Mesh

variable {m : Mesh}

/-- `g` is the first member of `l` whose twin is free; `A` comes before it and `B` after. -/
structure FirstFree (m : Mesh) (l A : List HalfedgeId) (g : HalfedgeId) (B : List HalfedgeId) :
    Prop where
  split : l = A ++ g :: B
  faced : ∀ a ∈ A, ¬ m.Free a.pair
  free : m.Free g.pair

theorem exists_firstFree {l : List HalfedgeId} (someFree : ∃ a ∈ l, m.Free a.pair) :
    ∃ A g B, m.FirstFree l A g B := by
  induction l with
  | nil => simp at someFree
  | cons x l inductionHypothesis =>
    by_cases here : m.Free x.pair
    · exact ⟨[], x, l, rfl, by simp, here⟩
    · rcases someFree with ⟨a, mem, later⟩
      have rest : a ∈ l := (List.mem_cons.1 mem).resolve_left fun same => here (same ▸ later)
      rcases inductionHypothesis ⟨a, rest, later⟩ with ⟨A, g, B, rfl, before, free⟩
      exact ⟨x :: A, g, B, rfl, List.forall_mem_cons.2 ⟨here, before⟩, free⟩

theorem FirstFree.mem {l A B : List HalfedgeId} {g : HalfedgeId}
    (first : m.FirstFree l A g B) : g ∈ l := by
  simp [first.split]

/-- The search depends on which of the twins are free only. -/
theorem FirstFree.congr {m' : Mesh} {l A B : List HalfedgeId} {g : HalfedgeId}
    (first : m.FirstFree l A g B) (same : ∀ a ∈ l, m'.Free a.pair ↔ m.Free a.pair) :
    m'.FirstFree l A g B where
  split := first.split
  faced a mem := by
    rw [same a (by simp [first.split, mem])]
    exact first.faced a mem
  free := (same g first.mem).2 first.free

theorem FirstFree.unique {l A B A' B' : List HalfedgeId} {g g' : HalfedgeId}
    (first : m.FirstFree l A g B) (first' : m.FirstFree l A' g' B') :
    A = A' ∧ g = g' ∧ B = B' := by
  rcases first with ⟨rfl, faced, free⟩
  rcases first' with ⟨split, faced', free'⟩
  induction A generalizing A' with
  | nil =>
    cases A' with
    | nil => simpa using split
    | cons x A' =>
      cases (List.cons.inj split).1
      exact absurd free (faced' g List.mem_cons_self)
  | cons x A inductionHypothesis =>
    cases A' with
    | nil =>
      cases (List.cons.inj split).1
      exact absurd free' (faced _ List.mem_cons_self)
    | cons y A' =>
      rcases List.cons.inj split with ⟨same, tail⟩
      subst same
      obtain ⟨rfl, rest⟩ := inductionHypothesis (fun a mem => faced a (List.mem_cons_of_mem _ mem))
        tail fun a mem => faced' a (List.mem_cons_of_mem _ mem)
      exact ⟨rfl, rest⟩

/-! ## Along a stretch -/

/-- What follows a half-edge around a node arrives after it. -/
theorem Follows.skips {g h : HalfedgeId} (follows : m.Follows g h) (faced : ¬ m.Free g.pair) :
    m.Skips g.pair h.pair := by
  refine ⟨isBoundary_of_not_free (by simpa using follows.live_left) faced, ?_⟩
  rw [HalfedgeId.pair_pair]
  exact next_eq_ok_iff.2 follows.1

section Stretch

variable {node : NodeId} {s stop : HalfedgeId} {l : List HalfedgeId}

/-- Over half-edges with faces, a search comes to the end of a stretch. -/
theorem visits_of_isChain {h : HalfedgeId} (chain : (l ++ [h]).IsChain m.Follows)
    (start : (l ++ [h]).head? = some s) (faced : ∀ a ∈ l, ¬ m.Free a.pair)
    (fresh : stop ∉ (l ++ [h]).tail) : m.Visits s.pair stop.pair h.pair := by
  induction l using List.reverseRecOn generalizing h with
  | nil =>
    cases Option.some.inj (show some h = some s from start)
    exact .start
  | append_singleton l g inductionHypothesis =>
    rcases List.isChain_append.1 chain with ⟨chain, -, joined⟩
    have follows : m.Follows g h := joined g (by simp) h rfl
    rw [List.head?_append_of_ne_nil _ (by simp)] at start
    rw [List.tail_append_of_ne_nil (by simp), List.mem_append, List.mem_singleton, not_or] at fresh
    have visits := inductionHypothesis chain start
      (fun a mem => faced a (List.mem_append_left [g] mem)) fresh.1
    refine visits.step (follows.skips (faced g (by simp))) fun same => fresh.2 ?_
    exact (HalfedgeId.pair_injective same).symm

variable (chain : l.IsChain m.Follows) (start : l.head? = some s) (fresh : stop ∉ l.tail)

include chain start fresh

theorem searched_of_firstFree {A B : List HalfedgeId} {g : HalfedgeId}
    (first : m.FirstFree l A g B) : m.Searched node s.pair stop.pair (.ok g.pair) := by
  rcases first with ⟨rfl, faced, free⟩
  rw [List.append_cons] at chain start fresh
  have start' : (A ++ [g]).head? = some s := by
    rwa [List.head?_append_of_ne_nil _ (by simp)] at start
  rw [List.tail_append_of_ne_nil (by simp), List.mem_append, not_or] at fresh
  exact .free (visits_of_isChain chain.left_of_append start' faced fresh.1)
    (isBoundary_of_free free)

theorem searched_of_faced {d : HalfedgeId} (last : l.getLast? = some d)
    (closes : m.Follows d stop) (faced : ∀ a ∈ l, ¬ m.Free a.pair) :
    m.Searched node s.pair stop.pair (.error (.topology (.noFreeSlot node))) := by
  rcases List.getLast?_eq_some_iff.1 last with ⟨l, rfl⟩
  have visits := visits_of_isChain chain start
    (fun a mem => faced a (List.mem_append_left [d] mem)) fresh
  exact .closed visits (closes.skips (faced d (by simp)))

end Stretch

/-! ## Around a node -/

section Incident

variable {n : NodeId} {record : Node} {r : HalfedgeId} {l : List HalfedgeId}
  (found : m.node? n = some record) (chosen : record.halfedge = some r)
  (orbit : m.Orbit ↑l) (start : l.head? = some r)

include found chosen orbit start

theorem freeIncident_of_firstFree {A B : List HalfedgeId} {g : HalfedgeId}
    (first : m.FirstFree l A g B) : m.freeIncident n = .ok g.pair := by
  rcases List.head?_eq_some_iff.1 start with ⟨l, rfl⟩
  rw [freeIncident_eq_iff found chosen]
  exact searched_of_firstFree (Cycle.chain_coe_iff.1 orbit.chain).1 rfl
    (List.nodup_cons.1 orbit.nodup).1 first

theorem freeIncident_of_faced (faced : ∀ a ∈ l, ¬ m.Free a.pair) :
    m.freeIncident n = .error (.topology (.noFreeSlot n)) := by
  rcases List.head?_eq_some_iff.1 start with ⟨l, rfl⟩
  rcases Cycle.chain_coe_iff.1 orbit.chain with ⟨chain, closes⟩
  have last := List.getLast?_eq_some_getLast (List.cons_ne_nil r l)
  rw [freeIncident_eq_iff found chosen]
  exact searched_of_faced chain rfl (List.nodup_cons.1 orbit.nodup).1 last (closes _ last r rfl)
    faced

end Incident

/-! ## Between two half-edges at a node -/

section Between

variable {n : NodeId} {i o : HalfedgeId} {W C : List HalfedgeId}
  (orbit : m.Orbit ↑(W ++ i :: C)) (start : W.head? = some o) (origin : m.origin? o = some n)

include orbit

/-- What a search from `o` to `i` needs of the stretch between them. -/
theorem between_facts (start : W.head? = some o) : W.IsChain m.Follows ∧ i ∉ W.tail ∧
    ∃ d, W.getLast? = some d ∧ m.Follows d i := by
  rcases List.isChain_append.1 (Cycle.chain_coe_iff.1 orbit.chain).1 with ⟨chain, _, joined⟩
  have apart := (List.nodup_append.1 orbit.nodup).2.2
  rcases List.head?_eq_some_iff.1 start with ⟨l, rfl⟩
  have last := List.getLast?_eq_some_getLast (List.cons_ne_nil o l)
  refine ⟨chain, fun mem => ?_, _, last, joined _ last i rfl⟩
  exact apart i (List.mem_cons_of_mem o mem) i List.mem_cons_self rfl

include start origin

theorem freeBetween_of_firstFree {A B : List HalfedgeId} {g : HalfedgeId}
    (first : m.FirstFree W A g B) : m.freeBetween o.pair i.pair = .ok g.pair := by
  rcases between_facts orbit start with ⟨chain, fresh, -⟩
  rw [freeBetween_eq_iff (by simpa using origin)]
  exact searched_of_firstFree chain start fresh first

theorem freeBetween_of_faced (faced : ∀ a ∈ W, ¬ m.Free a.pair) :
    m.freeBetween o.pair i.pair = .error (.topology (.noFreeSlot n)) := by
  rcases between_facts orbit start with ⟨chain, fresh, d, last, closes⟩
  rw [freeBetween_eq_iff (by simpa using origin)]
  exact searched_of_faced chain start fresh last closes faced

end Between

end Mesh

end PlanarMesh
