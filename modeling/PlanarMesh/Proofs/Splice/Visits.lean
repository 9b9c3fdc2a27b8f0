import PlanarMesh.Edit.Splice
import PlanarMesh.Proofs.Validity

/-!
# Searches on any mesh

A search for a free place walks over half-edges with faces.  Where the records of a mesh do not fit
together, such a walk need not come back: it can end at a half-edge that is not live, and it can
run into a cycle that does not contain the half-edge before which it is to stop.

`Visits` says which half-edges a search comes to and `Searched` what it answers, both without a
bound on its steps.  The bound of a search is exact (`freeSlotFrom_eq_iff`): with more steps than
there are half-edges it has come to an end, or to some half-edge for the second time, and from
there on it goes round for ever.
-/

namespace PlanarMesh

namespace Mesh

/-- A search passes over `g`, which has a face, and the half-edge that arrives after it is `h`. -/
def Skips (m : Mesh) (g h : HalfedgeId) : Prop :=
  m.isBoundary g = .ok false ∧ m.next g = .ok h.pair

/-- A search from `start` on comes to a half-edge, without having come to `stop` after the
start. -/
inductive Visits (m : Mesh) (start stop : HalfedgeId) : HalfedgeId → Prop
  | start : Visits m start stop start
  | step {g h : HalfedgeId} : Visits m start stop g → m.Skips g h → h ≠ stop →
    Visits m start stop h

/-- What a search around `node` answers, from `start` on and before `stop`: the first half-edge
without a face, or else what keeps it from finding one. -/
inductive Searched (m : Mesh) (node : NodeId) (start stop : HalfedgeId) :
    Except MeshError HalfedgeId → Prop
  | free {h : HalfedgeId} : m.Visits start stop h → m.isBoundary h = .ok true →
    Searched m node start stop (.ok h)
  | closed {h : HalfedgeId} : m.Visits start stop h → m.Skips h stop →
    Searched m node start stop (.error (.topology (.noFreeSlot node)))
  | dead {h : HalfedgeId} : m.Visits start stop h → m.containsHalfedge h = false →
    Searched m node start stop (.error (.invalidHalfedge h))
  | trapped {h : HalfedgeId} {c : Cycle HalfedgeId} : m.Visits start stop h → h ∈ c →
    c.Chain m.Skips → stop ∉ c → Searched m node start stop (violated (.searchOpen node))

variable {m : Mesh} {node : NodeId} {start stop g h : HalfedgeId}

/-! ## The answers -/

theorem searched_ok_iff :
    m.Searched node start stop (.ok h) ↔ m.Visits start stop h ∧ m.isBoundary h = .ok true := by
  constructor
  · rintro (⟨visits, free⟩ | _ | _ | _)
    exact ⟨visits, free⟩
  · exact fun ⟨visits, free⟩ => .free visits free

theorem searched_noFreeSlot_iff :
    m.Searched node start stop (.error (.topology (.noFreeSlot node))) ↔
      ∃ h, m.Visits start stop h ∧ m.Skips h stop := by
  constructor
  · rintro (_ | ⟨visits, skips⟩ | _ | _)
    exact ⟨_, visits, skips⟩
  · exact fun ⟨_, visits, skips⟩ => .closed visits skips

theorem searched_invalidHalfedge_iff :
    m.Searched node start stop (.error (.invalidHalfedge h)) ↔
      m.Visits start stop h ∧ m.containsHalfedge h = false := by
  constructor
  · rintro (_ | _ | ⟨visits, dead⟩ | _)
    exact ⟨visits, dead⟩
  · exact fun ⟨visits, dead⟩ => .dead visits dead

theorem searched_violated_iff :
    m.Searched node start stop (violated (.searchOpen node)) ↔ ∃ c : Cycle HalfedgeId,
      c.Chain m.Skips ∧ stop ∉ c ∧ ∃ h ∈ c, m.Visits start stop h := by
  constructor
  · rintro (_ | _ | _ | ⟨visits, mem, chain, misses⟩)
    exact ⟨_, chain, misses, _, mem, visits⟩
  · exact fun ⟨_, chain, misses, _, mem, visits⟩ => .trapped visits mem chain misses

/-- There are no other answers. -/
theorem Searched.cases {result : Except MeshError HalfedgeId}
    (searched : m.Searched node start stop result) :
    (∃ h, result = .ok h) ∨ result = .error (.topology (.noFreeSlot node)) ∨
      (∃ h, result = .error (.invalidHalfedge h)) ∨ result = violated (.searchOpen node) := by
  cases searched with
  | free => exact .inl ⟨_, rfl⟩
  | closed => exact .inr (.inl rfl)
  | dead => exact .inr (.inr (.inl ⟨_, rfl⟩))
  | trapped => exact .inr (.inr (.inr rfl))

/-! ## Single steps -/

theorem isBoundary_of_free (free : m.Free h) : m.isBoundary h = .ok true :=
  isBoundary_eq_true_iff.2 free

theorem isBoundary_of_not_free (live : m.containsHalfedge h = true) (faced : ¬ m.Free h) :
    m.isBoundary h = .ok false := by
  rcases containsHalfedge_iff_faceOf?.1 live with ⟨face, reports⟩
  cases face with
  | none => exact absurd reports faced
  | some f =>
    rw [isBoundary_eq_orInvalid, reports]
    rfl

theorem isBoundary_of_dead (dead : m.containsHalfedge h = false) :
    m.isBoundary h = .error (.invalidHalfedge h) := by
  rw [isBoundary, halfedge_of_dead dead]
  rfl

theorem exists_skips (live : m.containsHalfedge h = true) (faced : ¬ m.Free h) :
    ∃ g, m.Skips h g := by
  rcases containsHalfedge_iff_next?.1 live with ⟨k, next⟩
  refine ⟨k.pair, isBoundary_of_not_free live faced, ?_⟩
  rw [HalfedgeId.pair_pair]
  exact next_eq_ok_iff.2 next

theorem freeSlotFrom_of_free {fuel : Nat} (free : m.isBoundary h = .ok true) :
    m.freeSlotFrom node stop (fuel + 1) h = .ok h := by
  simp [freeSlotFrom, free, bind, Except.bind, pure, Except.pure]

theorem freeSlotFrom_of_dead {fuel : Nat} (dead : m.containsHalfedge h = false) :
    m.freeSlotFrom node stop (fuel + 1) h = .error (.invalidHalfedge h) := by
  simp [freeSlotFrom, isBoundary_of_dead dead, bind, Except.bind]

theorem freeSlotFrom_of_skips {fuel : Nat} (skips : m.Skips g h) :
    m.freeSlotFrom node stop (fuel + 1) g =
      if h = stop then .error (.topology (.noFreeSlot node))
      else m.freeSlotFrom node stop fuel h := by
  simp only [freeSlotFrom, skips.1, skips.2, bind, Except.bind, HalfedgeId.pair_pair]
  by_cases arrived : h = stop <;> simp [arrived, throw, throwThe, MonadExceptOf.throw]

/-! ## What a search answers with enough steps -/

/-- A search goes on from a half-edge that it visits as if it had started there. -/
theorem Visits.exists_steps (visits : m.Visits start stop h) : ∃ steps, ∀ fuel,
    m.freeSlotFrom node stop (fuel + steps) start = m.freeSlotFrom node stop fuel h := by
  induction visits with
  | start => exact ⟨0, fun _ => rfl⟩
  | step _ skips further inductionHypothesis =>
    rcases inductionHypothesis with ⟨steps, same⟩
    refine ⟨steps + 1, fun fuel => ?_⟩
    rw [← Nat.add_assoc, Nat.add_right_comm, same, freeSlotFrom_of_skips skips, if_neg further]

/-- On a cycle of half-edges with faces a search never ends. -/
theorem freeSlotFrom_of_cycle {c : Cycle HalfedgeId} (chain : c.Chain m.Skips)
    (misses : stop ∉ c) (fuel : Nat) (mem : h ∈ c) :
    m.freeSlotFrom node stop fuel h = violated (.searchOpen node) := by
  induction fuel generalizing h with
  | zero => rfl
  | succ fuel inductionHypothesis =>
    rcases Cycle.exists_adjacent mem with ⟨g, adjacent⟩
    have further : g ≠ stop := fun same => misses (same ▸ adjacent.mem_right)
    rw [freeSlotFrom_of_skips (chain.rel adjacent), if_neg further]
    exact inductionHypothesis adjacent.mem_right

/-- From some number of steps on, a search answers what it should. -/
theorem Searched.exists_steps {result : Except MeshError HalfedgeId}
    (searched : m.Searched node start stop result) :
    ∃ steps, ∀ fuel, m.freeSlotFrom node stop (fuel + steps) start = result := by
  have settled {h : HalfedgeId} (visits : m.Visits start stop h)
      (settles : ∀ fuel, m.freeSlotFrom node stop (fuel + 1) h = result) :
      ∃ steps, ∀ fuel, m.freeSlotFrom node stop (fuel + steps) start = result := by
    rcases visits.exists_steps with ⟨steps, same⟩
    refine ⟨steps + 1, fun fuel => ?_⟩
    rw [← Nat.add_assoc, Nat.add_right_comm, same, settles]
  cases searched with
  | free visits free => exact settled visits fun _ => freeSlotFrom_of_free free
  | closed visits skips =>
    exact settled visits fun _ => by rw [freeSlotFrom_of_skips skips, if_pos rfl]
  | dead visits dead => exact settled visits fun _ => freeSlotFrom_of_dead dead
  | trapped visits mem chain misses =>
    exact settled visits fun fuel => freeSlotFrom_of_cycle chain misses (fuel + 1) mem

theorem Searched.unique {result result' : Except MeshError HalfedgeId}
    (searched : m.Searched node start stop result)
    (searched' : m.Searched node start stop result') : result = result' := by
  rcases searched.exists_steps with ⟨steps, answers⟩
  rcases searched'.exists_steps with ⟨steps', answers'⟩
  rw [← answers steps', Nat.add_comm, answers' steps]

/-! ## How many steps are enough -/

/-- The half-edges that a search has passed, all different, before it comes to `h`. -/
structure Trail (m : Mesh) (start stop : HalfedgeId) (passed : List HalfedgeId)
    (h : HalfedgeId) : Prop where
  visits : m.Visits start stop h
  nodup : passed.Nodup
  live : ∀ x ∈ passed, m.containsHalfedge x = true
  chain : (passed ++ [h]).IsChain m.Skips
  fresh : stop ∉ (passed ++ [h]).tail

namespace Trail

variable {passed : List HalfedgeId}

theorem nil (m : Mesh) (start stop : HalfedgeId) : m.Trail start stop [] start :=
  ⟨.start, List.nodup_nil, by simp, .singleton start, by simp⟩

theorem step (trail : m.Trail start stop passed g) (live : m.containsHalfedge g = true)
    (new : g ∉ passed) (skips : m.Skips g h) (further : h ≠ stop) :
    m.Trail start stop (passed ++ [g]) h where
  visits := trail.visits.step skips further
  nodup := List.nodup_append.2 ⟨trail.nodup, List.nodup_singleton g, by
    rintro x mem _ single rfl
    exact new (List.mem_singleton.1 single ▸ mem)⟩
  live x mem := by
    rcases List.mem_append.1 mem with mem | single
    · exact trail.live x mem
    · exact List.mem_singleton.1 single ▸ live
  chain := by
    refine List.isChain_append.2 ⟨trail.chain, .singleton h, fun x last y first => ?_⟩
    rw [List.getLast?_concat] at last
    cases Option.some.inj last
    cases Option.some.inj (show some h = some y from first)
    exact skips
  fresh := by
    rw [List.tail_append_of_ne_nil (by simp), List.mem_append, List.mem_singleton]
    rintro (mem | same)
    · exact trail.fresh mem
    · exact further same.symm

/-- A search that comes to a half-edge for the second time goes round on a cycle. -/
theorem exists_cycle (trail : m.Trail start stop passed h) (again : h ∈ passed) :
    ∃ c : Cycle HalfedgeId, h ∈ c ∧ c.Chain m.Skips ∧ stop ∉ c := by
  have chain := trail.chain
  have fresh := trail.fresh
  rcases List.append_of_mem again with ⟨A, B, rfl⟩
  refine ⟨↑(h :: B), by simp, ?_, fun mem => fresh ?_⟩
  · rw [Cycle.chain_coe_cons]
    rw [List.append_assoc] at chain
    exact chain.right_of_append
  · -- What comes after the first visit to `h` is not the start of the search.
    have later : stop ∈ B ++ [h] := by
      rcases List.mem_cons.1 (Cycle.mem_coe_iff.1 mem) with rfl | mem
      · simp
      · exact List.mem_append_left _ mem
    cases A with
    | nil => simpa using later
    | cons a A =>
      have rest : (a :: A ++ h :: B ++ [h]).tail = A ++ h :: (B ++ [h]) := by simp
      rw [rest]
      exact List.mem_append_right A (List.mem_cons_of_mem h later)

/-- A search has ended, or has come to a half-edge for the second time, before it has passed more
half-edges than there are. -/
theorem searched (trail : m.Trail start stop passed h) {fuel : Nat}
    (enough : m.halfedgeCount < passed.length + fuel) :
    m.Searched node start stop (m.freeSlotFrom node stop fuel h) := by
  induction fuel generalizing passed h with
  | zero =>
    have bound := length_le_halfedgeCount trail.nodup trail.live
    omega
  | succ fuel inductionHypothesis =>
    by_cases again : h ∈ passed
    · rcases trail.exists_cycle again with ⟨c, mem, chain, misses⟩
      rw [freeSlotFrom_of_cycle chain misses (fuel + 1) mem]
      exact .trapped trail.visits mem chain misses
    cases live : m.containsHalfedge h with
    | false =>
      rw [freeSlotFrom_of_dead live]
      exact .dead trail.visits live
    | true =>
      by_cases free : m.Free h
      · have bare := isBoundary_of_free free
        rw [freeSlotFrom_of_free bare]
        exact .free trail.visits bare
      rcases exists_skips live free with ⟨g, skips⟩
      rw [freeSlotFrom_of_skips skips]
      split
      · next arrived => exact .closed trail.visits (arrived ▸ skips)
      · next further =>
        apply inductionHypothesis (trail.step live again skips further)
        rw [List.length_append, List.length_singleton]
        omega

end Trail

/-- With more steps than there are half-edges, a search answers as it would without a bound. -/
theorem freeSlotFrom_eq_iff {bound : Nat} (enough : m.halfedgeCount < bound)
    {result : Except MeshError HalfedgeId} :
    m.freeSlotFrom node stop bound start = result ↔ m.Searched node start stop result := by
  have searched : m.Searched node start stop (m.freeSlotFrom node stop bound start) :=
    (Trail.nil m start stop).searched (by simpa using enough)
  constructor
  · rintro rfl
    exact searched
  · exact searched.unique

/-! ## The two searches -/

/-- What the search around a node answers that is represented by `r`. -/
theorem freeIncident_eq_iff {n : NodeId} {record : Node} {r : HalfedgeId}
    (found : m.node? n = some record) (chosen : record.halfedge = some r)
    {result : Except MeshError HalfedgeId} :
    m.freeIncident n = result ↔ m.Searched n r.pair r.pair result := by
  simp only [freeIncident, node_eq_ok_iff.2 found, bind, Except.bind, chosen]
  exact freeSlotFrom_eq_iff (Nat.lt_succ_self _)

/-- What the search from where `g` arrives answers. -/
theorem freeBetween_eq_iff {n : NodeId} (finish : m.origin? g.pair = some n)
    {result : Except MeshError HalfedgeId} :
    m.freeBetween g stop = result ↔ m.Searched n g stop result := by
  simp only [freeBetween, target_eq_ok_iff.2 finish, bind, Except.bind]
  exact freeSlotFrom_eq_iff (Nat.lt_succ_self _)

end Mesh

end PlanarMesh
