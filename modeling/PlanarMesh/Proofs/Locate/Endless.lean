import PlanarMesh.Locate
import PlanarMesh.Proofs.Validity
import Mathlib.Combinatorics.Pigeonhole

/-!
# Walks that never end

A walk without a budget can go round for ever.  That is the only way for it to have no answer
(`locate_eq_none_iff`): what a walk does depends on two half-edges, where it is and where its round
began, and as long as it goes on both are live (`live_stateAfter`).  Hence a walk that has gone on
for more steps than there are pairs of live half-edges has been twice at the same place, and from
there it repeats itself.

All of this holds on any mesh, whatever its records contain.
-/

namespace PlanarMesh

namespace Mesh

variable {m : Mesh} {kernel : Kernel} {p : Point}

/-! ## Going on -/

/-- Where a walk is after one step, if it has not ended by then. -/
def nextState (m : Mesh) (kernel : Kernel) (p : Point) (s : WalkState) : Option WalkState :=
  match m.walkStep kernel p s with
  | .ok (.inr t) => some t
  | _ => none

/-- Where a walk is after so many steps, if it has not ended by then. -/
def stateAfter (m : Mesh) (kernel : Kernel) (p : Point) : Nat → WalkState → Option WalkState
  | 0, s => some s
  | steps + 1, s => (m.nextState kernel p s).bind (m.stateAfter kernel p steps)

theorem stateAfter_add (first second : Nat) (s : WalkState) :
    m.stateAfter kernel p (first + second) s =
      (m.stateAfter kernel p first s).bind (m.stateAfter kernel p second) := by
  induction first generalizing s with
  | zero => simp [stateAfter]
  | succ first inductionHypothesis =>
    rw [Nat.succ_add, stateAfter, stateAfter, Option.bind_assoc]
    congr 1
    funext t
    exact inductionHypothesis t

/-- A budget does not suffice if the walk goes on after so many steps. -/
theorem walk_eq_none_iff {steps : Nat} {s : WalkState} :
    m.walk kernel p steps s = none ↔ (m.stateAfter kernel p steps s).isSome = true := by
  induction steps generalizing s with
  | zero => simp [walk, stateAfter]
  | succ steps inductionHypothesis =>
    rw [walk, stateAfter, nextState]
    cases m.walkStep kernel p s with
    | error error => simp
    | ok result =>
      cases result with
      | inl location => simp
      | inr t => exact inductionHypothesis

theorem isSome_stateAfter_of_le {steps more : Nat} {s : WalkState} (le : steps ≤ more)
    (goes : (m.stateAfter kernel p more s).isSome = true) :
    (m.stateAfter kernel p steps s).isSome = true := by
  rcases Nat.exists_eq_add_of_le le with ⟨rest, rfl⟩
  rw [stateAfter_add] at goes
  exact Option.isSome_of_isSome_bind goes

/-- A walk that is twice at the same place goes on for ever. -/
theorem isSome_stateAfter_of_repeats {i j : Nat} {s t : WalkState} (less : i < j)
    (first : m.stateAfter kernel p i s = some t) (again : m.stateAfter kernel p j s = some t)
    (steps : Nat) : (m.stateAfter kernel p steps s).isSome = true := by
  induction steps using Nat.strongRecOn with
  | ind steps inductionHypothesis =>
    rcases Nat.lt_or_ge steps j with early | late
    · exact isSome_stateAfter_of_le early.le (by rw [again]; rfl)
    · rcases Nat.exists_eq_add_of_le late with ⟨rest, rfl⟩
      have before := inductionHypothesis (i + rest) (by omega)
      rw [stateAfter_add, first] at before
      rwa [stateAfter_add, again]

/-! ## Live half-edges -/

theorem containsHalfedge_of_walkStep {s : WalkState} {result : PointLocation ⊕ WalkState}
    (step : m.walkStep kernel p s = .ok result) : m.containsHalfedge s.current = true := by
  rcases bind_eq_ok_iff.1 step with ⟨transition, judged, -⟩
  rcases bind_eq_ok_iff.1 judged with ⟨n, start, -⟩
  rw [origin_eq_ok_iff] at start
  exact containsHalfedge_of_origin? start

/-- The round of a walk goes on or begins at the twin of the half-edge that it leaves. -/
theorem roundStart_of_follow {s t : WalkState} {transition : Transition}
    (goes : m.follow s transition = .ok (.inr t)) :
    t.roundStart = s.roundStart ∨ t.roundStart = s.current.pair := by
  cases transition with
  | found location => cases goes
  | advance =>
    rcases bind_eq_ok_iff.1 goes with ⟨following, -, rest⟩
    split at rest
    · rcases bind_eq_ok_iff.1 rest with ⟨face, -, ended⟩
      cases face <;> cases ended
    · cases rest
      exact .inl rfl
  | cross | collinearOutside =>
    rcases bind_eq_ok_iff.1 goes with ⟨free, -, rest⟩
    cases free with
    | true => cases rest
    | false =>
      rcases bind_eq_ok_iff.1 rest with ⟨following, -, stepped⟩
      cases stepped
      exact .inr rfl

theorem nextState_eq_some_iff {s t : WalkState} :
    m.nextState kernel p s = some t ↔ m.walkStep kernel p s = .ok (.inr t) := by
  unfold nextState
  split
  · next step => simp [step]
  · next other => simpa using other t

theorem live_of_nextState {s t : WalkState} (goes : m.nextState kernel p s = some t)
    (live : m.containsHalfedge s.roundStart = true) :
    m.containsHalfedge t.roundStart = true := by
  rw [nextState_eq_some_iff] at goes
  have here := containsHalfedge_of_walkStep goes
  rcases bind_eq_ok_iff.1 goes with ⟨transition, -, follows⟩
  rcases roundStart_of_follow follows with same | twin
  · rwa [same]
  · rwa [twin, containsHalfedge_pair]

/-- As long as a walk goes on, both half-edges of its state are live. -/
theorem live_stateAfter {steps : Nat} {s t u : WalkState}
    (live : m.containsHalfedge s.roundStart = true)
    (reaches : m.stateAfter kernel p steps s = some t) (goes : m.nextState kernel p t = some u) :
    m.containsHalfedge t.roundStart = true ∧ m.containsHalfedge t.current = true := by
  induction steps generalizing s with
  | zero =>
    cases reaches
    exact ⟨live, containsHalfedge_of_walkStep (nextState_eq_some_iff.1 goes)⟩
  | succ steps inductionHypothesis =>
    rcases Option.bind_eq_some_iff.1 reaches with ⟨next, step, rest⟩
    exact inductionHypothesis (live_of_nextState step live) rest

/-! ## Pigeonholes -/

/-- A walk that goes on for more steps than there are pairs of half-edges is twice at the same
place. -/
theorem exists_repeats {s : WalkState} (live : m.containsHalfedge s.roundStart = true)
    (goes : (m.stateAfter kernel p m.sufficientSteps s).isSome = true) :
    ∃ i j t, i < j ∧ m.stateAfter kernel p i s = some t ∧ m.stateAfter kernel p j s = some t := by
  have reached (i : Fin m.sufficientSteps) : ∃ t, m.stateAfter kernel p i s = some t ∧
      t.roundStart ∈ m.halfedgeIds ∧ t.current ∈ m.halfedgeIds := by
    have onward := isSome_stateAfter_of_le i.isLt goes
    rw [Nat.succ_eq_add_one, stateAfter_add] at onward
    rcases Option.isSome_iff_exists.1 onward with ⟨u, reaches⟩
    rcases Option.bind_eq_some_iff.1 reaches with ⟨t, here, step⟩
    rcases Option.bind_eq_some_iff.1 step with ⟨v, goes', -⟩
    rcases live_stateAfter live here goes' with ⟨roundLive, currentLive⟩
    exact ⟨t, here, mem_halfedgeIds.2 roundLive, mem_halfedgeIds.2 currentLive⟩
  choose place here roundListed currentListed using reached
  let pairs := m.halfedgeIds.toFinset ×ˢ m.halfedgeIds.toFinset
  have listed : ∀ i ∈ Finset.univ, ((place i).roundStart, (place i).current) ∈ pairs := by
    intro i _
    simp [pairs, roundListed i, currentListed i]
  have few : pairs.card < (Finset.univ : Finset (Fin m.sufficientSteps)).card := by
    rw [Finset.card_product, List.toFinset_card_of_nodup m.nodup_halfedgeIds, length_halfedgeIds,
      Finset.card_fin]
    exact Nat.lt_succ_self _
  rcases Finset.exists_ne_map_eq_of_card_lt_of_maps_to few listed with ⟨i, -, j, -, other, same⟩
  rw [Prod.mk.injEq, ← WalkState.mk.injEq] at same
  have again : place i = place j := same
  rcases Nat.lt_or_gt_of_ne (Fin.val_ne_of_ne other) with less | less
  · exact ⟨i, j, place i, less, here i, again ▸ here j⟩
  · exact ⟨j, i, place j, less, here j, again ▸ here i⟩

/-- A walk that goes on for that many steps goes on for ever. -/
theorem isSome_stateAfter {s : WalkState} (live : m.containsHalfedge s.roundStart = true)
    (goes : (m.stateAfter kernel p m.sufficientSteps s).isSome = true) (steps : Nat) :
    (m.stateAfter kernel p steps s).isSome = true := by
  rcases exists_repeats live goes with ⟨i, j, t, less, first, again⟩
  exact isSome_stateAfter_of_repeats less first again steps

theorem walk_succ {steps : Nat} {s : WalkState} {answer : Except MeshError PointLocation}
    (ends : m.walk kernel p steps s = some answer) :
    m.walk kernel p (steps + 1) s = some answer := by
  induction steps generalizing s with
  | zero => cases ends
  | succ steps inductionHypothesis =>
    rw [walk] at ends ⊢
    cases step : m.walkStep kernel p s with
    | error error => simpa only [step] using ends
    | ok result =>
      simp only [step] at ends ⊢
      cases result with
      | inl location => exact ends
      | inr t => exact inductionHypothesis ends

theorem roundStart_of_walkStart {start : Option FaceId} {s : WalkState}
    (started : m.walkStart start = .ok s) : s.roundStart = s.current := by
  cases start with
  | none | some =>
    rcases bind_eq_ok_iff.1 started with ⟨f, -, found⟩
    rcases bind_eq_ok_iff.1 found with ⟨record, -, same⟩
    cases same
    rfl

/-- A walk without a budget has no answer if and only if no budget suffices for it. -/
theorem locate_eq_none_iff {start : Option FaceId} :
    m.locate kernel p start = none ↔
      ∀ budget, m.locateWithin kernel p start budget = .error (.walkExhausted budget) := by
  cases started : m.walkStart start with
  | error error =>
    simp only [locate, locateWithin, started, bind, Except.bind, reduceCtorEq, false_iff]
    intro exhausted
    cases (exhausted 0).symm.trans (exhausted 1)
  | ok s =>
    simp only [locate, locateWithin, started, bind, Except.bind]
    constructor
    · intro never budget
      rw [walk_eq_none_iff] at never
      have onward := isSome_stateAfter_of_le (Nat.succ_le_succ (Nat.zero_le _)) never
      rcases Option.isSome_iff_exists.1 onward with ⟨t, reaches⟩
      rcases Option.bind_eq_some_iff.1 reaches with ⟨u, goes, -⟩
      have live := containsHalfedge_of_walkStep (nextState_eq_some_iff.1 goes)
      rw [← roundStart_of_walkStart started] at live
      have forever := isSome_stateAfter live never budget
      rw [walk_eq_none_iff.2 forever]
      rfl
    · intro exhausted
      cases ends : m.walk kernel p m.sufficientSteps s with
      | none => rfl
      | some answer =>
        have first := exhausted m.sufficientSteps
        have second := exhausted (m.sufficientSteps + 1)
        rw [ends] at first
        rw [walk_succ ends] at second
        have budgets := first.symm.trans second
        simp only [Except.error.injEq, MeshError.walkExhausted.injEq] at budgets
        exact absurd budgets (Nat.ne_of_lt (Nat.lt_succ_self _))

end Mesh

end PlanarMesh
