import PlanarMesh.Proofs.Locate.Soundness

/-!
# Budgets of steps

A budget cuts a walk off and does nothing else.  A walk that has ended within a budget ends in the
same way within every larger one (`walk_of_le`), and without one.  That the budget is used up is
said by the limit alone, never by a step of the walk (`walk_unexhausted`); so this answer names the
budget that was given, and smaller budgets are used up as well.

All of this holds on any mesh, whatever its records contain.
-/

namespace PlanarMesh

/-! ## What never says that a budget is used up -/

/-- The result is not that a budget of steps is used up. -/
def Unexhausted {α : Type} (result : Except MeshError α) : Prop :=
  ∀ steps, result ≠ .error (.walkExhausted steps)

namespace Unexhausted

variable {α β : Type}

theorem ok (a : α) : Unexhausted (.ok a) :=
  nofun

theorem bind {first : Except MeshError α} {next : α → Except MeshError β}
    (here : Unexhausted first) (later : ∀ a, Unexhausted (next a)) :
    Unexhausted (first >>= next) := by
  cases first with
  | ok a => exact later a
  | error error =>
    exact fun steps same => here steps (congrArg Except.error (Except.error.inj same))

theorem orInvalid {error : MeshError} (other : ∀ steps, error ≠ .walkExhausted steps)
    (found : Option α) : Unexhausted (orInvalid error found) := by
  cases found with
  | some a => exact ok a
  | none => exact fun steps same => other steps (Except.error.inj same)

end Unexhausted

namespace Mesh

variable {m : Mesh} {kernel : Kernel} {p : Point}

theorem halfedge_unexhausted (h : HalfedgeId) : Unexhausted (m.halfedge h) :=
  .orInvalid (by simp) _

theorem next_unexhausted (h : HalfedgeId) : Unexhausted (m.next h) :=
  (halfedge_unexhausted h).bind fun _ => .ok _

theorem origin_unexhausted (h : HalfedgeId) : Unexhausted (m.origin h) :=
  (halfedge_unexhausted h).bind fun _ => .ok _

theorem faceOf_unexhausted (h : HalfedgeId) : Unexhausted (m.faceOf h) :=
  (halfedge_unexhausted h).bind fun _ => .ok _

theorem isBoundary_unexhausted (h : HalfedgeId) : Unexhausted (m.isBoundary h) :=
  (halfedge_unexhausted h).bind fun _ => .ok _

theorem position_unexhausted (n : NodeId) : Unexhausted (m.position n) :=
  Unexhausted.bind (.orInvalid (by simp) _) fun _ => .ok _

theorem walkStart_unexhausted (start : Option FaceId) : Unexhausted (m.walkStart start) := by
  have face (f : FaceId) : Unexhausted (do
      let h := (← m.face f).halfedge
      return (⟨h, h⟩ : WalkState)) :=
    Unexhausted.bind (.orInvalid (by simp) _) fun _ => .ok _
  cases start with
  | none => exact Unexhausted.bind (.orInvalid (by simp) _) face
  | some f => exact face f

theorem transition_unexhausted (h : HalfedgeId) : Unexhausted (m.transition kernel p h) :=
  (origin_unexhausted h).bind fun _ => (origin_unexhausted h.pair).bind fun _ =>
    (position_unexhausted _).bind fun _ => (position_unexhausted _).bind fun _ => .ok _

theorem follow_unexhausted (s : WalkState) (transition : Transition) :
    Unexhausted (m.follow s transition) := by
  cases transition with
  | found location => exact .ok _
  | advance =>
    apply (next_unexhausted _).bind
    intro following
    split
    · apply (faceOf_unexhausted following).bind
      intro face
      cases face with
      | some f => exact .ok _
      | none => simp [Unexhausted]
    · exact .ok _
  | cross | collinearOutside =>
    apply (isBoundary_unexhausted _).bind
    intro free
    split
    · exact .ok _
    · exact (next_unexhausted _).bind fun _ => .ok _

/-! ## Walks -/

/-- No step of a walk says that a budget is used up. -/
theorem walk_unexhausted {steps : Nat} {s : WalkState} {answer : Except MeshError PointLocation}
    (ends : m.walk kernel p steps s = some answer) : Unexhausted answer := by
  induction steps generalizing s with
  | zero => cases ends
  | succ steps inductionHypothesis =>
    have stepped : Unexhausted (m.walkStep kernel p s) :=
      (transition_unexhausted _).bind (follow_unexhausted s)
    rw [walk] at ends
    split at ends
    · next error failed =>
      cases ends
      exact fun steps same => stepped steps (failed.trans (by rw [Except.error.inj same]))
    · cases ends
      exact .ok _
    · exact inductionHypothesis ends

/-- More steps make no difference to a walk that has ended. -/
theorem walk_of_le {steps more : Nat} {s : WalkState} {answer : Except MeshError PointLocation}
    (ends : m.walk kernel p steps s = some answer) (le : steps ≤ more) :
    m.walk kernel p more s = some answer := by
  induction more, le using Nat.le_induction with
  | base => exact ends
  | succ more _ inductionHypothesis => exact walk_succ inductionHypothesis

/-- A walk that is still going on was going on before. -/
theorem walk_eq_none_of_le {steps fewer : Nat} {s : WalkState}
    (goes : m.walk kernel p steps s = none) (le : fewer ≤ steps) :
    m.walk kernel p fewer s = none := by
  rw [walk_eq_none_iff] at goes ⊢
  exact isSome_stateAfter_of_le le goes

/-- What comes of a walk with enough steps comes of it without a budget. -/
theorem walk_sufficientSteps {start : Option FaceId} {steps : Nat} {s : WalkState}
    {answer : Except MeshError PointLocation} (started : m.walkStart start = .ok s)
    (ends : m.walk kernel p steps s = some answer) :
    m.walk kernel p m.sufficientSteps s = some answer := by
  cases ended : m.walk kernel p m.sufficientSteps s with
  | some answer' =>
    rcases Nat.le_total steps m.sufficientSteps with le | le
    · exact ended.symm.trans (walk_of_le ends le)
    · exact (walk_of_le ended le).symm.trans ends
  | none =>
    have never : m.locate kernel p start = none := by
      simp only [locate, started, ended]
    have exhausted := locate_eq_none_iff.1 never steps
    simp only [locateWithin, started, ends, bind, Except.bind, Option.getD_some] at exhausted
    exact absurd exhausted (walk_unexhausted ends steps)

/-! ## Budgets -/

section Budget

variable {start : Option FaceId} {budget : Nat} {answer : Except MeshError PointLocation}

/-- An answer that is not about the budget is the answer for all larger budgets, and without one. -/
theorem locateWith_of_le
    (located : m.locateWith kernel p start { maxSteps := some budget } = some answer)
    (found : Unexhausted answer) {options : LocateOptions}
    (larger : ∀ limit ∈ options.maxSteps, budget ≤ limit) :
    m.locateWith kernel p start options = some answer := by
  cases started : m.walkStart start with
  | error error =>
    rw [locateWith_of_refused started] at located ⊢
    exact located
  | ok s =>
    rw [locateWith_of_walkStart started] at located ⊢
    cases ended : m.walk kernel p budget s with
    | none =>
      simp only [ended, Option.getD_none] at located
      exact absurd (Option.some.inj located).symm (found budget)
    | some answer' =>
      simp only [ended, Option.getD_some] at located
      cases located
      cases limited : options.maxSteps with
      | none => exact walk_sufficientSteps started ended
      | some limit => simp [walk_of_le ended (larger limit limited)]

/-- That the budget is used up is said of the budget that was given, and then of smaller ones. -/
theorem locateWith_of_exhausted {steps : Nat}
    (exhausted : m.locateWith kernel p start { maxSteps := some budget } =
      some (.error (.walkExhausted steps))) :
    steps = budget ∧ ∀ smaller, smaller ≤ budget →
      m.locateWith kernel p start { maxSteps := some smaller } =
        some (.error (.walkExhausted smaller)) := by
  cases started : m.walkStart start with
  | error error =>
    rw [locateWith_of_refused started] at exhausted
    exact absurd (started.trans (congrArg _ (Except.error.inj (Option.some.inj exhausted))))
      (walkStart_unexhausted start steps)
  | ok s =>
    rw [locateWith_of_walkStart started] at exhausted
    cases ended : m.walk kernel p budget s with
    | some answer =>
      simp only [ended, Option.getD_some] at exhausted
      exact absurd (Option.some.inj exhausted) (walk_unexhausted ended steps)
    | none =>
      simp only [ended, Option.getD_none, Option.some.injEq, Except.error.injEq,
        MeshError.walkExhausted.injEq] at exhausted
      refine ⟨exhausted.symm, fun smaller le => ?_⟩
      rw [locateWith_of_walkStart started]
      simp [walk_eq_none_of_le ended le]

end Budget

/-- On any mesh, with any kernel, and wherever the walk starts: if a budget suffices, all larger
ones give the same answer, and so does the walk without a budget.  If it does not suffice, the
answer names it, and no smaller one suffices. -/
theorem locateWith_budget (m : Mesh) (kernel : Kernel) (p : Point) (start : Option FaceId)
    (budget : Nat) :
    let limited (budget : Nat) := m.locateWith kernel p start { maxSteps := some budget }
    (∀ answer, limited budget = some answer → (∀ steps, answer ≠ .error (.walkExhausted steps)) →
      (∀ larger, budget ≤ larger → limited larger = some answer) ∧
        m.locateWith kernel p start {} = some answer) ∧
    ∀ steps, limited budget = some (.error (.walkExhausted steps)) → steps = budget ∧
      ∀ smaller, smaller ≤ budget → limited smaller = some (.error (.walkExhausted smaller)) := by
  intro limited
  constructor
  · intro answer located found
    constructor
    · intro larger le
      exact locateWith_of_le located found fun limit same => Option.some.inj same ▸ le
    · exact locateWith_of_le located found nofun
  · exact fun steps => locateWith_of_exhausted

/-- From the right half of a kite to a point in the left half it takes five steps, and not fewer. -/
theorem locateWith_budget_kite :
    let m := empty.run kite
    let right : FaceId := ⟨1, 0⟩
    let left : FaceId := ⟨2, 0⟩
    let limited (budget : Nat) := m.locateWith .integral ⟨-1, 0⟩ (some right) ⟨some budget⟩
    limited 5 = some (.ok (.inFace left)) ∧
      (∀ larger, 5 ≤ larger → limited larger = some (.ok (.inFace left))) ∧
      limited 4 = some (.error (.walkExhausted 4)) ∧
      ∀ smaller, smaller ≤ 4 → limited smaller = some (.error (.walkExhausted smaller)) := by
  intro m right left limited
  have found : limited 5 = some (.ok (.inFace left)) := by decide +kernel
  have exhausted : limited 4 = some (.error (.walkExhausted 4)) := by decide +kernel
  have budgets := locateWith_budget m .integral ⟨-1, 0⟩ (some right)
  exact ⟨found, ((budgets 5).1 _ found nofun).1, exhausted, ((budgets 4).2 4 exhausted).2⟩

end Mesh

end PlanarMesh
