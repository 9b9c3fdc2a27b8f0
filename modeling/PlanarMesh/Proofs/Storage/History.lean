import PlanarMesh.Proofs.Storage.Generations

/-!
# Histories of slot stores

Records are stored under keys, and they are dropped.  The log of a store lists both, the latest
event first; what else is done to a store, such as changing a record, leaves no trace in it
(`Evolves`).  No key comes to resolve, or ceases to, without being listed (`Evolves.complete`).

Between two vacatings a slot has to be filled, and with each vacating it moves on to the next
generation.  So when a slot was vacated `n` times after the record of a key was dropped, it has
moved on by `n + 1` generations and was filled at least `n` times, and once more if it is
occupied (`Behind`).  A key can only name another record after its slot was filled as often as
there are generations (`Evolves.get?_of_stale`).
-/

namespace PlanarMesh

universe u

/-- What happens in the slots of a store. -/
inductive SlotEvent (kind : RecordKind) where
  /-- A record is stored under the key. -/
  | filled (k : Key kind)
  /-- The record that the key names is dropped. -/
  | vacated (k : Key kind)
deriving DecidableEq

/-- The event fills slot `i`. -/
def SlotEvent.fills {kind : RecordKind} (i : Nat) : SlotEvent kind → Bool
  | filled k => k.index = i
  | vacated _ => false

/-- The record of the key was dropped, and since then its slot was filled less often than there
are generations. -/
def Stale {kind : RecordKind} (k : Key kind) (log : List (SlotEvent kind)) : Prop :=
  ∃ later earlier, log = later ++ .vacated k :: earlier ∧
    later.countP (SlotEvent.fills k.index) < 1 <<< 31

namespace SlotStore

variable {kind : RecordKind} {α : Type u}

/-- What the log lists, the latest event first, led from `s` to a store.  The vacant slots may
have been put into another order. -/
inductive Evolves (s : SlotStore kind α) : List (SlotEvent kind) → SlotStore kind α → Prop
  | refl : Evolves s [] s
  | insert {log : List (SlotEvent kind)} {t : SlotStore kind α} (value : α) :
    Evolves s log t → Evolves s (.filled t.nextKey :: log) (t.insert value)
  | erase {log : List (SlotEvent kind)} {t : SlotStore kind α} {k : Key kind} :
    Evolves s log t → t.contains k = true → Evolves s (.vacated k :: log) (t.erase k)
  | modify {log : List (SlotEvent kind)} {t : SlotStore kind α} (k : Key kind) (f : α → α) :
    Evolves s log t → Evolves s log (t.modify k f)
  | reorder {log : List (SlotEvent kind)} {t t' : SlotStore kind α} :
    Evolves s log t → t'.slots = t.slots → Evolves s log t'

variable {s t t' : SlotStore kind α} {k : Key kind} {log log' : List (SlotEvent kind)}

theorem Evolves.trans (first : s.Evolves log t) (second : t.Evolves log' t') :
    s.Evolves (log' ++ log) t' := by
  induction second with
  | refl => exact first
  | insert value _ inductionHypothesis => exact inductionHypothesis.insert value
  | erase _ live inductionHypothesis => exact inductionHypothesis.erase live
  | modify k f _ inductionHypothesis => exact inductionHypothesis.modify k f
  | reorder _ same inductionHypothesis => exact inductionHypothesis.reorder same

/-- Erasing drops a record or does nothing. -/
theorem exists_evolves_erase (s : SlotStore kind α) (k : Key kind) :
    ∃ log, s.Evolves log (s.erase k) := by
  cases live : s.contains k with
  | true => exact ⟨_, Evolves.refl.erase live⟩
  | false =>
    have missing : s.get? k = none := by simpa [contains] using live
    have unchanged : s.erase k = s := by
      unfold SlotStore.erase
      split
      · rfl
      · next found => cases missing.symm.trans found
    rw [unchanged]
    exact ⟨[], .refl⟩

/-- The log lists every key that came to resolve, and every key that ceased to. -/
theorem Evolves.complete (evolves : s.Evolves log t) (k : Key kind) :
    (s.contains k = false → t.contains k = true → .filled k ∈ log) ∧
      (s.contains k = true → t.contains k = false → .vacated k ∈ log) := by
  induction evolves with
  | refl => simp_all
  | @insert log t value _ inductionHypothesis =>
    constructor
    · intro before after
      rcases contains_insert.1 after with rfl | already
      · exact List.mem_cons_self
      · exact List.mem_cons_of_mem _ (inductionHypothesis.1 before already)
    · intro before after
      have gone : t.contains k = false := by
        simpa using fun still => Bool.eq_false_iff.1 after (contains_insert.2 (.inr still))
      exact List.mem_cons_of_mem _ (inductionHypothesis.2 before gone)
  | @erase log t l _ live inductionHypothesis =>
    constructor
    · intro before after
      exact List.mem_cons_of_mem _ (inductionHypothesis.1 before (contains_erase.1 after).2)
    · intro before after
      by_cases same : k = l
      · subst same
        exact List.mem_cons_self
      · have gone : t.contains k = false := by
          simpa using fun still => Bool.eq_false_iff.1 after (contains_erase.2 ⟨same, still⟩)
        exact List.mem_cons_of_mem _ (inductionHypothesis.2 before gone)
  | modify l f _ inductionHypothesis => rwa [contains_modify]
  | reorder _ same inductionHypothesis => rwa [contains_congr same]

/-! ## Generations along a history -/

/-- The slot of the key was vacated `n` times more after the record of the key was dropped, and
filled no more than `fillings` times. -/
structure Behind (s : SlotStore kind α) (k : Key kind) (n fillings : Nat) : Prop where
  generation : (s.generationAt k.index).val = (k.generation.val + n + 1) % 1 <<< 31
  le_fillings : n ≤ fillings
  lt_fillings : ∀ l : Key kind, l.index = k.index → s.contains l = true → n < fillings

theorem behind_erase_self (live : s.contains k = true) : (s.erase k).Behind k 0 0 where
  generation := by rw [generationAt_erase live, if_pos rfl, val_generation_add_one]
  le_fillings := Nat.le_refl 0
  lt_fillings l same still := by
    rw [contains_erase] at still
    exact absurd (eq_of_index_eq still.2 live same) still.1

namespace Behind

variable {n fillings : Nat} (behind : s.Behind k n fillings)

include behind

theorem insert (value : α) :
    (s.insert value).Behind k n
      (fillings + if (SlotEvent.filled s.nextKey).fills k.index then 1 else 0) where
  generation := by rw [generationAt_insert, behind.generation]
  le_fillings := Nat.le_add_right_of_le behind.le_fillings
  lt_fillings l same still := by
    rcases contains_insert.1 still with rfl | live
    · have here : (SlotEvent.filled s.nextKey).fills k.index = true := by
        simpa [SlotEvent.fills] using same
      rw [if_pos here]
      exact Nat.lt_succ_of_le behind.le_fillings
    · exact Nat.lt_add_right _ (behind.lt_fillings l same live)

theorem erase {l : Key kind} (live : s.contains l = true) :
    ∃ n', (s.erase l).Behind k n' fillings := by
  by_cases same : l.index = k.index
  · -- The slot of `k` is vacated once more, and it was filled for that.
    have filled := behind.lt_fillings l same live
    have reached : s.generationAt k.index = l.generation := by
      rcases contains_eq_true_iff.1 live with ⟨value, found⟩
      rw [← same, generationAt_of_get? found]
    refine ⟨n + 1, ?_, filled, fun l' same' still => ?_⟩
    · have here := behind.generation
      rw [reached] at here
      rw [generationAt_erase live, if_pos same.symm, val_generation_add_one, here,
        Nat.mod_add_mod, ← Nat.add_assoc]
    · rw [contains_erase] at still
      exact absurd (eq_of_index_eq still.2 live (same'.trans same.symm)) still.1
  · refine ⟨n, ?_, behind.le_fillings, fun l' same' still => ?_⟩
    · rw [generationAt_erase live, if_neg (Ne.symm same), behind.generation]
    · exact behind.lt_fillings l' same' (contains_erase.1 still).2

theorem modify (l : Key kind) (f : α → α) : (s.modify l f).Behind k n fillings where
  generation := by rw [generationAt_modify, behind.generation]
  le_fillings := behind.le_fillings
  lt_fillings l' same still := behind.lt_fillings l' same (by rwa [contains_modify] at still)

theorem reorder (same : t.slots = s.slots) : t.Behind k n fillings where
  generation := by rw [generationAt_congr same, behind.generation]
  le_fillings := behind.le_fillings
  lt_fillings l here live := behind.lt_fillings l here (by rwa [contains_congr same] at live)

/-- The key names no record before its slot was filled as often as there are generations. -/
theorem get?_eq_none (few : fillings < 1 <<< 31) : s.get? k = none := by
  by_contra resolves
  have live : s.contains k = true := Option.isSome_iff_ne_none.2 resolves
  rcases contains_eq_true_iff.1 live with ⟨value, found⟩
  have filled := behind.lt_fillings k rfl live
  have reached := behind.generation
  rw [generationAt_of_get? found] at reached
  have bound := k.generation.isLt
  simp only [Nat.reduceShiftLeft] at few reached bound
  omega

end Behind

/-- After the record of a key was dropped, its slot is ahead of the key. -/
theorem Evolves.exists_behind {later earlier : List (SlotEvent kind)}
    (evolves : s.Evolves (later ++ .vacated k :: earlier) t) :
    ∃ n, t.Behind k n (later.countP (SlotEvent.fills k.index)) := by
  generalize listed : later ++ .vacated k :: earlier = log at evolves
  induction evolves generalizing later with
  | refl => simp at listed
  | insert value _ inductionHypothesis =>
    rcases List.append_eq_cons_iff.1 listed with ⟨-, other⟩ | ⟨later, rfl, rfl⟩
    · simp at other
    · rcases inductionHypothesis rfl with ⟨n, behind⟩
      rw [List.countP_cons]
      exact ⟨n, behind.insert value⟩
  | erase _ live inductionHypothesis =>
    rcases List.append_eq_cons_iff.1 listed with ⟨rfl, here⟩ | ⟨later, rfl, rfl⟩
    · cases here
      exact ⟨0, behind_erase_self live⟩
    · rcases inductionHypothesis rfl with ⟨n, behind⟩
      rw [List.countP_cons]
      exact behind.erase live
  | modify l f _ inductionHypothesis =>
    rcases inductionHypothesis listed with ⟨n, behind⟩
    exact ⟨n, behind.modify l f⟩
  | reorder _ same inductionHypothesis =>
    rcases inductionHypothesis listed with ⟨n, behind⟩
    exact ⟨n, behind.reorder same⟩

/-- A stale key does not resolve. -/
theorem Evolves.get?_of_stale (evolves : s.Evolves log t) (stale : Stale k log) :
    t.get? k = none := by
  rcases stale with ⟨later, earlier, rfl, few⟩
  rcases evolves.exists_behind with ⟨n, behind⟩
  exact behind.get?_eq_none few

end SlotStore

end PlanarMesh
