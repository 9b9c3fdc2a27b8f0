import PlanarMesh.Storage.Key

/-!
# Slot stores

A slot store keeps records of one kind in numbered slots.  Vacating a slot starts its next
generation, so a key held past the removal of its record stops resolving even after the
slot is filled again (until the generations have come round).  A slot that was vacated last
is filled first; new slots are opened only when none is vacant.

The view of a store is `get?`; what each operation does to it is in
`PlanarMesh.Storage.SlotStore.View`.  Which key the next insertion issues is `nextKey`, a
function of the store, so that a record can mention its own key.

That the vacant slots are exactly those listed for filling is part of the type, and so is
that slot `0` stays vacant.
-/

namespace PlanarMesh

universe u

/-- A slot: the generation it has reached and the record it holds, if any. -/
structure Slot (α : Type u) where
  generation : Generation
  value : Option α

namespace Slot

variable {α : Type u}

/-- A slot that nothing has been stored in yet. -/
def fresh : Slot α :=
  ⟨0, none⟩

/-- The slot holds no record. -/
def isVacant (slot : Slot α) : Bool :=
  slot.value.isNone

/-- The version counts the fillings and vacatings of the slot. -/
def version (slot : Slot α) : Nat :=
  2 * slot.generation.val + if slot.isVacant then 0 else 1

end Slot

/-- Records of one kind in numbered slots.  Slot `0` is never filled. -/
structure SlotStore (kind : RecordKind) (α : Type u) where
  slots : Array (Slot α)
  /-- The vacant slots, in the order in which they will be filled again. -/
  free : List Nat
  slots_zero : slots[0]? = some Slot.fresh
  nodup_free : free.Nodup
  mem_free_iff : ∀ i, i ∈ free ↔ 0 < i ∧ ∃ generation, slots[i]? = some ⟨generation, none⟩

namespace SlotStore

variable {kind : RecordKind} {α : Type u}

/-- The store without records. -/
def empty : SlotStore kind α where
  slots := #[Slot.fresh]
  free := []
  slots_zero := rfl
  nodup_free := List.nodup_nil
  mem_free_iff i := by
    cases i <;> simp

/-- The record that `k` names. -/
def get? (s : SlotStore kind α) (k : Key kind) : Option α :=
  match s.slots[k.index]? with
  | some slot => if slot.generation = k.generation then slot.value else none
  | none => none

/-- The key names a record. -/
def contains (s : SlotStore kind α) (k : Key kind) : Bool :=
  (s.get? k).isSome

theorem get?_eq_some_iff {s : SlotStore kind α} {k : Key kind} {value : α} :
    s.get? k = some value ↔ s.slots[k.index]? = some ⟨k.generation, some value⟩ := by
  unfold get?
  split
  · next slot found =>
    rw [found]
    constructor
    · intro h
      split at h
      · next same => cases slot; simp_all
      · exact absurd h (by simp)
    · intro h
      cases h
      simp
  · next missing => simp [missing]

/-- The generation that slot `i` has reached. -/
def generationAt (s : SlotStore kind α) (i : Nat) : Generation :=
  (s.slots[i]?.map Slot.generation).getD 0

/-- The key that the next insertion issues. -/
def nextKey (s : SlotStore kind α) : Key kind :=
  match s.free with
  | [] => ⟨s.slots.size, 0⟩
  | i :: _ => ⟨i, s.generationAt i⟩

theorem size_pos (s : SlotStore kind α) : 0 < s.slots.size := by
  have first := s.slots_zero
  rcases Nat.eq_zero_or_pos s.slots.size with none_yet | some_yet
  · simp [Array.getElem?_eq_none (Nat.le_of_eq none_yet)] at first
  · exact some_yet

/-- Slot `0` holds no record. -/
theorem pos_of_get? {s : SlotStore kind α} {k : Key kind} {value : α}
    (found : s.get? k = some value) : 0 < k.index := by
  refine Nat.pos_of_ne_zero fun zero => ?_
  have occupied := get?_eq_some_iff.1 found
  rw [zero, s.slots_zero] at occupied
  simp [Slot.fresh] at occupied

theorem lt_size_of_get? {s : SlotStore kind α} {k : Key kind} {value : α}
    (found : s.get? k = some value) : k.index < s.slots.size :=
  (Array.getElem?_eq_some_iff.1 (get?_eq_some_iff.1 found)).1

theorem lt_size_of_mem_free {s : SlotStore kind α} {i : Nat} (vacant : i ∈ s.free) :
    i < s.slots.size := by
  obtain ⟨_, _, found⟩ := (s.mem_free_iff i).1 vacant
  exact (Array.getElem?_eq_some_iff.1 found).1

/-- Store `value` under `nextKey`. -/
def insert (s : SlotStore kind α) (value : α) : SlotStore kind α :=
  match split : s.free with
  | [] =>
    { slots := s.slots.push ⟨0, some value⟩
      free := []
      slots_zero := by
        rw [Array.getElem?_push_lt s.size_pos]
        simpa [Array.getElem?_eq_getElem s.size_pos] using s.slots_zero
      nodup_free := List.nodup_nil
      mem_free_iff := fun i => by
        have vacancies := s.mem_free_iff i
        rw [split] at vacancies
        rw [vacancies, Array.getElem?_push]
        by_cases last : i = s.slots.size
        · simp [last]
        · simp [last] }
  | head :: rest =>
    { slots := s.slots.setIfInBounds head ⟨s.generationAt head, some value⟩
      free := rest
      slots_zero := by
        have positive := ((s.mem_free_iff head).1 (by simp [split])).1
        rw [Array.getElem?_setIfInBounds_ne (Nat.ne_of_gt positive)]
        exact s.slots_zero
      nodup_free := (List.nodup_cons.1 (split ▸ s.nodup_free)).2
      mem_free_iff := fun i => by
        have vacancies := s.mem_free_iff i
        have distinct := List.nodup_cons.1 (split ▸ s.nodup_free)
        rw [split] at vacancies
        rw [Array.getElem?_setIfInBounds]
        by_cases same : head = i
        · subst same
          have bound := lt_size_of_mem_free (s := s) (i := head) (by simp [split])
          simp [distinct.1, bound]
        · rw [if_neg same, ← vacancies]
          simp [Ne.symm same] }

/-- Remove the record that `k` names, if there is one; its slot is the next to be filled. -/
def erase (s : SlotStore kind α) (k : Key kind) : SlotStore kind α :=
  match found : s.get? k with
  | none => s
  | some value =>
    { slots := s.slots.setIfInBounds k.index ⟨k.generation + 1, none⟩
      free := k.index :: s.free
      slots_zero := by
        rw [Array.getElem?_setIfInBounds_ne (Nat.ne_of_gt (pos_of_get? found))]
        exact s.slots_zero
      nodup_free := by
        refine List.nodup_cons.2 ⟨fun listed => ?_, s.nodup_free⟩
        obtain ⟨_, _, vacant⟩ := (s.mem_free_iff k.index).1 listed
        rw [get?_eq_some_iff.1 found] at vacant
        simp at vacant
      mem_free_iff := fun i => by
        rw [List.mem_cons, s.mem_free_iff i, Array.getElem?_setIfInBounds]
        by_cases same : k.index = i
        · subst same
          simp [lt_size_of_get? found, pos_of_get? found]
        · simp [same, Ne.symm same] }

/-- Apply `f` to the record that `k` names, if there is one. -/
def modify (s : SlotStore kind α) (k : Key kind) (f : α → α) : SlotStore kind α :=
  match found : s.get? k with
  | none => s
  | some value =>
    { slots := s.slots.setIfInBounds k.index ⟨k.generation, some (f value)⟩
      free := s.free
      slots_zero := by
        rw [Array.getElem?_setIfInBounds_ne (Nat.ne_of_gt (pos_of_get? found))]
        exact s.slots_zero
      nodup_free := s.nodup_free
      mem_free_iff := fun i => by
        rw [s.mem_free_iff i, Array.getElem?_setIfInBounds]
        by_cases same : k.index = i
        · subst same
          rw [get?_eq_some_iff.1 found, if_pos rfl, if_pos (lt_size_of_get? found)]
          simp
        · simp [same] }

/-- The records in slot order, each with its key. -/
def toList (s : SlotStore kind α) : List (Key kind × α) :=
  s.slots.toList.zipIdx.filterMap fun (slot, i) =>
    slot.value.map fun value => (⟨i, slot.generation⟩, value)

/-- The keys that resolve, in slot order. -/
def keys (s : SlotStore kind α) : List (Key kind) :=
  s.toList.map Prod.fst

/-- The number of records. -/
def size (s : SlotStore kind α) : Nat :=
  s.slots.countP fun slot => !slot.isVacant

/-- The store with the given slots after slot `0`.  The highest vacant slot is filled
first, then the next lower one. -/
def ofSlots (slots : List (Slot α)) : SlotStore kind α where
  slots := (Slot.fresh :: slots).toArray
  free := ((List.range (slots.length + 1)).filter fun i =>
    0 < i && (Slot.fresh :: slots)[i]?.any Slot.isVacant).reverse
  slots_zero := rfl
  nodup_free := List.pairwise_reverse.2 ((List.nodup_range.filter _).imp Ne.symm)
  mem_free_iff i := by
    simp only [List.mem_reverse, List.mem_filter, List.mem_range, Bool.and_eq_true,
      decide_eq_true_eq, List.getElem?_toArray]
    constructor
    · rintro ⟨_, positive, vacant⟩
      refine ⟨positive, ?_⟩
      cases found : (Slot.fresh :: slots)[i]? with
      | none => simp [found] at vacant
      | some slot =>
        rw [found] at vacant
        cases slot with
        | mk generation value =>
          cases value with
          | none => exact ⟨generation, rfl⟩
          | some value => simp [Slot.isVacant] at vacant
    · rintro ⟨positive, generation, found⟩
      have bound := (List.getElem?_eq_some_iff.1 found).1
      exact ⟨by simpa using bound, positive, by rw [found]; simp [Slot.isVacant]⟩

end SlotStore

end PlanarMesh
