import PlanarMesh.Storage.SlotStore

/-!
# What slot stores hold

Each operation of a slot store, seen through `get?`: `get?_insert`, `get?_erase` and
`get?_modify`.  The key that the next insertion issues names nothing yet (`get?_nextKey`).
The records listed in slot order are exactly those that some key names (`mem_toList`), their
keys strictly increase (`pairwise_keys`), and there are as many as counted (`length_keys`).
-/

namespace PlanarMesh

universe u

namespace SlotStore

variable {kind : RecordKind} {α : Type u}

@[simp]
theorem get?_empty (k : Key kind) : (empty : SlotStore kind α).get? k = none := by
  apply Option.eq_none_iff_forall_ne_some.2
  intro value found
  have occupied := get?_eq_some_iff.1 found
  cases h : k.index with
  | zero => simp [empty, h, Slot.fresh] at occupied
  | succ i => simp [empty, h] at occupied

/-- The key issued next names nothing yet. -/
@[simp]
theorem get?_nextKey (s : SlotStore kind α) : s.get? s.nextKey = none := by
  apply Option.eq_none_iff_forall_ne_some.2
  intro value found
  have occupied := get?_eq_some_iff.1 found
  unfold nextKey at occupied
  split at occupied
  · simp at occupied
  · next head rest split =>
    obtain ⟨_, generation, vacant⟩ := (s.mem_free_iff head).1 (by simp [split])
    rw [vacant] at occupied
    simp at occupied

theorem get?_insert (s : SlotStore kind α) (value : α) (k : Key kind) :
    (s.insert value).get? k = if k = s.nextKey then some value else s.get? k := by
  cases k with
  | mk index generation =>
  unfold insert nextKey
  split
  · next split =>
    simp only [get?, Array.getElem?_push, split, Key.mk.injEq]
    by_cases last : index = s.slots.size
    · subst last
      by_cases same : generation = 0
      · simp [same]
      · simp [same, Ne.symm same]
    · simp [last]
  · next head rest split =>
    have bound := lt_size_of_mem_free (s := s) (i := head) (by simp [split])
    obtain ⟨_, reached, vacant⟩ := (s.mem_free_iff head).1 (by simp [split])
    simp only [get?, Array.getElem?_setIfInBounds, split, Key.mk.injEq]
    by_cases same : index = head
    · subst same
      by_cases current : generation = s.generationAt index
      · simp [bound, current]
      · rw [if_pos rfl, if_pos bound, vacant]
        simp [current, Ne.symm current]
    · simp [same, Ne.symm same]

theorem get?_erase (s : SlotStore kind α) (k l : Key kind) :
    (s.erase k).get? l = if l = k then none else s.get? l := by
  unfold erase
  split
  · next missing =>
    by_cases same : l = k
    · simp [same, missing]
    · simp [same]
  · next value found =>
    have occupied := get?_eq_some_iff.1 found
    have bound := lt_size_of_get? found
    cases k with
    | mk index generation =>
    cases l with
    | mk index' generation' =>
    simp only [get?, Array.getElem?_setIfInBounds, Key.mk.injEq] at *
    by_cases same : index = index'
    · subst same
      rw [if_pos rfl, if_pos bound, occupied]
      grind
    · simp [same, Ne.symm same]

theorem get?_modify (s : SlotStore kind α) (k l : Key kind) (f : α → α) :
    (s.modify k f).get? l = if l = k then (s.get? k).map f else s.get? l := by
  unfold modify
  split
  · next missing =>
    by_cases same : l = k
    · simp [same, missing]
    · simp [same]
  · next value found =>
    have occupied := get?_eq_some_iff.1 found
    have bound := lt_size_of_get? found
    cases k with
    | mk index generation =>
    cases l with
    | mk index' generation' =>
    by_cases same : index = index'
    · subst same
      simp only [get?, Array.getElem?_setIfInBounds, Key.mk.injEq] at *
      rw [if_pos trivial, if_pos bound, occupied]
      grind
    · simp [get?, same, Ne.symm same]

theorem mem_toList {s : SlotStore kind α} {k : Key kind} {value : α} :
    (k, value) ∈ s.toList ↔ s.get? k = some value := by
  cases k with
  | mk index generation =>
  rw [get?_eq_some_iff, ← Array.getElem?_toList]
  simp only [toList, List.mem_filterMap, Prod.exists, List.mem_zipIdx_iff_getElem?,
    Option.map_eq_some_iff, Prod.mk.injEq, Key.mk.injEq]
  constructor
  · rintro ⟨slot, i, found, stored, holds, ⟨rfl, rfl⟩, rfl⟩
    rw [found, ← holds]
  · intro found
    exact ⟨_, _, found, value, rfl, ⟨rfl, rfl⟩, rfl⟩

@[simp]
theorem mem_keys {s : SlotStore kind α} {k : Key kind} : k ∈ s.keys ↔ s.contains k = true := by
  simp only [keys, List.mem_map, Prod.exists, mem_toList, contains, Option.isSome_iff_exists]
  exact ⟨fun ⟨_, value, found, same⟩ => ⟨value, same ▸ found⟩,
    fun ⟨value, found⟩ => ⟨k, value, found, rfl⟩⟩

/-- Keys are listed once each, by increasing slot. -/
theorem pairwise_keys (s : SlotStore kind α) : s.keys.Pairwise (· < ·) := by
  have increasing : s.slots.toList.zipIdx.Pairwise fun a b => a.2 < b.2 := by
    rw [← List.pairwise_map (f := Prod.snd) (R := (· < ·)), List.zipIdx_map_snd]
    exact List.pairwise_lt_range'
  simp only [keys, toList, List.pairwise_map]
  refine increasing.filterMap _ ?_
  rintro ⟨slot, i⟩ ⟨slot', i'⟩ before entry found entry' found'
  obtain ⟨_, _, rfl⟩ := Option.map_eq_some_iff.1 found
  obtain ⟨_, _, rfl⟩ := Option.map_eq_some_iff.1 found'
  exact Or.inl before

theorem length_keys (s : SlotStore kind α) : s.keys.length = s.size := by
  have counted : ∀ (slots : List (Slot α)) (offset : Nat),
      ((slots.zipIdx offset).filterMap fun entry =>
        entry.1.value.map fun value =>
          ((⟨entry.2, entry.1.generation⟩ : Key kind), value)).length =
        slots.countP fun slot => !slot.isVacant := by
    intro slots
    induction slots with
    | nil => intro offset; rfl
    | cons slot slots inductionHypothesis =>
      intro offset
      cases holds : slot.value <;>
        simp [List.zipIdx_cons, Slot.isVacant, holds, inductionHypothesis]
  rw [keys, List.length_map, size, ← Array.countP_toList]
  exact counted s.slots.toList 0

end SlotStore

end PlanarMesh
