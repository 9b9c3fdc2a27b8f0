import PlanarMesh.Storage.SlotStore.View
import Mathlib.Data.List.Nodup
import Mathlib.Data.List.Perm.Basic

/-!
# Generations and sizes of slot stores

A key resolves only while its slot is in the generation of the key
(`generationAt_of_get?`), and only dropping a record moves a slot to another generation.
A key whose slot has moved on is `Retired`: it does not resolve, and neither insertions nor
changes of records bring it back.

The size of a store is determined by which keys resolve (`size_eq_of_contains`), so what an
operation does to the size follows from what it does to the view.
-/

namespace PlanarMesh

universe u

instance Slot.instDecidableEq {α : Type u} [DecidableEq α] : DecidableEq (Slot α) := fun a b =>
  decidable_of_iff (a.generation = b.generation ∧ a.value = b.value) (by cases a; cases b; simp)

namespace SlotStore

variable {kind : RecordKind} {α : Type u}

/-! ## Keys -/

theorem nodup_keys (s : SlotStore kind α) : s.keys.Nodup :=
  s.pairwise_keys.imp fun before same => by
    subst same
    rcases before with lower | ⟨_, lower⟩
    · exact absurd lower (Nat.lt_irrefl _)
    · exact absurd lower (Nat.lt_irrefl _)

theorem contains_eq_true_iff {s : SlotStore kind α} {k : Key kind} :
    s.contains k = true ↔ ∃ value, s.get? k = some value :=
  Option.isSome_iff_exists

theorem contains_insert {s : SlotStore kind α} {value : α} {k : Key kind} :
    (s.insert value).contains k = true ↔ k = s.nextKey ∨ s.contains k = true := by
  unfold contains
  rw [get?_insert]
  split <;> simp [*]

theorem contains_erase {s : SlotStore kind α} {k l : Key kind} :
    (s.erase k).contains l = true ↔ l ≠ k ∧ s.contains l = true := by
  unfold contains
  rw [get?_erase]
  split <;> simp [*]

@[simp]
theorem contains_modify (s : SlotStore kind α) (k l : Key kind) (f : α → α) :
    (s.modify k f).contains l = s.contains l := by
  unfold contains
  rw [get?_modify]
  split <;> simp [*]

@[simp]
theorem contains_nextKey (s : SlotStore kind α) : s.contains s.nextKey = false := by
  simp [contains]

/-! ## Stores with the same slots -/

theorem get?_congr {s t : SlotStore kind α} (same : t.slots = s.slots) (k : Key kind) :
    t.get? k = s.get? k := by
  rw [get?, get?, same]

theorem contains_congr {s t : SlotStore kind α} (same : t.slots = s.slots) (k : Key kind) :
    t.contains k = s.contains k := by
  rw [contains, contains, get?_congr same]

theorem generationAt_congr {s t : SlotStore kind α} (same : t.slots = s.slots) (i : Nat) :
    t.generationAt i = s.generationAt i := by
  rw [generationAt, generationAt, same]

/-! ## Sizes -/

/-- Stores in which the same keys resolve hold equally many records. -/
theorem size_eq_of_contains {β : Type u} {s : SlotStore kind α} {t : SlotStore kind β}
    (same : ∀ k, s.contains k = t.contains k) : s.size = t.size := by
  rw [← length_keys, ← length_keys]
  refine List.Perm.length_eq ((List.perm_ext_iff_of_nodup s.nodup_keys t.nodup_keys).2 ?_)
  intro k
  rw [mem_keys, mem_keys, same]

theorem size_insert (s : SlotStore kind α) (value : α) :
    (s.insert value).size = s.size + 1 := by
  have fresh : s.nextKey ∉ s.keys := by simp
  have listed : (s.insert value).keys.Perm (s.nextKey :: s.keys) := by
    refine (List.perm_ext_iff_of_nodup (nodup_keys _)
      (List.nodup_cons.2 ⟨fresh, s.nodup_keys⟩)).2 ?_
    intro k
    rw [mem_keys, contains_insert, List.mem_cons, mem_keys]
  rw [← length_keys, ← length_keys, listed.length_eq, List.length_cons]

theorem size_erase {s : SlotStore kind α} {k : Key kind} (live : s.contains k = true) :
    (s.erase k).size + 1 = s.size := by
  have gone : k ∉ (s.erase k).keys := by
    rw [mem_keys, contains_erase]
    exact fun still => still.1 rfl
  have listed : s.keys.Perm (k :: (s.erase k).keys) := by
    refine (List.perm_ext_iff_of_nodup s.nodup_keys
      (List.nodup_cons.2 ⟨gone, nodup_keys _⟩)).2 ?_
    intro l
    rw [List.mem_cons, mem_keys, mem_keys, contains_erase]
    by_cases same : l = k <;> simp [same, live]
  rw [← length_keys, ← length_keys, listed.length_eq, List.length_cons]

/-! ## Generations -/

theorem generationAt_of_get? {s : SlotStore kind α} {k : Key kind} {value : α}
    (found : s.get? k = some value) : s.generationAt k.index = k.generation := by
  simp [generationAt, get?_eq_some_iff.1 found]

@[simp]
theorem generationAt_insert (s : SlotStore kind α) (value : α) :
    (s.insert value).generationAt = s.generationAt := by
  funext i
  unfold insert
  split
  · simp only [generationAt, Array.getElem?_push]
    by_cases last : i = s.slots.size <;> simp [last]
  · next head rest split =>
    have bound := lt_size_of_mem_free (s := s) (i := head) (by simp [split])
    simp only [generationAt, Array.getElem?_setIfInBounds]
    by_cases same : head = i
    · subst same
      simp [bound]
    · simp [same]

@[simp]
theorem generationAt_modify (s : SlotStore kind α) (k : Key kind) (f : α → α) :
    (s.modify k f).generationAt = s.generationAt := by
  funext i
  unfold modify
  split
  · rfl
  · next value found =>
    have reached := generationAt_of_get? found
    have bound := lt_size_of_get? found
    by_cases same : k.index = i
    · subst same
      rw [reached, generationAt, Array.getElem?_setIfInBounds, if_pos rfl, if_pos bound]
      rfl
    · simp [generationAt, same]

theorem generationAt_erase {s : SlotStore kind α} {k : Key kind}
    (live : s.contains k = true) (i : Nat) :
    (s.erase k).generationAt i =
      if i = k.index then k.generation + 1 else s.generationAt i := by
  unfold erase
  split
  · next missing => simp [contains, missing] at live
  · next value found =>
    have bound := lt_size_of_get? found
    simp only [generationAt, Array.getElem?_setIfInBounds]
    by_cases same : k.index = i
    · subst same
      simp [bound]
    · simp [same, Ne.symm same]

/-- The slot of the key has moved on to another generation. -/
def Retired (s : SlotStore kind α) (k : Key kind) : Prop :=
  s.generationAt k.index ≠ k.generation

theorem Retired.not_contains {s : SlotStore kind α} {k : Key kind} (retired : s.Retired k) :
    s.contains k = false := by
  apply Bool.eq_false_iff.2
  intro live
  rcases contains_eq_true_iff.1 live with ⟨value, found⟩
  exact retired (generationAt_of_get? found)

theorem Retired.of_generationAt {s t : SlotStore kind α} {k : Key kind}
    (retired : s.Retired k) (same : t.generationAt = s.generationAt) : t.Retired k := by
  unfold Retired at *
  rwa [same]

/-- The generation after a given one, in numbers. -/
theorem val_generation_add_one (g : Generation) : (g + 1).val = (g.val + 1) % 1 <<< 31 := by
  have one : (1 : Generation).val = 1 := rfl
  rw [Fin.val_add, one]

theorem retired_erase {s : SlotStore kind α} {k : Key kind} (live : s.contains k = true) :
    (s.erase k).Retired k := by
  rw [Retired, generationAt_erase live, if_pos rfl]
  intro same
  have shifted := congrArg Fin.val same
  have bound := k.generation.isLt
  simp only [val_generation_add_one, Nat.reduceShiftLeft] at shifted bound
  omega

/-- Two keys that resolve at the same time live in different slots. -/
theorem eq_of_index_eq {s : SlotStore kind α} {k l : Key kind} (kLive : s.contains k = true)
    (lLive : s.contains l = true) (same : k.index = l.index) : k = l := by
  rcases contains_eq_true_iff.1 kLive with ⟨_, kFound⟩
  rcases contains_eq_true_iff.1 lLive with ⟨_, lFound⟩
  have reached := (generationAt_of_get? kFound).symm.trans
    ((congrArg s.generationAt same).trans (generationAt_of_get? lFound))
  cases k
  cases l
  simp_all

/-- Changing nothing in a record changes nothing in the store. -/
theorem modify_eq_self {s : SlotStore kind α} {k : Key kind} {f : α → α}
    (unchanged : ∀ value, s.get? k = some value → f value = value) : s.modify k f = s := by
  unfold modify
  split
  · rfl
  · next value found =>
    have occupied := get?_eq_some_iff.1 found
    have bound := lt_size_of_get? found
    cases s with
    | mk slots free slots_zero nodup_free mem_free_iff =>
    simp only [SlotStore.mk.injEq, and_true]
    rw [unchanged value found]
    apply Array.ext_getElem?
    intro i
    rw [Array.getElem?_setIfInBounds]
    by_cases same : k.index = i
    · subst same
      rw [if_pos rfl, if_pos bound, occupied]
    · rw [if_neg same]

/-! ## Listed values -/

/-- What is read off the listed values is read off the slots. -/
theorem map_toList {β : Type} (s : SlotStore kind α) (g : α → β) :
    (s.toList.map fun entry => g entry.2) =
      (s.slots.map fun slot => slot.value.map g).toList.filterMap id := by
  have read : (fun entry : Slot α × Nat => (entry.1.value.map fun value =>
      ((⟨entry.2, entry.1.generation⟩ : Key kind), value)).map fun entry => g entry.2) =
        (fun slot : Slot α => slot.value.map g) ∘ Prod.fst := by
    funext entry
    cases holds : entry.1.value <;> simp [holds]
  rw [toList, List.map_filterMap]
  simp only [read]
  rw [← List.filterMap_map, List.zipIdx_map_fst, Array.toList_map, List.filterMap_map]
  rfl

/-- A change that does not affect what is read off a value does not affect what is read off the
listed values. -/
theorem map_toList_modify {β : Type} {g : α → β} {f : α → α}
    (unaffected : ∀ value, g (f value) = g value) (s : SlotStore kind α) (k : Key kind) :
    ((s.modify k f).toList.map fun entry => g entry.2) = s.toList.map fun entry => g entry.2 := by
  rw [map_toList, map_toList]
  congr 2
  unfold modify
  split
  · rfl
  · next value found =>
    have occupied := get?_eq_some_iff.1 found
    apply Array.ext_getElem?
    intro i
    simp only [Array.getElem?_map, Array.getElem?_setIfInBounds]
    by_cases same : k.index = i
    · subst same
      rw [if_pos rfl, if_pos (lt_size_of_get? found), occupied]
      simp [unaffected]
    · rw [if_neg same]

end SlotStore

end PlanarMesh
