import Mathlib.Data.List.Sort
import PlanarMesh.Flood
import PlanarMesh.Storage.SlotStore.View

/-!
# Sorted keys

Keys are strictly ordered, and a list of keys is sorted by putting one key after the other in its
place.  The sorted list has the members of the list, each once (`mem_sortKeys`,
`pairwise_sortKeys`).  Hence it depends on the members alone, and whoever lists the same keys in
increasing order has the same list.
-/

namespace PlanarMesh

namespace Key

variable {kind : RecordKind} {a b c : Key kind}

theorem lt_trans (first : a < b) (second : b < c) : a < c := by
  rw [lt_def, Fin.lt_def] at *
  omega

theorem lt_irrefl (a : Key kind) : ¬ a < a := by
  simp [lt_def]

theorem lt_of_not_lt (notBefore : ¬ a < b) (differ : a ≠ b) : b < a := by
  rw [lt_def, Fin.lt_def] at *
  have other : a.index = b.index → a.generation.val ≠ b.generation.val := by
    intro index generation
    exact differ (by cases a; cases b; simp_all [Fin.ext_iff])
  omega

instance : Std.Irrefl (α := Key kind) (· < ·) :=
  ⟨lt_irrefl⟩

instance : Std.Antisymm (α := Key kind) (· < ·) :=
  ⟨fun a _ before after => absurd (lt_trans before after) (lt_irrefl a)⟩

end Key

variable {kind : RecordKind} {k : Key kind} {keys : List (Key kind)}

theorem mem_insertKey {l : Key kind} : l ∈ insertKey k keys ↔ l = k ∨ l ∈ keys := by
  induction keys with
  | nil => simp [insertKey]
  | cons first rest inductionHypothesis =>
    rw [insertKey]
    split_ifs with before same
    · simp
    · simp [same]
    · rw [List.mem_cons, inductionHypothesis, List.mem_cons]
      exact or_left_comm

theorem pairwise_insertKey (sorted : keys.Pairwise (· < ·)) :
    (insertKey k keys).Pairwise (· < ·) := by
  induction keys with
  | nil => simp [insertKey]
  | cons first rest inductionHypothesis =>
    rcases List.pairwise_cons.1 sorted with ⟨least, sorted'⟩
    rw [insertKey]
    split_ifs with before same
    · refine List.pairwise_cons.2 ⟨fun l mem => ?_, sorted⟩
      rcases List.mem_cons.1 mem with rfl | mem
      · exact before
      · exact Key.lt_trans before (least l mem)
    · exact sorted
    · refine List.pairwise_cons.2 ⟨fun l mem => ?_, inductionHypothesis sorted'⟩
      rcases mem_insertKey.1 mem with rfl | mem
      · exact Key.lt_of_not_lt before same
      · exact least l mem

@[simp]
theorem mem_sortKeys : k ∈ sortKeys keys ↔ k ∈ keys := by
  induction keys with
  | nil => simp [sortKeys]
  | cons first rest inductionHypothesis =>
    rw [sortKeys, List.foldr_cons, ← sortKeys, mem_insertKey, inductionHypothesis, List.mem_cons]

/-- The least member of an increasing list stands at its head. -/
theorem head?_eq_some_of_least (sorted : keys.Pairwise (· < ·)) (mem : k ∈ keys)
    (least : ∀ l ∈ keys, l ≠ k → k < l) : keys.head? = some k := by
  rcases keys with - | ⟨first, rest⟩
  · cases mem
  · rcases List.mem_cons.1 mem with rfl | later
    · rfl
    · have before := (List.pairwise_cons.1 sorted).1 k later
      by_cases same : first = k
      · rw [same, List.head?_cons]
      · exact absurd (Key.lt_trans before (least first List.mem_cons_self same)) (Key.lt_irrefl _)

theorem pairwise_sortKeys (keys : List (Key kind)) : (sortKeys keys).Pairwise (· < ·) := by
  induction keys with
  | nil => exact .nil
  | cons first rest inductionHypothesis => exact pairwise_insertKey inductionHypothesis

end PlanarMesh
