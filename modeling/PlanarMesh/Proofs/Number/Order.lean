import Mathlib.Algebra.Order.Field.Rat
import Mathlib.Data.Int.ConditionallyCompleteOrder
import Mathlib.Order.WithBot
import PlanarMesh.Proofs.Number.Comparison

/-!
# The order of doubles

A double that is not a NaN has a rank among the integers and the two infinities (`HasRank`), and `≤`
and `<` compare ranks (`Double.le_iff_rank`, `Double.lt_iff_rank`).  So `≤` is transitive, and total
but for NaNs.

The lesser of two doubles is their greatest lower bound, and so is what folding it over a list
leaves; the greater one is the least upper bound in the same way (`Double.foldl_iff`).
-/

namespace PlanarMesh

open Float.Model (UnpackedFloat)

/-! ## Unpacked doubles -/

/-- The unpacked double has the given place among the integers and the infinities.  A NaN has
none. -/
inductive Ranks : UnpackedFloat → WithBot (WithTop ℤ) → Prop
  | finite {u : UnpackedFloat} (finite : u.isFinite = true) :
    Ranks u ((unpackedUnits u : WithTop ℤ) : WithBot (WithTop ℤ))
  | plusInfinity : Ranks (.infinity .positive) ⊤
  | minusInfinity : Ranks (.infinity .negative) ⊥

section Ranks

variable {u v : UnpackedFloat} {r s : WithBot (WithTop ℤ)}

theorem exists_ranks (number : u.isNaN = false) : ∃ r, Ranks u r := by
  cases u with
  | notANumber => cases number
  | infinity sign =>
    cases sign with
    | positive => exact ⟨⊤, .plusInfinity⟩
    | negative => exact ⟨⊥, .minusInfinity⟩
  | zero sign => exact ⟨_, .finite rfl⟩
  | finite sign mantissa exponent positive => exact ⟨_, .finite rfl⟩

/-- What can be compared is not a NaN. -/
theorem isNaN_of_compare {order : Ordering} (compared : u.compare v = some order) :
    u.isNaN = false ∧ v.isNaN = false := by
  constructor
  · cases u with
    | notANumber => cases compared
    | infinity | zero | finite => rfl
  · cases v with
    | notANumber => cases u <;> cases compared
    | infinity | zero | finite => rfl

/-- Finite doubles lie between the infinities. -/
theorem compare_infinity (finite : u.isFinite = true) :
    u.compare (.infinity .positive) = some .lt ∧ u.compare (.infinity .negative) = some .gt ∧
      UnpackedFloat.compare (.infinity .positive) u = some .gt ∧
      UnpackedFloat.compare (.infinity .negative) u = some .lt := by
  cases u with
  | notANumber => cases finite
  | infinity sign => cases finite
  | zero sign => exact ⟨rfl, rfl, rfl, rfl⟩
  | finite sign mantissa exponent positive => exact ⟨rfl, rfl, rfl, rfl⟩

/-- Comparing unpacked doubles is comparing their ranks. -/
theorem compare_of_ranks (uRank : Ranks u r) (vRank : Ranks v s) (uUnpacked : IsUnpacked u)
    (vUnpacked : IsUnpacked v) : u.compare v = some (cmp r s) := by
  have casts : StrictMono fun k : ℤ => ((k : WithTop ℤ) : WithBot (WithTop ℤ)) :=
    WithBot.coe_strictMono.comp WithTop.coe_strictMono
  have below (k : ℤ) : (⊥ : WithBot (WithTop ℤ)) < (k : WithTop ℤ) := WithBot.bot_lt_coe _
  have above (k : ℤ) : ((k : WithTop ℤ) : WithBot (WithTop ℤ)) < ⊤ :=
    WithBot.coe_lt_coe.2 (WithTop.coe_lt_top k)
  cases uRank with
  | finite uFinite =>
    rcases compare_infinity uFinite with ⟨before, after, -, -⟩
    cases vRank with
    | finite vFinite =>
      rw [compare_unpacked u v uFinite vFinite uUnpacked vUnpacked, ← cmp_eq_compare]
      exact congrArg some (casts.cmp_map_eq _ _).symm
    | plusInfinity => rw [before, (cmp_eq_lt_iff _ _).2 (above _)]
    | minusInfinity => rw [after, (cmp_eq_gt_iff _ _).2 (below _)]
  | plusInfinity =>
    cases vRank with
    | finite vFinite =>
      rcases compare_infinity vFinite with ⟨-, -, after, -⟩
      rw [after, (cmp_eq_gt_iff _ _).2 (above _)]
    | plusInfinity => rw [cmp_self_eq_eq]; rfl
    | minusInfinity => rw [(cmp_eq_gt_iff _ _).2 bot_lt_top]; rfl
  | minusInfinity =>
    cases vRank with
    | finite vFinite =>
      rcases compare_infinity vFinite with ⟨-, -, -, before⟩
      rw [before, (cmp_eq_lt_iff _ _).2 (below _)]
    | plusInfinity => rw [(cmp_eq_lt_iff _ _).2 bot_lt_top]; rfl
    | minusInfinity => rw [cmp_self_eq_eq]; rfl

end Ranks

/-! ## Doubles -/

/-- The double has the given place among the integers and the infinities.  A NaN has none. -/
def HasRank (x : Float) (r : WithBot (WithTop ℤ)) : Prop :=
  Ranks x.toModel.unpack r

namespace Double

variable {a b c : Float} {r s : WithBot (WithTop ℤ)}

theorem exists_rank (number : a.isNaN = false) : ∃ r, HasRank a r :=
  exists_ranks number

theorem compare_of_rank (aRank : HasRank a r) (bRank : HasRank b s) :
    a.toModel.unpack.compare b.toModel.unpack = some (cmp r s) :=
  compare_of_ranks aRank bRank (agrees_unpack _).isUnpacked (agrees_unpack _).isUnpacked

theorem le_iff_compare :
    a ≤ b ↔ (a.toModel.unpack.compare b.toModel.unpack).any Ordering.isLE = true := by
  show (decide (a.toModel ≤ b.toModel) : Bool) = true ↔ _
  rw [decide_eq_true_iff]
  rfl

theorem le_iff_rank (aRank : HasRank a r) (bRank : HasRank b s) : a ≤ b ↔ r ≤ s := by
  rw [le_iff_compare, compare_of_rank aRank bRank, ← not_lt, ← cmp_eq_gt_iff]
  cases cmp r s <;> simp

theorem lt_iff_rank (aRank : HasRank a r) (bRank : HasRank b s) : a < b ↔ r < s := by
  rw [lt_iff_compare, compare_of_rank aRank bRank, Option.some_inj, cmp_eq_lt_iff]

theorem numbers_of_le (le : a ≤ b) : a.isNaN = false ∧ b.isNaN = false := by
  rw [le_iff_compare] at le
  cases compared : a.toModel.unpack.compare b.toModel.unpack with
  | none => simp [compared] at le
  | some order => exact isNaN_of_compare compared

theorem le_trans (first : a ≤ b) (second : b ≤ c) : a ≤ c := by
  rcases numbers_of_le first with ⟨aNumber, bNumber⟩
  rcases exists_rank aNumber with ⟨r, aRank⟩
  rcases exists_rank bNumber with ⟨s, bRank⟩
  rcases exists_rank (numbers_of_le second).2 with ⟨t, cRank⟩
  rw [le_iff_rank aRank bRank] at first
  rw [le_iff_rank bRank cRank] at second
  exact (le_iff_rank aRank cRank).2 (first.trans second)

section Numbers

variable (aNumber : a.isNaN = false)

include aNumber

theorem le_refl : a ≤ a := by
  rcases exists_rank aNumber with ⟨r, aRank⟩
  exact (le_iff_rank aRank aRank).2 le_rfl

theorem not_lt_iff (bNumber : b.isNaN = false) : ¬ a < b ↔ b ≤ a := by
  rcases exists_rank aNumber with ⟨r, aRank⟩
  rcases exists_rank bNumber with ⟨s, bRank⟩
  rw [lt_iff_rank aRank bRank, le_iff_rank bRank aRank, not_lt]

theorem le_of_lt (bNumber : b.isNaN = false) (less : a < b) : a ≤ b := by
  rcases exists_rank aNumber with ⟨r, aRank⟩
  rcases exists_rank bNumber with ⟨s, bRank⟩
  rw [lt_iff_rank aRank bRank] at less
  exact (le_iff_rank aRank bRank).2 less.le

theorem le_infinity : a ≤ 1 / 0 := by
  rcases exists_rank aNumber with ⟨r, aRank⟩
  have greatest : HasRank (1 / 0) ⊤ := .plusInfinity
  exact (le_iff_rank aRank greatest).2 le_top

theorem minus_infinity_le : -1 / 0 ≤ a := by
  rcases exists_rank aNumber with ⟨r, aRank⟩
  have least : HasRank (-1 / 0) ⊥ := .minusInfinity
  exact (le_iff_rank least aRank).2 bot_le

/-! ## The lesser and the greater of two doubles -/

theorem le_lesser_iff (bNumber : b.isNaN = false) :
    (lesser a b).isNaN = false ∧ ∀ c, c ≤ lesser a b ↔ c ≤ a ∧ c ≤ b := by
  rw [lesser, aNumber, if_neg Bool.false_ne_true]
  split
  · next less =>
    have le := le_of_lt bNumber aNumber less
    exact ⟨bNumber, fun c => ⟨fun below => ⟨le_trans below le, below⟩, And.right⟩⟩
  · next notLess =>
    have le := (not_lt_iff bNumber aNumber).1 notLess
    exact ⟨aNumber, fun c => ⟨fun below => ⟨below, le_trans below le⟩, And.left⟩⟩

theorem greater_le_iff (bNumber : b.isNaN = false) :
    (greater a b).isNaN = false ∧ ∀ c, greater a b ≤ c ↔ a ≤ c ∧ b ≤ c := by
  rw [greater, aNumber, if_neg Bool.false_ne_true]
  split
  · next less =>
    have le := le_of_lt aNumber bNumber less
    exact ⟨bNumber, fun c => ⟨fun above => ⟨le_trans le above, above⟩, And.right⟩⟩
  · next notLess =>
    have le := (not_lt_iff aNumber bNumber).1 notLess
    exact ⟨aNumber, fun c => ⟨fun above => ⟨above, le_trans le above⟩, And.left⟩⟩

end Numbers

/-- If bounding the meet of two numbers is bounding both, bounding the meet of a list is bounding
all that are listed. -/
theorem foldl_iff {f : Float → Float → Float} {R : Float → Float → Prop}
    (meets : ∀ {a b}, a.isNaN = false → b.isNaN = false →
      (f a b).isNaN = false ∧ ∀ c, R c (f a b) ↔ R c a ∧ R c b)
    (aNumber : a.isNaN = false) {xs : List Float} (numbers : ∀ x ∈ xs, x.isNaN = false) :
    (xs.foldl f a).isNaN = false ∧
      ∀ c, R c (xs.foldl f a) ↔ R c a ∧ ∀ x ∈ xs, R c x := by
  induction xs generalizing a with
  | nil => simpa using aNumber
  | cons x xs inductionHypothesis =>
    rcases List.forall_mem_cons.1 numbers with ⟨xNumber, numbers⟩
    rcases meets aNumber xNumber with ⟨number, meet_iff⟩
    rcases inductionHypothesis number numbers with ⟨folded, foldl_iff⟩
    refine ⟨folded, fun c => ?_⟩
    rw [List.foldl_cons, foldl_iff, meet_iff, List.forall_mem_cons, and_assoc]

end Double

end PlanarMesh
