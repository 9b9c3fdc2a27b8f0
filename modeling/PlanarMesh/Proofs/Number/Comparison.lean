import PlanarMesh.Geometry.Point
import Mathlib.Algebra.Order.Ring.Nat
import Mathlib.Data.Int.Order.Basic
import Mathlib.Order.Compare

/-!
# Comparing doubles

Comparing two finite doubles is comparing their values: `<` and `==` on doubles are `<` and `=`
on multiples of the smallest positive double (`lt_iff_unitsOf`, `beq_iff_unitsOf`), and the
lesser and the greater of two doubles have the lesser and the greater value
(`lesser_of_isFinite`, `greater_of_isFinite`).

A comparison of doubles looks at the sign, then at the exponent, then at the mantissa.  That is
the order of the values because the mantissa of a double has its leading bit in place unless the
exponent is the least one (`Canonical`).
-/

namespace PlanarMesh

open Float.Model (UnpackedFloat Format)
open Float.Model.UnpackedFloat (Sign unpack unpackMantissa unpackExponent unpackSign)

/-! ## Magnitudes -/

/-- The leading bit of the mantissa is in place unless the exponent is the least one. -/
structure Canonical (mantissa : Nat) (exponent : Int) : Prop where
  bound : mantissa < 2 ^ 53
  least : -1074 ≤ exponent
  leads : 2 ^ 52 ≤ mantissa ∨ exponent = -1074

/-- The value `mantissa * 2 ^ exponent` as a multiple of the smallest positive double. -/
def magnitude (mantissa : Nat) (exponent : Int) : Nat :=
  mantissa * 2 ^ (exponent + 1074).toNat

theorem magnitude_pos {mantissa : Nat} (exponent : Int) (positive : 0 < mantissa) :
    0 < magnitude mantissa exponent :=
  Nat.mul_pos positive (Nat.two_pow_pos _)

namespace Canonical

variable {m m' : Nat} {e e' : Int}

/-- A larger exponent makes for a larger magnitude, whatever the mantissas are. -/
theorem magnitude_lt (small : Canonical m e) (large : Canonical m' e') (less : e < e') :
    magnitude m e < magnitude m' e' := by
  have leads : 2 ^ 52 ≤ m' := large.leads.resolve_right fun same => by
    have := small.least
    omega
  have scales : (e + 1074).toNat + 1 ≤ (e' + 1074).toNat := by
    have := small.least
    omega
  calc
    m * 2 ^ (e + 1074).toNat < 2 ^ 53 * 2 ^ (e + 1074).toNat :=
      Nat.mul_lt_mul_of_pos_right small.bound (Nat.two_pow_pos _)
    _ = 2 ^ 52 * 2 ^ ((e + 1074).toNat + 1) := by rw [Nat.pow_succ]; omega
    _ ≤ m' * 2 ^ (e' + 1074).toNat :=
      Nat.mul_le_mul leads (Nat.pow_le_pow_right Nat.two_pos scales)

/-- Comparing exponents, then mantissas, is comparing magnitudes. -/
theorem compare_magnitude (first : Canonical m e) (second : Canonical m' e') :
    (compare e e').then (compare m m') = compare (magnitude m e) (magnitude m' e') := by
  rcases lt_trichotomy e e' with less | rfl | more
  · rw [compare_lt_iff_lt.2 less, compare_lt_iff_lt.2 (first.magnitude_lt second less)]
    rfl
  · have scaled : StrictMono fun k : Nat => magnitude k e := fun _ _ less =>
      Nat.mul_lt_mul_of_pos_right less (Nat.two_pow_pos _)
    rw [compare_eq_iff_eq.2 rfl, ← cmp_eq_compare, ← cmp_eq_compare]
    exact (scaled.cmp_map_eq m m').symm
  · rw [compare_gt_iff_gt.2 more, compare_gt_iff_gt.2 (second.magnitude_lt first more)]
    rfl

end Canonical

/-! ## Unpacked doubles -/

/-- The value of an unpacked double as a multiple of the smallest positive double; zero for what
has no finite value. -/
def unpackedUnits : UnpackedFloat → Int
  | .finite sign mantissa exponent _ => sign.apply (magnitude mantissa exponent)
  | _ => 0

/-- The unpacked double has a mantissa and an exponent that doubles have. -/
def IsUnpacked : UnpackedFloat → Prop
  | .finite _ mantissa exponent _ => Canonical mantissa exponent
  | _ => True

/-- An unpacked double agrees with a value: the mantissa is the same and the exponent counts from
the smallest positive double. -/
inductive Agrees : UnpackedFloat → DoubleValue → Prop
  | notANumber : Agrees .notANumber .notANumber
  | infinity (sign : Sign) (negative : Bool) : Agrees (.infinity sign) (.infinite negative)
  | zero (sign : Sign) (negative : Bool) : Agrees (.zero sign) (.finite negative 0 0)
  | finite {sign : Sign} {negative : Bool} {mantissa scale : Nat} {exponent : Int}
      (positive : 0 < mantissa) : (sign = .negative ↔ negative = true) →
      Canonical mantissa exponent → exponent = scale - 1074 →
      Agrees (.finite sign mantissa exponent positive) (.finite negative mantissa scale)

theorem Agrees.isUnpacked {u : UnpackedFloat} {v : DoubleValue} (agrees : Agrees u v) :
    IsUnpacked u := by
  cases agrees with
  | notANumber => trivial
  | infinity => trivial
  | zero => trivial
  | finite _ _ canonical => exact canonical

theorem Agrees.units {u : UnpackedFloat} {v : DoubleValue} (agrees : Agrees u v) :
    unpackedUnits u = v.units := by
  cases agrees with
  | notANumber => rfl
  | infinity => rfl
  | zero _ negative => cases negative <;> rfl
  | @finite sign negative mantissa scale exponent positive negative_iff _ same =>
    have scaled : magnitude mantissa exponent = mantissa <<< scale := by
      rw [magnitude, same, Nat.shiftLeft_eq, Int.sub_add_cancel, Int.toNat_natCast]
    cases negative with
    | false =>
      cases sign with
      | positive => exact congrArg Nat.cast scaled
      | negative => simp at negative_iff
    | true =>
      cases sign with
      | positive => simp at negative_iff
      | negative => exact congrArg (fun n : Nat => -(n : Int)) scaled

theorem compare_natCast (a b : Nat) : compare (a : Int) (b : Int) = compare a b := by
  have casts : StrictMono fun k : Nat => (k : Int) := fun _ _ => Int.ofNat_lt.2
  rw [← cmp_eq_compare, ← cmp_eq_compare]
  exact casts.cmp_map_eq a b

theorem compare_neg (a b : Int) : compare (-a) (-b) = (compare a b).swap := by
  have negates : StrictAnti fun k : Int => -k := fun _ _ => neg_lt_neg
  rw [← cmp_eq_compare, ← cmp_eq_compare, cmp_swap]
  exact negates.cmp_map_eq a b

/-- Comparing finite unpacked doubles is comparing their values. -/
theorem compare_unpacked (u v : UnpackedFloat) (uFinite : u.isFinite = true)
    (vFinite : v.isFinite = true) (uUnpacked : IsUnpacked u) (vUnpacked : IsUnpacked v) :
    u.compare v = some (compare (unpackedUnits u) (unpackedUnits v)) := by
  have above : ∀ m e, 0 < m → (0 : Int) < magnitude m e := fun m e positive =>
    Int.natCast_pos.2 (magnitude_pos e positive)
  have below : ∀ m e, 0 < m → -(magnitude m e : Int) < 0 := fun m e positive =>
    neg_lt_zero.2 (above m e positive)
  match u, v with
  | .zero _, .zero _ => rfl
  | .zero _, .finite .positive m e positive =>
    exact congrArg some (compare_lt_iff_lt.2 (above m e positive)).symm
  | .zero _, .finite .negative m e positive =>
    exact congrArg some (compare_gt_iff_gt.2 (below m e positive)).symm
  | .finite .positive m e positive, .zero _ =>
    exact congrArg some (compare_gt_iff_gt.2 (above m e positive)).symm
  | .finite .negative m e positive, .zero _ =>
    exact congrArg some (compare_lt_iff_lt.2 (below m e positive)).symm
  | .finite .positive m e positive, .finite .negative m' e' positive' =>
    have apart := (below m' e' positive').trans (above m e positive)
    exact congrArg some (compare_gt_iff_gt.2 apart).symm
  | .finite .negative m e positive, .finite .positive m' e' positive' =>
    have apart := (below m e positive).trans (above m' e' positive')
    exact congrArg some (compare_lt_iff_lt.2 apart).symm
  | .finite .positive m e _, .finite .positive m' e' _ =>
    have same := uUnpacked.compare_magnitude vUnpacked
    rw [← compare_natCast (magnitude m e)] at same
    exact congrArg some same
  | .finite .negative m e _, .finite .negative m' e' _ =>
    have same := congrArg Ordering.swap (uUnpacked.compare_magnitude vUnpacked)
    rw [← compare_natCast (magnitude m e), ← compare_neg] at same
    exact congrArg some same

/-! ## Bit patterns -/

section BitPatterns

variable (bits : BitVec 64)

theorem toNat_unpackMantissa :
    (@unpackMantissa .binary64 bits).toNat = bits.toNat % 1 <<< 52 := by
  simp [unpackMantissa]

theorem toNat_unpackExponent :
    (@unpackExponent .binary64 bits).toNat = bits.toNat >>> 52 % 2048 := by
  simp [unpackExponent]

theorem toNat_unpackSign :
    (@unpackSign .binary64 bits).toNat = bits.toNat >>> 63 % 2 := by
  show (bits.extractLsb' 63 1).toNat = _
  simp

theorem toNat_leadingOne (mantissa : BitVec 52) :
    (1#1 ++ mantissa).toNat = 1 <<< 52 + mantissa.toNat := by
  rw [BitVec.toNat_append]
  exact (Nat.two_pow_add_eq_or_of_lt mantissa.isLt 1).symm

theorem ofBitVec_eq_negative_iff (sign : BitVec 1) :
    Sign.ofBitVec sign = .negative ↔ (sign.toNat == 1) = true := by
  rcases Nat.le_one_iff_eq_zero_or_eq_one.1 (Nat.le_of_lt_succ sign.isLt) with clear | set
  · have same : sign = 0#1 := BitVec.eq_of_toNat_eq clear
    simp [same, Sign.ofBitVec]
  · have same : sign = 1#1 := BitVec.eq_of_toNat_eq set
    simp [same, Sign.ofBitVec]

/-- Unpacking a bit pattern and reading its fields come to the same. -/
theorem agrees_unpack : Agrees (unpack .binary64 bits) (DoubleValue.ofBits bits.toNat) := by
  have negative_iff := ofBitVec_eq_negative_iff (@unpackSign .binary64 bits)
  have bound := (@unpackMantissa .binary64 bits).isLt
  have full_iff : (@unpackExponent .binary64 bits).toNat = 2047 ↔
      @unpackExponent .binary64 bits = -1#11 := by
    rw [← BitVec.toNat_inj]
    rfl
  have least_iff : (@unpackExponent .binary64 bits).toNat = 0 ↔
      @unpackExponent .binary64 bits = 0#11 := by
    rw [← BitVec.toNat_inj]
    rfl
  have bare_iff : (@unpackMantissa .binary64 bits).toNat = 0 ↔
      @unpackMantissa .binary64 bits = 0#52 := by
    rw [← BitVec.toNat_inj]
    rfl
  unfold unpack DoubleValue.ofBits
  dsimp only
  rw [← toNat_unpackMantissa, ← toNat_unpackExponent, ← toNat_unpackSign]
  by_cases full : @unpackExponent .binary64 bits = -1#11
  · rw [if_pos full, if_pos (full_iff.2 full)]
    by_cases bare : @unpackMantissa .binary64 bits = 0#52
    · rw [if_pos bare, if_pos (bare_iff.2 bare)]
      exact .infinity _ _
    · rw [if_neg bare, if_neg (mt bare_iff.1 bare)]
      exact .notANumber
  · rw [if_neg full, if_neg (mt full_iff.1 full)]
    by_cases least : @unpackExponent .binary64 bits = 0#11
    · rw [if_pos least, if_pos (least_iff.2 least)]
      by_cases bare : @unpackMantissa .binary64 bits = 0#52
      · rw [dif_pos bare, bare]
        exact .zero _ _
      · rw [dif_neg bare, least]
        have canonical : Canonical (@unpackMantissa .binary64 bits).toNat (-1074) :=
          ⟨Nat.lt_trans bound (by decide), by decide, .inr rfl⟩
        exact .finite _ negative_iff canonical rfl
    · rw [if_neg least, if_neg (mt least_iff.1 least), ← toNat_leadingOne]
      have positive := Nat.pos_of_ne_zero (mt least_iff.1 least)
      have leading := toNat_leadingOne (@unpackMantissa .binary64 bits)
      have exponent : (@unpackExponent .binary64 bits).toNat -
          (Format.binary64.exponentBias + (52 : Nat) : Int) =
            ((@unpackExponent .binary64 bits).toNat - 1 : Nat) - 1074 := by
        show _ - ((1023 : Nat) + (52 : Nat) : Int) = _
        omega
      have canonical : Canonical (1#1 ++ @unpackMantissa .binary64 bits).toNat
          (((@unpackExponent .binary64 bits).toNat - 1 : Nat) - 1074) := by
        constructor
        · rw [leading]
          omega
        · omega
        · left
          rw [leading]
          exact Nat.le_add_right _ _
      exact .finite _ negative_iff (exponent ▸ canonical) exponent

end BitPatterns

/-! ## Doubles -/

section Doubles

variable {a b : Float}

theorem compare_unpack (aFinite : a.isFinite = true) (bFinite : b.isFinite = true) :
    a.toModel.unpack.compare b.toModel.unpack = some (compare (unitsOf a) (unitsOf b)) := by
  have compared := compare_unpacked _ _ aFinite bFinite (agrees_unpack _).isUnpacked
    (agrees_unpack _).isUnpacked
  rwa [Float.Model.unpack, Float.Model.unpack, (agrees_unpack _).units, (agrees_unpack _).units]
    at compared

theorem lt_iff_compare : a < b ↔ a.toModel.unpack.compare b.toModel.unpack = some .lt := by
  show (decide (a.toModel < b.toModel) : Bool) = true ↔ _
  rw [decide_eq_true_iff]
  show (a.toModel.unpack.compare b.toModel.unpack == some .lt) = true ↔ _
  rw [beq_iff_eq]

theorem lt_iff_unitsOf (aFinite : a.isFinite = true) (bFinite : b.isFinite = true) :
    a < b ↔ unitsOf a < unitsOf b := by
  rw [lt_iff_compare, compare_unpack aFinite bFinite, Option.some_inj, compare_lt_iff_lt]

theorem beq_iff_unitsOf (aFinite : a.isFinite = true) (bFinite : b.isFinite = true) :
    (a == b) = true ↔ unitsOf a = unitsOf b := by
  have unfolded : (a == b) = true ↔ a.toModel.unpack.compare b.toModel.unpack = some .eq := by
    show (a.toModel.unpack.compare b.toModel.unpack == some .eq) = true ↔ _
    rw [beq_iff_eq]
  rw [unfolded, compare_unpack aFinite bFinite, Option.some_inj, compare_eq_iff_eq]

theorem isNaN_eq_false_of_isFinite (aFinite : a.isFinite = true) : a.isNaN = false := by
  show a.toModel.unpack.isNaN = false
  have finite : a.toModel.unpack.isFinite = true := aFinite
  cases holds : a.toModel.unpack with
  | notANumber =>
    rw [holds] at finite
    cases finite
  | infinity sign => rfl
  | zero sign => rfl
  | finite sign mantissa exponent positive => rfl

/-- The lesser of two finite doubles is one of them and has the lesser value. -/
theorem lesser_of_isFinite (aFinite : a.isFinite = true) (bFinite : b.isFinite = true) :
    (lesser a b).isFinite = true ∧ unitsOf (lesser a b) = min (unitsOf a) (unitsOf b) := by
  rw [lesser, isNaN_eq_false_of_isFinite aFinite, if_neg Bool.false_ne_true]
  split
  · next less =>
    have less' := (lt_iff_unitsOf bFinite aFinite).1 less
    exact ⟨bFinite, (min_eq_right less'.le).symm⟩
  · next notLess =>
    have le := not_lt.1 (mt (lt_iff_unitsOf bFinite aFinite).2 notLess)
    exact ⟨aFinite, (min_eq_left le).symm⟩

/-- The greater of two finite doubles is one of them and has the greater value. -/
theorem greater_of_isFinite (aFinite : a.isFinite = true) (bFinite : b.isFinite = true) :
    (greater a b).isFinite = true ∧ unitsOf (greater a b) = max (unitsOf a) (unitsOf b) := by
  rw [greater, isNaN_eq_false_of_isFinite aFinite, if_neg Bool.false_ne_true]
  split
  · next less =>
    have less' := (lt_iff_unitsOf aFinite bFinite).1 less
    exact ⟨bFinite, (max_eq_right less'.le).symm⟩
  · next notLess =>
    have le := not_lt.1 (mt (lt_iff_unitsOf aFinite bFinite).2 notLess)
    exact ⟨aFinite, (max_eq_left le).symm⟩

end Doubles

end PlanarMesh
