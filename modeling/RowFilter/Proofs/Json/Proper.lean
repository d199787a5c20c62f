import Mathlib
import RowFilter.Proofs.Json.Keys

/-! Documents that JSON has: their keys do not repeat, and their numbers are finite. -/

namespace RowFilter

namespace Json

/-- Whether all numbers of a document are finite, as JSON has no others. -/
inductive IsFinite : Json → Prop where
  | null : IsFinite .null
  | bool (value : Bool) : IsFinite (.bool value)
  | integer (value : WideInt) : IsFinite (.integer value)
  | float {value : Float} (finite : value.isFinite = true) : IsFinite (.float value)
  | string (value : String) : IsFinite (.string value)
  | array {items : List Json} (each : ∀ item ∈ items, IsFinite item) : IsFinite (.array items)
  | object {members : List (String × Json)} (each : ∀ member ∈ members, IsFinite member.2) :
    IsFinite (.object members)

/-- A float is finite as a document if it is one. -/
theorem isFinite_float {value : Float} : (Json.float value).IsFinite ↔ value.isFinite = true :=
  -- There is one way for a float to be finite.
  ⟨fun | .float finite => finite, .float⟩

/-- An array is finite if its items are. -/
theorem isFinite_array {items : List Json} :
    (Json.array items).IsFinite ↔ ∀ item ∈ items, item.IsFinite :=
  -- There is one way for an array to be finite.
  ⟨fun | .array each => each, .array⟩

/-- An object is finite if its values are. -/
theorem isFinite_object {members : Members} :
    (Json.object members).IsFinite ↔ ∀ member ∈ members, member.2.IsFinite :=
  -- There is one way for an object to be finite, and its keys have no part in it.
  ⟨fun | .object each => each, .object⟩

/-- Whether a document is one that JSON has. -/
structure IsProper (document : Json) : Prop where
  wellKeyed : document.isWellKeyed = true
  finite : document.IsFinite

/-- An array is proper if its items are. -/
theorem isProper_array {items : List Json} :
    (Json.array items).IsProper ↔ ∀ item ∈ items, item.IsProper := by
  -- Both properties are passed on from the items, each by its own lemma.
  constructor
  · rintro ⟨wellKeyed, finite⟩ item listed
    exact ⟨isWellKeyed_array.mp wellKeyed item listed, isFinite_array.mp finite item listed⟩
  · intro each
    exact ⟨isWellKeyed_array.mpr fun item listed => (each item listed).wellKeyed,
      isFinite_array.mpr fun item listed => (each item listed).finite⟩

/-- An object is proper if it has each key once and its values are proper. -/
theorem isProper_object {members : Members} :
    (Json.object members).IsProper
      ↔ (members.map Prod.fst).Nodup ∧ ∀ member ∈ members, member.2.IsProper := by
  -- The keys belong to one of the two properties only.
  constructor
  · rintro ⟨wellKeyed, finite⟩
    obtain ⟨distinct, known⟩ := isWellKeyed_object.mp wellKeyed
    exact ⟨distinct, fun member listed =>
      ⟨known member listed, isFinite_object.mp finite member listed⟩⟩
  · rintro ⟨distinct, each⟩
    exact ⟨isWellKeyed_object.mpr ⟨distinct, fun member listed => (each member listed).wellKeyed⟩,
      isFinite_object.mpr fun member listed => (each member listed).finite⟩

end Json

/-! How a word is rounded: its mantissa is shifted to 53 bits, rounded, and shifted again. -/

namespace Rounding

open Float.Model Float.Model.UnpackedFloat

/-- A shift to the right makes no mantissa larger. -/
theorem mantissa_shiftRight_le (extended : ExtendedMantissa) (amount : Nat) :
    (extended >>> amount).mantissa ≤ extended.mantissa := by
  -- By induction on the amount, each bit of which halves the mantissa.
  induction amount with
  | zero => exact Nat.le_refl _
  | succ amount ih => exact Nat.le_trans (Nat.div_le_self _ 2) ih

/-- Rounding adds at most one to a mantissa. -/
theorem roundedMantissa_le (extended : ExtendedMantissa) :
    extended.roundedMantissa ≤ extended.mantissa + 1 := by
  -- By the two bits behind the mantissa, which tell on which side of the middle it lies.
  obtain ⟨mantissa, half, rest⟩ := extended
  cases half <;> cases rest <;>
    simp only [ExtendedMantissa.roundedMantissa, ExtendedMantissa.accuracy,
      Accuracy.roundToNearestEven] <;>
    omega

/-- Shifting a mantissa of some bits makes it no larger, and raises the exponent by at most as many
bits. -/
theorem shiftToTargetExponent_le {mantissa bits : Nat} {exponent : Int}
    (short : mantissa < 2 ^ bits) (normal : -1074 ≤ exponent) :
    (shiftToTargetExponent .binary64 mantissa exponent .exact).1.mantissa < 2 ^ bits ∧
    exponent ≤ (shiftToTargetExponent .binary64 mantissa exponent .exact).2 ∧
    (shiftToTargetExponent .binary64 mantissa exponent .exact).2 ≤ exponent + bits := by
  -- The mantissa has as many bits as its logarithm says, and the exponent makes up for them.
  refine ⟨Nat.lt_of_le_of_lt (mantissa_shiftRight_le _ _) short, ?_⟩
  have log : mantissa.log2 ≤ bits := by
    by_cases zero : mantissa = 0
    · simp [zero]
    · exact Nat.le_of_lt ((Nat.log2_lt zero).mpr short)
  simp only [shiftToTargetExponent, shiftToExponent, Format.targetExponent, Format.minExponent,
    Format.mantissaBits, Float.Model.totalExponent]
  omega

/-- What is packed with a small exponent is finite. -/
theorem isFinite_pack {sign : Sign} {mantissa : Nat} {exponent : Int} (positive : 0 < mantissa)
    (small : exponent < 972) :
    (Float.Model.pack (.finite sign mantissa exponent positive)).isFinite = true := by
  -- Only the exponent of all ones is kept for what is not finite.
  have finite {field : BitVec 11} {rest : BitVec 52} (low : field ≠ -1#11) :
      (UnpackedFloat.unpack .binary64 (packComponents .binary64 sign field rest)).isFinite
        = true := by
    unfold UnpackedFloat.unpack
    simp only [unpackExponent_packComponents, unpackMantissa_packComponents, if_neg low]
    split
    · split <;> rfl
    · rfl
  have room : ¬ 2 ^ 11 ≤ (exponent + (1023 : Nat) + (52 : Nat)).toNat + 1 := by omega
  have packed : UnpackedFloat.pack .binary64 (.finite sign mantissa exponent positive)
      = if mantissa.log2 + 1 = 53 then
          packComponents .binary64 sign
            (BitVec.ofNat 11 (exponent + (1023 : Nat) + (52 : Nat)).toNat)
            (BitVec.ofNat 52 mantissa)
        else packComponents .binary64 sign 0#11 (BitVec.ofNat 52 mantissa) := if_neg room
  show (UnpackedFloat.unpack .binary64
    (UnpackedFloat.pack .binary64 (.finite sign mantissa exponent positive))).isFinite = true
  rw [packed]
  split
  · refine finite fun full => ?_
    have same := congrArg BitVec.toNat full
    rw [BitVec.toNat_ofNat] at same
    simp only [BitVec.toNat_neg, BitVec.toNat_ofNat] at same
    omega
  · exact finite (by decide)

/-- What is rounded from few bits with a small exponent is finite. -/
theorem isFinite_pack_roundWithAccuracy {sign : Sign} {mantissa bits : Nat} {exponent : Int}
    (short : mantissa < 2 ^ bits) (normal : -1074 ≤ exponent)
    (small : exponent + (2 * bits + 1) < 972) :
    (Float.Model.pack (roundWithAccuracy .binary64 sign mantissa exponent .exact)).isFinite
      = true := by
  -- The mantissa is shifted once, rounded, and shifted again for the bit that rounding may add.
  obtain ⟨held, above, below⟩ := shiftToTargetExponent_le short normal
  generalize first : shiftToTargetExponent .binary64 mantissa exponent .exact = once
    at held above below
  have rounded : once.1.roundedMantissa < 2 ^ (bits + 1) := by
    have := roundedMantissa_le once.1
    omega
  obtain ⟨-, -, last⟩ := shiftToTargetExponent_le rounded (Int.le_trans normal above)
  unfold roundWithAccuracy
  simp only [first]
  split
  · cases sign <;> decide
  · exact isFinite_pack _ (by omega)

/-- What is rounded from 64 bits is finite. -/
theorem isFinite_pack_round {sign : Sign} {number : Nat} (bound : number < 2 ^ 64) :
    (Float.Model.pack (UnpackedFloat.round .binary64 sign number 0)).isFinite = true := by
  -- A short mantissa is filled up with at most 52 bits before it is shifted.
  have fill : (0 - Format.targetExponent .binary64 (Float.Model.totalExponent number 0)).toNat
      ≤ 52 := by
    simp only [Format.targetExponent, Format.minExponent, Format.mantissaBits,
      Float.Model.totalExponent]
    omega
  unfold UnpackedFloat.round
  simp only [decreaseExponent]
  generalize (0 - Format.targetExponent .binary64 (Float.Model.totalExponent number 0)).toNat
    = amount at fill
  have short : number <<< amount < 2 ^ 116 := by
    rw [Nat.shiftLeft_eq]
    calc number * 2 ^ amount
        < 2 ^ 64 * 2 ^ amount := Nat.mul_lt_mul_of_pos_right bound (Nat.two_pow_pos amount)
      _ ≤ 2 ^ 64 * 2 ^ 52 := Nat.mul_le_mul_left _ (Nat.pow_le_pow_right (by decide) fill)
      _ = 2 ^ 116 := by decide
  exact isFinite_pack_roundWithAccuracy short (by omega) (by omega)

/-- Every unsigned word is a finite float. -/
theorem isFinite_toFloat (word : UInt64) : word.toFloat.isFinite = true := by
  -- A word is a mantissa with no exponent; zero is a case of its own, and no word is negative.
  show (Float.Model.pack (UnpackedFloat.normalize .binary64 word.toNat 0 .positive)).isFinite = true
  unfold UnpackedFloat.normalize
  split
  · rename_i below
    rw [Int.compare_eq_lt] at below
    omega
  · decide
  · rw [Int.toNat_natCast]
    exact isFinite_pack_round word.toNat_lt

end Rounding

/-- A whole number beyond the signed words is a finite float. -/
theorem WideInt.isFinite_toFloat {number : WideInt} (wide : number.toInt64? = none) :
    number.toFloat.isFinite = true := by
  -- Such a number does not fit the signed words, and so it is positive and fits the unsigned ones.
  have above : ¬ number.value < 0x8000000000000000 := by
    intro small
    simp [toInt64?, small] at wide
  rw [toFloat, if_pos (by omega)]
  exact Rounding.isFinite_toFloat _

end RowFilter
