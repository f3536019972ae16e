import Mathlib.Algebra.Order.Ring.Int

/-! # 32-bit signed integers

Machine integers are represented by the integers they denote. Operations that
the code lets wrap are followed by `wrapInt32`. -/

namespace NativeLibs

def int32Max : Int := 2147483647

def int32Min : Int := -2147483648

def FitsInt32 (value : Int) : Prop := int32Min ≤ value ∧ value ≤ int32Max

instance (value : Int) : Decidable (FitsInt32 value) := inferInstanceAs (Decidable (_ ∧ _))

def wrapInt32 (value : Int) : Int := value.bmod 4294967296

lemma wrapInt32_of_fits (fits : FitsInt32 v) : wrapInt32 v = v := by
  simp only [FitsInt32, int32Min, int32Max] at fits
  simp only [wrapInt32, Int.bmod]
  omega

lemma wrapInt32_sub_nonneg_iff (lowFits : FitsInt32 low) (highFits : FitsInt32 high)
    (ord : low ≤ high) : 0 ≤ wrapInt32 (high - low) ↔ high - low ≤ int32Max := by
  simp only [FitsInt32, int32Min, int32Max] at lowFits highFits
  simp only [wrapInt32, Int.bmod, int32Max]
  omega

end NativeLibs
