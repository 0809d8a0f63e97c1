/-! Bounds of the integers that fit in a given number of bits. -/
namespace LiquidEval.Decimal

def leastInt64 : Int := -0x8000000000000000

def greatestInt64 : Int := 0x7fffffffffffffff

def greatestUInt64 : Nat := 0xffffffffffffffff

def leastInt128 : Int := -0x80000000000000000000000000000000

def greatestUInt128 : Nat := 0xffffffffffffffffffffffffffffffff

def fitsInt64 (i : Int) : Bool := leastInt64 ≤ i && i ≤ greatestInt64

def fitsInt32 (i : Int) : Bool := -0x80000000 ≤ i && i ≤ 0x7fffffff

theorem fitsInt64_iff {i : Int} : fitsInt64 i = true ↔ leastInt64 ≤ i ∧ i ≤ greatestInt64 := by
  rw [fitsInt64, Bool.and_eq_true, decide_eq_true_iff, decide_eq_true_iff]

theorem fitsInt32_iff {i : Int} : fitsInt32 i = true ↔ -0x80000000 ≤ i ∧ i ≤ 0x7fffffff := by
  rw [fitsInt32, Bool.and_eq_true, decide_eq_true_iff, decide_eq_true_iff]

theorem bounds_toInt (i : Int64) : leastInt64 ≤ i.toInt ∧ i.toInt ≤ greatestInt64 := by
  have hlow := i.le_toInt
  have hhigh := i.toInt_lt
  unfold leastInt64 greatestInt64
  omega

theorem toInt_ofInt_of_bounds {i : Int} (hlow : leastInt64 ≤ i) (hhigh : i ≤ greatestInt64) :
    (Int64.ofInt i).toInt = i := by
  unfold leastInt64 at hlow
  unfold greatestInt64 at hhigh
  exact Int64.toInt_ofInt_of_le (by omega) (by omega)

end LiquidEval.Decimal
