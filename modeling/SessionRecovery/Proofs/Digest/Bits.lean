import Mathlib.Algebra.Order.Ring.Nat
import SessionRecovery.Bytes

/-!
# Binary digits

Bytes and words as strings of binary digits, the most significant first. Digits that were written one number
after another are cut into pieces of one width, and each piece spells the number that it was written for.
-/

namespace SessionRecovery.Bits

/-- The lowest digits of a number, `width` of them, the most significant first. -/
def digits : Nat → Nat → List Bool
  | 0, _ => []
  | width + 1, n => digits width (n / 2) ++ [decide (n % 2 = 1)]

/-- The number that digits spell. -/
def value (ds : List Bool) : Nat := ds.foldl (fun n d => 2 * n + d.toNat) 0

/-- The number that stands at a place of a digit string. -/
def numberAt (ds : List Bool) (place width : Nat) : Nat := value ((ds.drop place).take width)

/-- The digits of a sequence of bytes. -/
def ofBytes (bs : Bytes) : List Bool := bs.flatMap fun b => digits 8 b.toNat

variable {α : Type}

/-! ## Digits of one number -/

@[simp] theorem length_digits (width n : Nat) : (digits width n).length = width := by
  induction width generalizing n with
  | zero => rfl
  | succ width ih => rw [digits, List.length_append, ih, List.length_singleton]

/-- One more digit doubles what the others spell. -/
theorem value_concat (ds : List Bool) (d : Bool) : value (ds ++ [d]) = 2 * value ds + d.toNat := by
  simp only [value, List.foldl_append, List.foldl_cons, List.foldl_nil]

/-- The lowest digits of a number spell what is left of it below the next power of two. -/
theorem value_digits (width n : Nat) : value (digits width n) = n % 2 ^ width := by
  induction width generalizing n with
  | zero => rw [digits, pow_zero, Nat.mod_one]; rfl
  | succ width ih =>
    have hbit : (decide (n % 2 = 1)).toNat = n % 2 := by
      rcases Nat.mod_two_eq_zero_or_one n with h | h <;> simp [h]
    have hsplit : n % (2 * 2 ^ width) = n % 2 + 2 * (n / 2 % 2 ^ width) := Nat.mod_mul
    rw [digits, value_concat, ih, hbit, pow_succ, Nat.mul_comm (2 ^ width) 2, hsplit]
    omega

/-- Digits are those of the higher part, then those of the lower part. -/
theorem digits_add (high low n : Nat) :
    digits (high + low) n = digits high (n / 2 ^ low) ++ digits low n := by
  induction low generalizing n with
  | zero => rw [pow_zero, Nat.div_one, digits, List.append_nil, Nat.add_zero]
  | succ low ih =>
    have hdiv : n / 2 / 2 ^ low = n / 2 ^ (low + 1) := by
      rw [Nat.div_div_eq_div_mul, pow_succ, Nat.mul_comm]
    rw [← Nat.add_assoc, digits, ih, hdiv, digits, List.append_assoc]

/-- The lowest digits of a number do not depend on what stands above them. -/
theorem digits_mod (width n : Nat) : digits width (n % 2 ^ width) = digits width n := by
  induction width generalizing n with
  | zero => rfl
  | succ width ih =>
    have hdiv : n % 2 ^ (width + 1) / 2 = n / 2 % 2 ^ width := by
      rw [pow_succ, Nat.mul_comm (2 ^ width) 2, Nat.mod_mul_right_div_self]
    have hmod : n % 2 ^ (width + 1) % 2 = n % 2 := by
      rw [pow_succ, Nat.mod_mul_left_mod]
    rw [digits, hdiv, ih, hmod, digits]

/-- A number put behind another one keeps its digits, and so does the other. -/
theorem digits_mul_add (high m : Nat) {low n : Nat} (h : n < 2 ^ low) :
    digits (high + low) (m * 2 ^ low + n) = digits high m ++ digits low n := by
  have hdiv : (m * 2 ^ low + n) / 2 ^ low = m := by
    rw [Nat.mul_comm, Nat.mul_add_div (Nat.two_pow_pos low), Nat.div_eq_of_lt h, Nat.add_zero]
  have hmod : (m * 2 ^ low + n) % 2 ^ low = n := by
    rw [Nat.mul_comm, Nat.mul_add_mod, Nat.mod_eq_of_lt h]
  rw [digits_add, hdiv, ← digits_mod low, hmod]

/-- The digits of zero are zeros. -/
theorem digits_zero (width : Nat) : digits width 0 = List.replicate width false := by
  induction width with
  | zero => rfl
  | succ width ih => rw [digits, Nat.zero_div, ih, List.replicate_succ']; rfl

/-- Numbers are combined digit by digit. -/
theorem digits_xor (width m n : Nat) :
    digits width (m ^^^ n) = List.zipWith xor (digits width m) (digits width n) := by
  induction width generalizing m n with
  | zero => rfl
  | succ width ih =>
    have hbit : decide ((m ^^^ n) % 2 = 1) = xor (decide (m % 2 = 1)) (decide (n % 2 = 1)) := by
      rcases Nat.mod_two_eq_zero_or_one m with hm | hm <;>
        rcases Nat.mod_two_eq_zero_or_one n with hn | hn <;>
          simp only [Nat.xor_mod_two_eq_one, hm, hn] <;> rfl
    rw [digits, Nat.xor_div_two, ih, hbit, digits, digits, List.zipWith_append
      ((length_digits width _).trans (length_digits width _).symm)]
    rfl

/-! ## Pieces of one width -/

/-- A string of pieces of one width is as long as all of them. -/
theorem length_flatMap_of_width {f : α → List Bool} {width : Nat} (hf : ∀ x, (f x).length = width)
    (xs : List α) : (xs.flatMap f).length = width * xs.length := by
  induction xs with
  | nil => rfl
  | cons x xs ih => rw [List.flatMap_cons, List.length_append, hf, ih, List.length_cons, Nat.mul_succ,
      Nat.add_comm]

/-- The pieces of a string are what was written into it, each at its own place. -/
theorem take_drop_flatMap {f : α → List Bool} {width : Nat} (hf : ∀ x, (f x).length = width)
    (xs : List α) {i : Nat} (hi : i < xs.length) :
    ((xs.flatMap f).drop (width * i)).take width = f xs[i] := by
  induction xs generalizing i with
  | nil => exact absurd hi (Nat.not_lt_zero i)
  | cons x xs ih =>
    rw [List.flatMap_cons]
    cases i with
    | zero => rw [Nat.mul_zero, List.drop_zero, List.take_left' (hf x), List.getElem_cons_zero]
    | succ i =>
      have hdrop : (f x ++ xs.flatMap f).drop (width * (i + 1)) = (xs.flatMap f).drop (width * i) := by
        rw [Nat.mul_succ, Nat.add_comm, ← hf x, List.drop_length_add_append]
      rw [hdrop, ih (Nat.lt_of_succ_lt_succ hi), List.getElem_cons_succ]

/-! ## Digits of bytes -/

@[simp] theorem ofBytes_nil : ofBytes [] = [] := rfl

theorem ofBytes_cons (b : UInt8) (bs : Bytes) :
    ofBytes (b :: bs) = digits 8 b.toNat ++ ofBytes bs := List.flatMap_cons

theorem ofBytes_append (bs cs : Bytes) : ofBytes (bs ++ cs) = ofBytes bs ++ ofBytes cs :=
  List.flatMap_append

/-- A byte has eight digits. -/
@[simp] theorem length_ofBytes (bs : Bytes) : (ofBytes bs).length = 8 * bs.length := by
  rw [ofBytes, length_flatMap_of_width fun b : UInt8 => length_digits 8 b.toNat]

/-- The digits of zero bytes are zeros. -/
theorem ofBytes_zeros (count : Nat) :
    ofBytes (List.replicate count 0) = List.replicate (8 * count) false := by
  induction count with
  | zero => rfl
  | succ count ih =>
    have hzero : digits 8 (0 : UInt8).toNat = List.replicate 8 false := digits_zero 8
    rw [List.replicate_succ, ofBytes_cons, ih, hzero, List.replicate_append_replicate,
      Nat.mul_succ, Nat.add_comm]

end SessionRecovery.Bits
