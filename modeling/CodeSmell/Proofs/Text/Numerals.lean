import CodeSmell.Text.Basic
import Mathlib.Data.List.Basic
import Mathlib.Tactic.Common

/-!
# Numbers written out

* `notMem_ofNat`, `notMem_ofInt` : a written number holds no other characters than digits and a minus sign;
* `ofNat_injective`, `ofInt_injective` : a number can be read off what is written of it.
-/

namespace CodeSmell.Text

theorem isDigit_of_mem_ofNat {n : Nat} {c : Char} (h : c ∈ ofNat n) : c.isDigit = true :=
  Nat.isDigit_of_mem_toDigits (by decide) (by decide) h

theorem notMem_ofNat {c : Char} (hc : c.isDigit = false) (n : Nat) : c ∉ ofNat n := by
  intro h
  rw [isDigit_of_mem_ofNat h] at hc
  cases hc

theorem notMem_ofInt {c : Char} (hc : c.isDigit = false) (hminus : c ≠ '-') (n : Int) :
    c ∉ ofInt n := by
  cases n with
  | ofNat n => exact notMem_ofNat hc n
  | negSucc n =>
    rw [ofInt, List.mem_cons, not_or]
    exact ⟨hminus, notMem_ofNat hc _⟩

theorem ofNat_injective : Function.Injective ofNat := by
  intro m n h
  have hread := congrArg (fun t => Nat.ofDigitChars 10 t 0) h
  simpa only [ofNat, Nat.ofDigitChars_ten_toDigits] using hread

theorem ofInt_injective : Function.Injective ofInt := by
  have hminus : ∀ m n : Nat, ofNat m ≠ '-' :: ofNat n := by
    intro m n h
    refine notMem_ofNat (c := '-') (by decide) m ?_
    rw [h]
    exact List.mem_cons_self
  intro m n h
  cases m with
  | ofNat m =>
    cases n with
    | ofNat n => exact congrArg Int.ofNat (ofNat_injective h)
    | negSucc n => exact absurd h (hminus m (n + 1))
  | negSucc m =>
    cases n with
    | ofNat n => exact absurd h.symm (hminus n (m + 1))
    | negSucc n =>
      have hsucc := ofNat_injective (List.tail_eq_of_cons_eq h)
      rw [Nat.succ.inj hsucc]

end CodeSmell.Text
