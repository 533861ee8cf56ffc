import Chip8.Proofs.Context
import Chip8.Proofs.Dispatch
import Mathlib.Logic.Function.Basic

/-!
# Register arithmetic over the integers

`Arithmetic.table?` gives the value and the flag of each digit of group 8 over the integers.  The
bytes of the machine come to the same (`Arithmetic.table?_eq`), and the value is written before the
flag (`State.written`).  So the table holds whichever registers an operation names, the same one
twice or the flag register itself (`State.arithmetic_exact`).
-/

namespace Chip8

namespace Arithmetic

/-! ## The table -/

/-- The value that a digit of group 8 gives, and the flag if it names one.  `a` and `b` are the
values of the first and the second register, `u` is the value that a shift works on. -/
def table? (a b u : Nat) : Nat → Option (Nat × Option Nat)
  | 0x0 => some (b, none)
  | 0x1 => some (a ||| b, none)
  | 0x2 => some (a &&& b, none)
  | 0x3 => some (a ^^^ b, none)
  | 0x4 => some ((a + b) % 256, some (if 255 < a + b then 1 else 0))
  | 0x5 => some (((a - b : Int) % 256).toNat, some (if b ≤ a then 1 else 0))
  | 0x6 => some (u / 2, some (u % 2))
  | 0x7 => some (((b - a : Int) % 256).toNat, some (if a ≤ b then 1 else 0))
  | 0xE => some (2 * u % 256, some (u / 128))
  | _ => none

theorem toNat_sub_eq_emod (a b : UInt8) :
    (a - b).toNat = ((a.toNat - b.toNat : Int) % 256).toNat := by
  have ha := a.toNat_lt
  have hb := b.toNat_lt
  rw [UInt8.toNat_sub]
  omega

theorem toNat_shiftRight_one (u : UInt8) : (u >>> 1).toNat = u.toNat / 2 := by
  rw [UInt8.toNat_shiftRight]
  rfl

theorem toNat_shiftLeft_one (u : UInt8) : (u <<< 1).toNat = 2 * u.toNat % 256 := by
  rw [UInt8.toNat_shiftLeft, Nat.shiftLeft_eq, Nat.mul_comm]
  rfl

theorem ite_low_bit (u : UInt8) : (if u &&& 1 = 1 then 1 else 0) = u.toNat % 2 := by
  have hone : (1 : UInt8).toNat = 1 := rfl
  have hlow : u &&& 1 = 1 ↔ u.toNat % 2 = 1 := by
    rw [← UInt8.toNat_inj, UInt8.toNat_and, hone, Nat.and_one_is_mod]
  simp only [hlow]
  split
  · omega
  · omega

theorem ite_high_bit (u : UInt8) : (if 128 ≤ u then 1 else 0) = u.toNat / 128 := by
  have hu := u.toNat_lt
  have hhigh : (128 : UInt8).toNat = 128 := rfl
  simp only [UInt8.le_iff_toNat_le, hhigh]
  split
  · omega
  · omega

/-- A value and a flag as numbers. -/
def numbers (result : UInt8 × Option Bool) : Nat × Option Nat :=
  (result.1.toNat, result.2.map fun flag => if flag then 1 else 0)

/-- On the values of bytes, a digit stands in the table with what its operation computes. -/
theorem table?_eq (a b u : UInt8) (d : Nat) :
    table? a.toNat b.toNat u.toNat d =
      (ofDigit? d).map fun operation => numbers (operation.eval a b u) := by
  unfold table?
  split
  case h_1 => rfl
  case h_2 | h_3 | h_4 =>
    simp only [ofDigit?, eval, numbers, Option.map_some, Option.map_none, UInt8.toNat_or,
      UInt8.toNat_and, UInt8.toNat_xor]
  case h_5 =>
    simp only [ofDigit?, eval, numbers, Option.map_some, decide_eq_true_eq, UInt8.toNat_add]
  case h_6 | h_8 =>
    simp only [ofDigit?, eval, numbers, Option.map_some, decide_eq_true_eq, toNat_sub_eq_emod,
      UInt8.le_iff_toNat_le]
  case h_7 =>
    simp only [ofDigit?, eval, numbers, Option.map_some, decide_eq_true_eq, toNat_shiftRight_one,
      ite_low_bit]
  case h_9 =>
    simp only [ofDigit?, eval, numbers, Option.map_some, decide_eq_true_eq, toNat_shiftLeft_one,
      ite_high_bit]
  case h_10 =>
    have hnone : ofDigit? d = none := by
      simp only [ofDigit?]
    rw [hnone]
    rfl

end Arithmetic

namespace State

/-! ## The registers -/

/-- The values of the registers as numbers. -/
def values (s : State) (x : Register) : Nat := (s.register x).toNat

/-- Write a value to a register, and then the flag if there is one. -/
def written (values : Register → Nat) (x : Register) : Nat × Option Nat → Register → Nat
  | (value, none) => Function.update values x value
  | (value, some flag) => Function.update (Function.update values x value) flagRegister flag

theorem values_setRegister (s : State) (x : Register) (b : UInt8) :
    (s.setRegister x b).values = Function.update s.values x b.toNat := by
  funext y
  rw [values, register_setRegister, Function.update_apply, apply_ite UInt8.toNat]
  simp only [eq_comm, values]

theorem values_writeResult (s : State) (x : Register) (result : UInt8 × Option Bool) :
    (s.writeResult x result).values = written s.values x (Arithmetic.numbers result) := by
  obtain ⟨value, flag⟩ := result
  cases flag with
  | none => exact values_setRegister s x value
  | some flag =>
    rw [writeResult, setFlag, values_setRegister, values_setRegister, apply_ite UInt8.toNat]
    rfl

theorem values_execute_of_group_arithmetic (s : State) {w : Word} (hgroup : Word.group w = 0x8) :
    (s.execute w).values =
      (Arithmetic.table? (s.values (Word.x w)) (s.values (Word.y w))
        (if s.dialect.shiftsSecond then s.values (Word.y w) else s.values (Word.x w))
        (Word.n w)).elim s.values (written s.values (Word.x w)) := by
  have hu := apply_ite UInt8.toNat (s.dialect.shiftsSecond = true) (s.register (Word.y w))
    (s.register (Word.x w))
  unfold values at *
  rw [← hu, Arithmetic.table?_eq]
  cases hdigit : Arithmetic.ofDigit? (Word.n w) with
  | none =>
    have hw : Word.IsUndefined w :=
      .inr (.inl ⟨hgroup, (Arithmetic.ofDigit?_eq_none_iff _).1 hdigit⟩)
    rw [execute_of_undefined hw]
    rfl
  | some operation =>
    rw [execute_of_hasForm (i := .arithmetic operation _ _) ⟨hgroup, hdigit, rfl, rfl⟩]
    exact values_writeResult { s with opcode := w } _ _

theorem values_execute_of_group_addByte (s : State) {w : Word} (hgroup : Word.group w = 0x7) :
    (s.execute w).values = Function.update s.values (Word.x w)
      ((s.values (Word.x w) + (Word.nn w).toNat) % 256) := by
  rw [execute_of_hasForm (i := .addByte _ _) ⟨hgroup, rfl, rfl⟩, perform, values_setRegister,
    UInt8.toNat_add]
  rfl

/-- The words of the groups 7 and 8 calculate with numbers.  What they read is read before they
write, and the flag is written last. -/
theorem arithmetic_exact (s : State) (w : Word) :
    (Word.group w = 0x8 → (s.execute w).values =
      (Arithmetic.table? (s.values (Word.x w)) (s.values (Word.y w))
        (if s.dialect.shiftsSecond then s.values (Word.y w) else s.values (Word.x w))
        (Word.n w)).elim s.values (written s.values (Word.x w))) ∧
    (Word.group w = 0x7 → (s.execute w).values = Function.update s.values (Word.x w)
      ((s.values (Word.x w) + (Word.nn w).toNat) % 256)) :=
  ⟨values_execute_of_group_arithmetic s, values_execute_of_group_addByte s⟩

/-- A sum into the flag register leaves the carry there, and adding a byte leaves the sum. -/
theorem arithmetic_exact_flagRegister :
    let s : State := (powerOn ⟨0, 0⟩ {}).setRegister flagRegister 200
    Word.group 0x8FF4 = 0x8 ∧ (s.execute 0x8FF4).values flagRegister = 1 ∧
      Word.group 0x7FC8 = 0x7 ∧ (s.execute 0x7FC8).values flagRegister = 144 := by
  intro s
  have hsum : Word.group 0x8FF4 = 0x8 := by decide
  have hadd : Word.group 0x7FC8 = 0x7 := by decide
  rw [(arithmetic_exact s 0x8FF4).1 hsum, (arithmetic_exact s 0x7FC8).2 hadd]
  exact ⟨hsum, by decide, hadd, by decide⟩

end State

end Chip8
