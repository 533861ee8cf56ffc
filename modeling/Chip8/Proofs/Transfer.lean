import Chip8.Proofs.Dispatch
import Chip8.Proofs.FontTable
import Mathlib.Data.Fin.VecNotation

/-!
# Transfers between registers and memory

The dump of registers, their load and the dump of decimal digits work on a window of memory from
the index on.  A dump leaves out what the font covers (`Memory.Took`), so a load behind a dump gives
back the registers that were not left out, and a dump behind a load finds every byte in place
already (`State.transfers_exact`).
-/

namespace Chip8

namespace Memory

/-! ## Windows -/

/-- Bytes went to a window of memory, less those that would fall into the font, and the rest of the
memory was kept. -/
structure Took {count : Nat} (m m' : Memory) (a : Nat) (byte : Fin count → UInt8) : Prop where
  inside : ∀ i : Fin count, ¬ (0x050 ≤ a + i.val ∧ a + i.val < 0x0A0) → m'.read (a + i) = byte i
  outside : ∀ k < size, k < a ∨ a + count ≤ k ∨ 0x050 ≤ k ∧ k < 0x0A0 → m'.read k = m.read k

section

variable {m m' : Memory} {a count : Nat} {byte : Fin count → UInt8}

theorem took_storeOutsideFont {bytes : List UInt8} (hlength : bytes.length = count)
    (hbyte : ∀ i : Fin count, bytes.getD i 0 = byte i) (hfits : a + count ≤ size) :
    m.Took (m.storeOutsideFont a bytes) a byte where
  inside i hi := by
    have hlt := i.isLt
    have hin : (a ≤ a + i.val ∧ a + i.val < a + bytes.length) ∧ Font.covers (a + i) = false :=
      ⟨by omega, (covers_eq_false_iff _).2 hi⟩
    rw [read_storeOutsideFont _ _ _ _ (by omega), if_pos hin, Nat.add_sub_cancel_left, hbyte]
  outside k hk hout := by
    rw [read_storeOutsideFont _ _ _ _ hk, if_neg]
    rintro ⟨hwindow, hcovers⟩
    have hfont := (covers_eq_false_iff k).1 hcovers
    omega

theorem Took.read_eq (h : m.Took m' a byte) (hfits : a + count ≤ size) (i : Fin count) :
    m'.read (a + i) =
      if 0x050 ≤ a + i.val ∧ a + i.val < 0x0A0 then m.read (a + i) else byte i := by
  have hlt := i.isLt
  split
  · next hfont => exact h.outside _ (by omega) (.inr (.inr hfont))
  · next hfont => exact h.inside i hfont

/-- Bytes that are in place already change nothing. -/
theorem Took.eq_self (h : m.Took m' a byte) (hfits : a + count ≤ size)
    (hbyte : ∀ i, byte i = m.read (a + i)) : m' = m := by
  refine ext_read fun k hk => ?_
  by_cases hwindow : a ≤ k ∧ k < a + count
  · obtain ⟨j, rfl⟩ := Nat.exists_eq_add_of_le hwindow.1
    have hread := h.read_eq hfits ⟨j, by omega⟩
    rwa [hbyte, ite_self] at hread
  · exact h.outside k hk (by omega)

end

end Memory

namespace State

/-! ## The three words -/

theorem decimalDigits_exact (b : UInt8) :
    ∃ h t o : UInt8, decimalDigits b = [h, t, o] ∧ h.toNat ≤ 9 ∧ t.toNat ≤ 9 ∧ o.toNat ≤ 9 ∧
      100 * h.toNat + 10 * t.toNat + o.toNat = b.toNat := by
  have hb := b.toNat_lt
  have hhundreds : (b / 100).toNat = b.toNat / 100 % 10 :=
    toNat_getD_decimalDigits b (j := 0) (by decide)
  have htens : (b / 10 % 10).toNat = b.toNat / 10 % 10 :=
    toNat_getD_decimalDigits b (j := 1) (by decide)
  have hones : (b % 10).toNat = b.toNat / 1 % 10 :=
    toNat_getD_decimalDigits b (j := 2) (by decide)
  exact ⟨b / 100, b / 10 % 10, b % 10, rfl, by omega, by omega, by omega, by omega⟩

theorem register_loadRegisters (s : State) (last i : Register) :
    (s.loadRegisters last).register i =
      if i ≤ last then s.memory.read (s.index.toNat + i) else s.register i := by
  simp only [loadRegisters, register, Fin.getElem_fin, Vector.getElem_ofFn]

section

variable {s : State} {x : Register} {w dump load : Word}

theorem execute_of_storeDecimal (hw : (Instruction.storeDecimal x).HasForm w)
    (hfits : s.index.toNat + 2 < Memory.size) :
    s.execute w = { s with opcode := w }.storeAtIndex (decimalDigits (s.register x)) := by
  rw [execute_of_hasForm hw, perform, guarded, if_neg (Nat.not_le_of_lt hfits)]
  rfl

theorem execute_of_storeRegisters (hw : (Instruction.storeRegisters x).HasForm w)
    (hfits : s.index.toNat + x < Memory.size) :
    s.execute w = { s with opcode := w }.storeAtIndex (s.registers.toList.take (x + 1)) := by
  rw [execute_of_hasForm hw, perform, guarded, if_neg (Nat.not_le_of_lt hfits)]

theorem execute_of_loadRegisters (hw : (Instruction.loadRegisters x).HasForm w)
    (hfits : s.index.toNat + x < Memory.size) :
    s.execute w = { s with opcode := w }.loadRegisters x := by
  rw [execute_of_hasForm hw, perform, guarded, if_neg (Nat.not_le_of_lt hfits)]

theorem register_execute_of_loadRegisters (hw : (Instruction.loadRegisters x).HasForm w)
    (hfits : s.index.toNat + x < Memory.size) (i : Register) :
    (s.execute w).register i =
      if i ≤ x then s.memory.read (s.index.toNat + i) else s.register i := by
  rw [execute_of_loadRegisters hw hfits]
  exact register_loadRegisters _ x i

/-! ## Dumps -/

theorem took_execute_of_storeDecimal (hw : (Instruction.storeDecimal x).HasForm w)
    (hfits : s.index.toNat + 2 < Memory.size) :
    ∃ h t o : UInt8, h.toNat ≤ 9 ∧ t.toNat ≤ 9 ∧ o.toNat ≤ 9 ∧
      100 * h.toNat + 10 * t.toNat + o.toNat = (s.register x).toNat ∧
      s.memory.Took (s.execute w).memory s.index.toNat ![h, t, o] := by
  obtain ⟨h, t, o, hdigits, hh, ht, ho, hsum⟩ := decimalDigits_exact (s.register x)
  refine ⟨h, t, o, hh, ht, ho, hsum, ?_⟩
  rw [execute_of_storeDecimal hw hfits, hdigits]
  refine Memory.took_storeOutsideFont rfl (fun i => ?_) hfits
  match i with
  | 0 | 1 | 2 => rfl

theorem took_execute_of_storeRegisters (hw : (Instruction.storeRegisters x).HasForm w)
    (hfits : s.index.toNat + x < Memory.size) :
    s.memory.Took (s.execute w).memory s.index.toNat
      fun i : Fin (x + 1) => s.register (i.castLE x.isLt) := by
  have hx := x.isLt
  rw [execute_of_storeRegisters hw hfits]
  refine Memory.took_storeOutsideFont (s.length_take_registers hx) (fun i => ?_) hfits
  have hi : Fin.ofNat 16 i = i.castLE hx := Fin.ext (Nat.mod_eq_of_lt (by omega))
  rw [s.getD_take_registers i.isLt hx, hi]

/-! ## A dump and a load -/

/-- Registers that were dumped come back, whatever became of them since; those whose bytes the font
keeps out come back as the font. -/
theorem register_load_of_dump (hdump : (Instruction.storeRegisters x).HasForm dump)
    (hload : (Instruction.loadRegisters x).HasForm load)
    (hfits : s.index.toNat + x < Memory.size) {registers : Vector UInt8 16}
    (hregisters : ∀ i : Register, x < i →
      { s with registers := registers }.register i = s.register i) (i : Register) :
    ({ s.execute dump with registers := registers }.execute load).register i =
      if i ≤ x ∧ 0x050 ≤ s.index.toNat + i.val ∧ s.index.toNat + i.val < 0x0A0 then
        s.memory.read (s.index.toNat + i)
      else s.register i := by
  have hindex : (s.execute dump).index = s.index := by
    rw [execute_of_storeRegisters hdump hfits]
    rfl
  have hfits' : (s.execute dump).index.toNat + x < Memory.size := by rwa [hindex]
  have hloaded := register_execute_of_loadRegisters
    (s := { s.execute dump with registers := registers }) hload hfits' i
  rw [hloaded]
  by_cases hi : i ≤ x
  · have htook := took_execute_of_storeRegisters hdump hfits
    have hread := htook.read_eq hfits ⟨i, Nat.lt_succ_of_le hi⟩
    simp only [hi, if_true, true_and, hindex]
    exact hread
  · simp only [hi, if_false, false_and]
    exact hregisters i (Fin.not_le.1 hi)

theorem memory_dump_of_load (hdump : (Instruction.storeRegisters x).HasForm dump)
    (hload : (Instruction.loadRegisters x).HasForm load)
    (hfits : s.index.toNat + x < Memory.size) :
    ((s.execute load).execute dump).memory = s.memory := by
  have hloaded : (s.execute load).index = s.index ∧ (s.execute load).memory = s.memory := by
    rw [execute_of_loadRegisters hload hfits]
    simp only [loadRegisters, and_self]
  obtain ⟨hindex, hmemory⟩ := hloaded
  have hfits' : (s.execute load).index.toNat + x < Memory.size := by rwa [hindex]
  have htook := took_execute_of_storeRegisters hdump hfits'
  rw [hindex, hmemory] at htook
  refine htook.eq_self hfits fun i => ?_
  have hle : i.castLE x.isLt ≤ x := Nat.le_of_lt_succ i.isLt
  rw [register_execute_of_loadRegisters hload hfits, if_pos hle]
  rfl

end

/-- A dump of registers and a load are inverse to each other, except for bytes that the font keeps
out, and the digits of a register make up its value.  No dump changes a byte outside its window, the
index or a register. -/
theorem transfers_exact (s : State) {x : Register} {dump load decimal : Word}
    (hdump : (Instruction.storeRegisters x).HasForm dump)
    (hload : (Instruction.loadRegisters x).HasForm load)
    (hdecimal : (Instruction.storeDecimal x).HasForm decimal) :
    (s.index.toNat + x < Memory.size →
      (s.memory.Took (s.execute dump).memory s.index.toNat
          (fun i : Fin (x + 1) => s.register (i.castLE x.isLt)) ∧
        (s.execute dump).index = s.index ∧ (s.execute dump).registers = s.registers) ∧
      (∀ registers : Vector UInt8 16,
        (∀ i : Register, x < i → { s with registers := registers }.register i = s.register i) →
        ∀ i : Register,
          ({ s.execute dump with registers := registers }.execute load).register i =
            if i ≤ x ∧ 0x050 ≤ s.index.toNat + i.val ∧ s.index.toNat + i.val < 0x0A0 then
              s.memory.read (s.index.toNat + i)
            else s.register i) ∧
      ((s.execute load).execute dump).memory = s.memory) ∧
    (s.index.toNat + 2 < Memory.size →
      ∃ h t o : UInt8, h.toNat ≤ 9 ∧ t.toNat ≤ 9 ∧ o.toNat ≤ 9 ∧
        100 * h.toNat + 10 * t.toNat + o.toNat = (s.register x).toNat ∧
        s.memory.Took (s.execute decimal).memory s.index.toNat ![h, t, o] ∧
        (s.execute decimal).index = s.index ∧ (s.execute decimal).registers = s.registers) := by
  constructor
  · intro hfits
    refine ⟨⟨took_execute_of_storeRegisters hdump hfits, ?_⟩, ?_, ?_⟩
    · rw [execute_of_storeRegisters hdump hfits]
      exact ⟨rfl, rfl⟩
    · intro registers hregisters
      exact register_load_of_dump hdump hload hfits hregisters
    · exact memory_dump_of_load hdump hload hfits
  · intro hfits
    obtain ⟨h, t, o, hh, ht, ho, hsum, htook⟩ := took_execute_of_storeDecimal hdecimal hfits
    refine ⟨h, t, o, hh, ht, ho, hsum, htook, ?_⟩
    rw [execute_of_storeDecimal hdecimal hfits]
    exact ⟨rfl, rfl⟩

/-- Four registers across the upper edge of the font: the first comes back as a byte of the font,
the last as it was. -/
theorem transfers_exact_straddled :
    let s : State := { (powerOn ⟨0, 0⟩ {}).setRegister 3 254 with index := 0x09E }
    let cleared : State := { s.execute 0xF355 with registers := Vector.replicate 16 0 }
    (s.execute 0xF355).memory.read 0x0A1 = 254 ∧
      (cleared.execute 0xF365).register 0 = 0x80 ∧ (cleared.execute 0xF365).register 3 = 254 ∧
      ((s.execute 0xF365).execute 0xF355).memory = s.memory ∧ (s.execute 0xF333).index = 0x09E := by
  intro s cleared
  have hdump : (Instruction.storeRegisters 3).HasForm 0xF355 :=
    ⟨by decide, by decide, by decide⟩
  have hload : (Instruction.loadRegisters 3).HasForm 0xF365 :=
    ⟨by decide, by decide, by decide⟩
  have hdecimal : (Instruction.storeDecimal 3).HasForm 0xF333 :=
    ⟨by decide, by decide, by decide⟩
  obtain ⟨hregisters, hdigits⟩ := transfers_exact s hdump hload hdecimal
  obtain ⟨⟨htook, -, -⟩, hrestored, hmemory⟩ := hregisters (by decide)
  obtain ⟨-, -, -, -, -, -, -, -, hindex, -⟩ := hdigits (by decide)
  have hinside := htook.inside 3 (by decide)
  have haddress : s.index.toNat + (3 : Fin (3 + 1)).val = 0x0A1 := by decide
  have hregister : s.register 3 = 254 := by decide
  rw [haddress] at hinside
  have hfirst := hrestored (Vector.replicate 16 0) (by decide) 0
  have hlast := hrestored (Vector.replicate 16 0) (by decide) 3
  have hfont : s.memory.read (s.index.toNat + (0 : Register)) = 0x80 := by decide +kernel
  rw [if_pos (by decide), hfont] at hfirst
  rw [if_neg (by decide)] at hlast
  exact ⟨hinside.trans hregister, hfirst, hlast.trans hregister, hmemory, hindex⟩

end State

end Chip8
