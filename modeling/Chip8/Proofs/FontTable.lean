import Chip8.Proofs.Dispatch
import Chip8.Proofs.Reachable

/-!
# The font table is never written

Programs are loaded above the table and the two stores spare it, so it is the same in all
reachable states (`holdsFont_of_reachable`).  What the stores write around it they write in full
(`read_cycle_of_stores`): sparing the table costs no byte outside it.
-/

namespace Chip8

namespace Memory

theorem read_storeOutsideFont (m : Memory) (a k : Nat) (bs : List UInt8) (hk : k < size) :
    (m.storeOutsideFont a bs).read k =
      if (a ≤ k ∧ k < a + bs.length) ∧ Font.covers k = false then bs.getD (k - a) 0
      else m.read k := by
  simp only [storeOutsideFont, read_storeWhere _ m a k bs hk, Bool.not_eq_true', and_assoc]

theorem slice_congr {m m' : Memory} {a count : Nat}
    (h : ∀ k, a ≤ k → k < a + count → m'.read k = m.read k) :
    m'.slice a count = m.slice a count := by
  refine List.map_congr_left fun i hi => h _ (Nat.le_add_right a i) ?_
  exact Nat.add_lt_add_left (List.mem_range.1 hi) a

theorem slice_store (m : Memory) (a : Nat) (bs : List UInt8) (h : a + bs.length ≤ size) :
    (m.store a bs).slice a bs.length = bs := by
  refine List.ext_getElem (length_slice _ _ _) fun i hi hi' => ?_
  have hread : (m.store a bs).read (a + i) = bs.getD (a + i - a) 0 := by
    rw [read_store m a (a + i) bs (Nat.lt_of_lt_of_le (Nat.add_lt_add_left hi' a) h),
      if_pos ⟨Nat.le_add_right a i, Nat.add_lt_add_left hi' a⟩]
  rw [Nat.add_sub_cancel_left, List.getD_eq_getElem?_getD, List.getElem?_eq_getElem hi',
    Option.getD_some] at hread
  simpa only [slice, List.getElem_map, List.getElem_range] using hread

/-- The font stands in its place. -/
def HoldsFont (m : Memory) : Prop := m.slice Font.start Font.bytes.length = Font.bytes

theorem covers_eq_true_iff (k : Nat) : Font.covers k = true ↔ 0x050 ≤ k ∧ k < 0x0A0 :=
  decide_eq_true_iff

theorem covers_eq_false_iff (k : Nat) : Font.covers k = false ↔ ¬ (0x050 ≤ k ∧ k < 0x0A0) := by
  rw [← covers_eq_true_iff, Bool.not_eq_true]

theorem HoldsFont.congr {m m' : Memory} (h : m.HoldsFont)
    (hread : ∀ k, Font.covers k = true → m'.read k = m.read k) : m'.HoldsFont := by
  refine (slice_congr fun k hk hk' => hread k ?_).trans h
  exact (covers_eq_true_iff k).2 ⟨hk, hk'⟩

theorem holdsFont_powerOn : powerOn.HoldsFont :=
  slice_store blank Font.start Font.bytes (by decide)

theorem HoldsFont.storeOutsideFont {m : Memory} (h : m.HoldsFont) (a : Nat) (bs : List UInt8) :
    (m.storeOutsideFont a bs).HoldsFont := by
  refine h.congr fun k hk => ?_
  have hlt : k < size := Nat.lt_trans ((covers_eq_true_iff k).1 hk).2 (by decide)
  rw [read_storeOutsideFont m a k bs hlt, hk, if_neg fun hc => Bool.false_ne_true hc.2.symm]

theorem HoldsFont.store {m : Memory} (h : m.HoldsFont) {a : Nat} (ha : 0x0A0 ≤ a)
    (bs : List UInt8) : (m.store a bs).HoldsFont := by
  refine h.congr fun k hk => ?_
  have hlt := ((covers_eq_true_iff k).1 hk).2
  rw [read_store m a k bs (Nat.lt_trans hlt (by decide)), if_neg (by omega)]

end Memory

namespace State

/-! ## The table -/

theorem holdsFont_cycle {s : State} (h : s.memory.HoldsFont) : s.cycle.memory.HoldsFont := by
  cases s.effect_cycle with
  | none hsame => rwa [hsame.memory]
  | call _ _ _ ht | ret _ _ _ ht => rwa [ht]
  | store bytes ht =>
    rw [ht]
    exact h.storeOutsideFont _ bytes

theorem Move.holdsFont {s t : State} (hmove : s.Move t) (h : s.memory.HoldsFont) :
    t.memory.HoldsFont := by
  cases hmove with
  | cycle => exact holdsFont_cycle h
  | load p hp => exact h.store (by decide) _
  | refreshKeys | tick | resume => exact h

theorem holdsFont_of_reachable {key : Random.Key} {dialect : Dialect} {s : State}
    (h : Reachable key dialect s) : s.memory.HoldsFont :=
  h.induct Memory.holdsFont_powerOn fun _ _ hmove => hmove.holdsFont

/-! ## Writes around the table -/

/-- A word stores so many bytes from the index on, with these values: the decimal digits of a
register, or the registers up to one. -/
inductive Stores (s : State) (w : Word) : Nat → (Nat → Nat) → Prop
  | decimal (hw : Word.group w = 0xF) (hnn : Word.nn w = 0x33) :
      Stores s w 3 fun j => (s.register (Word.x w)).toNat / 10 ^ (2 - j) % 10
  | registers (hw : Word.group w = 0xF) (hnn : Word.nn w = 0x55) :
      Stores s w (Word.x w + 1) fun j => (s.register (Fin.ofNat 16 j)).toNat

theorem toNat_getD_decimalDigits (b : UInt8) {j : Nat} (hj : j < 3) :
    ((decimalDigits b).getD j 0).toNat = b.toNat / 10 ^ (2 - j) % 10 := by
  have hb := b.toNat_lt
  rcases (by omega : j = 0 ∨ j = 1 ∨ j = 2) with rfl | rfl | rfl
  · change (b / 100).toNat = b.toNat / 100 % 10
    rw [UInt8.toNat_div, Nat.mod_eq_of_lt]
    · rfl
    · omega
  · change (b / 10 % 10).toNat = b.toNat / 10 % 10
    rw [UInt8.toNat_mod, UInt8.toNat_div]
    rfl
  · change (b % 10).toNat = b.toNat / 1 % 10
    rw [UInt8.toNat_mod, Nat.div_one]
    rfl

theorem length_take_registers (s : State) {count : Nat} (hcount : count ≤ 16) :
    (s.registers.toList.take count).length = count := by
  rw [List.length_take, Vector.length_toList, Nat.min_eq_left hcount]

theorem getD_take_registers (s : State) {count j : Nat} (hj : j < count) (hcount : count ≤ 16) :
    (s.registers.toList.take count).getD j 0 = s.register (Fin.ofNat 16 j) := by
  have hlt : j < 16 := Nat.lt_of_lt_of_le hj hcount
  have hmod : j % 16 = j := Nat.mod_eq_of_lt hlt
  simp [register, List.getD_eq_getElem?_getD, hj, hlt, hmod]

/-- A cycle that performs a store writes its bytes, sparing the table. -/
theorem cycle_of_stores {s : State} {count : Nat} {byte : Nat → Nat} (hs : s.fault = none)
    (hstores : s.Stores s.nextWord count byte) (hfits : s.index.toNat + count ≤ Memory.size) :
    ∃ bytes : List UInt8, bytes.length = count ∧ (∀ j < count, (bytes.getD j 0).toNat = byte j) ∧
      s.cycle.memory = s.memory.storeOutsideFont s.index.toNat bytes := by
  cases hstores with
  | decimal hw hnn =>
    have hpc : s.pc.toNat < 4095 := pc_lt_of_group_ne_zero (by rw [hw]; decide)
    have hdecode : Instruction.decode s.nextWord = .storeDecimal (Word.x s.nextWord) :=
      Instruction.decode_of_hasForm ⟨hw, hnn, rfl⟩
    refine ⟨decimalDigits (s.register (Word.x s.nextWord)), rfl,
      fun j hj => toNat_getD_decimalDigits _ hj, ?_⟩
    have hinside : ¬ Memory.size ≤ s.index.toNat + 2 := by omega
    rw [cycle_store hs hpc fun t => by rw [hdecode, perform], if_neg hinside]
    rfl
  | registers hw hnn =>
    have hpc : s.pc.toNat < 4095 := pc_lt_of_group_ne_zero (by rw [hw]; decide)
    have hdecode : Instruction.decode s.nextWord = .storeRegisters (Word.x s.nextWord) :=
      Instruction.decode_of_hasForm ⟨hw, hnn, rfl⟩
    have hx := (Word.x s.nextWord).isLt
    refine ⟨s.registers.toList.take (Word.x s.nextWord + 1), s.length_take_registers hx,
      fun j hj => congrArg UInt8.toNat (s.getD_take_registers hj hx), ?_⟩
    have hinside : ¬ Memory.size ≤ s.index.toNat + Word.x s.nextWord := by omega
    rw [cycle_store hs hpc fun t => by rw [hdecode, perform], if_neg hinside]

theorem read_cycle_of_stores {s : State} {count : Nat} {byte : Nat → Nat} (hs : s.fault = none)
    (hstores : s.Stores s.nextWord count byte) (hfits : s.index.toNat + count ≤ Memory.size)
    {k : Nat} (hk : k < Memory.size) :
    (s.cycle.memory.read k).toNat =
      if (s.index.toNat ≤ k ∧ k < s.index.toNat + count) ∧ ¬ (0x050 ≤ k ∧ k < 0x0A0) then
        byte (k - s.index.toNat)
      else (s.memory.read k).toNat := by
  obtain ⟨bytes, hlength, hbytes, hmemory⟩ := cycle_of_stores hs hstores hfits
  rw [hmemory, Memory.read_storeOutsideFont _ _ _ _ hk, hlength]
  simp only [Memory.covers_eq_false_iff]
  split
  · next hin => exact hbytes _ (by omega)
  · rfl

/-- The font is the same in all reachable states, and a store whose bytes would fall on both sides
of an edge of the table writes those outside it: the digits of a number, or registers. -/
theorem font_immutable :
    (∀ (key : Random.Key) (dialect : Dialect) (s : State), Reachable key dialect s →
      s.memory.slice 0x050 (0x0A0 - 0x050) = Font.bytes) ∧
    ∀ (s : State) (count : Nat) (byte : Nat → Nat), s.fault = none →
      s.Stores s.nextWord count byte → s.index.toNat + count ≤ Memory.size →
        ∀ k < Memory.size, (s.cycle.memory.read k).toNat =
          if (s.index.toNat ≤ k ∧ k < s.index.toNat + count) ∧ ¬ (0x050 ≤ k ∧ k < 0x0A0) then
            byte (k - s.index.toNat)
          else (s.memory.read k).toNat :=
  ⟨fun _ _ _ hreach => holdsFont_of_reachable hreach,
    fun _ _ _ hs hstores hfits _ hk => read_cycle_of_stores hs hstores hfits hk⟩

/-- The digits of 254, stored from the last byte below the table on. -/
theorem font_immutable_straddled :
    let s := (powerOn ⟨0, 0⟩ {}).afterCalls
      [.loadProgram [0x60, 0xFE, 0xA0, 0x4F, 0xF0, 0x33], .run 2 false]
    s.index = 0x04F ∧ (s.cycle.memory.read 0x04F).toNat = 2 ∧
      s.cycle.memory.slice 0x050 (0x0A0 - 0x050) = Font.bytes := by
  intro s
  have hreach : Reachable ⟨0, 0⟩ {} s := Reachable.powerOn.afterCalls rfl
  have hrun : s.fault = none ∧ s.nextWord = 0xF033 ∧ s.index = 0x04F ∧ s.register 0 = 254 := by
    decide +kernel
  obtain ⟨hs, hw, hindex, hregister⟩ := hrun
  have hstores := Stores.decimal (s := s) (w := s.nextWord) (by rw [hw]; decide)
    (by rw [hw]; decide)
  have hread := font_immutable.2 s 3 _ hs hstores (by rw [hindex]; decide) 0x04F (by decide)
  have hx : Word.x s.nextWord = 0 := by
    rw [hw]
    decide
  rw [hx, hregister, hindex] at hread
  exact ⟨hindex, hread, font_immutable.1 _ _ _ hreach.cycle⟩

end State

end Chip8
