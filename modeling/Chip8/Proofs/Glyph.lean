import Chip8.Proofs.FontTable
import Chip8.Proofs.Pixels

/-!
# Drawing the digits of the font

An index that an instruction has pointed at a glyph is far from the end of memory, and no program
has changed the rows that stand there (`Memory.HoldsFont.slice_glyph`).  So a program can draw any
digit at any place, whatever it did before (`State.glyph_drawn`).
-/

namespace Chip8

open scoped symmDiff

namespace Font

/-- The rows of the glyph of a digit. -/
def glyph (digit : Fin 16) : List UInt8 := (bytes.drop (glyphHeight * digit)).take glyphHeight

theorem toNat_address (digit : Fin 16) : (address digit).toNat = 0x050 + 5 * digit.val := by
  have hdigit := digit.isLt
  rw [address, start, glyphHeight, UInt16.toNat_ofNat_of_lt']
  simp only [UInt16.size]
  omega

end Font

namespace Memory

theorem take_drop_slice (m : Memory) {a n i count : Nat} (h : i + count ≤ n) :
    ((m.slice a n).drop i).take count = m.slice (a + i) count := by
  refine List.ext_getElem ?_ fun j hj hj' => ?_
  · rw [List.length_take, List.length_drop, length_slice, length_slice]
    omega
  · simp only [slice, List.getElem_take, List.getElem_drop, List.getElem_map, List.getElem_range,
      Nat.add_assoc]

/-- The glyph of a digit stands at its address. -/
theorem HoldsFont.slice_glyph {m : Memory} (h : m.HoldsFont) (digit : Fin 16) :
    m.slice (Font.address digit).toNat 5 = Font.glyph digit := by
  have hfits : 5 * digit.val + 5 ≤ Font.bytes.length := by
    rw [Font.length_bytes, Font.glyphHeight]
    omega
  rw [Font.glyph, ← h, Font.toNat_address]
  exact (m.take_drop_slice hfits).symm

end Memory

namespace State

theorem execute_of_glyph {s : State} {r : Register} {w : Word}
    (hw : (Instruction.glyph r).HasForm w) :
    s.execute w = { s with opcode := w, index := Font.address (lowDigit (s.register r)) } :=
  execute_of_hasForm hw

/-- No sprite of five rows at the address of a glyph leaves memory. -/
theorem obstacle_draw_of_glyph {s : State} {digit : Fin 16} (hindex : s.index = Font.address digit)
    (x y : Register) : s.obstacle (.draw x y 5) = none := by
  have hdigit := digit.isLt
  have hrows : Sprite.visibleRows (s.spriteTop y) (5 : Fin 16).val ≤ 5 := Nat.min_le_left _ _
  rw [obstacle, Fault.when_eq_none, hindex, Font.toNat_address, Memory.size]
  omega

/-- Pointing the index at the digit of a register and drawing five rows raises no fault in a machine
in use, and turns over the pixels of the glyph of that digit at the place that two registers name. -/
theorem glyph_drawn {key : Random.Key} {dialect : Dialect} {s : State}
    (hreach : Reachable key dialect s) (hs : s.fault = none) {d x y : Register}
    {point draw : Word} (hpoint : (Instruction.glyph d).HasForm point)
    (hdraw : (Instruction.draw x y 5).HasForm draw) :
    let t := s.execute point
    let u := t.execute draw
    t.fault = none ∧ u.fault = none ∧
      t.index.toNat = 0x050 + 5 * ((s.register d).toNat % 16) ∧ u.index = t.index ∧
      u.display.pixels = s.display.pixels ∆
        Sprite.covered ((s.register x).toNat % 64) ((s.register y).toNat % 32)
          (Font.glyph (lowDigit (s.register d))) := by
  intro t u
  have ht : t = { s with opcode := point, index := Font.address (lowDigit (s.register d)) } :=
    execute_of_glyph hpoint
  have htfault : t.fault = none := by rwa [ht]
  obtain ⟨hgroup, rfl, rfl, hheight⟩ := hdraw
  have hnone : t.obstacle (.decode draw) = none := by
    rw [decode_of_group_draw hgroup, ← hheight]
    exact obstacle_draw_of_glyph (by rw [ht]) _ _
  have hu : u = { t with opcode := draw }.draw _ := execute_of_draw hgroup hnone
  have hcovered : t.covered draw =
      Sprite.covered ((s.register (Word.x draw)).toNat % 64)
        ((s.register (Word.y draw)).toNat % 32) (Font.glyph (lowDigit (s.register d))) := by
    rw [covered, ← hheight, ht]
    exact congrArg _ ((holdsFont_of_reachable hreach).slice_glyph _)
  refine ⟨htfault, ?_, ?_, ?_, ?_⟩
  · rw [hu]
    exact htfault
  · rw [ht]
    exact Font.toNat_address _
  · rw [hu]
    rfl
  · rw [pixels_execute_of_draw hgroup hnone, hcovered, ht]

/-- A program that has tried to overwrite the font draws the digit 14 in the lower right corner. -/
theorem glyph_drawn_corner :
    let s := (powerOn ⟨0, 0⟩ {}).afterCalls
      [.loadProgram [0x60, 0xFE, 0xA0, 0x4F, 0xF0, 0x33, 0xFF, 0x55], .run 4 false]
    let u := (s.execute 0xF029).execute 0xD005
    s.index = 0x04F ∧ u.fault = none ∧ u.index = 0x096 ∧
      u.display.pixels =
        s.display.pixels ∆ Sprite.covered 62 30 [0xF0, 0x80, 0xF0, 0x80, 0xF0] := by
  intro s u
  have hreach : Reachable ⟨0, 0⟩ {} s := Reachable.powerOn.afterCalls rfl
  have hrun : s.fault = none ∧ s.index = 0x04F ∧ s.register 0 = 0xFE := by decide +kernel
  clear_value s
  obtain ⟨hs, hindex, hregister⟩ := hrun
  have hpoint : (Instruction.glyph 0).HasForm 0xF029 := ⟨by decide, by decide, by decide⟩
  have hdraw : (Instruction.draw 0 0 5).HasForm 0xD005 :=
    ⟨by decide, by decide, by decide, by decide⟩
  obtain ⟨-, hfault, haddress, hkept, hpixels⟩ := glyph_drawn hreach hs hpoint hdraw
  rw [hregister] at haddress hpixels
  exact ⟨hindex, hfault, hkept.trans (UInt16.toNat_inj.1 haddress), hpixels⟩

end State

end Chip8
