import Chip8.Picture
import Chip8.Proofs.Drawing

/-!
# Pictures determine the display

A frame has one grey value for each pixel of the display, row by row, and an enlarged frame has a
square of them.  Both are read back by `Frame.pixel?`: a pixel of an enlarged frame is that of the
frame in the place that its own divides down to (`Frame.pixel?_enlarge`).  So a display is recovered
from a frame whose lit pixels are not black, and from any choice of one pixel in each square of a
picture (`frames_determine_display`).
-/

namespace Chip8

namespace Frame

/-- The grey value in a column of a row. -/
def pixel? (f : Frame) (x y : Nat) : Option UInt8 := f[y]?.bind fun row => row[x]?

/-- A frame is a grid of so many columns and rows. -/
structure HasSize (f : Frame) (columns rows : Nat) : Prop where
  rows : f.length = rows
  columns : ∀ row ∈ f, row.length = columns

/-- The number of pixels along a side of the square that a pixel is made. -/
def side (scale : Int) : Nat := (max 1 scale).toNat

theorem side_pos (scale : Int) : 0 < side scale := by
  unfold side
  omega

theorem side_of_lt {scale : Int} (h : 1 < scale) : side scale = scale.toNat := by
  unfold side
  omega

theorem side_of_le {scale : Int} (h : ¬ 1 < scale) : side scale = 1 := by
  unfold side
  omega

/-! ## Enlarged frames -/

theorem mem_of_mem_stretch {α : Type} {k : Nat} {xs : List α} {x : α} (h : x ∈ stretch k xs) :
    x ∈ xs := by
  obtain ⟨y, hy, hx⟩ := List.mem_flatMap.1 h
  rw [(List.mem_replicate.1 hx).2]
  exact hy

theorem pixel?_enlarge (f : Frame) (scale : Int) (x y : Nat) :
    (f.enlarge scale).pixel? x y = f.pixel? (x / side scale) (y / side scale) := by
  unfold enlarge
  split
  · next hscale =>
    have hpos : 0 < scale.toNat := by omega
    rw [side_of_lt hscale, pixel?, pixel?, getElem?_stretch hpos, List.getElem?_map,
      Option.bind_map]
    refine congrArg _ (funext fun row => ?_)
    exact getElem?_stretch hpos row x
  · next hscale => rw [side_of_le hscale, Nat.div_one, Nat.div_one]

theorem HasSize.enlarge {f : Frame} {columns rows : Nat} (h : f.HasSize columns rows)
    (scale : Int) : (f.enlarge scale).HasSize (columns * side scale) (rows * side scale) := by
  unfold Frame.enlarge
  split
  · next hscale =>
    rw [side_of_lt hscale]
    refine ⟨?_, fun row hrow => ?_⟩
    · rw [length_stretch, List.length_map, h.rows]
    · obtain ⟨small, hsmall, rfl⟩ := List.mem_map.1 (mem_of_mem_stretch hrow)
      rw [length_stretch, h.columns small hsmall]
  · next hscale =>
    rw [side_of_le hscale, Nat.mul_one, Nat.mul_one]
    exact h

end Frame

namespace Display

/-! ## Frames of the display -/

theorem hasSize_frame (d : Display) (on : UInt8) : (d.frame on).HasSize 64 32 := by
  refine ⟨?_, fun row hrow => ?_⟩
  · rw [frame, List.length_map, List.length_finRange]
  · obtain ⟨y, -, rfl⟩ := List.mem_map.1 hrow
    rw [List.length_map, List.length_finRange]

theorem pixel?_frame (d : Display) (on : UInt8) (x : Fin 64) (y : Fin 32) :
    (d.frame on).pixel? x y = some (if d.lit x y then on else 0) := by
  simp [Frame.pixel?, frame]

/-- Frames in which lit pixels are not black show different displays differently. -/
theorem frame_injective {on : UInt8} (hon : on ≠ 0) {d e : Display}
    (h : d.frame on = e.frame on) : d = e := by
  refine ext_lit fun x y => ?_
  have hpixel : (if d.lit x y then on else 0) = if e.lit x y then on else 0 := by
    apply Option.some.inj
    rw [← pixel?_frame, ← pixel?_frame, h]
  cases hd : d.lit x y <;> cases he : e.lit x y
  · rfl
  · rw [hd, he] at hpixel
    exact absurd hpixel.symm hon
  · rw [hd, he] at hpixel
    exact absurd hpixel hon
  · rfl

theorem toNat_lastByte (i : Int) : ((lastByte i).toNat : Int) = i % 256 := by
  have hsize : 2 ^ 8 = 256 := rfl
  rw [lastByte, UInt8.toNat_ofNat', hsize]
  omega

theorem lastByte_ne_zero {i : Int} (h : i % 256 ≠ 0) : lastByte i ≠ 0 := by
  intro hzero
  rw [← toNat_lastByte, hzero] at h
  exact h rfl

theorem greyFrame_int (d : Display) {on : Int} (h : FitsInt64 on) :
    d.greyFrame (.int on) = .ok (d.frame (lastByte on)) := by
  have hgrey : greyOf (.int on) = .ok (lastByte on) := if_pos (.inl h)
  have hsizes : (Value.int on).sizes = .ok [] := rfl
  simp only [greyFrame, hsizes, Value.innermost, hgrey]
  rfl

/-! ## Pictures -/

theorem pixel?_picture (d : Display) (scale : Int) (x : Fin 64) (y : Fin 32) {px py : Nat}
    (hx : px / Frame.side scale = x) (hy : py / Frame.side scale = y) :
    (d.picture scale).pixel? px py = some (if d.lit x y then 255 else 0) := by
  rw [picture, Frame.pixel?_enlarge, hx, hy, pixel?_frame]

theorem checkRoom_of_le {room rows columns : Nat} (hroom : room ≤ maxBlock) (hrows : rows ≤ room)
    (h : rows * columns ≤ room) : checkRoom room rows columns = .ok () := by
  have hmax : maxBlock = 0x7FFFFFFFFFFFFFDE := rfl
  have hmod : rows % 0x10000000000000000 = rows := Nat.mod_eq_of_lt (by omega)
  rw [checkRoom, hmod, if_neg (by omega), if_neg (by omega), if_neg (by omega)]

theorem pictureScale_of_le {room : Nat} (hroom : room ≤ maxBlock) {scale : Int}
    (h : 32 * Frame.side scale * (64 * Frame.side scale) ≤ room) :
    pictureScale room (.int scale) = .ok scale := by
  have hpos := Frame.side_pos scale
  by_cases hscale : 1 < scale
  · rw [Frame.side_of_lt hscale] at h hpos
    have hcolumns : 32 * scale.toNat ≤ 32 * scale.toNat * (64 * scale.toNat) :=
      Nat.le_mul_of_pos_right _ (by omega)
    have hnarrow : 32 * scale.toNat * 64 ≤ 32 * scale.toNat * (64 * scale.toNat) :=
      Nat.mul_le_mul_left _ (by omega)
    have hmax : maxBlock = 0x7FFFFFFFFFFFFFDE := rfl
    have hfits : FitsInt64 scale := ⟨by omega, by omega⟩
    have hfirst : checkRoom room (height * scale.toNat) width = .ok () :=
      checkRoom_of_le hroom (hcolumns.trans h) (hnarrow.trans h)
    have hsecond : checkRoom room (height * scale.toNat) (width * scale.toNat) = .ok () :=
      checkRoom_of_le hroom (hcolumns.trans h) h
    have hscaleOf : scaleOf (.int scale) = .ok scale := if_neg fun hno => hno.2 hfits
    simp only [pictureScale, hscaleOf, bind, Except.bind, if_pos hscale, hfirst, hsecond]
    rfl
  · have hscaleOf : scaleOf (.int scale) = .ok scale := if_neg fun hno => hscale hno.1
    simp only [pictureScale, hscaleOf, bind, Except.bind, if_neg hscale]
    rfl

/-- A scale is refused or taken as it is. -/
theorem eq_of_pictureScale {room : Nat} {scale k : Int}
    (h : pictureScale room (.int scale) = .ok k) : k = scale := by
  have hscaleOf : scaleOf (.int scale) = .error .outOfRange ∨ scaleOf (.int scale) = .ok scale := by
    rw [scaleOf]
    split
    · exact .inl rfl
    · exact .inr rfl
  rcases hscaleOf with hrefused | htaken
  · simp only [pictureScale, hrefused, bind, Except.bind] at h
    cases h
  · simp only [pictureScale, htaken, bind, Except.bind] at h
    split at h
    · cases hfirst : checkRoom room (height * scale.toNat) width with
      | error refusal =>
        rw [hfirst] at h
        cases h
      | ok first =>
        cases hsecond : checkRoom room (height * scale.toNat) (width * scale.toNat) with
        | error refusal =>
          rw [hfirst, hsecond] at h
          cases h
        | ok second =>
          rw [hfirst, hsecond] at h
          cases h
          rfl
    · cases h
      rfl

section

variable (d : Display) (scale : Int) (host : Host) (path : String)

theorem save_of_pictureScale {scale : Int}
    (h : pictureScale host.room (.int scale) = .ok scale) :
    d.save (.int scale) host path =
      (host.writePicture (d.picture scale) host.files path).map (d.picture scale, ·) := by
  simp only [save, h, Except.mapError, bind, Except.bind]
  cases host.writePicture (d.picture scale) host.files path with
  | ok files => rfl
  | error f => rfl

theorem save_of_le (h : 32 * Frame.side scale * (64 * Frame.side scale) ≤ host.room) :
    d.save (.int scale) host path =
      (host.writePicture (d.picture scale) host.files path).map (d.picture scale, ·) :=
  d.save_of_pictureScale host path (pictureScale_of_le host.room_le_maxBlock h)

/-- A picture is given to the writer as it is, or its scale is refused. -/
theorem save_cases :
    d.save (.int scale) host path =
        (host.writePicture (d.picture scale) host.files path).map (d.picture scale, ·) ∨
      ∃ refusal, d.save (.int scale) host path = .error (.scale refusal) := by
  cases hscale : pictureScale host.room (.int scale) with
  | ok k =>
    rw [eq_of_pictureScale hscale] at hscale
    exact .inl (d.save_of_pictureScale host path hscale)
  | error refusal =>
    refine .inr ⟨refusal, ?_⟩
    simp only [save, hscale, Except.mapError, bind, Except.bind]

end

/-- A frame of the display has a pixel for each of its own, and a picture a square of pixels; both
are recovered from what they show, the latter from any one pixel of each square.  Whatever writes
pictures is given the picture as it is if there is room for it, and otherwise that or nothing. -/
theorem frames_determine_display :
    (∀ (d : Display) (on : Int), FitsInt64 on →
      ∃ f, d.greyFrame (.int on) = .ok f ∧ f.HasSize 64 32 ∧
        ∀ (x : Fin 64) (y : Fin 32), ∃ grey, f.pixel? x y = some grey ∧
          (grey.toNat : Int) = if d.lit x y then on % 256 else 0) ∧
    (∀ (d e : Display) (on : Int), FitsInt64 on → on % 256 ≠ 0 →
      d.greyFrame (.int on) = e.greyFrame (.int on) → d = e) ∧
    ∀ (d : Display) (scale : Int),
      let s := Frame.side scale
      (d.picture scale).HasSize (64 * s) (32 * s) ∧
        (∀ px py, px < 64 * s → py < 32 * s →
          ∃ (x : Fin 64) (y : Fin 32), (x : Nat) = px / s ∧ (y : Nat) = py / s ∧
            (d.picture scale).pixel? px py = some (if d.lit x y then 255 else 0)) ∧
        (∀ dx dy : Fin 64 → Fin 32 → Nat, (∀ x y, dx x y < s ∧ dy x y < s) →
          ofLit (fun x y => (d.picture scale).pixel? (s * x + dx x y) (s * y + dy x y) =
            some 255) = d) ∧
        ∀ (host : Host) (path : String),
          let given :=
            (host.writePicture (d.picture scale) host.files path).map (d.picture scale, ·)
          (32 * s * (64 * s) ≤ host.room → d.save (.int scale) host path = given) ∧
            (d.save (.int scale) host path = given ∨
              ∃ refusal, d.save (.int scale) host path = .error (.scale refusal)) := by
  refine ⟨fun d on hon => ?_, fun d e on hon hne h => ?_, fun d scale => ⟨?_, ?_, ?_, ?_⟩⟩
  · refine ⟨_, d.greyFrame_int hon, d.hasSize_frame _, fun x y => ⟨_, d.pixel?_frame _ x y, ?_⟩⟩
    split
    · exact toNat_lastByte on
    · rfl
  · rw [greyFrame_int d hon, greyFrame_int e hon] at h
    exact frame_injective (lastByte_ne_zero hne) (Except.ok.inj h)
  · exact (d.hasSize_frame 255).enlarge scale
  · intro px py hpx hpy
    have hx : px / Frame.side scale < 64 := Nat.div_lt_of_lt_mul (Nat.mul_comm .. ▸ hpx)
    have hy : py / Frame.side scale < 32 := Nat.div_lt_of_lt_mul (Nat.mul_comm .. ▸ hpy)
    exact ⟨⟨_, hx⟩, ⟨_, hy⟩, rfl, rfl, d.pixel?_picture scale ⟨_, hx⟩ ⟨_, hy⟩ rfl rfl⟩
  · intro dx dy hsample
    have hpos := Frame.side_pos scale
    refine ext_lit fun x y => ?_
    obtain ⟨hdx, hdy⟩ := hsample x y
    have hx : (Frame.side scale * x + dx x y) / Frame.side scale = x := by
      rw [Nat.mul_add_div hpos, Nat.div_eq_of_lt hdx, Nat.add_zero]
    have hy : (Frame.side scale * y + dy x y) / Frame.side scale = y := by
      rw [Nat.mul_add_div hpos, Nat.div_eq_of_lt hdy, Nat.add_zero]
    rw [lit_ofLit, d.pixel?_picture scale x y hx hy]
    cases d.lit x y with
    | _ => rfl
  · intro host path
    exact ⟨d.save_of_le scale host path, d.save_cases scale host path⟩

/-- The last pixel is lit, in a grey value of -1 and in a picture of squares of nine pixels, of
which one is looked at here and another there; there is room to save it. -/
theorem frames_determine_display_corner :
    let d := ofLit fun x y => x == 63 && y == 31
    let e := d.xor blank
    let dx : Fin 64 → Fin 32 → Nat := fun x y => (x + y) % 3
    let dy : Fin 64 → Fin 32 → Nat := fun x _ => x % 3
    FitsInt64 (-1) ∧
      (∃ f, d.greyFrame (.int (-1)) = .ok f ∧ f.HasSize 64 32 ∧
        ∃ grey, f.pixel? 63 31 = some grey ∧ (grey.toNat : Int) = 255) ∧
      (-1 : Int) % 256 ≠ 0 ∧ d.greyFrame (.int (-1)) = e.greyFrame (.int (-1)) ∧ d = e ∧
      191 < 64 * Frame.side 3 ∧ 95 < 32 * Frame.side 3 ∧
      (∃ (x : Fin 64) (y : Fin 32), (x : Nat) = 191 / Frame.side 3 ∧
        (y : Nat) = 95 / Frame.side 3 ∧
        (d.picture 3).pixel? 191 95 = some (if d.lit x y then 255 else 0)) ∧
      (∀ x y, dx x y < Frame.side 3 ∧ dy x y < Frame.side 3) ∧
      ofLit (fun x y =>
        (d.picture 3).pixel? (Frame.side 3 * x + dx x y) (Frame.side 3 * y + dy x y) =
          some 255) = d ∧
      32 * Frame.side 3 * (64 * Frame.side 3) ≤ Host.empty.room ∧
      d.save (.int 3) .empty "corner.pgm" =
        (Host.empty.writePicture (d.picture 3) Host.empty.files "corner.pgm").map
          (d.picture 3, ·) := by
  intro d e dx dy
  have hfits : FitsInt64 (-1) := by decide
  have hne : (-1 : Int) % 256 ≠ 0 := by decide
  have hframes : d.greyFrame (.int (-1)) = e.greyFrame (.int (-1)) := by
    rw [show e = d from xor_blank d]
  have hpx : 191 < 64 * Frame.side 3 := by decide
  have hpy : 95 < 32 * Frame.side 3 := by decide
  have hsample : ∀ x y, dx x y < Frame.side 3 ∧ dy x y < Frame.side 3 := fun x y =>
    ⟨Nat.mod_lt _ (by decide), Nat.mod_lt _ (by decide)⟩
  obtain ⟨hgrey, hinjective, hpicture⟩ := frames_determine_display
  obtain ⟨f, hf, hsize, hpixels⟩ := hgrey d (-1) hfits
  obtain ⟨grey, hpixel, hvalue⟩ := hpixels 63 31
  obtain ⟨-, hsquares, hsampled, hsaved⟩ := hpicture d 3
  have hroom : 32 * Frame.side 3 * (64 * Frame.side 3) ≤ Host.empty.room := by decide
  have hlit : d.lit 63 31 = true := lit_ofLit _ _ _
  rw [if_pos hlit] at hvalue
  exact ⟨hfits, ⟨f, hf, hsize, grey, hpixel, hvalue⟩, hne, hframes,
    hinjective d e (-1) hfits hne hframes, hpx, hpy, hsquares 191 95 hpx hpy, hsample,
    hsampled dx dy hsample, hroom, (hsaved .empty "corner.pgm").1 hroom⟩

end Display

end Chip8
