import Chip8.Proofs.Fields
import Chip8.Settings.Layers

/-!
# Converted values

The texts that a setting takes for a value of its own kind are numerals and words.  They have no
signs of other kinds in them, so a scalar that converts is neither an expression nor the mark that
leaves a setting as it is (`Field.isPlain_of_convert?`).
-/

namespace Chip8

namespace Text

/-! ## The characters of integers -/

/-- A character that no integer has. -/
structure IsForeign (c : Char) : Prop where
  blank : isBlank c = false
  digit : digitIn? 10 c = none
  underscore : c ≠ '_'
  minus : c ≠ '-'
  plus : c ≠ '+'

theorem mem_trimBlanks {c : Char} {cs : List Char} (hc : c ∈ cs) (hblank : isBlank c = false) :
    c ∈ trimBlanks cs := by
  have hdrop : ∀ {ds : List Char}, c ∈ ds → c ∈ ds.dropWhile isBlank := by
    intro ds hd
    rw [← List.takeWhile_append_dropWhile (p := isBlank) (l := ds), List.mem_append] at hd
    refine hd.resolve_left fun htake => ?_
    have hall := List.all_takeWhile (p := isBlank) (l := ds)
    rw [List.all_eq_true] at hall
    rw [hall c htake] at hblank
    exact Bool.noConfusion hblank
  rw [trimBlanks, List.mem_reverse]
  exact hdrop (List.mem_reverse.2 (hdrop hc))

/-- Reading digits does not pass over a character of another kind. -/
theorem mem_rest_of_readDigits {c : Char} (hforeign : IsForeign c) {value count value' count' : Nat}
    {cs rest : List Char} (h : readDigits 10 value count cs = some (value', count', rest))
    (hc : c ∈ cs) : c ∈ rest := by
  fun_induction readDigits 10 value count cs with
  | case1 => exact absurd hc List.not_mem_nil
  | case2 => nomatch h
  | case3 value count d ds hcount digit hdigit ih =>
    have hrest := (List.mem_cons.1 hc).resolve_left hforeign.underscore
    refine ih h ((List.mem_cons.1 hrest).resolve_left ?_)
    rintro rfl
    rw [hforeign.digit] at hdigit
    nomatch hdigit
  | case4 => nomatch h
  | case5 value count d ds _ digit hdigit ih =>
    refine ih h ((List.mem_cons.1 hc).resolve_left ?_)
    rintro rfl
    rw [hforeign.digit] at hdigit
    nomatch hdigit
  | case6 => nomatch h
  | case7 value count d ds _ _ _ =>
    obtain ⟨-, -, rfl⟩ := h
    exact hc

theorem dropPrefix_ten (cs : List Char) : dropPrefix 10 cs = cs := by
  unfold dropPrefix
  split <;> simp [prefixLetters]

theorem readMagnitude_of_mem {c : Char} (hforeign : IsForeign c) {cs : List Char} (hc : c ∈ cs) :
    ∃ refusal, readMagnitude 10 cs = .error refusal := by
  unfold readMagnitude
  rw [dropPrefix_ten]
  split
  · exact ⟨_, rfl⟩
  · next value count rest hread =>
    have hrest : ¬ rest.isEmpty := fun hempty => by
      rw [List.isEmpty_iff.1 hempty] at hread
      exact List.not_mem_nil (mem_rest_of_readDigits hforeign hread hc)
    rw [if_neg hrest]
    split
    · exact ⟨_, rfl⟩
    · split <;> exact ⟨_, rfl⟩

theorem not_mem_of_readInteger {c : Char} (hforeign : IsForeign c) {s : String} {i : Int}
    (h : readInteger s = .ok i) : c ∉ s.toList := by
  intro hc
  have hmem := mem_trimBlanks hc hforeign.blank
  unfold readInteger readIntegerIn at h
  split at h
  · next cs hcs =>
    rw [hcs] at hmem
    obtain ⟨refusal, hrefusal⟩ := readMagnitude_of_mem hforeign
      ((List.mem_cons.1 hmem).resolve_left hforeign.minus)
    rw [hrefusal] at h
    nomatch h
  · next cs hcs =>
    rw [hcs] at hmem
    obtain ⟨refusal, hrefusal⟩ := readMagnitude_of_mem hforeign
      ((List.mem_cons.1 hmem).resolve_left hforeign.plus)
    rw [hrefusal] at h
    nomatch h
  · obtain ⟨refusal, hrefusal⟩ := readMagnitude_of_mem hforeign hmem
    rw [hrefusal] at h
    nomatch h

end Text

namespace Scalar

/-! ## The texts that convert -/

/-- The words for a flag. -/
def flagWords : List String := ["yes", "y", "on", "true", "no", "n", "off", "false"]

/-- A character that neither an integer nor a word for a flag has. -/
structure IsForeign (c : Char) : Prop extends Text.IsForeign c where
  word : ∀ w ∈ flagWords, c.toLower ∉ w.toList

theorem isForeign_dollar : IsForeign '$' :=
  ⟨⟨by decide, by decide, by decide, by decide, by decide⟩, by decide⟩

theorem isForeign_questionMark : IsForeign '?' :=
  ⟨⟨by decide, by decide, by decide, by decide, by decide⟩, by decide⟩

theorem toLower_mem_flagWords {s : String} {b : Bool} (h : flagOfText? s = some b)
    (hread : ∀ i, Text.readInteger s ≠ .ok i) : s.toLower ∈ flagWords := by
  unfold flagOfText? at h
  split at h
  · next i hi => exact absurd hi (hread i)
  · simp only [flagWords, List.mem_cons, List.contains_eq_mem, decide_eq_true_eq] at h ⊢
    split at h
    · next hyes => grind
    · split at h
      · next hno => grind
      · nomatch h

theorem not_mem_of_converts {c : Char} (hforeign : IsForeign c) {s : String}
    (h : (toInt? (text s)).isSome ∨ (toBool? (text s)).isSome) : c ∉ s.toList := by
  by_cases hread : ∃ i, Text.readInteger s = .ok i
  · obtain ⟨i, hi⟩ := hread
    exact Text.not_mem_of_readInteger hforeign.toIsForeign hi
  · have hnone : ∀ i, Text.readInteger s ≠ .ok i := fun i hi => hread ⟨i, hi⟩
    have hint : (toInt? (text s)) = none := by
      rw [toInt?]
      cases hi : Text.readInteger s with
      | error => rfl
      | ok i => exact absurd hi (hnone i)
    rw [hint] at h
    obtain ⟨b, hb⟩ := Option.isSome_iff_exists.1 (h.resolve_left Bool.noConfusion)
    intro hc
    refine hforeign.word _ (toLower_mem_flagWords hb hnone) ?_
    have hlower : s.toLower.toList = s.toList.map Char.toLower := String.toList_map
    rw [hlower]
    exact List.mem_map_of_mem hc

end Scalar

namespace Expression

theorem dollar_mem_of_occursIn {cs : List Char} (h : occursIn cs = true) : '$' ∈ cs := by
  induction cs with
  | nil => nomatch h
  | cons c cs ih =>
    rw [occursIn, Bool.or_eq_true] at h
    obtain hprefix | hrest := h
    · have hpre := List.isPrefixOf_iff_prefix.1 hprefix
      exact hpre.subset (by decide)
    · exact List.mem_cons_of_mem c (ih hrest)

end Expression

namespace Settings

open Document (Content)

namespace Field

/-! ## Scalars that convert are plain -/

theorem not_mem_of_convert? {c : Char} (hforeign : Scalar.IsForeign c) {f : Field} {s : String}
    {w : Scalar} (h : f.convert? (.text s) = some w) : c ∉ s.toList := by
  refine Scalar.not_mem_of_converts hforeign ?_
  cases f <;> obtain ⟨x, hx, -⟩ := Option.map_eq_some_iff.1 h <;> simp [hx]

end Field

/-- A scalar that stands for itself: it is accepted as a value, is no expression and does not leave
a setting as it is. -/
structure IsPlain (v : Scalar) : Prop where
  closed : v.isOpen = false
  literal : Draft.expression? v = none
  accepted : Content.acceptScalar v = .ok ()

theorem isPlain_text {s : String} (hdollar : '$' ∉ s.toList) (hmark : '?' ∉ s.toList) :
    IsPlain (.text s) := by
  have hoccurs : Expression.occursIn s.toList = false := by
    rw [← Bool.not_eq_true]
    exact fun h => hdollar (Expression.dollar_mem_of_occursIn h)
  refine ⟨?_, ?_, ?_⟩
  · rw [Scalar.isOpen, beq_eq_false_iff_ne]
    rintro ⟨rfl⟩
    exact hmark (by decide)
  · simp [Draft.expression?, hoccurs]
  · simp [Content.acceptScalar, hoccurs]

/-- A scalar that a setting takes is plain. -/
theorem Field.isPlain_of_convert? {f : Field} {v w : Scalar} (h : f.convert? v = some w) :
    IsPlain v := by
  cases v with
  | text s =>
    exact isPlain_text (not_mem_of_convert? Scalar.isForeign_dollar h)
      (not_mem_of_convert? Scalar.isForeign_questionMark h)
  | int i => exact ⟨rfl, rfl, rfl⟩
  | flag b => exact ⟨rfl, rfl, rfl⟩
  | null | real | bytes | time => cases f <;> nomatch h

end Settings

end Chip8
