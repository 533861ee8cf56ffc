import Chip8.Failure

/-!
# Sizes of nested lists

A host may give nested lists where a grid is meant.  All parts of a level must then have the same
number of items; the sizes of the grid are these numbers.
-/

namespace Chip8.Value

/-- The sizes of the grid that a value stands for.  Lists nested too deep are told from lists of
unequal lengths by how far the lengths agree. -/
def sizes (v : Value) : Except Failure (List Nat) :=
  let extent := v.extent maxLevels
  if extent.rectangular then .ok extent.sizes
  else if extent.sizes.length = maxLevels then .error .deepLists
  else .error (.raggedLists extent.sizes)

/-- What is left of a value without the lists of one item around it. -/
def innermost : Value → Value
  | list [v] => innermost v
  | v => v

/-! ## Lists without lists in them -/

/-- Whether a value is a list. -/
def isList : Value → Bool
  | list _ => true
  | _ => false

theorem extent_of_not_list (levels : Nat) {v : Value} (h : v.isList = false) :
    v.extent levels = ⟨[], true⟩ := by
  cases v with
  | list items => cases h
  | _ => simp only [extent]

theorem extents_of_not_list (levels : Nat) {items : List Value}
    (h : ∀ v ∈ items, v.isList = false) :
    extents levels items = List.replicate items.length ⟨[], true⟩ := by
  induction items with
  | nil => simp only [extents, List.length_nil, List.replicate_zero]
  | cons v items ih =>
    obtain ⟨hv, hitems⟩ := List.forall_mem_cons.1 h
    rw [extents, extent_of_not_list levels hv, ih hitems, List.length_cons, List.replicate_succ]

theorem Extent.ofItems_replicate (n : Nat) :
    Extent.ofItems (List.replicate (n + 1) ⟨[], true⟩) = ⟨[n + 1], true⟩ := by
  have hlevel : (List.replicate n (⟨[], true⟩ : Extent)).foldl join ⟨[], true⟩ = ⟨[], true⟩ := by
    induction n with
    | zero => rfl
    | succ n ih => exact ih
  rw [List.replicate_succ, ofItems, hlevel, List.length_replicate]

/-- A list without lists in it has one size, the number of its items. -/
theorem sizes_of_not_list {items : List Value} (hitems : items ≠ [])
    (h : ∀ v ∈ items, v.isList = false) : (list items).sizes = .ok [items.length] := by
  obtain ⟨n, hn⟩ := Nat.exists_eq_succ_of_ne_zero (mt List.eq_nil_of_length_eq_zero hitems)
  have hextent : (list items).extent maxLevels = ⟨[n + 1], true⟩ := by
    rw [maxLevels, extent, extents_of_not_list _ h, hn, Extent.ofItems_replicate]
  simp only [sizes, hextent, if_true, hn]

end Chip8.Value
