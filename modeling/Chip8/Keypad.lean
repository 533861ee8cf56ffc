/-!
# The keypad

Sixteen keys, each up or down, named by a hexadecimal digit.  An instruction that waits for a key
looks for one that went down between two refreshes; `firstPressed?_eq_some_iff` says which one
it finds.
-/

namespace Chip8

/-- The keys that are down. -/
@[ext]
structure Keypad where
  keys : Vector Bool 16
deriving DecidableEq

namespace Keypad

/-- Whether a key is down. -/
def isDown (p : Keypad) (k : Fin 16) : Bool := p.keys[k]

def released : Keypad := ⟨Vector.replicate 16 false⟩

/-- The keypad on which exactly the keys of a set are down. -/
def ofSet (down : Fin 16 → Bool) : Keypad := ⟨Vector.ofFn down⟩

/-- The lowest key that is down on `now` and was up on `before`. -/
def firstPressed? (now before : Keypad) : Option (Fin 16) :=
  (List.finRange 16).find? fun k => now.isDown k && !before.isDown k

@[simp] theorem isDown_ofSet (down : Fin 16 → Bool) (k : Fin 16) :
    (ofSet down).isDown k = down k := by
  simp [isDown, ofSet]

theorem ext_isDown {p q : Keypad} (h : ∀ k, p.isDown k = q.isDown k) : p = q := by
  ext k hk : 2
  exact h ⟨k, hk⟩

/-- The key reported is down now, was up before, and no lower key is such. -/
theorem firstPressed?_eq_some_iff {now before : Keypad} {k : Fin 16} :
    now.firstPressed? before = some k ↔
      (now.isDown k = true ∧ before.isDown k = false) ∧
        ∀ j < k, ¬ (now.isDown j = true ∧ before.isDown j = false) := by
  have hfresh : ∀ j, (now.isDown j && !before.isDown j) = true ↔
      now.isDown j = true ∧ before.isDown j = false := by
    intro j
    rw [Bool.and_eq_true, Bool.not_eq_true']
  rw [firstPressed?, List.find?_eq_some_iff_getElem]
  constructor
  · rintro ⟨hk, i, hi, hget, hbelow⟩
    rw [List.getElem_finRange] at hget
    subst hget
    refine ⟨(hfresh _).1 hk, fun j hj hdown => ?_⟩
    have hj' : j.val < i := hj
    have hno := hbelow j.val hj'
    rw [List.getElem_finRange, Bool.not_eq_true'] at hno
    exact Bool.false_ne_true (hno.symm.trans ((hfresh j).2 hdown))
  · rintro ⟨hk, hbelow⟩
    refine ⟨(hfresh k).2 hk, k.val, by simp, List.getElem_finRange _ , fun j hj => ?_⟩
    rw [List.getElem_finRange, Bool.not_eq_true', ← Bool.not_eq_true]
    intro hdown
    exact hbelow _ hj ((hfresh _).1 hdown)

/-- A key that stayed down, or is up, is never reported. -/
theorem firstPressed?_self (p : Keypad) : p.firstPressed? p = none := by
  simp [firstPressed?]

end Keypad

end Chip8
