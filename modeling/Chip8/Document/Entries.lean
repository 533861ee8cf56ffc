import Chip8.Document.Scalar

/-!
# Entries of mappings

A mapping is a list of keys with values, each key once, in the order in which the keys came first.
A key that is given another value keeps its place.
-/

namespace Chip8

/-- Whether two keys are the same: a flag is the same key as the number one or zero. -/
def Scalar.isSameKey (a b : Scalar) : Bool :=
  let number : Scalar → Scalar
    | .flag b => .int (if b then 1 else 0)
    | s => s
  number a == number b

theorem Scalar.isSameKey_right {a b c : Scalar} (h : a.isSameKey b = true) :
    c.isSameKey a = c.isSameKey b := by
  simp only [isSameKey, beq_iff_eq] at h ⊢
  rw [h]

theorem Scalar.isSameKey_comm (a b : Scalar) : a.isSameKey b = b.isSameKey a := by
  simp only [isSameKey]
  exact Bool.beq_comm ..

/-- Keys with values. -/
abbrev Entries (α : Type) := List (Scalar × α)

namespace Entries

variable {α : Type}

/-- Give a key a value. -/
def put (key : Scalar) (value : α) : Entries α → Entries α
  | [] => [(key, value)]
  | e :: es => if e.1.isSameKey key then (e.1, value) :: es else e :: put key value es

/-- Entries with each key once. -/
def distinct (entries : Entries α) : Entries α := entries.foldl (fun es e => put e.1 e.2 es) []

/-- The value of a key. -/
def lookup (key : Scalar) (entries : Entries α) : Option α :=
  (entries.find? fun e => e.1.isSameKey key).map Prod.snd

theorem lookup_cons (key : Scalar) (e : Scalar × α) (entries : Entries α) :
    lookup key (e :: entries) = if e.1.isSameKey key then some e.2 else lookup key entries := by
  simp only [lookup, List.find?_cons]
  split <;> simp_all

/-- A key that is given a value has it, and the other keys keep theirs. -/
theorem lookup_put (key other : Scalar) (value : α) (entries : Entries α) :
    lookup other (put key value entries) =
      if key.isSameKey other then some value else lookup other entries := by
  induction entries with
  | nil => simp [put, lookup]
  | cons e es ih =>
    by_cases h : e.1.isSameKey key = true
    · have hother : e.1.isSameKey other = key.isSameKey other := by
        rw [e.1.isSameKey_comm, key.isSameKey_comm]
        exact Scalar.isSameKey_right h
      simp only [put, h, if_true, lookup_cons, hother]
      split <;> simp_all
    · simp only [put, h, lookup_cons, ih, Bool.false_eq_true, if_false]
      by_cases ho : e.1.isSameKey other = true
      · have hk : key.isSameKey other = false := by
          rw [← Scalar.isSameKey_right ho, Scalar.isSameKey_comm]
          simpa using h
        simp [ho, hk]
      · simp [ho]

end Entries

end Chip8
