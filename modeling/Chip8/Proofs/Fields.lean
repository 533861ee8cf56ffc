import Chip8.Settings.Field

/-!
# Values of settings

A setting has values of its own kind.  One that it is given is read back (`get_put_self`), the other
settings keep theirs (`get_put_of_ne`), and settings that agree in every value are the same
(`ext_get`).  A scalar of another kind is converted first (`Field.convert?`).
-/

namespace Chip8.Settings.Field

/-- Settings with a new value of one of them; a scalar of another kind changes nothing. -/
def put : Field → Scalar → Settings → Settings
  | seed, .int i, s => { s with seed := i }
  | shiftsSecond, .flag b, s => { s with dialect := { s.dialect with shiftsSecond := b } }
  | jumpsByDigit, .flag b, s => { s with dialect := { s.dialect with jumpsByDigit := b } }
  | instructionFrequency, .int i, s => { s with instructionFrequency := i }
  | timerFrequency, .int i, s => { s with timerFrequency := i }
  | _, _, s => s

theorem get_put_self {f : Field} {v : Scalar} (h : ∃ s, f.get s = v) (s : Settings) :
    f.get (f.put v s) = v := by
  obtain ⟨_, rfl⟩ := h
  cases f <;> rfl

theorem get_put_of_ne {f g : Field} (hne : g ≠ f) (v : Scalar) (s : Settings) :
    g.get (f.put v s) = g.get s := by
  cases f <;> cases v <;> cases g <;>
    first
    | exact absurd rfl hne
    | rfl

theorem ext_get {s s' : Settings} (h : ∀ f : Field, f.get s = f.get s') : s = s' := by
  obtain ⟨seed, ⟨shifts, jumps⟩, instructions, ticks⟩ := s
  obtain ⟨seed', ⟨shifts', jumps'⟩, instructions', ticks'⟩ := s'
  have h1 := h Field.seed
  have h2 := h shiftsSecond
  have h3 := h jumpsByDigit
  have h4 := h instructionFrequency
  have h5 := h timerFrequency
  simp only [get, Scalar.int.injEq, Scalar.flag.injEq] at h1 h2 h3 h4 h5
  subst h1 h2 h3 h4 h5
  rfl

theorem name_injective {f g : Field} (h : f.name = g.name) : f = g := by
  have hof := ofName?_name f
  rw [h, ofName?_name] at hof
  exact (Option.some.inj hof).symm

/-! ## Conversion -/

/-- The value that a setting takes a scalar for. -/
def convert? : Field → Scalar → Option Scalar
  | seed, v | instructionFrequency, v | timerFrequency, v => v.toInt?.map .int
  | shiftsSecond, v | jumpsByDigit, v => v.toBool?.map .flag

theorem set?_eq (f : Field) (v : Scalar) (s : Settings) :
    f.set? v s = (f.convert? v).map fun w => f.put w s := by
  cases f <;> simp only [set?, convert?, Option.map_map] <;> rfl

theorem exists_get_of_convert? {f : Field} {v w : Scalar} (h : f.convert? v = some w) :
    ∃ s, f.get s = w := by
  refine ⟨f.put w {}, ?_⟩
  cases f <;> obtain ⟨_, -, rfl⟩ := Option.map_eq_some_iff.1 h <;> rfl

/-- A setting takes its own value, which changes nothing. -/
theorem set?_get (f : Field) (s : Settings) : f.set? (f.get s) s = some s := by
  cases f <;> rfl

end Chip8.Settings.Field
