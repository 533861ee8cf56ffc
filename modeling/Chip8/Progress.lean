import Chip8.Decimal.Fixed
import Chip8.Value

/-!
# Progress bars

A scan over `0 .. n - 1` reports its progress by events: the bar is opened with its settings before
the first iteration, advanced at the pace of the scan and closed after the last.  `scan` runs a body
with these events; the body's result does not depend on them (`fst_scan`).
-/

namespace Chip8.Progress

/-- What happens to a progress bar. -/
inductive Event where
  /-- The bar is opened with settings. -/
  | opened (settings : List (String × Value))
  | advanced (amount : Nat)
  | closed

/-- How often a bar is advanced. -/
inductive Pace where
  /-- After every so many iterations. -/
  | whole (rate : Nat)
  /-- After every `rate / parts` iterations. -/
  | parted (rate parts : Nat)
deriving DecidableEq, Repr

/-- Why no bar is made. -/
inductive Refusal where
  /-- The rate that is asked for is no number. -/
  | rateNotNumber (kind : String)
  /-- The number of iterations is among the settings. -/
  | countGivenTwice
  | settingGivenTwice (name : String)
deriving DecidableEq, Repr

/-- The message of a refused bar. -/
def Refusal.message : Refusal → String
  | rateNotNumber kind => "'<' not supported between instances of 'int' and '" ++ kind ++ "'"
  | countGivenTwice => "scan_with_progress() got multiple values for argument 'n'"
  | settingGivenTwice name =>
    "vipax.logging.scan_with_progress() got multiple values for keyword argument '" ++ name ++ "'"

/-! ## The pace of a scan -/

/-- How often a bar is advanced: a rate that is asked for is brought between 1 and the number of
iterations, and without one it is a twentieth of it, at most 50. -/
def rate (n : Nat) (asked : Option Int) : Nat :=
  match asked with
  | none => max 1 (min (n / 20) 50)
  | some r => (max 1 (min r n)).toNat

/-- The pace of a scan of `n` iterations for a rate that is a whole number, or none. -/
def Pace.ofInt (n : Nat) (asked : Option Int) : Pace := whole (rate n asked)

/-- The pace for a rate with a fraction, brought between 1 and the number of iterations. -/
def Pace.ofReal (n : Nat) : Decimal.Binary64 → Pace
  | .finite negative m q =>
    let size := Decimal.Binary64.numerator m q
    let parts := Decimal.Binary64.denominator q
    if negative ∨ size ≤ parts then whole 1
    else if n * parts < size then .ofInt n (some n)
    else parted size parts
  | .infinite negative => .ofInt n (some (if negative then 1 else n))
  | .nan => whole 1

/-- The pace for a rate given as loose data. -/
def Pace.ofValue (n : Nat) : Value → Except Refusal Pace
  | .null => .ok (.ofInt n none)
  | .int r => .ok (.ofInt n (some r))
  | .bool b => .ok (.ofInt n (some (if b then 1 else 0)))
  | .float x => .ok (.ofReal n x)
  | v => .error (.rateNotNumber v.kind)

/-! ## The settings of a bar -/

/-- What is asked of a bar: its rate, its title, and settings that only the drawing needs. -/
structure Request where
  rate : Value := .null
  title : Value := .null
  further : List (String × Value) := []

/-- The name of the setting for the rate. -/
def rateName : String := "print_rate"

/-- The name of the setting for the title. -/
def titleName : String := "desc"

/-- The names of settings of a bar that a scan decides itself. -/
def reserved : List String := ["total", "mininterval", "maxinterval", "miniters"]

/-- The request of settings by name, given in two parts that must not share a name.  The number
of iterations is no setting. -/
def Request.ofSettings (own further : List (String × Value)) : Except Refusal Request :=
  match further.find? fun setting => own.any (·.1 == setting.1) with
  | some setting => .error (.settingGivenTwice setting.1)
  | none =>
    if further.any (·.1 == "n") then .error .countGivenTwice
    else
      let all := own ++ further
      .ok
        { rate := (all.lookup rateName).getD .null
          title := (all.lookup titleName).getD .null
          further := all.filter fun setting =>
            !(rateName :: titleName :: reserved).contains setting.1 }

/-- The title of a bar that was given none. -/
def defaultTitle (n : Nat) : String := "Running (" ++ Decimal.grouped n ++ " instructions)"

/-- The title of a bar: the one it was given, unless that is null. -/
def titleOf (n : Nat) : Value → Value
  | .null => .text (defaultTitle n)
  | v => v

/-- The settings that a bar of `n` iterations is opened with: its total, its title, its unit and
further ones. -/
def settings (n : Nat) (request : Request) : List (String × Value) :=
  [("total", .int n), ("desc", titleOf n request.title), ("unit", .text "instr")] ++
    request.further

/-! ## The events of a scan -/

/-- A number with no more than so many binary digits before its zeros, the nearest to a given
one. -/
def roundTo (digits m : Nat) : Nat :=
  let step := Nat.pow 2 (m.log2 + 1 - digits)
  Decimal.roundDiv m step * step

/-- How a bar is advanced before iteration `i` of `n`.  At `n` less the remainder of the rate it
is advanced by that remainder, at other multiples of the rate by the rate.  A rate with a fraction
is compared with 24 digits, and only whole steps are shown. -/
def Pace.advances (n : Nat) : Pace → Nat → List Event
  | whole rate, i =>
    let remainder := n % rate
    (if i % rate = 0 ∧ i ≠ n - remainder ∧ 0 < i then [.advanced rate] else []) ++
      (if i = n - remainder then [.advanced remainder] else [])
  | parted rate parts, i =>
    let remainder := n * parts % rate
    let last := roundTo 24 (roundTo 53 (n * parts - remainder))
    let place := roundTo 24 (i * parts)
    let shown := roundTo 24 rate
    (if place % shown = 0 ∧ place ≠ last ∧ 0 < i then [.advanced (shown / parts)] else []) ++
      (if place = last then [.advanced (roundTo 24 remainder / parts)] else [])

/-- The events before iteration `i` of `n`. -/
def before (n : Nat) (pace : Pace) (request : Request) (i : Nat) : List Event :=
  (if i = 0 then [.opened (settings n request)] else []) ++ pace.advances n i

/-- The events after iteration `i` of `n`. -/
def after (n i : Nat) : List Event := if i + 1 = n then [.closed] else []

/-- One iteration of a scan, with its events. -/
def iterate {σ : Type} (n : Nat) (pace : Pace) (request : Request) (body : σ → Nat → σ)
    (acc : σ × Array Event) (i : Nat) : σ × Array Event :=
  (body acc.1 i, acc.2 ++ before n pace request i ++ after n i)

/-- Run a body over `0 .. n - 1`, with the events of a progress bar. -/
def scan {σ : Type} (n : Nat) (pace : Pace) (request : Request) (body : σ → Nat → σ) (s : σ) :
    σ × List Event :=
  let result := (List.range n).foldl (iterate n pace request body) (s, #[])
  (result.1, result.2.toList)

theorem fst_scan {σ : Type} (n : Nat) (pace : Pace) (request : Request) (body : σ → Nat → σ)
    (s : σ) : (scan n pace request body s).1 = (List.range n).foldl body s := by
  have h : ∀ (is : List Nat) (acc : σ × Array Event),
      (is.foldl (iterate n pace request body) acc).1 = is.foldl body acc.1 := by
    intro is
    induction is with
    | nil => intro acc; rfl
    | cons i is ih => intro acc; exact ih _
  exact h _ _

/-- Run a body with the bar of a request, if the rate of the request is a number. -/
def Request.scan {σ : Type} (request : Request) (n : Nat) (body : σ → Nat → σ) (s : σ) :
    Except Refusal (σ × List Event) := do
  let pace ← Pace.ofValue n request.rate
  pure (Progress.scan n pace request body s)

end Chip8.Progress
