import Chip8.Session
import Mathlib.Logic.Relation

/-!
# Reachable states

What hosts do to a state, whatever calls they make and whether these fail, comes down to five
elementary changes (`moves_onState`).  An invariant of a machine in use is therefore one that
power-on has and the five changes keep (`Reachable.induct`).  Four of the changes are
interventions of the host between two cycles, and a call that does not cycle makes at most one of
these (`hostMove_after`).
-/

namespace Chip8

open Relation (ReflGen ReflTransGen)

namespace State

/-! ## Elementary changes -/

/-- One elementary change. -/
inductive Move : State → State → Prop
  | cycle (s : State) : Move s s.cycle
  | load (s : State) (p : Program) (h : p.size ≤ programCapacity) :
      Move s { s with memory := s.memory.store programStart p.toList }
  | refreshKeys (s : State) (keys : Keypad) : Move s (s.refreshKeys keys)
  | tick (s : State) : Move s s.tick
  | resume (s : State) (skip : Bool) : Move s (s.resume skip)

/-- One intervention of a host between two cycles. -/
inductive HostMove : State → State → Prop
  | load (s : State) (p : Program) (h : p.size ≤ programCapacity) :
      HostMove s { s with memory := s.memory.store programStart p.toList }
  | refreshKeys (s : State) (keys : Keypad) : HostMove s (s.refreshKeys keys)
  | tick (s : State) : HostMove s s.tick
  | resume (s : State) (skip : Bool) : HostMove s (s.resume skip)

theorem HostMove.move {s t : State} (h : s.HostMove t) : s.Move t := by
  cases h with
  | load p h => exact .load s p h
  | refreshKeys keys => exact .refreshKeys s keys
  | tick => exact .tick s
  | resume skip => exact .resume s skip

theorem moves_of_hostMove {s t : State} (h : ReflGen HostMove s t) : ReflTransGen Move s t := by
  rcases (Relation.reflGen_iff _ _ _).1 h with rfl | hmove
  · exact .refl
  · exact .single hmove.move

theorem moves_cycles (n : Nat) (s : State) : ReflTransGen Move s (s.cycles n) := by
  induction n generalizing s with
  | zero => exact .refl
  | succ n ih => exact .head (.cycle s) (ih s.cycle)

end State

/-! ## Failures that carry no state -/

section Unhalted

variable {α β : Type}

/-- A result that is not the failure of a halted machine. -/
def Unhalted (r : Except Failure α) : Prop := ∀ fault s, r ≠ .error (.halted fault s)

theorem unhalted_ok (a : α) : Unhalted (.ok a) := fun _ _ h => nomatch h

theorem Unhalted.bind {r : Except Failure α} {f : α → Except Failure β} (hr : Unhalted r)
    (hf : ∀ a, Unhalted (f a)) : Unhalted (r >>= f) := by
  cases r with
  | ok a => exact hf a
  | error e =>
    intro fault s h
    cases h
    exact hr fault s rfl

theorem Unhalted.map {r : Except Failure α} (f : α → β) (hr : Unhalted r) :
    Unhalted (r.map f) := by
  cases r with
  | ok a => exact unhalted_ok (f a)
  | error e =>
    intro fault s h
    cases h
    exact hr fault s rfl

theorem unhalted_mapM {f : α → Except Failure β} (hf : ∀ a, Unhalted (f a)) (as : List α) :
    Unhalted (as.mapM f) := by
  induction as with
  | nil => exact unhalted_ok []
  | cons a as ih =>
    rw [List.mapM_cons]
    exact (hf a).bind fun b => ih.bind fun bs => unhalted_ok (b :: bs)

theorem unhalted_ofItems (items : List Value) : Unhalted (Program.ofItems items) := by
  refine (unhalted_mapM (fun v => ?_) items).map _
  unfold Program.byteOfItem Program.byteOfInt
  split
  · split
    · exact unhalted_ok _
    · exact fun _ _ h => nomatch h
  · exact unhalted_ok _
  · exact fun _ _ h => nomatch h

theorem unhalted_ofCount (room : Nat) (count : Int) : Unhalted (Program.ofCount room count) := by
  unfold Program.ofCount
  repeat' split
  all_goals exact fun _ _ h => nomatch h

theorem unhalted_ofValue (room : Nat) (v : Value) : Unhalted (Program.ofValue room v) := by
  cases v with
  | int i => exact unhalted_ofCount room i
  | bool b => exact unhalted_ofCount room _
  | list items => exact unhalted_ofItems items
  | object fields => exact unhalted_ofItems _
  | text | null | float => exact fun _ _ h => nomatch h

theorem unhalted_readProgram (host : Host) (path : String) :
    Unhalted (State.readProgram host path) := by
  unfold State.readProgram
  repeat' split
  all_goals exact fun _ _ h => nomatch h

theorem unhalted_sizes (v : Value) : Unhalted v.sizes := by
  simp only [Value.sizes]
  repeat' split
  all_goals
    intro fault s h
    cases h

theorem unhalted_ofFlags (v : Value) : Unhalted (Keypad.ofFlags v) := by
  unfold Keypad.ofFlags
  split
  · exact fun _ _ h => nomatch h
  · refine (unhalted_sizes _).bind fun sizes => ?_
    split
    · exact unhalted_ok _
    · exact fun _ _ h => nomatch h

theorem unhalted_ofCodes (v : Value) : Unhalted (Keypad.ofCodes v) := by
  unfold Keypad.ofCodes
  repeat' split
  all_goals exact fun _ _ h => nomatch h

end Unhalted

/-! ## The state after a call -/

namespace Outcome

variable {α : Type} {P : State → Prop} {before : State}

theorem settle_lift {r : Except Failure State} (hbefore : P before) (hr : Unhalted r)
    (hok : ∀ s, r = .ok s → P s) : P ((lift r).settle before) := by
  rcases r with e | s
  · cases e with
    | halted fault s => exact absurd rfl (hr fault s)
    | _ => exact hbefore
  · exact hok s rfl

theorem settle_bind {o : Outcome α} {f : α → Outcome State} (hbefore : P before)
    (ho : Unhalted o.result) (hf : ∀ a, P ((f a).settle before)) :
    P ((o >>= f).settle before) := by
  have hresult := result_bind o f
  unfold settle
  rw [hresult]
  rcases ho' : o.result with e | a
  · cases e with
    | halted fault s => exact absurd ho' (ho fault s)
    | _ => exact hbefore
  · exact hf a

end Outcome

namespace State

theorem unhalted_reportUndefined (before : UInt32) (s : State) (strict : Bool) :
    Unhalted (reportUndefined before s strict).result := by
  simp only [reportUndefined]
  repeat' split
  all_goals exact fun _ _ h => nomatch h

theorem settle_raiseFault {P : State → Prop} {before s : State} (hbefore : P before)
    (hs : P s) : P (s.raiseFault.settle before) := by
  unfold raiseFault
  split
  · exact hs
  · exact hbefore
  · exact hs

/-- A report leaves the state after the piece of execution, or the state before it. -/
theorem settle_report {P : State → Prop} {before after : State} (hbefore : P before)
    (hafter : P after) (strict : Bool) : P ((report before after strict).settle before) :=
  Outcome.settle_bind hbefore (unhalted_reportUndefined _ _ _) fun _ =>
    settle_raiseFault hbefore hafter

theorem hostMove_loadProgram (s : State) (p : Program) :
    ReflGen HostMove s ((s.loadProgram p).settle s) := by
  unfold loadProgram
  split
  · exact .refl
  · next h => exact .single (.load s p (Nat.le_of_not_lt h))

theorem hostMove_refresh (s : State) {r : Except Failure Keypad} (hr : Unhalted r) :
    ReflGen HostMove s ((Outcome.lift (r.map s.refreshKeys)).settle s) := by
  refine Outcome.settle_lift .refl (hr.map _) fun t ht => ?_
  cases r with
  | error e => cases ht
  | ok keys =>
    cases ht
    exact .single (.refreshKeys s keys)

theorem moves_step (s : State) (strict : Bool) :
    ReflTransGen Move s ((s.step strict).settle s) :=
  settle_report .refl (.single (.cycle s)) strict

theorem moves_run (s : State) (n : Nat) : ReflTransGen Move s ((s.run n).settle s) :=
  settle_report .refl (moves_cycles n s) false

end State

/-! ## Sequences of calls -/

/-- Whether a request is a call of a host that uses the machine as it is meant: all are but those
that edit a state by hand, or execute or fetch on their own. -/
def StateRequest.isHostCall : StateRequest → Bool
  | .edit _ | .execute _ | .fetch => false
  | _ => true

/-- Whether a request is a single cycle, or an intervention between two cycles. -/
def StateRequest.isElementary : StateRequest → Bool
  | .cycle | .loadProgram _ | .loadValue _ | .loadFile _ | .setKeys _ | .setPressed _ | .tick
  | .resume _ => true
  | _ => false

theorem StateRequest.isHostCall_of_isElementary {r : StateRequest} (h : r.isElementary = true) :
    r.isHostCall = true := by
  cases r with
  | edit | execute | fetch => cases h
  | _ => rfl

/-- The state after a call of this host with this console. -/
def State.after (s : State) (host : Host) (console : Console) (r : StateRequest) : State :=
  ((Session.mk s host console).onState r).1.subject

/-- An elementary call that is not a cycle fails, or is one intervention. -/
theorem State.hostMove_after (s : State) (host : Host) (console : Console) {r : StateRequest}
    (hr : r.isElementary = true) (hcycle : r ≠ .cycle) :
    ReflGen HostMove s (s.after host console r) := by
  cases r with
  | cycle => exact absurd rfl hcycle
  | loadProgram content => exact s.hostMove_loadProgram (.bytes content)
  | loadValue v =>
    exact Outcome.settle_bind .refl (unhalted_ofValue host.room v) fun p => s.hostMove_loadProgram p
  | loadFile path =>
    refine Outcome.settle_bind .refl (unhalted_readProgram host path) fun p => ?_
    exact Outcome.settle_bind .refl (unhalted_ok ()) fun _ => s.hostMove_loadProgram p
  | setKeys flags => exact s.hostMove_refresh (unhalted_ofFlags flags)
  | setPressed codes => exact s.hostMove_refresh (unhalted_ofCodes codes)
  | tick => exact .single (.tick s)
  | resume skip => exact .single (.resume s skip)
  | _ => cases hr

/-- A host call, whether it fails or not, comes down to elementary changes. -/
theorem Session.moves_onState (s : Session State) {r : StateRequest} (hr : r.isHostCall = true) :
    ReflTransGen State.Move s.subject (s.onState r).1.subject := by
  cases r with
  | edit | execute | fetch => cases hr
  | cycle => exact .single (.cycle s.subject)
  | step strict => exact s.subject.moves_step strict
  | run n progress =>
    cases progress with
    | false => exact s.subject.moves_run n
    | true =>
      change ReflTransGen State.Move s.subject ((s.subject.runWithProgress n).1.settle s.subject)
      rw [State.runWithProgress_fst]
      exact s.subject.moves_run n
  | cycles n => exact State.moves_cycles n s.subject
  | raiseFault => exact State.settle_raiseFault .refl .refl
  | soundActive | isHalted => exact .refl
  | frame on =>
    simp only [onState]
    split
    · exact .refl
    · exact .refl
  | loadProgram | loadValue | loadFile | resume | setKeys | setPressed | tick =>
    refine State.moves_of_hostMove (s.subject.hostMove_after s.host s.console rfl ?_)
    exact fun h => nomatch h

/-- The states of a machine in use from power-on: any calls in any order, of any host and with any
console at each of them. -/
inductive Reachable (key : Random.Key) (dialect : Dialect) : State → Prop
  | powerOn : Reachable key dialect (.powerOn key dialect)
  | call {s : State} (h : Reachable key dialect s) (host : Host) (console : Console)
      (r : StateRequest) (hr : r.isHostCall = true) :
      Reachable key dialect ((Session.mk s host console).onState r).1.subject

theorem Reachable.moves {key : Random.Key} {dialect : Dialect} {s : State}
    (h : Reachable key dialect s) : ReflTransGen State.Move (.powerOn key dialect) s := by
  induction h with
  | powerOn => exact .refl
  | call _ host console r hr ih => exact ih.trans (Session.moves_onState ⟨_, host, console⟩ hr)

/-- What power-on has and every elementary change keeps holds in all reachable states. -/
theorem Reachable.induct {key : Random.Key} {dialect : Dialect} {P : State → Prop}
    (hpower : P (.powerOn key dialect)) (hmove : ∀ s t, s.Move t → P s → P t) {s : State}
    (h : Reachable key dialect s) : P s := by
  have hmoves := h.moves
  clear h
  induction hmoves with
  | refl => exact hpower
  | tail _ hst ih => exact hmove _ _ hst ih

/-! ## Calls one after the other -/

/-- The state after a sequence of calls of a host without files. -/
def State.afterCalls (s : State) (rs : List StateRequest) : State :=
  rs.foldl (fun t r => t.after .empty .forMachine r) s

theorem Reachable.after {key : Random.Key} {dialect : Dialect} {s : State}
    (h : Reachable key dialect s) (host : Host) (console : Console) {r : StateRequest}
    (hr : r.isHostCall = true) : Reachable key dialect (s.after host console r) :=
  .call h host console r hr

theorem Reachable.cycle {key : Random.Key} {dialect : Dialect} {s : State}
    (h : Reachable key dialect s) : Reachable key dialect s.cycle :=
  h.after .empty .forMachine (r := .cycle) rfl

theorem Reachable.afterCalls {key : Random.Key} {dialect : Dialect} {s : State}
    (h : Reachable key dialect s) {rs : List StateRequest}
    (hrs : rs.all StateRequest.isHostCall = true) : Reachable key dialect (s.afterCalls rs) := by
  induction rs generalizing s with
  | nil => exact h
  | cons r rs ih =>
    rw [List.all_cons, Bool.and_eq_true] at hrs
    exact ih (h.after .empty .forMachine hrs.1) hrs.2

end Chip8
