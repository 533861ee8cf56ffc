import Chip8.State.Step
import Mathlib.Algebra.GroupWithZero.Nat

/-!
# How far a progress bar comes

A bar is opened, advanced by positive amounts and closed, and when the body of iteration `i` of `n`
runs it has come to the last multiple of its rate, but never beyond `n` less the rate (`place`).  So
it is never ahead of the scan (`bar_never_ahead`), and it is closed one rate short of its total
(`bar_stops_short`): the iterations behind the last advance are never shown.
-/

namespace Chip8.Progress

/-! ## Events -/

/-- The amount that an event advances a bar by. -/
def Event.amount : Event → Nat
  | advanced a => a
  | opened _ | closed => 0

/-- How far events advance a bar. -/
def shown (events : List Event) : Nat := (events.map Event.amount).sum

theorem shown_append (before after : List Event) :
    shown (before ++ after) = shown before + shown after := by
  rw [shown, List.map_append, List.sum_append, shown, shown]

/-- A bar was opened with settings and then advanced to a place by positive amounts. -/
def OpenAt (given : List (String × Value)) (events : List Event) (place : Nat) : Prop :=
  ∃ amounts : List Nat, events = .opened given :: amounts.map .advanced ∧
    (∀ a ∈ amounts, 0 < a) ∧ amounts.sum = place

section

variable {given : List (String × Value)}

theorem openAt_opened : OpenAt given [.opened given] 0 := ⟨[], rfl, by simp, rfl⟩

theorem OpenAt.advance {events : List Event} {place : Nat} (h : OpenAt given events place)
    {amounts : List Nat} (hpos : ∀ a ∈ amounts, 0 < a) :
    OpenAt given (events ++ amounts.map .advanced) (place + amounts.sum) := by
  obtain ⟨earlier, rfl, hearlier, rfl⟩ := h
  refine ⟨earlier ++ amounts, ?_, ?_, List.sum_append⟩
  · rw [List.map_append, List.cons_append]
  · intro a ha
    exact (List.mem_append.1 ha).elim (hearlier a) (hpos a)

theorem OpenAt.shown_eq {events : List Event} {place : Nat} (h : OpenAt given events place) :
    shown events = place := by
  obtain ⟨amounts, rfl, -, rfl⟩ := h
  have hamount : Event.amount ∘ Event.advanced = id := rfl
  rw [shown, List.map_cons, List.sum_cons, List.map_map, hamount, List.map_id, Event.amount,
    Nat.zero_add]

end

/-! ## The place of a bar -/

/-- How far a bar of `n` iterations with a rate has come when the body of iteration `i` runs. -/
def place (n rate i : Nat) : Nat := min (i / rate * rate) (n - rate)

theorem place_le (n rate i : Nat) : place n rate i ≤ i :=
  Nat.le_trans (Nat.min_le_left _ _) (Nat.div_mul_le_self i rate)

theorem one_le_rate (n : Nat) (asked : Option Int) : 1 ≤ rate n asked := by
  cases asked with
  | none => exact Nat.le_max_left _ _
  | some r =>
    rw [rate]
    omega

theorem rate_le {n : Nat} (hn : 1 ≤ n) (asked : Option Int) : rate n asked ≤ n := by
  cases asked with
  | none =>
    rw [rate]
    omega
  | some r =>
    rw [rate]
    omega

section

variable {n rate i : Nat} (hpos : 1 ≤ rate) (hle : rate ≤ n)

include hpos

/-- A multiple of the rate below `n` is the last one, or at least one rate before it. -/
theorem eq_or_add_le_of_dvd (hmultiple : rate ∣ i) (hi : i < n) :
    i = n - n % rate ∨ i + rate ≤ n - n % rate := by
  have hmod := Nat.mod_lt n hpos
  have hlast : rate ∣ n - n % rate := Nat.dvd_sub_mod n
  have hnotbehind : i ≤ n - n % rate := by
    refine Nat.le_of_not_lt fun hbehind => ?_
    have := Nat.le_of_dvd (by omega) (Nat.dvd_sub hmultiple hlast)
    omega
  rcases Nat.eq_or_lt_of_le hnotbehind with heq | hlt
  · exact .inl heq
  · have := Nat.le_of_dvd (by omega) (Nat.dvd_sub hlast hmultiple)
    exact .inr (by omega)

include hle

theorem place_last (hi : i + 1 = n) : place n rate i = n - rate := by
  have hdiv := Nat.div_add_mod i rate
  have hmod := Nat.mod_lt i hpos
  rw [place, Nat.mul_comm]
  omega

theorem advances_zero : (Pace.whole rate).advances n 0 = [] := by
  have hmod := Nat.mod_lt n hpos
  have hlast : (0 : Nat) ≠ n - n % rate := by omega
  simp [Pace.advances, hlast]

/-- An iteration advances a bar from its place to the next one, if this is another. -/
theorem advances_succ (hi : i + 1 < n) :
    ∃ amounts : List Nat, (Pace.whole rate).advances n (i + 1) = amounts.map .advanced ∧
      (∀ a ∈ amounts, 0 < a) ∧ place n rate i + amounts.sum = place n rate (i + 1) := by
  have hmod := Nat.mod_lt n hpos
  simp only [Pace.advances, place]
  by_cases hmultiple : rate ∣ i + 1
  · have hzero : (i + 1) % rate = 0 := Nat.mod_eq_zero_of_dvd hmultiple
    have hdiv : (i + 1) / rate * rate = i + 1 := Nat.div_mul_cancel hmultiple
    have hprevious : i / rate * rate + rate = i + 1 := by
      rw [← hdiv, Nat.succ_div_of_dvd hmultiple, Nat.succ_mul]
    rcases eq_or_add_le_of_dvd hpos hmultiple hi with hlast | hbefore
    · -- Behind the last multiple of the rate only the remainder is left.
      refine ⟨[n % rate], by simp [hlast], ?_, ?_⟩
      · simp only [List.mem_singleton, forall_eq]
        omega
      · rw [List.sum_singleton]
        omega
    · have hne : i + 1 ≠ n - n % rate := by omega
      refine ⟨[rate], by simp [hzero, hne], ?_, ?_⟩
      · simp only [List.mem_singleton, forall_eq]
        exact hpos
      · rw [List.sum_singleton]
        omega
  · have hnonzero : (i + 1) % rate ≠ 0 := fun h => hmultiple (Nat.dvd_of_mod_eq_zero h)
    have hne : i + 1 ≠ n - n % rate := fun h => hmultiple (h ▸ Nat.dvd_sub_mod n)
    refine ⟨[], by simp [hnonzero, hne], by simp, ?_⟩
    rw [List.sum_nil, Nat.add_zero, Nat.succ_div_of_not_dvd hmultiple]

end

/-! ## A scan under way -/

section

variable {σ : Type} (n : Nat) (pace : Pace) (request : Request) (body : σ → Nat → σ) (s : σ)

/-- A scan of `n` iterations after the first of them. -/
def scanned (i : Nat) : σ × Array Event :=
  (List.range i).foldl (iterate n pace request body) (s, #[])

/-- The events of the first iterations of a scan. -/
def eventsUpTo (i : Nat) : List Event := (scanned n pace request body s i).2.toList

theorem snd_scan : (scan n pace request body s).2 = eventsUpTo n pace request body s n := rfl

theorem scanned_succ (i : Nat) :
    scanned n pace request body s (i + 1) =
      iterate n pace request body (scanned n pace request body s i) i := by
  rw [scanned, List.range_succ, List.foldl_append, List.foldl_cons, List.foldl_nil, scanned]

theorem fst_scanned (i : Nat) :
    (scanned n pace request body s i).1 = (List.range i).foldl body s := by
  induction i with
  | zero => rfl
  | succ i ih =>
    rw [scanned_succ, iterate, ih, List.range_succ, List.foldl_append, List.foldl_cons,
      List.foldl_nil]

theorem eventsUpTo_succ (i : Nat) :
    eventsUpTo n pace request body s (i + 1) =
      eventsUpTo n pace request body s i ++ before n pace request i ++ after n i := by
  simp only [eventsUpTo, scanned_succ, iterate, Array.toList_appendList]

end

/-! ## The bar of a scan -/

section

variable {σ : Type} {n rate i : Nat} (hpos : 1 ≤ rate) (hle : rate ≤ n) (request : Request)
  (body : σ → Nat → σ) (s : σ)

theorem after_of_lt (hi : i + 1 < n) : after n i = [] := if_neg (Nat.ne_of_lt hi)

theorem before_succ (n : Nat) (pace : Pace) (request : Request) (i : Nat) :
    before n pace request (i + 1) = pace.advances n (i + 1) := rfl

include hpos hle

/-- When the body of an iteration runs, the bar is open and at its place. -/
theorem openAt_before (hi : i < n) :
    OpenAt (settings n request)
      (eventsUpTo n (.whole rate) request body s i ++ before n (.whole rate) request i)
      (place n rate i) := by
  induction i with
  | zero =>
    have hplace : place n rate 0 = 0 := Nat.le_zero.1 (place_le n rate 0)
    have hbefore : before n (.whole rate) request 0 = [.opened (settings n request)] := by
      rw [before, advances_zero hpos hle]
      rfl
    rw [hplace, hbefore]
    exact openAt_opened
  | succ i ih =>
    obtain ⟨amounts, hadvances, hamounts, hplace⟩ := advances_succ hpos hle hi
    rw [eventsUpTo_succ, after_of_lt hi, List.append_nil, before_succ, hadvances, ← hplace]
    exact (ih (Nat.lt_of_succ_lt hi)).advance hamounts

theorem shown_eventsUpTo_succ (hi : i < n) :
    shown (eventsUpTo n (.whole rate) request body s (i + 1)) = place n rate i := by
  have hafter : shown (after n i) = 0 := by
    unfold after
    split
    · rfl
    · rfl
  rw [eventsUpTo_succ, shown_append, hafter, Nat.add_zero]
  exact (openAt_before hpos hle request body s hi).shown_eq

/-- A scan opens its bar, advances it to one rate before its end and closes it. -/
theorem exists_openAt_scan : ∃ events : List Event,
    OpenAt (settings n request) events (n - rate) ∧
      (scan n (.whole rate) request body s).2 = events ++ [.closed] := by
  obtain ⟨i, hi⟩ : ∃ i, n = i + 1 := Nat.exists_eq_add_one.2 (Nat.le_trans hpos hle)
  have hopen := openAt_before hpos hle request body s (show i < n by omega)
  rw [place_last hpos hle hi.symm] at hopen
  refine ⟨_, hopen, ?_⟩
  have hafter : after n i = [.closed] := if_pos hi.symm
  have hlast := eventsUpTo_succ n (.whole rate) request body s i
  rw [hafter, ← hi] at hlast
  exact hlast

theorem shown_scan : shown (scan n (.whole rate) request body s).2 = n - rate := by
  obtain ⟨events, hopen, hevents⟩ := exists_openAt_scan hpos hle request body s
  rw [hevents, shown_append, hopen.shown_eq]
  rfl

end

/-- The amounts that a bar is advanced by before it is closed sum to its total less one rate.  So
the bar of a run never reaches its total. -/
theorem bar_stops_short {σ : Type} {n : Nat} (hn : 1 ≤ n) (asked : Option Int)
    (request : Request) (body : σ → Nat → σ) (s : σ) :
    (∃ amounts : List Nat,
      (scan n (.ofInt n asked) request body s).2 =
          .opened (settings n request) :: amounts.map .advanced ++ [.closed] ∧
        amounts.sum + rate n asked = n ∧ amounts.sum < n) ∧
    ∀ t : State, shown (t.runWithProgress n).2 + rate n none = n := by
  have hle := rate_le hn
  refine ⟨?_, fun t => ?_⟩
  · obtain ⟨_, ⟨amounts, rfl, -, hsum⟩, hevents⟩ :=
      exists_openAt_scan (one_le_rate n asked) (hle asked) request body s
    have hpos := one_le_rate n asked
    exact ⟨amounts, hevents, hsum ▸ Nat.sub_add_cancel (hle asked), by omega⟩
  · change shown (scan n (.ofInt n none) {} (fun u _ => u.cycle) t).2 + rate n none = n
    rw [Pace.ofInt, shown_scan (one_le_rate n none) (hle none)]
    exact Nat.sub_add_cancel (hle none)

/-- A bar of 20 iterations with the rate 6 comes to 14. -/
theorem bar_stops_short_rate :
    ∃ amounts : List Nat,
      (scan 20 (.ofInt 20 (some 6)) {} (fun sum i => sum + i) 0).2 =
        .opened (settings 20 {}) :: amounts.map .advanced ++ [.closed] ∧
      amounts.sum + 6 = 20 := by
  obtain ⟨⟨amounts, hevents, hsum, -⟩, -⟩ :=
    bar_stops_short (n := 20) (by decide) (some 6) {} (fun sum i => sum + i) 0
  exact ⟨amounts, hevents, hsum⟩

/-- The bar of a single iteration is closed as it was opened. -/
theorem bar_of_one_unfilled :
    (scan 1 (.ofInt 1 none) {} (fun sum i => sum + i) 0).2 = [.opened (settings 1 {}), .closed] ∧
      shown (scan 1 (.ofInt 1 none) {} (fun sum i => sum + i) 0).2 ≠ 1 :=
  ⟨rfl, by decide⟩

/-- The events of a bar are its opening with the total, advances by positive amounts, and its
closing; and an advance that iteration `i` delivers brings the bar to at most `i`, the number of
iterations before it.  Without iterations there is no event. -/
theorem bar_never_ahead {σ : Type} (n : Nat) (asked : Option Int) (request : Request)
    (body : σ → Nat → σ) (s : σ) :
    let pace := Pace.ofInt n asked
    (n = 0 → (scan n pace request body s).2 = []) ∧
    (1 ≤ n → ∃ amounts : List Nat,
      (scan n pace request body s).2 =
          .opened (settings n request) :: amounts.map .advanced ++ [.closed] ∧
        (settings n request).lookup "total" = some (.int n) ∧ ∀ a ∈ amounts, 0 < a) ∧
    (scan n pace request body s).2 = eventsUpTo n pace request body s n ∧
    ∀ i < n, (scanned n pace request body s i).1 = (List.range i).foldl body s ∧
      ∀ earlier a later, eventsUpTo n pace request body s (i + 1) =
          eventsUpTo n pace request body s i ++ earlier ++ .advanced a :: later →
        shown (eventsUpTo n pace request body s i ++ earlier ++ [.advanced a]) ≤ i := by
  intro pace
  refine ⟨?_, fun hn => ?_, snd_scan n pace request body s,
    fun i hi => ⟨fst_scanned n pace request body s i, ?_⟩⟩
  · rintro rfl
    rfl
  · obtain ⟨_, ⟨amounts, rfl, hamounts, -⟩, hevents⟩ :=
      exists_openAt_scan (one_le_rate n asked) (rate_le hn asked) request body s
    exact ⟨amounts, hevents, rfl, hamounts⟩
  · intro earlier a later hevents
    have hn : 1 ≤ n := Nat.lt_of_le_of_lt (Nat.zero_le i) hi
    calc shown (eventsUpTo n pace request body s i ++ earlier ++ [.advanced a])
        ≤ shown (eventsUpTo n pace request body s i ++ earlier ++ [.advanced a]) + shown later :=
          Nat.le_add_right _ _
      _ = shown (eventsUpTo n pace request body s (i + 1)) := by
          rw [← shown_append, ← List.append_cons, hevents]
      _ = place n (rate n asked) i :=
          shown_eventsUpTo_succ (one_le_rate n asked) (rate_le hn asked) request body s hi
      _ ≤ i := place_le n _ i

/-- Before iteration 18, the last that advances a bar of 20 iterations with the rate 6, it comes to
14. -/
theorem bar_never_ahead_last :
    let pace := Pace.ofInt 20 (some 6)
    let request : Request := { title := .text "frames" }
    let events := eventsUpTo 20 pace request (fun sum i => sum + i) 0
    events 19 = events 18 ++ [] ++ [.advanced 2] ∧
      shown (events 18 ++ [] ++ [.advanced 2]) ≤ 18 ∧
      (∃ amounts : List Nat,
        events 20 = .opened (settings 20 request) :: amounts.map .advanced ++ [.closed] ∧
          (settings 20 request).lookup "total" = some (.int 20) ∧ ∀ a ∈ amounts, 0 < a) ∧
      (scan 0 (.ofInt 0 (some 6)) request (fun sum i => sum + i) 0).2 = [] := by
  intro pace request events
  have hlast : events 19 = events 18 ++ [] ++ .advanced 2 :: [] := rfl
  obtain ⟨-, hopen, hwhole, hahead⟩ :=
    bar_never_ahead 20 (some 6) request (fun sum i => sum + i) 0
  obtain ⟨hnone, -⟩ := bar_never_ahead 0 (some 6) request (fun sum i => sum + i) 0
  obtain ⟨amounts, hevents, htotal, hamounts⟩ := hopen (by decide)
  exact ⟨hlast, (hahead 18 (by decide)).2 [] 2 [] hlast,
    ⟨amounts, hwhole.symm.trans hevents, htotal, hamounts⟩, hnone rfl⟩

end Chip8.Progress
