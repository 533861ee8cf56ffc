import Chip8.Proofs.Loading

/-!
# Failures of loads

A load changes at most memory from 0x200 on, or it is refused as a load and changes nothing
(`State.LoadsOrRefuses`).  The exceptions are a count that is no machine integer, a path with a NUL,
and bytes for which the host has no room, which fail in other ways (`load_refused_iff`).  A load
that fails changes nothing in any case.
-/

namespace Chip8

/-- A result fails, if at all, because a program is refused. -/
def OnlyRefuses {α : Type} (r : Except Failure α) : Prop :=
  ∀ f, r = .error f → ∃ refusal, f = .load refusal

theorem onlyRefuses_ok {α : Type} (a : α) : OnlyRefuses (.ok a) := fun _ h => nomatch h

theorem onlyRefuses_load {α : Type} (refusal : LoadRefusal) :
    OnlyRefuses (.error (.load refusal) : Except Failure α) := by
  intro f h
  cases h
  exact ⟨refusal, rfl⟩

theorem not_onlyRefuses {α : Type} {f : Failure} (hf : ∀ refusal, f ≠ .load refusal) :
    ¬ OnlyRefuses (.error f : Except Failure α) := by
  intro h
  obtain ⟨refusal, heq⟩ := h f rfl
  exact hf refusal heq

/-! ## Programs from a host -/

namespace Program

theorem onlyRefuses_byteOfItem (v : Value) : OnlyRefuses (byteOfItem v) := by
  unfold byteOfItem byteOfInt
  split
  · split
    · exact onlyRefuses_ok _
    · exact onlyRefuses_load _
  · exact onlyRefuses_ok _
  · exact onlyRefuses_load _

/-- The failure of a list is the failure of one of its items. -/
theorem exists_of_mapM_error {items : List Value} {f : Failure}
    (h : items.mapM byteOfItem = .error f) : ∃ v ∈ items, byteOfItem v = .error f := by
  induction items with
  | nil => cases h
  | cons v items ih =>
    rw [List.mapM_cons] at h
    cases hv : byteOfItem v with
    | error e =>
      rw [hv] at h
      cases h
      exact ⟨v, List.mem_cons_self, hv⟩
    | ok b =>
      rw [hv] at h
      cases hitems : items.mapM byteOfItem with
      | error e =>
        rw [hitems] at h
        cases h
        obtain ⟨u, hu, hfails⟩ := ih hitems
        exact ⟨u, List.mem_cons_of_mem v hu, hfails⟩
      | ok bs =>
        rw [hitems] at h
        cases h

theorem onlyRefuses_ofItems (items : List Value) : OnlyRefuses (ofItems items) := by
  intro f h
  rw [ofItems] at h
  cases hitems : items.mapM byteOfItem with
  | ok bs =>
    rw [hitems] at h
    cases h
  | error e =>
    rw [hitems] at h
    cases h
    obtain ⟨v, -, hv⟩ := exists_of_mapM_error hitems
    exact onlyRefuses_byteOfItem v f hv

theorem onlyRefuses_ofCount_iff {room : Nat} (hroom : room ≤ maxBlock) (count : Int) :
    OnlyRefuses (ofCount room count) ↔ FitsInt64 count ∧ count ≤ room := by
  by_cases hfits : FitsInt64 count
  · by_cases hneg : count < 0
    · rw [ofCount, if_neg (not_not_intro hfits), if_pos hneg]
      exact iff_of_true (onlyRefuses_load _) ⟨hfits, by omega⟩
    · by_cases hlimit : count ≤ room
      · have hblock : ¬ maxBlock < count := by omega
        rw [ofCount, if_neg (not_not_intro hfits), if_neg hneg, if_neg hblock,
          if_neg (Int.not_lt.2 hlimit)]
        exact iff_of_true (onlyRefuses_ok _) ⟨hfits, hlimit⟩
      · rw [ofCount, if_neg (not_not_intro hfits), if_neg hneg]
        refine iff_of_false ?_ fun h => hlimit h.2
        split
        · exact not_onlyRefuses fun _ h => nomatch h
        · rw [if_pos (Int.not_le.1 hlimit)]
          exact not_onlyRefuses fun _ h => nomatch h
  · rw [ofCount, if_pos hfits]
    exact iff_of_false (not_onlyRefuses fun _ h => nomatch h) fun h => hfits h.1

theorem onlyRefuses_ofValue_iff (host : Host) (v : Value) :
    OnlyRefuses (ofValue host.room v) ↔ ∀ i, v = .int i → FitsInt64 i ∧ i ≤ host.room := by
  cases v with
  | int i =>
    rw [ofValue, onlyRefuses_ofCount_iff host.room_le_maxBlock]
    constructor
    · rintro h j ⟨⟩
      exact h
    · intro h
      exact h i rfl
  | bool b =>
    have hroom : 1 ≤ host.room := Nat.le_trans (by decide) host.capacity_le_room
    have hfits : OnlyRefuses (ofCount host.room (if b then 1 else 0)) := by
      refine (onlyRefuses_ofCount_iff host.room_le_maxBlock _).2 ⟨?_, ?_⟩
      · cases b <;> decide
      · cases b with
        | true => exact Int.ofNat_le.2 hroom
        | false => exact Int.natCast_nonneg host.room
    refine iff_of_true hfits ?_
    rintro i ⟨⟩
  | list items =>
    refine iff_of_true (onlyRefuses_ofItems items) ?_
    rintro i ⟨⟩
  | object fields =>
    refine iff_of_true (onlyRefuses_ofItems _) ?_
    rintro i ⟨⟩
  | text | null | float =>
    refine iff_of_true (onlyRefuses_load _) ?_
    rintro i ⟨⟩

end Program

theorem State.onlyRefuses_readProgram_iff (host : Host) (path : String) :
    OnlyRefuses (readProgram host path) ↔ Folder.hasNul path = false ∧
      ∀ content, host.files.read path = .ok content → content.length ≤ host.room := by
  unfold readProgram
  cases Folder.hasNul path with
  | true => exact iff_of_false (not_onlyRefuses fun _ h => nomatch h) fun h => Bool.noConfusion h.1
  | false =>
    rw [if_neg Bool.false_ne_true]
    cases hread : host.files.read path with
    | error refusal => exact iff_of_true (onlyRefuses_load _) ⟨rfl, fun _ h => nomatch h⟩
    | ok content =>
      dsimp only
      by_cases hroom : content.length ≤ host.room
      · rw [if_neg (Nat.not_lt.2 hroom)]
        refine iff_of_true (onlyRefuses_ok _) ⟨rfl, ?_⟩
        rintro _ ⟨⟩
        exact hroom
      · rw [if_pos (Nat.lt_of_not_le hroom)]
        exact iff_of_false (not_onlyRefuses fun _ h => nomatch h) fun h => hroom (h.2 content rfl)

/-! ## Calls -/

namespace StateRequest

/-- The program that a load copies, if there is one. -/
def program? (host : Host) : StateRequest → Option (Except Failure Program)
  | .loadProgram content => some (.ok (.bytes content))
  | .loadValue v => some (Program.ofValue host.room v)
  | .loadFile path => some (State.readProgram host path)
  | _ => none

/-- Whether a request is a load. -/
def isLoad : StateRequest → Bool
  | .loadProgram _ | .loadValue _ | .loadFile _ => true
  | _ => false

end StateRequest

namespace State

/-- The second state differs from the first at most in memory from 0x200 on. -/
structure SameOutsideProgram (s t : State) : Prop where
  others : t = { s with memory := t.memory }
  below : ∀ a < 0x200, t.memory.read a = s.memory.read a

theorem Loaded.sameOutsideProgram {s t : State} {content : List UInt8}
    (h : s.Loaded content t) : s.SameOutsideProgram t :=
  ⟨h.others, fun a ha => h.outside a (by omega) (.inl ha)⟩

section

variable (s : State) (host : Host) (console : Console) {r : StateRequest}

/-- A call changes at most memory from 0x200 on, or it is refused as a load and changes nothing. -/
def LoadsOrRefuses (r : StateRequest) : Prop :=
  ((s.reply host console r).failure = none ∧ s.SameOutsideProgram (s.after host console r)) ∨
    ∃ refusal, (s.reply host console r).failure = some (.load refusal) ∧
      s.after host console r = s

/-- Every load is a load of its program, and what it fails with does not halt the machine. -/
theorem outcome_of_program? {p : Except Failure Program} (h : r.program? host = some p) :
    Unhalted p ∧ ∃ o : Outcome State,
      (s.reply host console r).failure = o.failure? ∧ s.after host console r = o.settle s ∧
        o.result = p.bind fun q => (s.loadProgram q).result := by
  cases r with
  | loadProgram content =>
    cases h
    exact ⟨unhalted_ok _, s.loadProgram (.bytes content), rfl, rfl, rfl⟩
  | loadValue v =>
    cases h
    exact ⟨unhalted_ofValue host.room v, s.loadValue host v, rfl, rfl, Outcome.result_bind _ _⟩
  | loadFile path =>
    cases h
    exact ⟨unhalted_readProgram host path, s.loadFile host path, rfl, rfl,
      Outcome.result_bind _ _⟩
  | _ => cases h

theorem settle_of_error {o : Outcome State} {f : Failure} (h : o.result = .error f)
    (hf : ∀ fault t, f ≠ .halted fault t) : o.settle s = s := by
  rw [Outcome.settle, h]
  cases f with
  | halted fault t => exact absurd rfl (hf fault t)
  | _ => rfl

/-- Without a program there is nothing to load: the call fails as the program does. -/
theorem reply_of_program?_error {f : Failure} (h : r.program? host = some (.error f)) :
    (s.reply host console r).failure = some f ∧ s.after host console r = s := by
  obtain ⟨hp, o, hfailure, hafter, hresult⟩ := s.outcome_of_program? host console h
  have hf : ∀ fault t, f ≠ .halted fault t := by
    rintro fault t rfl
    exact hp fault t rfl
  rw [hfailure, hafter]
  exact ⟨Outcome.failure?_of_error hresult, s.settle_of_error hresult hf⟩

/-- A program fits or is too large. -/
theorem loadsOrRefuses_of_program?_ok {p : Program} (h : r.program? host = some (.ok p)) :
    s.LoadsOrRefuses host console r := by
  obtain ⟨-, o, hfailure, hafter, hresult⟩ := s.outcome_of_program? host console h
  have hload : o.result = (s.loadProgram p).result := hresult
  unfold LoadsOrRefuses
  rw [hfailure, hafter]
  rcases Nat.lt_or_ge programCapacity p.size with hlarge | hfits
  · have herr : o.result = .error (.load (.tooLarge p.size)) := by
      rw [hload, s.loadProgram_of_lt hlarge]
      rfl
    exact .inr ⟨_, Outcome.failure?_of_error herr, s.settle_of_error herr fun _ _ h => nomatch h⟩
  · have hlength : p.toList.length ≤ programCapacity := by
      rw [Program.length_toList]
      exact hfits
    have hok := hload.trans (s.result_loadProgram_of_le hfits)
    have hsettle : o.settle s =
        { s with memory := s.memory.store programStart p.toList } := by
      rw [Outcome.settle, hok]
    rw [hsettle]
    exact .inl ⟨Outcome.failure?_of_ok hok, (s.loaded_store hlength).sameOutsideProgram⟩

theorem loadsOrRefuses_iff {p : Except Failure Program} (h : r.program? host = some p) :
    s.LoadsOrRefuses host console r ↔ OnlyRefuses p := by
  cases p with
  | ok q => exact iff_of_true (s.loadsOrRefuses_of_program?_ok host console h) (onlyRefuses_ok q)
  | error f =>
    obtain ⟨hfailure, hafter⟩ := s.reply_of_program?_error host console h
    constructor
    · rintro (⟨hnone, -⟩ | ⟨refusal, hrefused, -⟩) g heq
      · rw [hfailure] at hnone
        cases hnone
      · rw [hfailure] at hrefused
        cases heq
        exact ⟨refusal, Option.some.inj hrefused⟩
    · intro honly
      obtain ⟨refusal, rfl⟩ := honly f rfl
      exact .inr ⟨refusal, hfailure, hafter⟩

theorem after_of_failed_load (hr : r.isLoad = true)
    (hfails : (s.reply host console r).failure ≠ none) : s.after host console r = s := by
  have hprogram : ∃ p, r.program? host = some p := by
    cases r with
    | loadProgram | loadValue | loadFile => exact ⟨_, rfl⟩
    | _ => cases hr
  obtain ⟨p, hp⟩ := hprogram
  cases p with
  | error f => exact (s.reply_of_program?_error host console hp).2
  | ok q =>
    rcases s.loadsOrRefuses_of_program?_ok host console hp with ⟨hnone, -⟩ | ⟨-, -, hafter⟩
    · exact absurd hnone hfails
    · exact hafter

/-- Bytes are loaded or refused.  Data are unless they are a count for which there is no machine
integer or no room, and a file is unless its path has a NUL or there is no room for its content;
these fail otherwise than as a load.  A load that fails changes nothing. -/
theorem load_refused_iff :
    (∀ content, s.LoadsOrRefuses host console (.loadProgram content)) ∧
      (∀ v, s.LoadsOrRefuses host console (.loadValue v) ↔
        ∀ i, v = .int i → FitsInt64 i ∧ i ≤ host.room) ∧
      (∀ path, s.LoadsOrRefuses host console (.loadFile path) ↔
        Folder.hasNul path = false ∧
          ∀ content, host.files.read path = .ok content → content.length ≤ host.room) ∧
      ∀ r : StateRequest, r.isLoad = true → (s.reply host console r).failure ≠ none →
        s.after host console r = s := by
  refine ⟨?_, ?_, ?_, fun r => s.after_of_failed_load host console⟩
  · intro content
    exact s.loadsOrRefuses_of_program?_ok host console rfl
  · intro v
    rw [s.loadsOrRefuses_iff host console rfl]
    exact Program.onlyRefuses_ofValue_iff host v
  · intro path
    rw [s.loadsOrRefuses_iff host console rfl]
    exact onlyRefuses_readProgram_iff host path

end

/-- A negative count is refused as a load, and a count of 2⁶³ fails and changes nothing. -/
theorem load_refused_iff_count :
    let s := powerOn ⟨0, 0⟩ {}
    (∀ i, Value.int (-1) = .int i → FitsInt64 i ∧ i ≤ Host.empty.room) ∧
      s.LoadsOrRefuses .empty .forMachine (.loadValue (.int (-1))) ∧
      (s.reply .empty .forMachine (.loadValue (.int 0x8000000000000000))).failure ≠ none ∧
      s.after .empty .forMachine (.loadValue (.int 0x8000000000000000)) = s := by
  intro s
  obtain ⟨-, hvalue, -, hunchanged⟩ := load_refused_iff s .empty .forMachine
  have hcount : ∀ i, Value.int (-1) = .int i → FitsInt64 i ∧ i ≤ Host.empty.room := by
    rintro i ⟨⟩
    decide
  have hfails : (s.reply .empty .forMachine (.loadValue (.int 0x8000000000000000))).failure =
      some .countOutOfRange := rfl
  have hne : (s.reply .empty .forMachine (.loadValue (.int 0x8000000000000000))).failure ≠ none := by
    rw [hfails]
    exact Option.some_ne_none _
  exact ⟨hcount, (hvalue _).2 hcount, hne, hunchanged _ rfl hne⟩

/-- A count of 2⁶³ and a path with a NUL fail, and not as loads. -/
theorem load_failure_escapes :
    let s := powerOn ⟨0, 0⟩ {}
    ((s.reply .empty .forMachine (.loadValue (.int 0x8000000000000000))).failure =
          some .countOutOfRange ∧
        ¬ s.LoadsOrRefuses .empty .forMachine (.loadValue (.int 0x8000000000000000))) ∧
      (s.reply .empty .forMachine (.loadFile "a\x00b")).failure = some .nulInPath ∧
        ¬ s.LoadsOrRefuses .empty .forMachine (.loadFile "a\x00b") := by
  intro s
  have hcount : StateRequest.program? .empty (.loadValue (.int 0x8000000000000000)) =
      some (.error .countOutOfRange) := rfl
  have hpath : StateRequest.program? .empty (.loadFile "a\x00b") = some (.error .nulInPath) :=
    congrArg some (if_pos (by decide))
  refine ⟨⟨?_, ?_⟩, ?_, ?_⟩
  · exact (s.reply_of_program?_error .empty .forMachine hcount).1
  · rw [s.loadsOrRefuses_iff .empty .forMachine hcount]
    exact not_onlyRefuses fun _ h => nomatch h
  · exact (s.reply_of_program?_error .empty .forMachine hpath).1
  · rw [s.loadsOrRefuses_iff .empty .forMachine hpath]
    exact not_onlyRefuses fun _ h => nomatch h

end State

end Chip8
