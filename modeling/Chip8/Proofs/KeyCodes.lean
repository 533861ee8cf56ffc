import Chip8.Proofs.Calls

/-!
# Codes and flags

The keypad is refreshed from the codes of the keys that are down, or from one flag for each key.
Codes that all name keys come to the flags that are set for just these keys, in whatever order and
however often they are given; else the first that names none decides the failure, and nothing has
changed (`codes_agree_with_flags`).
-/

namespace Chip8

/-! ## Flags -/

namespace Value

/-- Whether a value is a number, a flag or nothing. -/
def isFlat : Value → Bool
  | null | bool _ | int _ | float _ => true
  | _ => false

theorem isText_of_isFlat {v : Value} (h : v.isFlat = true) : v.isText = false := by
  cases v with
  | text s => cases h
  | _ => rfl

theorem isList_of_isFlat {v : Value} (h : v.isFlat = true) : v.isList = false := by
  cases v with
  | list items => cases h
  | _ => rfl

theorem truths_of_isFlat {items : List Value} (h : ∀ v ∈ items, v.isFlat = true) :
    truths items = items.map truthy := by
  have hnone : items.any isText = false := by
    refine List.any_eq_false.2 fun v hv => ?_
    rw [isText_of_isFlat (h v hv)]
    exact Bool.false_ne_true
  rw [truths, hnone, Bool.false_and, if_neg Bool.false_ne_true]

theorem sizes_of_isFlat {items : List Value} (h : ∀ v ∈ items, v.isFlat = true) :
    (list items).sizes = .ok [items.length] := by
  cases items with
  | nil => rfl
  | cons v items =>
    exact sizes_of_not_list (List.cons_ne_nil v items) fun u hu => isList_of_isFlat (h u hu)

end Value

namespace Keypad

theorem isDown_ofFlagList (flags : List Bool) (k : Fin 16) :
    (ofFlagList flags).isDown k = flags.getD k false :=
  isDown_ofSet _ k

theorem isDown_ofFlagList_truthy {flags : List Value} {k : Fin 16} :
    (ofFlagList (flags.map Value.truthy)).isDown k = true ↔
      ∃ v, flags[k]? = some v ∧ v.truthy = true := by
  rw [isDown_ofFlagList, List.getD_eq_getElem?_getD, List.getElem?_map, Fin.getElem?_fin]
  cases flags[k.val]? with
  | none => simp
  | some v => simp

theorem ofFlags_of_isFlat {items : List Value} (h : ∀ v ∈ items, v.isFlat = true) :
    ofFlags (.list items) =
      if items.length = 16 then .ok (ofFlagList (items.map Value.truthy))
      else .error (.keyShape [items.length]) := by
  have hsizes := Value.sizes_of_isFlat h
  rw [← Value.truths_of_isFlat h]
  simp only [ofFlags, Value.items?, hsizes]
  change (if [items.length] = [16] then _ else _) = _
  simp only [List.cons.injEq, and_true]
  rfl

/-! ## Codes -/

/-- A code names a key if it reads as an integer from 0 to 15. -/
def NamesKey (v : Value) : Prop := ∃ i, codeValue v = .ok i ∧ 0 ≤ i ∧ i < 16

/-- Why a code names no key. -/
inductive Offends (v : Value) : CodeRefusal → Prop
  | unreadable {refusal : CodeRefusal} (h : codeValue v = .error refusal) : Offends v refusal
  | outside {i : Int} (h : codeValue v = .ok i) (hout : ¬ (0 ≤ i ∧ i < 16)) :
      Offends v (.outOfRange v.shown)

theorem keyOfCode_eq_ok_iff {v : Value} {k : Fin 16} :
    keyOfCode v = .ok k ↔ codeValue v = .ok (k : Int) := by
  unfold keyOfCode
  cases codeValue v with
  | error refusal => simp
  | ok i =>
    by_cases hi : 0 ≤ i ∧ i < 16
    · simp only [dif_pos hi, Except.ok.injEq, Fin.ext_iff]
      omega
    · have hk := k.isLt
      simp only [dif_neg hi, Except.ok.injEq, reduceCtorEq, false_iff]
      omega

theorem exists_key {v : Value} (h : NamesKey v) : ∃ k, keyOfCode v = .ok k := by
  obtain ⟨i, hi, hnonneg, hlt⟩ := h
  refine ⟨⟨i.toNat, by omega⟩, keyOfCode_eq_ok_iff.2 ?_⟩
  rw [hi, Int.toNat_of_nonneg hnonneg]

theorem exists_offends {v : Value} (h : ¬ NamesKey v) :
    ∃ refusal, Offends v refusal ∧ keyOfCode v = .error refusal := by
  unfold keyOfCode
  cases hv : codeValue v with
  | error refusal => exact ⟨refusal, .unreadable hv, rfl⟩
  | ok i =>
    have hout : ¬ (0 ≤ i ∧ i < 16) := fun hi => h ⟨i, hv, hi⟩
    exact ⟨.outOfRange v.shown, .outside hv hout, dif_neg hout⟩

theorem exists_keys {codes : List Value} (h : ∀ v ∈ codes, NamesKey v) :
    ∃ keys, codes.mapM keyOfCode = .ok keys ∧
      ∀ k : Fin 16, k ∈ keys ↔ ∃ v ∈ codes, codeValue v = .ok (k : Int) := by
  induction codes with
  | nil => exact ⟨[], rfl, fun k => by simp⟩
  | cons v codes ih =>
    obtain ⟨hv, hcodes⟩ := List.forall_mem_cons.1 h
    obtain ⟨key, hkey⟩ := exists_key hv
    obtain ⟨keys, hkeys, hmem⟩ := ih hcodes
    refine ⟨key :: keys, ?_, fun k => ?_⟩
    · rw [List.mapM_cons, hkey, hkeys]
      rfl
    · simp only [List.mem_cons, exists_eq_or_imp, hmem, ← keyOfCode_eq_ok_iff, hkey,
        Except.ok.injEq, eq_comm (a := k)]

/-- The codes after the first bad one are not looked at. -/
theorem mapM_keyOfCode_of_offends {good rest : List Value} {bad : Value} {refusal : CodeRefusal}
    (hgood : ∀ v ∈ good, NamesKey v) (hbad : keyOfCode bad = .error refusal) :
    (good ++ bad :: rest).mapM keyOfCode = .error refusal := by
  induction good with
  | nil =>
    rw [List.nil_append, List.mapM_cons, hbad]
    rfl
  | cons v good ih =>
    obtain ⟨hv, hlater⟩ := List.forall_mem_cons.1 hgood
    obtain ⟨key, hkey⟩ := exists_key hv
    rw [List.cons_append, List.mapM_cons, hkey, ih hlater]
    rfl

/-- A list in which not all codes name keys has a first that does not. -/
theorem exists_first_bad {codes : List Value} (h : ¬ ∀ v ∈ codes, NamesKey v) :
    ∃ good bad rest, codes = good ++ bad :: rest ∧ (∀ v ∈ good, NamesKey v) ∧ ¬ NamesKey bad := by
  induction codes with
  | nil => exact absurd (fun v hv => nomatch hv) h
  | cons v codes ih =>
    by_cases hv : NamesKey v
    · have hcodes : ¬ ∀ u ∈ codes, NamesKey u := fun hall =>
        h (List.forall_mem_cons.2 ⟨hv, hall⟩)
      obtain ⟨good, bad, rest, hsplit, hgood, hbad⟩ := ih hcodes
      refine ⟨v :: good, bad, rest, ?_, List.forall_mem_cons.2 ⟨hv, hgood⟩, hbad⟩
      rw [hsplit, List.cons_append]
    · exact ⟨[], v, codes, rfl, (fun u hu => nomatch hu), hv⟩

theorem ofCodes_of_namesKey {codes : List Value} (h : ∀ v ∈ codes, NamesKey v) :
    ∃ keys, ofCodes (.list codes) = .ok keys ∧
      ∀ k : Fin 16, keys.isDown k = true ↔ ∃ v ∈ codes, codeValue v = .ok (k : Int) := by
  obtain ⟨keys, hkeys, hmem⟩ := exists_keys h
  refine ⟨ofSet fun k => keys.contains k, ?_, fun k => ?_⟩
  · simp only [ofCodes, Value.items?, hkeys]
  · rw [isDown_ofSet, List.contains_iff_mem, hmem]

theorem ofCodes_of_offends {good : List Value} {bad : Value} {refusal : CodeRefusal}
    (hgood : ∀ v ∈ good, NamesKey v) (hbad : keyOfCode bad = .error refusal) (rest : List Value) :
    ofCodes (.list (good ++ bad :: rest)) = .error (.keyCode refusal) := by
  simp only [ofCodes, Value.items?, mapM_keyOfCode_of_offends hgood hbad]

/-! ## Codes as flags -/

theorem ofCodes_congr {codes codes' : List Value} (hcodes : ∀ v ∈ codes, NamesKey v)
    (hsame : ∀ v, v ∈ codes' ↔ v ∈ codes) : ofCodes (.list codes') = ofCodes (.list codes) := by
  obtain ⟨keys, hkeys, hdown⟩ := ofCodes_of_namesKey hcodes
  have hcodes' : ∀ v ∈ codes', NamesKey v := fun v hv => hcodes v ((hsame v).1 hv)
  obtain ⟨keys', hkeys', hdown'⟩ := ofCodes_of_namesKey hcodes'
  have heq : keys' = keys := by
    refine ext_isDown fun k => ?_
    rw [Bool.eq_iff_iff, hdown', hdown]
    exact exists_congr fun v => and_congr_left fun _ => hsame v
  rw [hkeys', hkeys, heq]

/-- Sixteen flags that are set for the keys of codes give their keypad. -/
theorem ofFlags_eq_ofCodes {codes : List Value} (hcodes : ∀ v ∈ codes, NamesKey v)
    {flags : Vector Value 16} (hflat : ∀ k : Fin 16, (flags.get k).isFlat = true)
    (hset : ∀ k : Fin 16,
      (flags.get k).truthy = true ↔ ∃ v ∈ codes, codeValue v = .ok (k : Int)) :
    ofFlags (.list flags.toList) = ofCodes (.list codes) := by
  obtain ⟨keys, hkeys, hdown⟩ := ofCodes_of_namesKey hcodes
  have hitems : ∀ v ∈ flags.toList, v.isFlat = true := by
    intro v hv
    obtain ⟨i, hi, rfl⟩ := Vector.mem_iff_getElem.1 (Vector.mem_toList_iff.1 hv)
    exact hflat ⟨i, hi⟩
  rw [ofFlags_of_isFlat hitems, if_pos flags.length_toList, hkeys]
  refine congrArg _ (ext_isDown fun k => ?_)
  have hget : flags.toList[k]? = some (flags.get k) := by
    rw [Fin.getElem?_fin, Vector.getElem?_toList]
    exact Vector.getElem?_eq_getElem k.isLt
  rw [Bool.eq_iff_iff, isDown_ofFlagList_truthy, hdown, ← hset, hget]
  simp only [Option.some.injEq, exists_eq_left']

end Keypad

/-- The keypad of a refresh, or why there is none. -/
def StateRequest.keypad? : StateRequest → Option (Except Failure Keypad)
  | .setKeys flags => some (Keypad.ofFlags flags)
  | .setPressed codes => some (Keypad.ofCodes codes)
  | _ => none

namespace State

/-! ## Calls -/

section Calls

variable {s : State} {host : Host} {console : Console} {r : StateRequest}

/-- A call refreshes the keypad: the keys of a set are down now, those that were down before are
seen, and nothing else has changed. -/
def Refreshes (s : State) (host : Host) (console : Console) (r : StateRequest)
    (down : Fin 16 → Prop) : Prop :=
  (s.reply host console r).failure = none ∧
    ∃ keys : Keypad, (∀ k, keys.isDown k = true ↔ down k) ∧
      s.after host console r = { s with seenKeys := s.keypad, keypad := keys }

/-- A call fails and leaves the state as it was. -/
def Refuses (s : State) (host : Host) (console : Console) (r : StateRequest) (f : Failure) :
    Prop :=
  (s.reply host console r).failure = some f ∧ s.after host console r = s

/-- A refresh fails as its keypad does, and otherwise sets it. -/
theorem refresh_of_keypad? {p : Except Failure Keypad} (h : r.keypad? = some p) :
    (s.reply host console r).failure = (Outcome.lift (p.map s.refreshKeys)).failure? ∧
      s.after host console r = (p.toOption.map s.refreshKeys).getD s := by
  cases r with
  | setKeys flags =>
    cases h
    exact ⟨rfl, s.after_setKeys host console flags⟩
  | setPressed codes =>
    cases h
    exact ⟨rfl, s.after_setPressed host console codes⟩
  | _ => cases h

theorem refreshes_of_keypad? {keys : Keypad} {down : Fin 16 → Prop}
    (h : r.keypad? = some (.ok keys)) (hdown : ∀ k, keys.isDown k = true ↔ down k) :
    s.Refreshes host console r down := by
  obtain ⟨hfailure, hafter⟩ :
      (s.reply host console r).failure = none ∧ s.after host console r = s.refreshKeys keys :=
    refresh_of_keypad? h
  exact ⟨hfailure, keys, hdown, hafter⟩

theorem refuses_of_keypad? {f : Failure} (h : r.keypad? = some (.error f)) :
    s.Refuses host console r f :=
  refresh_of_keypad? h

end Calls

/-- Codes that all name keys come to flags that are set for these keys, so that neither their order
nor their number matters; else the first code that names none is refused.  Numbers, flags and nulls
are accepted as flags if there are sixteen of them. -/
theorem codes_agree_with_flags (s : State) (host : Host) (console : Console) :
    (∀ codes : List Value, (∀ v ∈ codes, Keypad.NamesKey v) →
      (s.Refreshes host console (.setPressed (.list codes)) fun k =>
          ∃ v ∈ codes, Keypad.codeValue v = .ok (k : Int)) ∧
        (∀ flags : Vector Value 16, (∀ k : Fin 16, (flags.get k).isFlat = true) →
          (∀ k : Fin 16,
            (flags.get k).truthy = true ↔ ∃ v ∈ codes, Keypad.codeValue v = .ok (k : Int)) →
            s.setPressed (.list codes) = s.setKeys (.list flags.toList)) ∧
        ∀ codes' : List Value, (∀ v, v ∈ codes' ↔ v ∈ codes) →
          s.setPressed (.list codes') = s.setPressed (.list codes)) ∧
    (∀ codes : List Value, ¬ (∀ v ∈ codes, Keypad.NamesKey v) →
      ∃ good bad rest refusal, codes = good ++ bad :: rest ∧ (∀ v ∈ good, Keypad.NamesKey v) ∧
        Keypad.Offends bad refusal ∧
        s.Refuses host console (.setPressed (.list codes)) (.keyCode refusal)) ∧
    ∀ flags : List Value, (∀ v ∈ flags, v.isFlat = true) →
      (flags.length = 16 → s.Refreshes host console (.setKeys (.list flags)) fun k =>
          ∃ v, flags[k]? = some v ∧ v.truthy = true) ∧
        (flags.length ≠ 16 →
          s.Refuses host console (.setKeys (.list flags)) (.keyShape [flags.length])) := by
  refine ⟨fun codes hcodes => ⟨?_, ?_, ?_⟩, fun codes hcodes => ?_, fun flags hflat => ⟨?_, ?_⟩⟩
  · obtain ⟨keys, hkeys, hdown⟩ := Keypad.ofCodes_of_namesKey hcodes
    exact refreshes_of_keypad? (congrArg some hkeys) hdown
  · intro flags hflat hset
    rw [setPressed, setKeys, Keypad.ofFlags_eq_ofCodes hcodes hflat hset]
  · intro codes' hsame
    rw [setPressed, setPressed, Keypad.ofCodes_congr hcodes hsame]
  · obtain ⟨good, bad, rest, rfl, hgood, hbad⟩ := Keypad.exists_first_bad hcodes
    obtain ⟨refusal, hoffends, hrefusal⟩ := Keypad.exists_offends hbad
    have hfails := Keypad.ofCodes_of_offends hgood hrefusal rest
    exact ⟨good, bad, rest, refusal, rfl, hgood, hoffends,
      refuses_of_keypad? (congrArg some hfails)⟩
  · intro hlength
    have hkeys := Keypad.ofFlags_of_isFlat hflat
    rw [if_pos hlength] at hkeys
    exact refreshes_of_keypad? (congrArg some hkeys) fun k => Keypad.isDown_ofFlagList_truthy
  · intro hlength
    have hfails := Keypad.ofFlags_of_isFlat hflat
    rw [if_neg hlength] at hfails
    exact refuses_of_keypad? (congrArg some hfails)

/-- Texts, flags and fractions name keys 10 and 1, one of them twice; in another list the code 16
comes before what is no code at all. -/
theorem codes_agree_with_flags_mixed :
    let s := powerOn ⟨0, 0⟩ {}
    let codes : List Value := [.text " 1_0 ", .bool true, .int 10, .float (.finite false 3 (-1))]
    let flags : Vector Value 16 := Vector.ofFn fun k => .bool (k == 1 || k == 10)
    let bad : List Value := [.int 1, .int 16, .null]
    (∀ v ∈ codes, Keypad.NamesKey v) ∧
      s.setPressed (.list codes) = s.setKeys (.list flags.toList) ∧
      s.setPressed (.list codes.reverse) = s.setPressed (.list codes) ∧
      ¬ (∀ v ∈ bad, Keypad.NamesKey v) ∧
      (∃ good v rest refusal, bad = good ++ v :: rest ∧ (∀ u ∈ good, Keypad.NamesKey u) ∧
        Keypad.Offends v refusal ∧
        s.Refuses .empty .forMachine (.setPressed (.list bad)) (.keyCode refusal)) ∧
      (∀ v ∈ bad, v.isFlat = true) ∧ bad.length ≠ 16 ∧
        s.Refuses .empty .forMachine (.setKeys (.list bad)) (.keyShape [3]) := by
  intro s codes flags bad
  have hten : Keypad.codeValue (.text " 1_0 ") = .ok 10 := rfl
  have hflag : Keypad.codeValue (.bool true) = .ok 1 := rfl
  have hint (i : Int) : Keypad.codeValue (.int i) = .ok i := rfl
  have hfraction : Keypad.codeValue (.float (.finite false 3 (-1))) = .ok 1 := rfl
  have hcodes : ∀ v ∈ codes, Keypad.NamesKey v := by
    simp only [codes, List.forall_mem_cons]
    exact ⟨⟨10, hten, by decide⟩, ⟨1, hflag, by decide⟩, ⟨10, hint 10, by decide⟩,
      ⟨1, hfraction, by decide⟩, List.forall_mem_nil _⟩
  have hset : ∀ k : Fin 16, (flags.get k).truthy = true ↔
      ∃ v ∈ codes, Keypad.codeValue v = .ok (k : Int) := by
    intro k
    simp only [codes, List.mem_cons, List.not_mem_nil, or_false, exists_eq_or_imp, exists_eq_left,
      hten, hflag, hint, hfraction, Except.ok.injEq]
    revert k
    decide
  have hbad : ¬ ∀ v ∈ bad, Keypad.NamesKey v := by
    intro hall
    obtain ⟨i, hi, -, hlt⟩ := hall (.int 16) (by simp [bad])
    cases hi
    exact absurd hlt (by decide)
  have hflat : ∀ v ∈ bad, v.isFlat = true := by decide
  have hlength : bad.length ≠ 16 := by decide
  obtain ⟨hnames, hoffends, hflags⟩ := codes_agree_with_flags s .empty .forMachine
  obtain ⟨-, hagree, horder⟩ := hnames codes hcodes
  exact ⟨hcodes, hagree flags (by decide) hset,
    horder codes.reverse fun v => List.mem_reverse, hbad, hoffends bad hbad,
    hflat, hlength, (hflags bad hflat).2 hlength⟩

end State

end Chip8
