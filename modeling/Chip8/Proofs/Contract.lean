import Chip8.Proofs.Entries
import Chip8.Proofs.Fields
import Chip8.Settings.Library

/-!
# What a library of configurations promises

A `Library.View` says how the mappings and records of a library are to be read: a mapping as its
entries, a record as the settings that it holds, an override as the key and the value that are
written in it.  `Library.View.Lawful` is what the library promises of them.  Each promise is about
a single step: one entry that is assigned, one override that is added.  What follows for whole lists
is proved here: which entries overrides make (`exists_ofOverrides`), in which places
(`split_ofOverrides`), what a record holds once all entries are assigned (`exists_foldlM`), and why
entries with an unknown key are refused (`foldlM_of_unknown`).
-/

namespace Chip8.Settings

open Entries (put distinct lookup keys)

theorem ok_of_bind {ε α β : Type} {x : Except ε α} {f : α → Except ε β} {b : β}
    (h : (x >>= f) = .ok b) : ∃ a, x = .ok a ∧ f a = .ok b := by
  cases x with
  | error => nomatch h
  | ok a => exact ⟨a, rfl, h⟩

/-- How the mappings and records of a library are to be read. -/
structure Library.View (lib : Library) where
  /-- A value in a mapping. -/
  Value : Type
  entries : lib.Mapping → Entries Value
  /-- Whether a record holds settings, with nothing in it left to be evaluated. -/
  Holds : lib.Record → Settings → Prop
  /-- Give a key of a record a value. -/
  assign : lib.Record → Scalar × Value → Except Refusal lib.Record
  /-- The value of a setting's own kind that a value is converted to. -/
  convert? : Field → Value → Option Scalar
  /-- Whether a mapping can hold a key and a value of these kinds. -/
  Supported : Scalar × Value → Prop
  /-- The entries that are written in a text, if it holds a mapping or nothing. -/
  written? : String → Option (Entries Value)
  /-- The single value that is written in a text. -/
  single? : String → Option Value
  /-- The mapping without entries. -/
  empty : lib.Mapping
  /-- Add an override to a mapping. -/
  update : lib.Mapping → String → Except Refusal lib.Mapping
  /-- The first part of the key that is written in an override. -/
  topName? : String → Option String
  /-- The key and the value that are written in an override, if the key has one part and the value
  is a single one. -/
  override? : String → Option (String × Value)

/-- Whether a name is a key of one part: it has no equals sign and none of the signs that divide
parts. -/
structure IsPlainName (name : String) : Prop where
  equals : '=' ∉ name.toList
  point : '.' ∉ name.toList
  bracket : '[' ∉ name.toList

theorem Field.isPlainName (f : Field) : IsPlainName f.name := by
  cases f <;> exact ⟨by decide, by decide, by decide⟩

/-- What a library promises. -/
structure Library.View.Lawful {lib : Library} (view : lib.View) : Prop where
  /-- A new record holds the settings that it is made of. -/
  holds_record (s : Settings) : view.Holds (lib.record s) s
  settings_of_holds {r : lib.Record} {s : Settings} : view.Holds r s → lib.settings r = .ok s
  /-- A mapping is merged key by key. -/
  merge_eq (r : lib.Record) (m : lib.Mapping) :
    lib.merge r m = (view.entries m).foldlM view.assign r
  /-- A setting is given the converted value, and the other settings keep theirs. -/
  assign_setting {r : lib.Record} {s : Settings} {f : Field} {v : view.Value} {w : Scalar} :
    view.convert? f v = some w → view.Holds r s →
      ∃ r', view.assign r (.text f.name, v) = .ok r' ∧ view.Holds r' (f.put w s)
  /-- A key that names no setting is refused. -/
  assign_unknown (r : lib.Record) {e : Scalar × view.Value} :
    (∀ f : Field, e.1 ≠ .text f.name) → view.assign r e = .error .unknownKey
  /-- A converted value is one that the setting can have. -/
  exists_get {f : Field} {v : view.Value} {w : Scalar} :
    view.convert? f v = some w → ∃ s, f.get s = w
  supported_of_convert? {f : Field} {v : view.Value} {w : Scalar} :
    view.convert? f v = some w → view.Supported (.text f.name, v)
  /-- A file is read with all its entries, or it is refused. -/
  entries_ofFile {text : String} {es : Entries view.Value} {m : lib.Mapping} :
    view.written? text = some es → lib.ofFile text = .ok m → view.entries m = es
  /-- A file is only refused for a key or a value of a kind that no mapping holds. -/
  ofFile_of_supported {text : String} {es : Entries view.Value} :
    view.written? text = some es → (∀ e ∈ es, view.Supported e) → ∃ m, lib.ofFile text = .ok m
  entries_empty : view.entries view.empty = []
  /-- Overrides are added one by one. -/
  ofOverrides_eq (overrides : List String) :
    lib.ofOverrides overrides = overrides.foldlM view.update view.empty
  /-- An override with one name and a single value gives the name that value. -/
  update_override {m : lib.Mapping} {o name : String} {v : view.Value} :
    view.override? o = some (name, v) →
      ∃ m', view.update m o = .ok m' ∧ view.entries m' = put (.text name) v (view.entries m)
  /-- Any override adds its first name to the keys, if it is not there, and no other. -/
  keys_update {m m' : lib.Mapping} {o : String} :
    view.update m o = .ok m' → ∃ name v, view.topName? o = some name ∧
      keys (view.entries m') = keys (put (.text name) v (view.entries m))
  topName?_of_override? {o name : String} {v : view.Value} :
    view.override? o = some (name, v) → view.topName? o = some name
  /-- An override is a name, an equals sign and a value. -/
  override?_assignment {name text : String} {v : view.Value} :
    IsPlainName name → view.single? text = some v →
      view.override? (name ++ "=" ++ text) = some (name, v)

namespace Library.View

variable {lib : Library} (view : lib.View)

/-! ## Values of settings -/

/-- The entry that an override is. -/
def entryOf? (o : String) : Option (Scalar × view.Value) :=
  (view.override? o).map fun e => (.text e.1, e.2)

/-- The value that an entry gives to a setting. -/
def valueIn? (f : Field) (e : Scalar × view.Value) : Option Scalar :=
  if e.1 = .text f.name then view.convert? f e.2 else none

/-- The last of the values that entries give to a setting. -/
def lastIn? (f : Field) (es : Entries view.Value) : Option Scalar :=
  (es.filterMap (view.valueIn? f)).getLast?

/-- The value that an override gives to a setting. -/
def given? (f : Field) (o : String) : Option Scalar := (view.entryOf? o).bind (view.valueIn? f)

/-- The last of the values that overrides give to a setting. -/
def lastGiven? (f : Field) (overrides : List String) : Option Scalar :=
  (overrides.filterMap (view.given? f)).getLast?

/-- Whether an entry gives a value to a setting. -/
def Assigns (e : Scalar × view.Value) : Prop := ∃ f : Field, (view.valueIn? f e).isSome

/-- What overrides make of the keys of a mapping: those that are there stay in their places, and new
ones are first names of the overrides. -/
structure Grows (old : Entries view.Value) (overrides : List String)
    (new : Entries view.Value) : Prop where
  keeps : keys old <+: keys new
  given : ∀ k ∈ keys new, k ∈ keys old ∨
    ∃ o ∈ overrides, ∃ name, view.topName? o = some name ∧ k = .text name
  present : ∀ o ∈ overrides, ∃ name, view.topName? o = some name ∧ .text name ∈ keys new

variable {view}

theorem valueIn?_eq_some_iff {f : Field} {e : Scalar × view.Value} {w : Scalar} :
    view.valueIn? f e = some w ↔ e.1 = .text f.name ∧ view.convert? f e.2 = some w :=
  Option.ite_none_right_eq_some

/-- An entry that gives a value is a name of a setting with a value that the setting takes. -/
theorem Assigns.exists_eq {e : Scalar × view.Value} (h : view.Assigns e) :
    ∃ (f : Field) (v : view.Value) (w : Scalar),
      e = (.text f.name, v) ∧ view.convert? f v = some w := by
  obtain ⟨f, hf⟩ := h
  obtain ⟨w, hw⟩ := Option.isSome_iff_exists.1 hf
  obtain ⟨hkey, hconvert⟩ := valueIn?_eq_some_iff.1 hw
  exact ⟨f, e.2, w, Prod.ext hkey rfl, hconvert⟩

/-- An override gives a value to one setting only. -/
theorem given?_unique {f g : Field} {o : String} (hf : (view.given? f o).isSome)
    (hg : (view.given? g o).isSome) : f = g := by
  obtain ⟨w, hw⟩ := Option.isSome_iff_exists.1 hf
  obtain ⟨w', hw'⟩ := Option.isSome_iff_exists.1 hg
  obtain ⟨e, he, hvalue⟩ := Option.bind_eq_some_iff.1 hw
  obtain ⟨e', he', hvalue'⟩ := Option.bind_eq_some_iff.1 hw'
  obtain rfl : e' = e := Option.some.inj (he'.symm.trans he)
  have hkey := (valueIn?_eq_some_iff.1 hvalue).1.symm.trans (valueIn?_eq_some_iff.1 hvalue').1
  exact Field.name_injective (Scalar.text.inj hkey)

theorem exists_entryOf? {f : Field} {o : String} (h : (view.given? f o).isSome) :
    ∃ e, view.entryOf? o = some e ∧ view.Assigns e := by
  obtain ⟨w, hw⟩ := Option.isSome_iff_exists.1 h
  obtain ⟨e, he, hvalue⟩ := Option.bind_eq_some_iff.1 hw
  exact ⟨e, he, f, Option.isSome_of_eq_some hvalue⟩

theorem lastIn?_filterMap_entryOf? (f : Field) (overrides : List String) :
    view.lastIn? f (overrides.filterMap view.entryOf?) = view.lastGiven? f overrides := by
  rw [lastIn?, lastGiven?, List.filterMap_filterMap]
  rfl

/-- Among entries that all assign, the first with the name of a setting is the first that gives it a
value. -/
theorem findSome?_valueIn? (f : Field) {es : Entries view.Value} (h : ∀ e ∈ es, view.Assigns e) :
    es.findSome? (view.valueIn? f) = (lookup (.text f.name) es).bind (view.convert? f) := by
  induction es with
  | nil => rfl
  | cons e es ih =>
    have hrest := ih fun d hd => h d (List.mem_cons_of_mem e hd)
    rw [List.findSome?_cons, Entries.lookup_cons, valueIn?]
    obtain ⟨g, v, w, rfl, hvalue⟩ := (h e List.mem_cons_self).exists_eq
    by_cases hkey : Scalar.text g.name = .text f.name
    · obtain rfl := Field.name_injective (Scalar.text.inj hkey)
      rw [if_pos rfl, if_pos (Entries.isSameKey_text.2 rfl), hvalue, Option.bind_some, hvalue]
    · rw [if_neg hkey, if_neg fun hsame => hkey (Entries.isSameKey_text.1 hsame)]
      exact hrest

theorem lastIn?_eq_lookup (f : Field) {es : Entries view.Value} (h : ∀ e ∈ es, view.Assigns e) :
    view.lastIn? f es = (lookup (.text f.name) es.reverse).bind (view.convert? f) := by
  rw [lastIn?, List.getLast?_eq_head?_reverse, ← List.filterMap_reverse, List.head?_filterMap,
    findSome?_valueIn? f fun e he => h e (List.mem_reverse.1 he)]

theorem assigns_distinct {es : Entries view.Value} (h : ∀ e ∈ es, view.Assigns e) :
    ∀ e ∈ distinct es, view.Assigns e := by
  intro e he
  refine h e (Entries.mem_of_mem_distinct (fun d hd => ?_) he)
  obtain ⟨f, v, w, rfl, -⟩ := (h d hd).exists_eq
  exact ⟨f.name, rfl⟩

/-- With each key once, a setting has the value that it was given last. -/
theorem lastIn?_distinct (f : Field) {es : Entries view.Value} (h : ∀ e ∈ es, view.Assigns e) :
    view.lastIn? f (distinct es) = view.lastIn? f es := by
  rw [lastIn?_eq_lookup f (assigns_distinct h), lastIn?_eq_lookup f h,
    Entries.lookup_reverse (Entries.keysDiffer_distinct es), Entries.lookup_distinct]

/-! ## Keys of overrides -/

theorem Grows.trans {a b c : Entries view.Value} {os os' : List String}
    (hab : view.Grows a os b) (hbc : view.Grows b os' c) : view.Grows a (os ++ os') c where
  keeps := hab.keeps.trans hbc.keeps
  given k hk := by
    obtain hb | ⟨o, ho, htop⟩ := hbc.given k hk
    · refine (hab.given k hb).imp_right fun ⟨o, ho, htop⟩ => ?_
      exact ⟨o, List.mem_append_left os' ho, htop⟩
    · exact .inr ⟨o, List.mem_append_right os ho, htop⟩
  present o ho := by
    obtain hleft | hright := List.mem_append.1 ho
    · obtain ⟨name, htop, hname⟩ := hab.present o hleft
      exact ⟨name, htop, hbc.keeps.subset hname⟩
    · exact hbc.present o hright

end Library.View

namespace Library.View.Lawful

variable {lib : Library} {view : lib.View} (h : view.Lawful)

include h

/-! ## Merged mappings -/

/-- Entries that all assign are merged, and each setting has its last value. -/
theorem exists_foldlM {es : Entries view.Value} (hes : ∀ e ∈ es, view.Assigns e) {r : lib.Record}
    {s : Settings} (hr : view.Holds r s) :
    ∃ r' s', es.foldlM view.assign r = .ok r' ∧ view.Holds r' s' ∧
      ∀ f : Field, f.get s' = (view.lastIn? f es).getD (f.get s) := by
  induction es generalizing r s with
  | nil => exact ⟨r, s, rfl, hr, fun _ => rfl⟩
  | cons e es ih =>
    obtain ⟨g, v, w, rfl, hconvert⟩ := (hes e List.mem_cons_self).exists_eq
    obtain ⟨r₁, hassign, hholds⟩ := h.assign_setting hconvert hr
    obtain ⟨r', s', hfold, hr', hget⟩ := ih (fun d hd => hes d (List.mem_cons_of_mem _ hd)) hholds
    refine ⟨r', s', ?_, hr', fun f => ?_⟩
    · rw [List.foldlM_cons, hassign]
      exact hfold
    · rw [hget f, lastIn?, lastIn?]
      by_cases hf : f = g
      · subst hf
        rw [List.filterMap_cons_some (valueIn?_eq_some_iff.2 ⟨rfl, hconvert⟩),
          List.getLast?_cons, Option.getD_some, Field.get_put_self (h.exists_get hconvert)]
      · have hnone : view.valueIn? f (.text g.name, v) = none :=
          if_neg fun hsame => hf (Field.name_injective (Scalar.text.inj hsame)).symm
        rw [List.filterMap_cons_none hnone, Field.get_put_of_ne hf]

/-- Entries with an unknown key are refused, for this or for an entry before it. -/
theorem foldlM_of_unknown (front back : Entries view.Value) {e : Scalar × view.Value}
    (he : ∀ f : Field, e.1 ≠ .text f.name) (r : lib.Record) :
    ∃ x, (front ++ e :: back).foldlM view.assign r = .error x ∧
      (x = .unknownKey ∨ ∃ d ∈ front, ∃ r', view.assign r' d = .error x) := by
  induction front generalizing r with
  | nil =>
    refine ⟨.unknownKey, ?_, .inl rfl⟩
    rw [List.nil_append, List.foldlM_cons, h.assign_unknown r he]
    rfl
  | cons d front ih =>
    rw [List.cons_append, List.foldlM_cons]
    cases hd : view.assign r d with
    | error x => exact ⟨x, rfl, .inr ⟨d, List.mem_cons_self, r, hd⟩⟩
    | ok r' =>
      obtain ⟨x, hx, hcause⟩ := ih r'
      refine ⟨x, hx, hcause.imp_right fun ⟨c, hc, hrefused⟩ => ?_⟩
      exact ⟨c, List.mem_cons_of_mem d hc, hrefused⟩

/-! ## Mappings of overrides -/

theorem topName?_of_entryOf? {o : String} {e : Scalar × view.Value}
    (he : view.entryOf? o = some e) :
    ∃ name, e.1 = .text name ∧ view.topName? o = some name := by
  obtain ⟨⟨name, v⟩, ho, rfl⟩ := Option.map_eq_some_iff.1 he
  exact ⟨name, rfl, h.topName?_of_override? ho⟩

/-- Overrides with one name and a single value each make a mapping in which each name has its last
value. -/
theorem exists_ofOverrides {overrides : List String}
    (hentries : ∀ o ∈ overrides, (view.entryOf? o).isSome) :
    ∃ m, lib.ofOverrides overrides = .ok m ∧
      view.entries m = distinct (overrides.filterMap view.entryOf?) := by
  have hfold : ∀ m, ∃ m', overrides.foldlM view.update m = .ok m' ∧
      view.entries m' = (overrides.filterMap view.entryOf?).foldl (fun es e => put e.1 e.2 es)
        (view.entries m) := by
    induction overrides with
    | nil => exact fun m => ⟨m, rfl, rfl⟩
    | cons o os ih =>
      intro m
      obtain ⟨e, he⟩ := Option.isSome_iff_exists.1 (hentries o List.mem_cons_self)
      obtain ⟨⟨name, v⟩, ho, rfl⟩ := Option.map_eq_some_iff.1 he
      obtain ⟨m₁, hm₁, hput⟩ := h.update_override (m := m) ho
      obtain ⟨m', hm', hrest⟩ := ih (fun p hp => hentries p (List.mem_cons_of_mem o hp)) m₁
      refine ⟨m', ?_, ?_⟩
      · rw [List.foldlM_cons, hm₁]
        exact hm'
      · rw [hrest, hput, List.filterMap_cons_some he, List.foldl_cons]
  obtain ⟨m, hm, hes⟩ := hfold view.empty
  rw [h.entries_empty] at hes
  exact ⟨m, (h.ofOverrides_eq overrides).trans hm, hes⟩

theorem grows_of_update {m m' : lib.Mapping} {o : String} (hm : view.update m o = .ok m') :
    view.Grows (view.entries m) [o] (view.entries m') := by
  obtain ⟨name, v, htop, hput⟩ := h.keys_update hm
  refine ⟨?_, fun k hk => ?_, fun p hp => ?_⟩
  · rw [hput]
    exact Entries.keys_prefix_put _ _ _
  · rw [hput] at hk
    exact (Entries.mem_keys_put hk).imp_right fun hkey =>
      ⟨o, List.mem_singleton_self o, name, htop, hkey⟩
  · rw [List.mem_singleton.1 hp, hput]
    exact ⟨name, htop, Entries.text_mem_keys_put name v _⟩

theorem grows_of_foldlM {overrides : List String} {m m' : lib.Mapping}
    (hm : overrides.foldlM view.update m = .ok m') :
    view.Grows (view.entries m) overrides (view.entries m') := by
  induction overrides generalizing m with
  | nil =>
    obtain rfl := Except.ok.inj hm
    exact ⟨List.prefix_rfl, fun k hk => .inl hk, fun o ho => nomatch ho⟩
  | cons o os ih =>
    rw [List.foldlM_cons] at hm
    obtain ⟨m₁, hm₁, hrest⟩ := ok_of_bind hm
    exact (h.grows_of_update hm₁).trans (ih hrest)

/-- In the mapping of overrides the keys before that of an override are first names of those before
it. -/
theorem split_ofOverrides {before after : List String} {o : String} {m : lib.Mapping}
    (hm : lib.ofOverrides (before ++ o :: after) = .ok m) :
    ∃ name front value back, view.topName? o = some name ∧
      view.entries m = front ++ (.text name, value) :: back ∧
      ∀ e ∈ front, ∃ o' ∈ before, ∃ name', view.topName? o' = some name' ∧ e.1 = .text name' := by
  rw [h.ofOverrides_eq, List.foldlM_append] at hm
  obtain ⟨m₁, hm₁, hrest⟩ := ok_of_bind hm
  rw [List.foldlM_cons] at hrest
  obtain ⟨m₂, hm₂, hm₃⟩ := ok_of_bind hrest
  have hstart := h.grows_of_foldlM hm₁
  have hmiddle := h.grows_of_update hm₂
  have hend := h.grows_of_foldlM hm₃
  rw [h.entries_empty] at hstart
  obtain ⟨name, htop, hname⟩ := hmiddle.present o (List.mem_singleton_self o)
  -- the place of the key is the first in which it stands, and all before it is older
  obtain ⟨front, back, hsplit, hfirst⟩ := List.eq_append_cons_of_mem hname
  obtain ⟨more, hmore⟩ := hend.keeps
  rw [hsplit, List.append_assoc, List.cons_append] at hmore
  obtain ⟨frontEntries, others, hentries, hfront, hothers⟩ := List.map_eq_append_iff.1 hmore.symm
  obtain ⟨⟨_, value⟩, backEntries, rfl, rfl, -⟩ := List.map_eq_cons_iff.1 hothers
  refine ⟨name, frontEntries, value, backEntries, htop, hentries, fun e he => ?_⟩
  have hmem : e.1 ∈ front := by
    rw [← hfront]
    exact List.mem_map_of_mem he
  have hold : e.1 ∈ keys (view.entries m₂) := by
    rw [hsplit]
    exact List.mem_append_left _ hmem
  obtain hin | ⟨o', ho', name', htop', hkey⟩ := hmiddle.given _ hold
  · obtain hnil | hbefore := hstart.given _ hin
    · exact absurd hnil List.not_mem_nil
    · exact hbefore
  · rw [List.mem_singleton.1 ho', htop] at htop'
    obtain rfl := Option.some.inj htop'
    exact absurd (hkey ▸ hmem) hfirst

end Library.View.Lawful

end Chip8.Settings
