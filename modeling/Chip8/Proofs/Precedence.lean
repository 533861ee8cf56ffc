import Chip8.Proofs.Forwarding
import Chip8.Proofs.Layered

/-!
# The last setting wins

With any lawful library a setting has the value of its last override, else that of the file, else
its default (`LastWins`).  Overrides become one mapping before they are merged, so a refused value
may stand behind an unknown key and still be the one that is reported: the last value of a key that
comes before the unknown one (`OverrideFailure`).
-/

namespace Chip8.Settings

open Document (Content)
open Entries (distinct lookup put)

variable {lib : Library} {view : lib.View}

/-! ## Settings that exist -/

/-- The entries of a file; without a file there are none. -/
def Library.View.entriesOf? (view : lib.View) : Option String → Option (Entries view.Value)
  | some text => view.written? text
  | none => some []

/-- A file whose entries all assign gives each setting its last value. -/
theorem exists_fromFile (h : view.Lawful) {content : Option String} {entries : Entries view.Value}
    (hcontent : view.entriesOf? content = some entries)
    (hentries : ∀ e ∈ entries, view.Assigns e) :
    ∃ r s, lib.fromFile content = .ok r ∧ view.Holds r s ∧
      ∀ f : Field, f.get s = (view.lastIn? f entries).getD (f.get {}) := by
  have hdefaults := h.holds_record {}
  cases content with
  | none =>
    obtain rfl := Option.some.inj hcontent
    exact ⟨_, _, rfl, hdefaults, fun _ => rfl⟩
  | some text =>
    have hsupported : ∀ e ∈ entries, view.Supported e := fun e he => by
      obtain ⟨f, v, w, rfl, hconvert⟩ := (hentries e he).exists_eq
      exact h.supported_of_convert? hconvert
    obtain ⟨m, hm⟩ := h.ofFile_of_supported hcontent hsupported
    obtain ⟨r, s, hfold, hr, hget⟩ := h.exists_foldlM hentries hdefaults
    refine ⟨r, s, ?_, hr, hget⟩
    rw [Library.fromFile, hm, ← hfold, ← h.entries_ofFile hcontent hm]
    exact h.merge_eq _ m

/-- Overrides that all assign give each setting its last value. -/
theorem exists_overridden (h : view.Lawful) {overrides : List String}
    (hoverrides : ∀ o ∈ overrides, ∃ f : Field, (view.given? f o).isSome) {r : lib.Record}
    {s : Settings} (hr : view.Holds r s) :
    ∃ r' s', lib.overridden overrides r = .ok r' ∧ view.Holds r' s' ∧
      ∀ f : Field, f.get s' = (view.lastGiven? f overrides).getD (f.get s) := by
  have hgiven : ∀ e ∈ overrides.filterMap view.entryOf?, view.Assigns e := fun e he => by
    obtain ⟨o, ho, hentry⟩ := List.mem_filterMap.1 he
    obtain ⟨f, hf⟩ := hoverrides o ho
    obtain ⟨e', he', hassigns⟩ := Library.View.exists_entryOf? hf
    exact Option.some.inj (he'.symm.trans hentry) ▸ hassigns
  obtain ⟨m, hm, hes⟩ := h.exists_ofOverrides fun o ho => by
    obtain ⟨f, hf⟩ := hoverrides o ho
    obtain ⟨e, he, -⟩ := Library.View.exists_entryOf? hf
    exact Option.isSome_of_eq_some he
  obtain ⟨r', s', hfold, hr', hget⟩ := h.exists_foldlM (Library.View.assigns_distinct hgiven) hr
  cases overrides with
  | nil => exact ⟨r, s, rfl, hr, fun _ => rfl⟩
  | cons o os =>
    refine ⟨r', s', ?_, hr', fun f => ?_⟩
    · rw [← hfold, ← hes, ← h.merge_eq, Library.overridden, hm]
      rfl
    · rw [hget, Library.View.lastIn?_distinct f hgiven,
        Library.View.lastIn?_filterMap_entryOf? f (o :: os)]

/-- Files and overrides that assign are loaded, and each setting has its last value. -/
theorem exists_load (h : view.Lawful) {content : Option String} {entries : Entries view.Value}
    {overrides : List String} (hcontent : view.entriesOf? content = some entries)
    (hentries : ∀ e ∈ entries, view.Assigns e)
    (hoverrides : ∀ o ∈ overrides, ∃ f : Field, (view.given? f o).isSome) :
    ∃ s, lib.load content overrides = .ok s ∧ ∀ f : Field,
      f.get s = ((view.lastGiven? f overrides).or (view.lastIn? f entries)).getD (f.get {}) := by
  obtain ⟨r, s, hfile, hr, hget⟩ := exists_fromFile h hcontent hentries
  obtain ⟨r', s', hover, hr', hget'⟩ := exists_overridden h hoverrides hr
  refine ⟨s', ?_, fun f => ?_⟩
  · rw [Library.load, hfile]
    simp only [bind, Except.bind, hover, h.settings_of_holds hr']
  · rw [hget', hget]
    cases view.lastGiven? f overrides with
    | none => rfl
    | some w => rfl

/-- Overrides that give every setting the same last value make the same settings. -/
theorem load_congr (h : view.Lawful) {content : Option String} {entries : Entries view.Value}
    {overrides overrides' : List String} (hcontent : view.entriesOf? content = some entries)
    (hentries : ∀ e ∈ entries, view.Assigns e)
    (hoverrides : ∀ o ∈ overrides, ∃ f : Field, (view.given? f o).isSome)
    (hoverrides' : ∀ o ∈ overrides', ∃ f : Field, (view.given? f o).isSome)
    (hlast : ∀ f : Field, view.lastGiven? f overrides' = view.lastGiven? f overrides) :
    lib.load content overrides' = lib.load content overrides := by
  obtain ⟨s, hs, hget⟩ := exists_load h hcontent hentries hoverrides
  obtain ⟨s', hs', hget'⟩ := exists_load h hcontent hentries hoverrides'
  rw [hs, hs']
  refine congrArg _ (Field.ext_get fun f => ?_)
  rw [hget, hget', hlast]

theorem lastGiven?_insert (f : Field) {before after : List String} {o : String}
    (h : (view.given? f o).isSome → ∃ o' ∈ after, (view.given? f o').isSome) :
    view.lastGiven? f (before ++ o :: after) = view.lastGiven? f (before ++ after) := by
  rw [Library.View.lastGiven?, Library.View.lastGiven?, List.filterMap_append,
    List.filterMap_append]
  cases ho : view.given? f o with
  | none => rw [List.filterMap_cons_none ho]
  | some w =>
    obtain ⟨o', ho', hvalue⟩ := h (Option.isSome_of_eq_some ho)
    obtain ⟨w', hw'⟩ := Option.isSome_iff_exists.1 hvalue
    have hne : after.filterMap (view.given? f) ≠ [] :=
      List.ne_nil_of_mem (List.mem_filterMap.2 ⟨o', ho', hw'⟩)
    rw [List.filterMap_cons_some ho, List.getLast?_append, List.getLast?_append,
      List.getLast?_cons_of_ne_nil hne]

/-- The name of a setting, an equals sign and a value that the setting takes. -/
theorem given?_assignment (h : view.Lawful) {f : Field} {text : String} {v : view.Value}
    {w : Scalar} (htext : view.single? text = some v) (hv : view.convert? f v = some w) :
    view.given? f (f.name ++ "=" ++ text) = some w := by
  have hoverride := h.override?_assignment f.isPlainName htext
  rw [Library.View.given?, Library.View.entryOf?, hoverride]
  exact Library.View.valueIn?_eq_some_iff.2 ⟨rfl, hv⟩

/-- What files and overrides become that all assign. -/
structure LastWins (view : lib.View) (content : Option String) (entries : Entries view.Value)
    (overrides : List String) : Prop where
  /-- Each setting has the value of its last override, else that of the file, else its default. -/
  values : ∃ s, lib.load content overrides = .ok s ∧ ∀ f : Field,
    f.get s = ((view.lastGiven? f overrides).or (view.lastIn? f entries)).getD (f.get {})
  /-- Overrides of different settings may change places. -/
  permuted : ∀ overrides' : List String, overrides'.Perm overrides →
    (∀ f : Field, overrides'.filterMap (view.given? f) = overrides.filterMap (view.given? f)) →
    lib.load content overrides' = lib.load content overrides
  /-- An override does not matter before another of the same setting. -/
  repeated : ∀ (before after : List String) (o o' : String) (f : Field),
    overrides = before ++ after → o' ∈ after → (view.given? f o).isSome →
    (view.given? f o').isSome →
    lib.load content (before ++ o :: after) = lib.load content overrides

theorem lastWins (h : view.Lawful) {content : Option String} {entries : Entries view.Value}
    {overrides : List String} (hcontent : view.entriesOf? content = some entries)
    (hentries : ∀ e ∈ entries, view.Assigns e)
    (hoverrides : ∀ o ∈ overrides, ∃ f : Field, (view.given? f o).isSome) :
    LastWins view content entries overrides where
  values := exists_load h hcontent hentries hoverrides
  permuted overrides' hperm hsame := by
    refine load_congr h hcontent hentries hoverrides (fun o ho => ?_) fun f => ?_
    · exact hoverrides o (hperm.mem_iff.1 ho)
    · rw [Library.View.lastGiven?, hsame, Library.View.lastGiven?]
  repeated before after o o' f hsplit ho' hf hf' := by
    subst hsplit
    refine load_congr h hcontent hentries hoverrides (fun p hp => ?_) fun g => ?_
    · obtain hbefore | hrest := List.mem_append.1 hp
      · exact hoverrides p (List.mem_append_left after hbefore)
      · obtain rfl | hafter := List.mem_cons.1 hrest
        · exact ⟨f, hf⟩
        · exact hoverrides p (List.mem_append_right before hafter)
    · exact lastGiven?_insert g fun hg => ⟨o', ho', Library.View.given?_unique hf hg ▸ hf'⟩

/-! ## Settings that do not exist -/

/-- Why a file is refused in which an entry behind `front` names no setting. -/
inductive EntryFailure (view : lib.View) (text : String) (front : Entries view.Value) :
    Refusal → Prop where
  /-- For that entry. -/
  | unknown : EntryFailure view text front .unknownKey
  /-- For a key or a value that no mapping holds; all are looked at first. -/
  | unread {x : Refusal} (h : lib.ofFile text = .error x) : EntryFailure view text front x
  /-- For an entry before it. -/
  | earlier {x : Refusal} {e : Scalar × view.Value} {r : lib.Record} (he : e ∈ front)
    (h : view.assign r e = .error x) : EntryFailure view text front x

/-- Why overrides are refused of which one behind `before` names no setting. -/
inductive OverrideFailure (view : lib.View) (overrides before : List String) :
    Refusal → Prop where
  /-- For that override. -/
  | unknown : OverrideFailure view overrides before .unknownKey
  /-- For one that cannot be read or not be added; all are added first. -/
  | unread {x : Refusal} (h : lib.ofOverrides overrides = .error x) :
    OverrideFailure view overrides before x
  /-- For a key that one before it gives, with the value that the key has in the end. -/
  | earlier {x : Refusal} {m : lib.Mapping} {o name : String} {value : view.Value} {r : lib.Record}
    (hm : lib.ofOverrides overrides = .ok m) (he : (.text name, value) ∈ view.entries m)
    (ho : o ∈ before) (htop : view.topName? o = some name)
    (h : view.assign r (.text name, value) = .error x) : OverrideFailure view overrides before x

theorem EntryFailure.of_supported (h : view.Lawful) {text : String}
    {entries front : Entries view.Value} {x : Refusal} (hx : EntryFailure view text front x)
    (htext : view.written? text = some entries) (hsupported : ∀ e ∈ entries, view.Supported e) :
    x = .unknownKey ∨ ∃ e ∈ front, ∃ r, view.assign r e = .error x := by
  cases hx with
  | unknown => exact .inl rfl
  | unread hfile =>
    obtain ⟨m, hm⟩ := h.ofFile_of_supported htext hsupported
    rw [hm] at hfile
    nomatch hfile
  | earlier he hx => exact .inr ⟨_, he, _, hx⟩

/-- Among single values the refused one is the last that is given to its key. -/
theorem OverrideFailure.of_entries (h : view.Lawful) {overrides before : List String} {x : Refusal}
    (hx : OverrideFailure view overrides before x)
    (hentries : ∀ o ∈ overrides, (view.entryOf? o).isSome) (hbefore : before ⊆ overrides) :
    x = .unknownKey ∨ ∃ o ∈ before, ∃ e value r, view.entryOf? o = some e ∧
      lookup e.1 (overrides.filterMap view.entryOf?).reverse = some value ∧
      view.assign r (e.1, value) = .error x := by
  obtain ⟨m', hm', hes⟩ := h.exists_ofOverrides hentries
  cases hx with
  | unknown => exact .inl rfl
  | unread hrefused =>
    rw [hm'] at hrefused
    nomatch hrefused
  | @earlier _ m o name value r hm he ho htop hx =>
    obtain rfl := Except.ok.inj (hm'.symm.trans hm)
    obtain ⟨e, hentry⟩ := Option.isSome_iff_exists.1 (hentries o (hbefore ho))
    obtain ⟨name', hkey, htop'⟩ := h.topName?_of_entryOf? hentry
    obtain rfl := Option.some.inj (htop.symm.trans htop')
    rw [hes] at he
    have hlast := Entries.lookup_of_mem (Entries.keysDiffer_distinct _) he
    rw [Entries.lookup_distinct] at hlast
    exact .inr ⟨o, ho, e, value, r, hentry, hkey ▸ hlast, hkey ▸ hx⟩

theorem load_of_unknown_entry (h : view.Lawful) {text : String} {front back : Entries view.Value}
    {e : Scalar × view.Value} (htext : view.written? text = some (front ++ e :: back))
    (he : ∀ f : Field, e.1 ≠ .text f.name) (overrides : List String) :
    ∃ x, lib.load (some text) overrides = .error x ∧ EntryFailure view text front x := by
  rw [Library.load, Library.fromFile]
  cases hfile : lib.ofFile text with
  | error x => exact ⟨x, rfl, .unread hfile⟩
  | ok m =>
    obtain ⟨x, hx, hcause⟩ := h.foldlM_of_unknown front back he (lib.record {})
    rw [← h.entries_ofFile htext hfile, ← h.merge_eq] at hx
    refine ⟨x, ?_, ?_⟩
    · simp only [bind, Except.bind, hx]
    · obtain rfl | ⟨d, hd, r, hr⟩ := hcause
      · exact .unknown
      · exact .earlier hd hr

theorem load_of_unknown_override (h : view.Lawful) {before after : List String} {o : String}
    (ho : ∀ f : Field, view.topName? o ≠ some f.name) (content : Option String) :
    ∃ x, lib.load content (before ++ o :: after) = .error x ∧
      (lib.fromFile content = .error x ∨
        OverrideFailure view (before ++ o :: after) before x) := by
  have hempty : (before ++ o :: after).isEmpty = false := by
    rw [List.isEmpty_eq_false_iff]
    exact List.append_ne_nil_of_right_ne_nil before (List.cons_ne_nil o after)
  rw [Library.load]
  cases hrecord : lib.fromFile content with
  | error x => exact ⟨x, rfl, .inl rfl⟩
  | ok r =>
    simp only [bind, Except.bind, Library.overridden, hempty, Bool.false_eq_true, if_false]
    cases hm : lib.ofOverrides (before ++ o :: after) with
    | error x => exact ⟨x, rfl, .inr (.unread hm)⟩
    | ok m =>
      obtain ⟨name, front, value, back, htop, hsplit, hfront⟩ := h.split_ofOverrides hm
      have hkey : ∀ f : Field, Scalar.text name ≠ .text f.name := fun f hf =>
        ho f (Scalar.text.inj hf ▸ htop)
      obtain ⟨x, hx, hcause⟩ := h.foldlM_of_unknown front back (e := (.text name, value)) hkey r
      rw [← hsplit, ← h.merge_eq] at hx
      refine ⟨x, ?_, .inr ?_⟩
      · simp only [hx]
      · obtain rfl | ⟨⟨key, value'⟩, he, r', hr'⟩ := hcause
        · exact .unknown
        · obtain ⟨o', ho', name', htop', rfl⟩ := hfront _ he
          exact .earlier hm (hsplit ▸ List.mem_append_left _ he) ho' htop' hr'

/-- The last of the values given to a key is looked at first, where the key stands first. -/
theorem load_of_later_refused (h : view.Lawful) {f : Field} {first between last key : String}
    {v₁ v₂ v₃ : view.Value} {x : Refusal} (hfirst : view.override? first = some (f.name, v₁))
    (hbetween : view.override? between = some (key, v₂)) (hkey : key ≠ f.name)
    (hlast : view.override? last = some (f.name, v₃))
    (hx : ∀ r, view.assign r (.text f.name, v₃) = .error x) :
    lib.load none [first, between, last] = .error x := by
  have hentries : [first, between, last].filterMap view.entryOf? =
      [(.text f.name, v₁), (.text key, v₂), (.text f.name, v₃)] := by
    simp [Library.View.entryOf?, hfirst, hbetween, hlast]
  have hsome : ∀ o ∈ [first, between, last], (view.entryOf? o).isSome := by
    simp [Library.View.entryOf?, hfirst, hbetween, hlast]
  obtain ⟨m, hm, hes⟩ := h.exists_ofOverrides hsome
  have hmerged : view.entries m = [(.text f.name, v₃), (.text key, v₂)] := by
    rw [hes, hentries]
    have hother : Scalar.isSameKey (.text f.name) (.text key) = false := by
      rw [Bool.eq_false_iff]
      exact fun hsame => hkey (Scalar.text.inj (Entries.isSameKey_text.1 hsame)).symm
    simp [distinct, put, hother, Entries.isSameKey_text]
  simp only [Library.load, Library.fromFile, Library.overridden, bind, Except.bind, hm,
    List.isEmpty_cons, Bool.false_eq_true, if_false, h.merge_eq, hmerged, List.foldlM_cons, hx]

/-- With any library that keeps its promises, the last value of each setting decides, in any order
of the settings and behind any values given before it.  A setting that does not exist is refused,
for itself or for what is looked at before it.  The timer period is at least one for frequencies of
either sign. -/
theorem last_setting_wins {lib : Library} {view : lib.View} (h : view.Lawful)
    (content : Option String) (overrides : List String) :
    (∀ (f : Field) text v w, view.single? text = some v → view.convert? f v = some w →
      view.given? f (f.name ++ "=" ++ text) = some w) ∧
    (∀ entries, view.entriesOf? content = some entries →
      (∀ e ∈ entries, view.Assigns e) →
      (∀ o ∈ overrides, ∃ f : Field, (view.given? f o).isSome) →
      LastWins view content entries overrides) ∧
    (∀ text front e back, content = some text → view.written? text = some (front ++ e :: back) →
      (∀ f : Field, e.1 ≠ .text f.name) →
      ∃ x, lib.load content overrides = .error x ∧ EntryFailure view text front x ∧
        ((∀ d ∈ front ++ e :: back, view.Supported d) →
          x = .unknownKey ∨ ∃ d ∈ front, ∃ r, view.assign r d = .error x)) ∧
    (∀ before o after, overrides = before ++ o :: after →
      (∀ f : Field, view.topName? o ≠ some f.name) →
      ∃ x, lib.load content overrides = .error x ∧
        (lib.fromFile content = .error x ∨ OverrideFailure view overrides before x ∧
          ((∀ p ∈ overrides, (view.entryOf? p).isSome) →
            x = .unknownKey ∨ ∃ p ∈ before, ∃ d value r, view.entryOf? p = some d ∧
              lookup d.1 (overrides.filterMap view.entryOf?).reverse = some value ∧
              view.assign r (d.1, value) = .error x))) ∧
    (∀ s, lib.load content overrides = .ok s → s.timerFrequency ≠ 0 →
      ∃ n, s.instructionsPerFrame = .ok n ∧ 1 ≤ n ∧
        (n : ℤ) = max 1 ⌊(s.instructionFrequency : ℚ) / s.timerFrequency⌋) := by
  refine ⟨fun f text v w htext hv => given?_assignment h htext hv,
    fun entries hcontent hentries hoverrides => lastWins h hcontent hentries hoverrides,
    fun text front e back hcontent htext he => ?_, fun before o after hsplit ho => ?_,
    fun s _ hticks => ?_⟩
  · subst hcontent
    obtain ⟨x, hx, hcause⟩ := load_of_unknown_entry h htext he overrides
    exact ⟨x, hx, hcause, hcause.of_supported h htext⟩
  · subst hsplit
    obtain ⟨x, hx, hcause⟩ := load_of_unknown_override h ho content
    exact ⟨x, hx, hcause.imp_right fun hfail =>
      ⟨hfail, fun hentries => hfail.of_entries h hentries (List.subset_append_left before _)⟩⟩
  · have hperiod := Settings.instructionsPerFrame_eq_period hticks
    refine ⟨s.period, hperiod, Settings.one_le_instructionsPerFrame hperiod, ?_⟩
    rw [Settings.period, Int.toNat_of_nonneg (le_max_of_le_left zero_le_one)]

/-- A file and an override that assign, an unknown entry, an unknown override before the last value
of a key, and a negative frequency. -/
theorem last_setting_wins_each :
    (layeredView.single? "-9" = some (.scalar (.int (-9))) ∧
      layeredView.given? .timerFrequency "timer_frequency=-9" = some (.int (-9))) ∧
    (∃ entries, layeredView.entriesOf? (some "seed: 3") = some entries ∧
      (∀ e ∈ entries, layeredView.Assigns e) ∧
      (∀ o ∈ ["timer_frequency=-9"], ∃ f : Field, (layeredView.given? f o).isSome) ∧
      LastWins layeredView (some "seed: 3") entries ["timer_frequency=-9"]) ∧
    (∃ e back, layeredView.written? "turbo: 3" = some ([] ++ e :: back) ∧
      (∀ f : Field, e.1 ≠ .text f.name) ∧
      ∃ x, layered.load (some "turbo: 3") [] = .error x ∧
        EntryFailure layeredView "turbo: 3" [] x) ∧
    ((∀ f : Field, layeredView.topName? "turbo=2" ≠ some f.name) ∧
      ∃ x, layered.load none ["seed=1", "turbo=2", "seed=abc"] = .error x ∧
        (layered.fromFile none = .error x ∨
          OverrideFailure layeredView ["seed=1", "turbo=2", "seed=abc"] ["seed=1"] x)) ∧
    (layered.load none ["timer_frequency=-9"] = .ok { timerFrequency := -9 } ∧
      ∃ n, Settings.instructionsPerFrame { timerFrequency := -9 } = .ok n ∧ 1 ≤ n) := by
  have hsingle : layeredView.single? "-9" = some (.scalar (.int (-9))) :=
    Option.map_eq_some_iff.2 ⟨_, by decide +kernel, rfl⟩
  have hgiven : layeredView.given? .timerFrequency "timer_frequency=-9" = some (.int (-9)) := by
    have hassigns := (last_setting_wins lawful_layeredView none []).1 .timerFrequency "-9" _ _
      hsingle rfl
    rwa [show Field.timerFrequency.name ++ "=" ++ "-9" = "timer_frequency=-9" by decide] at hassigns
  have hgivens : ∀ o ∈ ["timer_frequency=-9"], ∃ f : Field, (layeredView.given? f o).isSome :=
    fun o ho => ⟨_, List.mem_singleton.1 ho ▸ Option.isSome_of_eq_some hgiven⟩
  have hvalues : (mappingOf? "seed: 3").map (List.map (layeredView.valueIn? .seed)) =
      some [some (.int 3)] := by decide +kernel
  obtain ⟨entries, hfile, hmap⟩ := Option.map_eq_some_iff.1 hvalues
  have hassigns : ∀ e ∈ entries, layeredView.Assigns e := fun e he => by
    have hmem := List.mem_map_of_mem (f := layeredView.valueIn? .seed) he
    rw [hmap] at hmem
    exact ⟨.seed, Option.isSome_of_eq_some (List.mem_singleton.1 hmem)⟩
  have hkeys : (mappingOf? "turbo: 3").map Entries.keys = some [.text "turbo"] := by
    decide +kernel
  obtain ⟨unknown, hunknown, hmap'⟩ := Option.map_eq_some_iff.1 hkeys
  obtain ⟨e, back, rfl, hkey, -⟩ := List.map_eq_cons_iff.1 hmap'
  have hname : ∀ f : Field, "turbo" ≠ f.name := by
    intro f
    cases f <;> decide
  have hentry : ∀ f : Field, e.1 ≠ .text f.name := fun f hf =>
    hname f (Scalar.text.inj (hkey.symm.trans hf))
  have htop : ∀ f : Field, topNameOf? "turbo=2" ≠ some f.name := by
    have hturbo : topNameOf? "turbo=2" = some "turbo" := by decide +kernel
    exact fun f hf => hname f (Option.some.inj (hturbo.symm.trans hf))
  have hload : layered.load none ["timer_frequency=-9"] = .ok { timerFrequency := -9 } := by
    decide +kernel
  refine ⟨⟨hsingle, hgiven⟩, ⟨entries, hfile, hassigns, hgivens, ?_⟩,
    ⟨e, back, hunknown, hentry, ?_⟩, ⟨htop, ?_⟩, hload, ?_⟩
  · exact (last_setting_wins lawful_layeredView _ _).2.1 entries hfile hassigns hgivens
  · obtain ⟨x, hx, hcause, -⟩ := (last_setting_wins lawful_layeredView (some "turbo: 3") []).2.2.1
      _ [] e back rfl hunknown hentry
    exact ⟨x, hx, hcause⟩
  · obtain ⟨x, hx, hcause⟩ := (last_setting_wins lawful_layeredView none
      ["seed=1", "turbo=2", "seed=abc"]).2.2.2.1 ["seed=1"] "turbo=2" ["seed=abc"] rfl htop
    exact ⟨x, hx, hcause.imp_right And.left⟩
  · obtain ⟨n, hn, hpos, -⟩ := (last_setting_wins lawful_layeredView none
      ["timer_frequency=-9"]).2.2.2.2 _ hload (by decide)
    exact ⟨n, hn, hpos⟩

/-- The failure need not be that of the unknown key or of an override before it: with any library
that keeps its promises `seed` is accepted with the first of its values, and the refusal is that of
the last. -/
theorem later_value_refused_first :
    (∀ (lib : Library) (view : lib.View), view.Lawful → ∀ v₁ v₂ v₃ x,
      view.override? "seed=1" = some ("seed", v₁) → (view.convert? .seed v₁).isSome →
      view.override? "turbo=2" = some ("turbo", v₂) →
      view.override? "seed=abc" = some ("seed", v₃) →
      (∀ r, view.assign r (.text "seed", v₃) = .error x) →
      (∃ s, lib.load none ["seed=1"] = .ok s) ∧
        lib.load none ["seed=1", "turbo=2", "seed=abc"] = .error x) ∧
    Field.ofName? "turbo" = none ∧ layered.load none ["seed=1"] = .ok { seed := 1 } ∧
    layered.load none ["seed=1", "turbo=2", "seed=abc"] = .error (.invalidValue "seed") ∧
    Refusal.invalidValue "seed" ≠ .unknownKey := by
  refine ⟨fun lib view h v₁ v₂ v₃ x hfirst hv hbetween hlast hx => ⟨?_, ?_⟩, by decide,
    by decide +kernel, by decide +kernel, by decide⟩
  · have hgiven : view.given? .seed "seed=1" = view.convert? .seed v₁ := by
      rw [Library.View.given?, Library.View.entryOf?, hfirst, Option.map_some, Option.bind_some]
      exact if_pos rfl
    have hnone : view.entriesOf? none = some [] := rfl
    obtain ⟨s, hs, -⟩ := exists_load h hnone (fun e he => nomatch he)
      fun o ho => ⟨.seed, List.mem_singleton.1 ho ▸ hgiven ▸ hv⟩
    exact ⟨s, hs⟩
  · exact load_of_later_refused h (f := .seed) hfirst hbetween (by decide) hlast hx

end Chip8.Settings
