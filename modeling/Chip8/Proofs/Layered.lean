import Chip8.Proofs.Contract
import Chip8.Proofs.Conversion

/-!
# The library of layers

The library of layers and drafts keeps what `Library.View.Lawful` asks for (`lawful_layeredView`).
A layer is its own list of entries, and a draft holds settings if nothing in it is an expression.
-/

namespace Chip8.Settings

open Document (Content)
open Entries (put keys)

/-! ## Drafts -/

/-- The value that a setting takes a content for. -/
def Field.ofContent? (f : Field) : Content → Option Scalar
  | .scalar v => f.convert? v
  | _ => none

theorem Field.ofContent?_eq_some_iff {f : Field} {v : Content} {w : Scalar} :
    f.ofContent? v = some w ↔ ∃ s, v = .scalar s ∧ f.convert? s = some w := by
  cases v with
  | scalar s => simp [ofContent?]
  | list | mapping | set | endless => simp [ofContent?]

namespace Draft

theorem set_of_convert? {f : Field} {v w : Scalar} (h : f.convert? v = some w) (s : Settings) :
    ({ settings := s } : Draft).set (.text f.name) (.scalar v) =
      .ok { settings := f.put w s } := by
  have hplain := Field.isPlain_of_convert? h
  simp [set, Field.ofName?_name, setField, hplain.closed, hplain.literal, Field.set?_eq, h,
    withoutExpression]

theorem set_of_unknown {key : Scalar} (h : ∀ f : Field, key ≠ .text f.name) (value : Content)
    (d : Draft) : d.set key value = .error .unknownKey := by
  cases key with
  | text name =>
    have hnone : Field.ofName? name = none :=
      List.find?_eq_none.2 fun f _ hname => h f (by rw [← eq_of_beq hname])
    rw [set, hnone]
  | null | flag | int | real | bytes | time => rfl

/-- Without expressions there is nothing to evaluate. -/
theorem resolve_of_literal (s : Settings) : ({ settings := s } : Draft).resolve = .ok s := by
  have hfold : ∀ fs : List Field, fs.foldlM (fun s' f => do
      let v ← ({ settings := s } : Draft).value Field.all.length f
      pure ((f.set? v s').getD s')) s = (.ok s : Except Refusal Settings) := by
    intro fs
    induction fs with
    | nil => rfl
    | cons f fs ih =>
      have hput : (f.set? (f.get s) s).getD s = s := by rw [f.set?_get, Option.getD_some]
      rw [List.foldlM_cons]
      simp only [value, List.lookup_nil, bind, Except.bind, pure, Except.pure, hput]
      exact ih
  exact hfold Field.all

end Draft

/-! ## Files -/

/-- The mapping that a text holds; a text without a value stands for one without entries. -/
def mappingOf? (text : String) : Option Layer :=
  match contentOfText text with
  | .ok (.mapping entries) => some entries
  | .ok (.scalar .null) => some []
  | _ => none

/-- The entries of a file are its layer once they are accepted. -/
theorem layerOfFile_eq {text : String} {entries : Layer} (h : mappingOf? text = some entries) :
    layerOfFile text = (Content.acceptEntries entries).map fun _ => entries := by
  unfold mappingOf? at h
  split at h
  · next held hmapping =>
    obtain rfl := Option.some.inj h
    simp only [layerOfFile, hmapping, bind, Except.bind, Content.isCollection,
      layerOfCollection, Content.accept]
    cases Content.acceptEntries held <;> rfl
  · next hnull =>
    obtain rfl := Option.some.inj h
    simp only [layerOfFile, hnull]
    rfl
  · cases h

/-- A key and a value of kinds that settings could have. -/
structure Accepted (e : Scalar × Content) : Prop where
  key : Content.acceptKey e.1 = .ok ()
  value : e.2.accept = .ok ()

theorem acceptEntries_of_accepted {entries : Layer} (h : ∀ e ∈ entries, Accepted e) :
    Content.acceptEntries entries = .ok () := by
  induction entries with
  | nil => rfl
  | cons e es ih =>
    have hhead := h e List.mem_cons_self
    have hrest := ih fun d hd => h d (List.mem_cons_of_mem e hd)
    simp only [Content.acceptEntries, hhead.key, hhead.value, hrest, bind, Except.bind]

theorem exists_layerOfFile {text : String} {entries : Layer} (h : mappingOf? text = some entries)
    (haccepted : ∀ e ∈ entries, Accepted e) : ∃ layer, layerOfFile text = .ok layer := by
  rw [layerOfFile_eq h, acceptEntries_of_accepted haccepted]
  exact ⟨entries, rfl⟩

theorem eq_of_layerOfFile {text : String} {entries layer : Layer}
    (h : mappingOf? text = some entries) (hlayer : layerOfFile text = .ok layer) :
    layer = entries := by
  rw [layerOfFile_eq h] at hlayer
  cases haccept : Content.acceptEntries entries with
  | error r =>
    rw [haccept] at hlayer
    nomatch hlayer
  | ok =>
    rw [haccept] at hlayer
    exact (Except.ok.inj hlayer).symm

/-! ## Overrides -/

/-- A single value that settings could have. -/
def scalarOf? : Except Refusal Content → Option Scalar
  | .ok (.scalar v) => if Content.acceptScalar v = .ok () then some v else none
  | _ => none

theorem scalarOf?_eq_some_iff {x : Except Refusal Content} {v : Scalar} :
    scalarOf? x = some v ↔ x = .ok (.scalar v) ∧ Content.acceptScalar v = .ok () := by
  unfold scalarOf?
  split
  · next w =>
    rw [Option.ite_none_right_eq_some, Option.some.injEq, Except.ok.injEq, Content.scalar.injEq]
    constructor
    · rintro ⟨haccept, rfl⟩
      exact ⟨rfl, haccept⟩
    · rintro ⟨rfl, haccept⟩
      exact ⟨haccept, rfl⟩
  · next hother => exact iff_of_false (fun h => nomatch h) fun h => hother v h.1

-- Only their own lemmas open the two definitions: unification would run the readers of keys.

/-- The name and the single value of an override. -/
@[irreducible] def assignmentOf? (o : String) : Option (String × Scalar) :=
  match keyParts (splitOverride o).1 with
  | [name] => (scalarOf? (writtenValue (splitOverride o).2)).map fun v => (name, v)
  | _ => none

/-- The first part of the key of an override. -/
@[irreducible] def topNameOf? (o : String) : Option String := (keyParts (splitOverride o).1).head?

theorem assignmentOf?_eq_some_iff {o name : String} {v : Scalar} :
    assignmentOf? o = some (name, v) ↔ keyParts (splitOverride o).1 = [name] ∧
      scalarOf? (writtenValue (splitOverride o).2) = some v := by
  unfold assignmentOf?
  split
  · next part hparts =>
    rw [hparts, Option.map_eq_some_iff, List.cons.injEq]
    simp only [Prod.mk.injEq, and_true]
    constructor
    · rintro ⟨_, hvalue, rfl, rfl⟩
      exact ⟨rfl, hvalue⟩
    · rintro ⟨rfl, hvalue⟩
      exact ⟨v, hvalue, rfl, rfl⟩
  · next hother => exact iff_of_false (fun h => nomatch h) fun h => hother name h.1

/-- A single value takes the place of whatever is there. -/
theorem replaceBy_scalar {v : Scalar} (h : Content.acceptScalar v = .ok ())
    (old : Option Content) : Content.replaceBy (.scalar v) old = .ok (.scalar v) := by
  unfold Content.replaceBy
  rw [Content.accept, h]
  cases old with
  | none => rfl
  | some there => simp [bind, Except.bind, pure, Except.pure, Content.isCollection]

theorem override_of_assignmentOf? {o name : String} {v : Scalar}
    (h : assignmentOf? o = some (name, v)) (layer : Layer) :
    override layer o = .ok (put (.text name) (.scalar v) layer) := by
  obtain ⟨hparts, hvalue⟩ := assignmentOf?_eq_some_iff.1 h
  obtain ⟨hwritten, haccept⟩ := scalarOf?_eq_some_iff.1 hvalue
  rw [override, hparts, hwritten]
  simp only [bind, Except.bind, pure, Except.pure, Content.update, replaceBy_scalar haccept,
    Content.entries]

theorem topNameOf?_of_assignmentOf? {o name : String} {v : Scalar}
    (h : assignmentOf? o = some (name, v)) :
    topNameOf? o = some name := by
  rw [topNameOf?, (assignmentOf?_eq_some_iff.1 h).1, List.head?_cons]

/-- A path into a mapping changes the value of its first part alone. -/
theorem entries_update {value tree : Content} {part : String} {rest : List String} {layer : Layer}
    (h : Content.update value (part :: rest) (.mapping layer) = .ok tree) :
    ∃ new, tree.entries = put (.text part) new layer := by
  cases rest with
  | nil =>
    obtain ⟨new, -, hnew⟩ := ok_of_bind h
    exact ⟨new, by rw [← Except.ok.inj hnew, Content.entries]⟩
  | cons =>
    obtain ⟨there, -, hthere⟩ := ok_of_bind h
    obtain ⟨new, -, hnew⟩ := ok_of_bind hthere
    exact ⟨new, by rw [← Except.ok.inj hnew, Content.entries]⟩

theorem eq_put_of_override {layer layer' : Layer} {o : String}
    (h : override layer o = .ok layer') :
    ∃ name value, topNameOf? o = some name ∧
      layer' = put (.text name) value layer := by
  obtain ⟨value, -, hvalue⟩ := ok_of_bind h
  obtain ⟨tree, htree, hlayer⟩ := ok_of_bind hvalue
  obtain rfl := Except.ok.inj hlayer
  cases hparts : keyParts (splitOverride o).1 with
  | nil =>
    rw [hparts] at htree
    nomatch htree
  | cons part rest =>
    rw [hparts] at htree
    obtain ⟨new, hnew⟩ := entries_update htree
    exact ⟨part, new, by rw [topNameOf?, hparts, List.head?_cons], hnew⟩

theorem splitOverride_of_name {name : String} (h : '=' ∉ name.toList) (text : String) :
    splitOverride (name ++ "=" ++ text) = (name, some text) := by
  have hall : ∀ c ∈ name.toList, (c != '=') = true := fun c hc =>
    bne_iff_ne.2 fun he => h (he ▸ hc)
  have hlist : (name ++ "=" ++ text).toList = name.toList ++ '=' :: text.toList := by
    simp [String.toList_append]
  have hkey : (name.toList ++ '=' :: text.toList).takeWhile (· != '=') = name.toList := by
    rw [List.takeWhile_append_of_pos hall]
    simp
  simp only [splitOverride, hlist, hkey, List.drop_left, String.ofList_toList]

theorem keyParts_of_isPlainName {name : String} (h : IsPlainName name) :
    keyParts name = [name] := by
  have hpoints : name.toList.takeWhile (· == '.') = [] := by
    cases hcs : name.toList with
    | nil => rfl
    | cons c cs =>
      refine List.takeWhile_cons_of_neg fun hc => h.point ?_
      rw [hcs, ← eq_of_beq hc]
      exact List.mem_cons_self
  have hfirst : (name.toList.takeWhile fun c => c != '.' && c != '[') = name.toList := by
    have hall : ∀ c ∈ name.toList, (c != '.' && c != '[') = true := fun c hc => by
      have hc1 : c ≠ '.' := fun he => h.point (he ▸ hc)
      have hc2 : c ≠ '[' := fun he => h.bracket (he ▸ hc)
      simp [hc1, hc2]
    rw [← List.append_nil name.toList, List.takeWhile_append_of_pos hall]
    rfl
  simp only [keyParts, hpoints, List.length_nil, List.drop_zero, hfirst, Nat.zero_add,
    List.drop_length, List.isEmpty_nil, Bool.not_true, Bool.and_false, Bool.false_eq_true,
    if_false, List.replicate_zero, List.nil_append, String.ofList_toList, furtherParts]

theorem assignmentOf?_of_isPlainName {name text : String} {v : Scalar} (hname : IsPlainName name)
    (hvalue : scalarOf? (contentOfText text) = some v) :
    assignmentOf? (name ++ "=" ++ text) = some (name, v) := by
  refine assignmentOf?_eq_some_iff.2 ?_
  rw [splitOverride_of_name hname.equals text, keyParts_of_isPlainName hname]
  exact ⟨rfl, hvalue⟩

/-! ## The library -/

/-- How layers and drafts are to be read. -/
def layeredView : layered.View where
  Value := Content
  entries layer := layer
  Holds d s := d = { settings := s }
  assign d e := d.set e.1 e.2
  convert? := Field.ofContent?
  Supported := Accepted
  written? := mappingOf?
  single? text := (scalarOf? (contentOfText text)).map .scalar
  empty := []
  update := override
  topName? := topNameOf?
  override? o := (assignmentOf? o).map fun a => (a.1, .scalar a.2)


theorem lawful_layeredView : layeredView.Lawful where
  holds_record _ := rfl
  settings_of_holds hr := by
    rw [hr]
    exact Draft.resolve_of_literal _
  merge_eq _ _ := rfl
  assign_setting hv hr := by
    obtain ⟨s, rfl, hs⟩ := Field.ofContent?_eq_some_iff.1 hv
    rw [hr]
    exact ⟨_, Draft.set_of_convert? hs _, rfl⟩
  assign_unknown d e he := Draft.set_of_unknown he e.2 d
  exists_get hv := by
    obtain ⟨s, -, hs⟩ := Field.ofContent?_eq_some_iff.1 hv
    exact Field.exists_get_of_convert? hs
  supported_of_convert? hv := by
    obtain ⟨s, rfl, hs⟩ := Field.ofContent?_eq_some_iff.1 hv
    exact ⟨rfl, (Field.isPlain_of_convert? hs).accepted⟩
  entries_ofFile hwritten hfile := eq_of_layerOfFile hwritten hfile
  ofFile_of_supported hwritten hes := exists_layerOfFile hwritten hes
  entries_empty := rfl
  ofOverrides_eq _ := rfl
  update_override ho := by
    obtain ⟨⟨_, v⟩, ha, ⟨⟩⟩ := Option.map_eq_some_iff.1 ho
    exact ⟨_, override_of_assignmentOf? ha _, rfl⟩
  keys_update hm := by
    obtain ⟨name, value, htop, hput⟩ := eq_put_of_override hm
    exact ⟨name, value, htop, congrArg keys hput⟩
  topName?_of_override? ho := by
    obtain ⟨⟨_, v⟩, ha, ⟨⟩⟩ := Option.map_eq_some_iff.1 ho
    exact topNameOf?_of_assignmentOf? ha
  override?_assignment hname hvalue := by
    obtain ⟨v, hv, rfl⟩ := Option.map_eq_some_iff.1 hvalue
    exact Option.map_eq_some_iff.2 ⟨_, assignmentOf?_of_isPlainName hname hv, rfl⟩

end Chip8.Settings
