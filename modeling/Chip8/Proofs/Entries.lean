import Chip8.Document.Entries
import Mathlib.Data.List.Induction

/-!
# Entries of mappings

A mapping is a list of keys with values, in the order in which the keys came first.  A key that is
given again changes its value and keeps its place (`keys_prefix_put`), so of entries with repeated
keys the last value of each is left (`lookup_distinct`).
-/

namespace Chip8.Entries

variable {α : Type}

/-- The keys of entries. -/
def keys (entries : Entries α) : List Scalar := entries.map Prod.fst

theorem isSameKey_text {a : Scalar} {name : String} :
    a.isSameKey (.text name) = true ↔ a = .text name := by
  cases a <;> simp [Scalar.isSameKey]

/-- Entries whose keys all differ. -/
def KeysDiffer (entries : Entries α) : Prop :=
  entries.Pairwise fun a b => a.1.isSameKey b.1 = false

theorem keys_prefix_put (key : Scalar) (value : α) (entries : Entries α) :
    keys entries <+: keys (put key value entries) := by
  induction entries with
  | nil => exact List.nil_prefix
  | cons e es ih =>
    rw [put]
    split
    · exact List.prefix_rfl
    · exact (List.prefix_cons_inj e.1).2 ih

theorem mem_keys_put {k key : Scalar} {value : α} {entries : Entries α}
    (h : k ∈ keys (put key value entries)) : k ∈ keys entries ∨ k = key := by
  induction entries with
  | nil => exact .inr (List.mem_singleton.1 h)
  | cons e es ih =>
    rw [put] at h
    split at h
    · exact .inl h
    · obtain rfl | hmem := List.mem_cons.1 h
      · exact .inl List.mem_cons_self
      · exact (ih hmem).imp_left (List.mem_cons_of_mem _)

theorem text_mem_keys_put (name : String) (value : α) (entries : Entries α) :
    .text name ∈ keys (put (.text name) value entries) := by
  induction entries with
  | nil => exact List.mem_singleton_self _
  | cons e es ih =>
    rw [put]
    split
    · next hsame => exact isSameKey_text.1 hsame ▸ List.mem_cons_self
    · exact List.mem_cons_of_mem _ ih

theorem KeysDiffer.put {entries : Entries α} (h : KeysDiffer entries) (key : Scalar)
    (value : α) : KeysDiffer (put key value entries) := by
  induction entries with
  | nil => exact List.pairwise_singleton _ _
  | cons e es ih =>
    obtain ⟨hhead, htail⟩ := List.pairwise_cons.1 h
    rw [Entries.put]
    split
    · exact List.pairwise_cons.2 ⟨hhead, htail⟩
    · next hother =>
      refine List.pairwise_cons.2 ⟨fun b hb => ?_, ih htail⟩
      obtain hmem | hkey := mem_keys_put (List.mem_map_of_mem hb)
      · obtain ⟨b', hb', heq⟩ := List.mem_map.1 hmem
        rw [← heq]
        exact hhead b' hb'
      · rw [hkey]
        exact Bool.not_eq_true _ ▸ hother

theorem distinct_concat (entries : Entries α) (e : Scalar × α) :
    distinct (entries ++ [e]) = put e.1 e.2 (distinct entries) := by
  rw [distinct, List.foldl_append, List.foldl_cons, List.foldl_nil, distinct]

theorem keysDiffer_distinct (entries : Entries α) :
    KeysDiffer (distinct entries) := by
  induction entries using List.reverseRecOn with
  | nil => exact List.Pairwise.nil
  | append_singleton es e ih =>
    rw [distinct_concat]
    exact ih.put e.1 e.2

/-- With each key once, a key has the value that it was given last. -/
theorem lookup_distinct (key : Scalar) (entries : Entries α) :
    lookup key (distinct entries) = lookup key entries.reverse := by
  induction entries using List.reverseRecOn with
  | nil => rfl
  | append_singleton es e ih =>
    rw [distinct_concat, lookup_put, ih, List.reverse_append, List.reverse_singleton,
      List.singleton_append, lookup_cons]

theorem lookup_of_mem {entries : Entries α} (h : KeysDiffer entries)
    {e : Scalar × α} (he : e ∈ entries) : lookup e.1 entries = some e.2 := by
  induction entries with
  | nil => exact absurd he List.not_mem_nil
  | cons d ds ih =>
    obtain ⟨hhead, htail⟩ := List.pairwise_cons.1 h
    rw [lookup_cons]
    obtain rfl | hmem := List.mem_cons.1 he
    · rw [if_pos (by simp [Scalar.isSameKey])]
    · rw [if_neg (Bool.not_eq_true _ ▸ hhead e hmem)]
      exact ih htail hmem

theorem lookup_append (key : Scalar) (entries others : Entries α) :
    lookup key (entries ++ others) = (lookup key entries).or (lookup key others) := by
  simp only [lookup, List.find?_append, Option.map_or]

/-- Of entries whose keys differ the order does not matter. -/
theorem lookup_reverse {entries : Entries α} (h : KeysDiffer entries) (key : Scalar) :
    lookup key entries.reverse = lookup key entries := by
  induction entries with
  | nil => rfl
  | cons e es ih =>
    obtain ⟨hhead, htail⟩ := List.pairwise_cons.1 h
    rw [List.reverse_cons, lookup_append, ih htail, lookup_cons, lookup_cons]
    split
    · next hsame =>
      have hnone : lookup key es = none := by
        rw [lookup, List.find?_eq_none.2 fun d hd => ?_]
        · rfl
        · rw [← Scalar.isSameKey_right hsame, Scalar.isSameKey_comm, hhead d hd]
          exact Bool.false_ne_true
      rw [hnone, Option.none_or]
    · exact Option.or_none

theorem mem_put_text {name : String} {value : α} {entries : Entries α}
    {e : Scalar × α} (h : e ∈ put (.text name) value entries) :
    e ∈ entries ∨ e = (.text name, value) := by
  induction entries with
  | nil => exact .inr (List.mem_singleton.1 h)
  | cons d ds ih =>
    rw [put] at h
    split at h
    · next hsame =>
      obtain rfl | hmem := List.mem_cons.1 h
      · exact .inr (by rw [isSameKey_text.1 hsame])
      · exact .inl (List.mem_cons_of_mem d hmem)
    · obtain rfl | hmem := List.mem_cons.1 h
      · exact .inl List.mem_cons_self
      · exact (ih hmem).imp_left (List.mem_cons_of_mem d)

theorem mem_of_mem_distinct {entries : Entries α}
    (h : ∀ e ∈ entries, ∃ name, e.1 = .text name) {e : Scalar × α}
    (he : e ∈ distinct entries) : e ∈ entries := by
  induction entries using List.reverseRecOn with
  | nil => exact he
  | append_singleton es d ih =>
    obtain ⟨name, hname⟩ := h d (List.mem_append_right es (List.mem_singleton_self d))
    rw [distinct_concat, hname] at he
    obtain hold | rfl := mem_put_text he
    · exact List.mem_append_left _ (ih (fun c hc => h c (List.mem_append_left _ hc)) hold)
    · exact List.mem_append_right es (List.mem_singleton.2 (by rw [← hname]))

end Chip8.Entries
