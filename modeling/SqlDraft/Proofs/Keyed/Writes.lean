import Mathlib.Data.Finset.Card
import Mathlib.Data.List.Induction
import SqlDraft.Keyed

/-!
# Keyed lists as records of writes

A keyed list is determined by its keys, in their order, and by the value of each of them. After any
writes it has every key that was written once, in the order of the first writes, with the value of
its last write. Merging a keyed list writes what was written to that, so that merging is
associative.
-/

namespace SqlDraft

universe u

variable {α : Type u}

/-! ## First and last writes -/

/-- The value of the last write of a key. -/
def lastWrite? (key : String) (writes : List (String × α)) : Option α :=
  ((writes.filter fun write => write.1 = key).map Prod.snd).getLast?

/-- A later write takes the place of those before it. -/
theorem lastWrite?_concat (key : String) (writes : List (String × α)) (write : String × α) :
    lastWrite? key (writes ++ [write]) =
      if write.1 = key then some write.2 else lastWrite? key writes := by
  rw [lastWrite?, List.filter_append, List.map_append]
  by_cases h : write.1 = key
  · rw [if_pos h, List.filter_cons_of_pos (by simpa using h)]
    exact List.getLast?_concat
  · rw [if_neg h, List.filter_cons_of_neg (by simpa using h), List.filter_nil, List.map_nil,
      List.append_nil, lastWrite?]

/-- A name that was there before is not listed again. -/
theorem eraseDups_concat (names : List String) (name : String) :
    (names ++ [name]).eraseDups =
      if name ∈ names then names.eraseDups else names.eraseDups ++ [name] := by
  rw [List.eraseDups_append]
  by_cases h : name ∈ names
  · simp [List.removeAll, h]
  · simp [List.removeAll, h, List.eraseDups_cons]

/-- Names that were all there before are not listed again. -/
theorem eraseDups_append_of_subset {names more : List String} (h : more ⊆ names) :
    (names ++ more).eraseDups = names.eraseDups := by
  induction more using List.reverseRecOn with
  | nil => rw [List.append_nil]
  | append_singleton more name ih =>
    obtain ⟨hmore, hname⟩ := List.append_subset.mp h
    rw [← List.append_assoc, eraseDups_concat, ih hmore,
      if_pos (List.mem_append_left more (hname List.mem_cons_self))]

/-- Of distinct names each is listed once. -/
theorem eraseDups_eq_self {names : List String} (h : names.Nodup) : names.eraseDups = names := by
  induction names using List.reverseRecOn with
  | nil => rfl
  | append_singleton names name ih =>
    obtain ⟨hnames, -, hne⟩ := List.nodup_append.mp h
    have hnew : ¬ name ∈ names := fun hmem => hne name hmem name List.mem_cons_self rfl
    rw [eraseDups_concat, if_neg hnew, ih hnames]

namespace Keyed

/-! ## Entries, keys and values -/

/-- Every entry is found by its key. -/
theorem get?_of_mem {m : Keyed α} {entry : String × α} (h : entry ∈ m.entries) :
    m.get? entry.1 = some entry.2 := by
  obtain ⟨entries, hnodup⟩ := m
  rw [get?]
  induction entries with
  | nil => exact absurd h List.not_mem_nil
  | cons first rest ih =>
    rw [List.map_cons, List.nodup_cons] at hnodup
    rcases List.mem_cons.mp h with rfl | hrest
    · rw [List.find?_cons_of_pos (by simp)]
      rfl
    · have hne : ¬ first.1 = entry.1 := fun he =>
        hnodup.1 (he ▸ List.mem_map_of_mem hrest)
      rw [List.find?_cons_of_neg (by simpa using hne)]
      exact ih hnodup.2 hrest

/-- The values are those of the keys in their order. -/
theorem map_get?_keys (m : Keyed α) : m.keys.map m.get? = m.values.map some := by
  rw [keys, values, List.map_map, List.map_map]
  exact List.map_congr_left fun entry hentry => get?_of_mem hentry

/-- No key is there twice. -/
theorem eraseDups_keys (m : Keyed α) : m.keys.eraseDups = m.keys := eraseDups_eq_self m.nodup_keys

/-- The entries are the keys with the values beside them. -/
theorem zip_keys_values (m : Keyed α) : m.keys.zip m.values = m.entries :=
  (List.zip_of_prod rfl rfl).symm

/-- Keyed lists with the same keys in the same order are the same if they have the same values. -/
theorem ext_get? {m n : Keyed α} (hkeys : m.keys = n.keys) (hget : ∀ key, m.get? key = n.get? key) :
    m = n := by
  have hvalues : m.values.map some = n.values.map some := by
    rw [← map_get?_keys, ← map_get?_keys, hkeys]
    exact List.map_congr_left fun key _ => hget key
  apply ext_entries
  rw [← m.zip_keys_values, ← n.zip_keys_values, hkeys,
    List.map_injective_iff.mpr (Option.some_injective α) hvalues]

/-! ## Writes one after the other -/

/-- Of several writes the last one is made last. -/
theorem insertAll_concat (m : Keyed α) (writes : List (String × α)) (write : String × α) :
    m.insertAll (writes ++ [write]) = (m.insertAll writes).insert write.1 write.2 := by
  rw [insertAll, List.foldl_append]
  rfl

/-- Writes can be made in two parts. -/
theorem insertAll_append (m : Keyed α) (writes more : List (String × α)) :
    m.insertAll (writes ++ more) = (m.insertAll writes).insertAll more := by
  rw [insertAll, List.foldl_append]
  rfl

/-- Keys are in the order in which they were first written. -/
theorem keys_insertAll (m : Keyed α) (writes : List (String × α)) :
    (m.insertAll writes).keys = (m.keys ++ writes.map Prod.fst).eraseDups := by
  induction writes using List.reverseRecOn with
  | nil =>
    rw [List.map_nil, List.append_nil, eraseDups_keys]
    rfl
  | append_singleton writes write ih =>
    rw [insertAll_concat, keys_insert, ih, List.map_append, List.map_singleton, ← List.append_assoc,
      eraseDups_concat]
    simp only [List.mem_eraseDups]

/-- A key has the value that was last written to it, and without a write the value that it had. -/
theorem get?_insertAll (m : Keyed α) (writes : List (String × α)) (key : String) :
    (m.insertAll writes).get? key = (lastWrite? key writes).or (m.get? key) := by
  induction writes using List.reverseRecOn with
  | nil => rfl
  | append_singleton writes write ih =>
    rw [insertAll_concat, get?_insert, ih, lastWrite?_concat]
    split <;> rfl

/-- A keyed list is what results from writing its entries. -/
theorem ofList_entries (m : Keyed α) : ofList m.entries = m :=
  ext_entries (entries_insertAll_of_nodup empty m.nodup_keys)

/-- An entry is the only write of its key. -/
theorem lastWrite?_entries (m : Keyed α) (key : String) : lastWrite? key m.entries = m.get? key := by
  have h := get?_insertAll empty m.entries key
  rw [get?_empty, Option.or_none] at h
  exact h.symm.trans (congrArg (get? · key) m.ofList_entries)

/-! ## Merging -/

/-- A merged keyed list has the keys of the first, then the new ones of the second. -/
theorem keys_merge (m n : Keyed α) : (m.merge n).keys = (m.keys ++ n.keys).eraseDups :=
  keys_insertAll m n.entries

/-- In a merged keyed list the second one wins. -/
theorem get?_merge (m n : Keyed α) (key : String) :
    (m.merge n).get? key = (n.get? key).or (m.get? key) := by
  rw [merge, get?_insertAll, lastWrite?_entries]

/-- Merging what is empty changes nothing. -/
@[simp] theorem merge_empty (m : Keyed α) : m.merge empty = m := rfl

/-- What is merged into an empty keyed list is all there is. -/
@[simp] theorem empty_merge (m : Keyed α) : empty.merge m = m := m.ofList_entries

/-- Merging a keyed list with itself changes nothing. -/
@[simp] theorem merge_self (m : Keyed α) : m.merge m = m := by
  apply ext_get?
  · rw [keys_merge, eraseDups_append_of_subset (List.Subset.refl _), eraseDups_keys]
  · intro key
    rw [get?_merge, Option.or_self]

/-- A write to the second of two keyed lists is a write to both when they are merged. -/
theorem merge_insert (m n : Keyed α) (key : String) (value : α) :
    m.merge (n.insert key value) = (m.merge n).insert key value := by
  apply ext_get?
  · rw [keys_merge, keys_insert, keys_insert, keys_merge]
    by_cases hn : key ∈ n.keys
    · rw [if_pos hn, if_pos (List.mem_eraseDups.mpr (List.mem_append_right _ hn))]
    · rw [if_neg hn, ← List.append_assoc, eraseDups_concat]
      simp only [List.mem_eraseDups]
  · intro k
    rw [get?_merge, get?_insert, get?_insert, get?_merge]
    split <;> rfl

/-- Writes to the second of two keyed lists are writes to both when they are merged. -/
theorem merge_insertAll (m n : Keyed α) (writes : List (String × α)) :
    m.merge (n.insertAll writes) = (m.merge n).insertAll writes := by
  induction writes using List.reverseRecOn with
  | nil => rfl
  | append_singleton writes write ih => rw [insertAll_concat, merge_insert, ih, insertAll_concat]

/-- It makes no difference which of three keyed lists are merged first. -/
theorem merge_assoc (m n o : Keyed α) : (m.merge n).merge o = m.merge (n.merge o) :=
  (m.merge_insertAll n o.entries).symm

/-- Merging what results from writes is writing them. -/
theorem merge_ofList (m : Keyed α) (writes : List (String × α)) :
    m.merge (ofList writes) = m.insertAll writes :=
  m.merge_insertAll empty writes

/-! ## The record of writes -/

/-- A keyed list that records writes: each key that was written once, in the order of the first
writes, with the value of its last write. -/
structure Records (m : Keyed α) (writes : List (String × α)) : Prop where
  nodup_keys : m.keys.Nodup
  keys_eq : m.keys = (writes.map Prod.fst).eraseDups
  get?_eq : ∀ key, m.get? key = lastWrite? key writes
  map_get?_keys : m.keys.map m.get? = m.values.map some
  entries_eq : m.entries = m.keys.zip m.values
  size_eq : m.size = (writes.map Prod.fst).toFinset.card

/-- A keyed list made by writes records them. -/
theorem records_ofList (writes : List (String × α)) : (ofList writes).Records writes := by
  have hkeys : (ofList writes).keys = (writes.map Prod.fst).eraseDups := keys_insertAll empty writes
  have hnodup : (ofList writes).keys.Nodup := (ofList writes).nodup_keys
  refine ⟨hnodup, hkeys, fun key => ?_, Keyed.map_get?_keys _, (zip_keys_values _).symm, ?_⟩
  · rw [ofList, get?_insertAll, get?_empty, Option.or_none]
  · have hset : (writes.map Prod.fst).toFinset = (ofList writes).keys.toFinset := by
      ext key
      rw [hkeys, List.mem_toFinset, List.mem_toFinset, List.mem_eraseDups]
    rw [hset, List.toFinset_card_of_nodup hnodup, length_keys]

namespace Records

variable {m n : Keyed α} {writes more : List (String × α)}

/-- Nothing but the writes makes a difference between keyed lists that record them. -/
theorem eq_ofList (h : m.Records writes) : m = ofList writes :=
  ext_get? (h.keys_eq.trans (records_ofList writes).keys_eq.symm) fun key =>
    (h.get?_eq key).trans ((records_ofList writes).get?_eq key).symm

/-- A write is recorded behind those before it. -/
theorem insert (h : m.Records writes) (key : String) (value : α) :
    (m.insert key value).Records (writes ++ [(key, value)]) := by
  have hwrite := records_ofList (writes ++ [(key, value)])
  rw [ofList, insertAll_concat] at hwrite
  rw [h.eq_ofList]
  exact hwrite

/-- What the merged keyed list has recorded is recorded behind the rest. -/
theorem merge (hm : m.Records writes) (hn : n.Records more) :
    (m.merge n).Records (writes ++ more) := by
  have hwrites := records_ofList (writes ++ more)
  rw [ofList, insertAll_append] at hwrites
  rw [hm.eq_ofList, hn.eq_ofList, merge_ofList]
  exact hwrites

end Records

/-- A keyed list records its own entries. -/
theorem records_entries (m : Keyed α) : m.Records m.entries := by
  have h := records_ofList m.entries
  rwa [ofList_entries] at h

end Keyed

end SqlDraft
