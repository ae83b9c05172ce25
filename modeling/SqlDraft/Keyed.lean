/-!
# Keyed lists

A keyed list maps text keys to values and remembers the order in which the keys first came. Writing
a present key replaces its value in place, and writing a new key appends it. The keys are distinct
by construction. Rows and terms are keyed lists, and the members of a JSON object are read into one.
-/

namespace SqlDraft

universe u

variable {α : Type u}

/-- Replaces the value of a present key in place, or appends a new key. -/
def putEntry (key : String) (value : α) : List (String × α) → List (String × α)
  | [] => [(key, value)]
  | (k, v) :: rest => if k = key then (key, value) :: rest else (k, v) :: putEntry key value rest

/-- The keys after a write are the keys before it, followed by a new one. -/
theorem keys_putEntry (key : String) (value : α) (entries : List (String × α)) :
    (putEntry key value entries).map Prod.fst =
      if key ∈ entries.map Prod.fst then entries.map Prod.fst
      else entries.map Prod.fst ++ [key] := by
  induction entries with
  | nil => simp [putEntry]
  | cons entry rest ih =>
      by_cases h : entry.1 = key
      · simp [putEntry, h]
      · have h' : ¬ key = entry.1 := fun e => h e.symm
        by_cases hm : key ∈ rest.map Prod.fst <;>
          simp_all [putEntry]

/-- Writing a new key appends it. -/
theorem putEntry_of_not_mem {key : String} {entries : List (String × α)}
    (h : ¬ key ∈ entries.map Prod.fst) (value : α) :
    putEntry key value entries = entries ++ [(key, value)] := by
  induction entries with
  | nil => rfl
  | cons entry rest ih =>
      simp only [List.map_cons, List.mem_cons, not_or] at h
      have hne : ¬ entry.1 = key := fun e => h.1 e.symm
      rw [putEntry, if_neg hne, ih h.2, List.cons_append]

/-- A write keeps the keys distinct. -/
theorem nodup_keys_putEntry (key : String) (value : α) {entries : List (String × α)}
    (h : (entries.map Prod.fst).Nodup) : ((putEntry key value entries).map Prod.fst).Nodup := by
  rw [keys_putEntry]
  split
  · exact h
  · next hm =>
    rw [List.nodup_append]
    refine ⟨h, by simp, ?_⟩
    intro a ha b hb hab
    simp only [List.mem_singleton] at hb
    exact hm (hb ▸ hab ▸ ha)

/-- What holds of the entries and of a written pair holds of the entries after the write. -/
theorem forall_mem_putEntry {P : String × α → Prop} {key : String} {value : α}
    {entries : List (String × α)} (hnew : P (key, value)) (h : ∀ entry ∈ entries, P entry) :
    ∀ entry ∈ putEntry key value entries, P entry := by
  induction entries with
  | nil => exact fun entry hentry => List.mem_singleton.mp hentry ▸ hnew
  | cons first rest ih =>
      obtain ⟨hfirst, hrest⟩ := List.forall_mem_cons.mp h
      rw [putEntry]
      split
      · exact List.forall_mem_cons.mpr ⟨hnew, hrest⟩
      · exact List.forall_mem_cons.mpr ⟨hfirst, ih hrest⟩

/-- An insertion-ordered map with text keys. -/
structure Keyed (α : Type u) where
  entries : List (String × α)
  nodup_keys : (entries.map Prod.fst).Nodup

namespace Keyed

/-- The keyed list without entries. -/
def empty : Keyed α := ⟨[], List.nodup_nil⟩

instance : EmptyCollection (Keyed α) := ⟨empty⟩

instance : Inhabited (Keyed α) := ⟨empty⟩

/-- The keys in the order in which they first came. -/
def keys (m : Keyed α) : List String := m.entries.map Prod.fst

/-- The values in the order of their keys. -/
def values (m : Keyed α) : List α := m.entries.map Prod.snd

/-- How many keys there are. -/
def size (m : Keyed α) : Nat := m.entries.length

/-- Whether there is no key. -/
def isEmpty (m : Keyed α) : Bool := m.entries.isEmpty

/-- The value of a key. -/
def get? (m : Keyed α) (key : String) : Option α :=
  (m.entries.find? fun entry => entry.1 = key).map Prod.snd

/-- Writes one key. -/
def insert (m : Keyed α) (key : String) (value : α) : Keyed α :=
  ⟨putEntry key value m.entries, nodup_keys_putEntry key value m.nodup_keys⟩

/-- Writes pairs one after the other. -/
def insertAll (m : Keyed α) (pairs : List (String × α)) : Keyed α :=
  pairs.foldl (fun m pair => m.insert pair.1 pair.2) m

/-- The keyed list that results from writing pairs to an empty one. -/
def ofList (pairs : List (String × α)) : Keyed α := empty.insertAll pairs

/-- Writes every entry of another keyed list, in its order. -/
def merge (m other : Keyed α) : Keyed α := m.insertAll other.entries

/-- A new key comes last, and a present one stays where it is. -/
theorem keys_insert (m : Keyed α) (key : String) (value : α) :
    (m.insert key value).keys = if key ∈ m.keys then m.keys else m.keys ++ [key] :=
  keys_putEntry key value m.entries

/-- Every entry has one key. -/
@[simp] theorem length_keys (m : Keyed α) : m.keys.length = m.size := by simp [keys, size]

@[simp] theorem get?_empty (key : String) : (empty : Keyed α).get? key = none := rfl

private theorem find?_putEntry (key : String) (value : α) (entries : List (String × α))
    (k : String) :
    ((putEntry key value entries).find? fun entry => entry.1 = k).map Prod.snd =
      if key = k then some value else (entries.find? fun entry => entry.1 = k).map Prod.snd := by
  induction entries with
  | nil => by_cases h : key = k <;> simp [putEntry, h]
  | cons entry rest ih =>
      by_cases hk : entry.1 = key
      · by_cases h : key = k <;> simp_all [putEntry]
      · by_cases h : entry.1 = k
        · have hne : ¬ key = k := fun e => hk (h.trans e.symm)
          simp_all [putEntry]
        · simp_all [putEntry]

/-- After a write the key has the written value, and every other key the value it had. -/
theorem get?_insert (m : Keyed α) (key : String) (value : α) (k : String) :
    (m.insert key value).get? k = if key = k then some value else m.get? k :=
  find?_putEntry key value m.entries k

/-- Pairs with new and distinct keys are appended as they stand. -/
theorem entries_insertAll_of_nodup (m : Keyed α) {pairs : List (String × α)}
    (h : ((m.entries ++ pairs).map Prod.fst).Nodup) :
    (m.insertAll pairs).entries = m.entries ++ pairs := by
  induction pairs generalizing m with
  | nil => exact (List.append_nil _).symm
  | cons pair rest ih =>
      have hnew : ¬ pair.1 ∈ m.entries.map Prod.fst := by
        intro hmem
        rw [List.map_append, List.map_cons, List.nodup_append] at h
        exact h.2.2 pair.1 hmem pair.1 List.mem_cons_self rfl
      have hinsert : (m.insert pair.1 pair.2).entries = m.entries ++ [pair] :=
        putEntry_of_not_mem hnew pair.2
      have hrest := ih (m.insert pair.1 pair.2)
      rw [hinsert, List.append_assoc] at hrest
      exact hrest h

/-- What holds of the entries and of all written pairs holds of the entries afterwards. -/
theorem forall_mem_insertAll {P : String × α → Prop} {m : Keyed α} {pairs : List (String × α)}
    (hm : ∀ entry ∈ m.entries, P entry) (hpairs : ∀ pair ∈ pairs, P pair) :
    ∀ entry ∈ (m.insertAll pairs).entries, P entry := by
  induction pairs generalizing m with
  | nil => exact hm
  | cons pair rest ih =>
      obtain ⟨hpair, hrest⟩ := List.forall_mem_cons.mp hpairs
      have hinsert : ∀ entry ∈ (m.insert pair.1 pair.2).entries, P entry :=
        forall_mem_putEntry hpair hm
      exact ih hinsert hrest

/-- A keyed list is empty just if it has no keys. -/
theorem isEmpty_iff_keys (m : Keyed α) : m.isEmpty = true ↔ m.keys = [] := by
  simp [isEmpty, keys]

/-- A keyed list that was written to has an entry. -/
@[simp] theorem isEmpty_insert (m : Keyed α) (key : String) (value : α) :
    (m.insert key value).isEmpty = false := by
  obtain ⟨entries, h⟩ := m
  cases entries with
  | nil => rfl
  | cons entry rest =>
      simp only [isEmpty, insert, putEntry]
      split <;> rfl

/-- A keyed list stays empty only if nothing is written to it. -/
theorem isEmpty_insertAll (m : Keyed α) (pairs : List (String × α)) :
    (m.insertAll pairs).isEmpty = (m.isEmpty && pairs.isEmpty) := by
  induction pairs generalizing m with
  | nil => simp [insertAll]
  | cons pair rest ih =>
      have h := ih (m.insert pair.1 pair.2)
      rw [isEmpty_insert, Bool.false_and] at h
      rw [List.isEmpty_cons, Bool.and_false]
      exact h

/-- Two keyed lists make an empty one only if both are empty. -/
theorem isEmpty_merge (m other : Keyed α) :
    (m.merge other).isEmpty = (m.isEmpty && other.isEmpty) :=
  isEmpty_insertAll m other.entries

/-- A key is present exactly if it has a value. -/
theorem mem_keys_iff (m : Keyed α) (key : String) : key ∈ m.keys ↔ (m.get? key).isSome := by
  simp [keys, get?]

/-- Two keyed lists with the same entries are the same. -/
theorem ext_entries {m n : Keyed α} (h : m.entries = n.entries) : m = n := by
  cases m
  cases n
  subst h
  rfl

end Keyed

end SqlDraft
