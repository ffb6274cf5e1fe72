/-
Maps from names that remember the order in which their names came in.

Writing to a name that is present keeps its place; a name that was removed and comes back goes to
the end. Names are distinct by construction, so a map is the list of its entries and two maps are
equal when their entries are.

* `get?_insert`: a write is read back, and no other name is touched.
* `keys_insert`: the names after a write.
* `get?_filterKeys`, `entries_filterKeys`: removal keeps the rest as it is.
* `filterKeys_insert`: removal takes back a write.
* `entries_foldl_insert`: the entries after many writes.
-/

namespace SceneLang

/-- Entries with distinct names, in the order in which the names came in. -/
structure OrderedMap (α : Type) where
  entries : List (String × α)
  nodup : (entries.map (·.1)).Nodup

namespace OrderedMap

variable {α : Type}

theorem ext_entries {m n : OrderedMap α} (h : m.entries = n.entries) : m = n := by
  cases m; cases n; cases h; rfl

instance [DecidableEq α] : DecidableEq (OrderedMap α) := fun m n =>
  if h : m.entries = n.entries then isTrue (ext_entries h) else isFalse fun e => h (e ▸ rfl)

/-- The names, in order. -/
def keys (m : OrderedMap α) : List String := m.entries.map (·.1)

/-- The map without entries. -/
def empty : OrderedMap α := ⟨[], List.nodup_nil⟩

instance : EmptyCollection (OrderedMap α) := ⟨empty⟩
instance : Inhabited (OrderedMap α) := ⟨empty⟩

/-- The value under a name. -/
def get? (m : OrderedMap α) (key : String) : Option α := m.entries.lookup key

/-- Whether a name is present. -/
def contains (m : OrderedMap α) (key : String) : Bool := m.keys.contains key

/-- How many entries there are. -/
def size (m : OrderedMap α) : Nat := m.entries.length

/-- The entries with the value under one name replaced. -/
def replace (entries : List (String × α)) (key : String) (value : α) : List (String × α) :=
  entries.map fun e => if e.1 = key then (key, value) else e

theorem map_fst_replace (entries : List (String × α)) (key : String) (value : α) :
    (replace entries key value).map (·.1) = entries.map (·.1) := by
  simp only [replace, List.map_map]
  apply List.map_congr_left
  intro e _
  simp only [Function.comp]
  split <;> simp_all

theorem nodup_append {entries : List (String × α)} {key : String} (value : α)
    (h : (entries.map (·.1)).Nodup) (hk : key ∉ entries.map (·.1)) :
    ((entries ++ [(key, value)]).map (·.1)).Nodup := by
  rw [List.map_append, List.nodup_append]
  refine ⟨h, by simp, ?_⟩
  intro a ha b hb hab
  simp only [List.map_cons, List.map_nil, List.mem_singleton] at hb
  exact hk (hb ▸ hab ▸ ha)

/-- The map with a value under a name: in the name's place if it has one, else at the end. -/
def insert (m : OrderedMap α) (key : String) (value : α) : OrderedMap α :=
  if h : key ∈ m.entries.map (·.1) then
    ⟨replace m.entries key value, map_fst_replace m.entries key value ▸ m.nodup⟩
  else ⟨m.entries ++ [(key, value)], nodup_append value m.nodup h⟩

/-- The map of the entries whose name passes a test. -/
def filterKeys (m : OrderedMap α) (keep : String → Bool) : OrderedMap α :=
  ⟨m.entries.filter fun e => keep e.1, m.nodup.sublist (List.filter_sublist.map _)⟩

/-- The map without a name. -/
def erase (m : OrderedMap α) (key : String) : OrderedMap α := m.filterKeys (· ≠ key)

/-- The map that a list of entries writes, one after the other. -/
def ofList (entries : List (String × α)) : OrderedMap α :=
  entries.foldl (fun m e => m.insert e.1 e.2) empty

/-! ## What is read back -/

@[simp] theorem get?_empty (key : String) : (∅ : OrderedMap α).get? key = none := rfl

theorem contains_iff {m : OrderedMap α} {key : String} : m.contains key = true ↔ key ∈ m.keys := by
  simp [contains]

theorem lookup_cons (entries : List (String × α)) (e : String × α) (key : String) :
    (e :: entries).lookup key = if key = e.1 then some e.2 else entries.lookup key := by
  rw [List.lookup_cons]
  by_cases h : key = e.1
  · simp [h]
  · rw [if_neg h, beq_false_of_ne h]

theorem lookup_eq_none_iff {entries : List (String × α)} {key : String} :
    entries.lookup key = none ↔ key ∉ entries.map (·.1) := by
  induction entries with
  | nil => simp
  | cons e rest ih =>
    rw [lookup_cons, List.map_cons, List.mem_cons, not_or, ← ih]
    split
    · next h => simp [h]
    · next h => simp [h]

theorem get?_eq_none_iff {m : OrderedMap α} {key : String} : m.get? key = none ↔ key ∉ m.keys :=
  lookup_eq_none_iff

theorem mem_entries_of_get? {m : OrderedMap α} {key : String} {value : α} (h : m.get? key = some value) :
    (key, value) ∈ m.entries := by
  obtain ⟨before, behind, he, -⟩ := List.lookup_eq_some_iff.1 h
  rw [he]
  exact List.mem_append_right _ (List.mem_cons_self ..)

theorem get?_of_mem_entries {m : OrderedMap α} {key : String} {value : α} (h : (key, value) ∈ m.entries) :
    m.get? key = some value := by
  obtain ⟨before, behind, he⟩ := List.append_of_mem h
  have hn := m.nodup
  rw [he, List.map_append, List.map_cons, List.nodup_append] at hn
  refine List.lookup_eq_some_iff.2 ⟨before, behind, he, fun e hm => ?_⟩
  exact bne_iff_ne.2 fun hk => hn.2.2 e.1 (List.mem_map_of_mem hm) key (List.mem_cons_self ..) hk.symm

theorem contains_eq_isSome (m : OrderedMap α) (key : String) : m.contains key = (m.get? key).isSome := by
  rw [Bool.eq_iff_iff, contains_iff, Option.isSome_iff_ne_none, ne_eq, get?_eq_none_iff, Classical.not_not]

theorem mem_keys_iff {m : OrderedMap α} {key : String} : key ∈ m.keys ↔ ∃ v, m.get? key = some v := by
  rw [← Option.isSome_iff_exists, ← contains_eq_isSome, contains_iff]

theorem lookup_replace (entries : List (String × α)) (key other : String) (value : α) :
    (replace entries key value).lookup other =
      if other = key ∧ key ∈ entries.map (·.1) then some value else entries.lookup other := by
  induction entries with
  | nil => simp [replace]
  | cons e rest ih =>
    rw [replace, List.map_cons, ← replace, lookup_cons, lookup_cons, ih]
    by_cases hk : e.1 = key
    · by_cases ho : other = key <;> simp [hk, ho]
    · by_cases ho : other = e.1
      · simp [hk, ho]
      · have hm : key ∈ (e :: rest).map (·.1) ↔ key ∈ rest.map (·.1) := by simp [Ne.symm hk]
        simp only [hk, ho, hm, if_false]

theorem lookup_append (entries : List (String × α)) (key other : String) (value : α)
    (h : key ∉ entries.map (·.1)) :
    (entries ++ [(key, value)]).lookup other = if other = key then some value else entries.lookup other := by
  induction entries with
  | nil => rw [List.nil_append, lookup_cons]
  | cons e rest ih =>
    rw [List.map_cons, List.mem_cons, not_or] at h
    rw [List.cons_append, lookup_cons, lookup_cons, ih h.2]
    by_cases ho : other = e.1
    · simp [ho, Ne.symm h.1]
    · simp [ho]

theorem get?_insert (m : OrderedMap α) (key other : String) (value : α) :
    (m.insert key value).get? other = if other = key then some value else m.get? other := by
  simp only [insert, get?]
  split
  · rename_i h
    rw [lookup_replace]
    simp only [h, and_true]
  · rename_i h
    exact lookup_append _ _ _ _ h

theorem keys_insert (m : OrderedMap α) (key : String) (value : α) :
    (m.insert key value).keys = if key ∈ m.keys then m.keys else m.keys ++ [key] := by
  by_cases h : key ∈ m.entries.map (·.1)
  · simp only [insert, keys, h, dif_pos, if_true, map_fst_replace]
  · simp only [insert, keys, h, dif_neg, not_false_eq_true, if_false, List.map_append, List.map_cons,
      List.map_nil]

theorem entries_insert {m : OrderedMap α} {key : String} (h : key ∉ m.keys) (value : α) :
    (m.insert key value).entries = m.entries ++ [(key, value)] := by
  have hk : key ∉ m.entries.map (·.1) := h
  simp only [insert, hk, dif_neg, not_false_eq_true]

theorem entries_insert_of_mem {m : OrderedMap α} {key : String} (h : key ∈ m.keys) (value : α) :
    (m.insert key value).entries = replace m.entries key value := by
  have hk : key ∈ m.entries.map (·.1) := h
  simp only [insert, hk, dif_pos]

theorem contains_insert (m : OrderedMap α) (key other : String) (value : α) :
    (m.insert key value).contains other = (decide (other = key) || m.contains other) := by
  rw [contains_eq_isSome, contains_eq_isSome, get?_insert]
  by_cases ho : other = key <;> simp [ho]

/-- A write to an absent name alone fills a gap. -/
theorem get?_insertAbsent (m : OrderedMap α) (key other : String) (value : α) :
    (if m.contains key then m else m.insert key value).get? other =
      (m.get? other).or (if other = key then some value else none) := by
  rw [contains_eq_isSome]
  by_cases ho : other = key
  · subst ho
    cases h : m.get? other <;> simp [h, get?_insert]
  · split <;> simp [get?_insert, ho]

/-- A name that comes after the entries of a map in a list of distinct names is not in the map. -/
theorem not_mem_keys_of_nodup {m : OrderedMap α} {e : String × α} {others : List (String × α)}
    (h : ((m.entries ++ e :: others).map (·.1)).Nodup) : e.1 ∉ m.keys := by
  rw [List.map_append, List.map_cons, List.nodup_append] at h
  exact fun hm => h.2.2 _ hm _ (List.mem_cons_self ..) rfl

@[simp] theorem entries_filterKeys (m : OrderedMap α) (keep : String → Bool) :
    (m.filterKeys keep).entries = m.entries.filter fun e => keep e.1 := rfl

theorem keys_filterKeys (m : OrderedMap α) (keep : String → Bool) :
    (m.filterKeys keep).keys = m.keys.filter keep :=
  List.filter_map.symm

theorem get?_filterKeys (m : OrderedMap α) (keep : String → Bool) (key : String) :
    (m.filterKeys keep).get? key = if keep key then m.get? key else none := by
  split
  · next hkeep =>
    simp only [get?, entries_filterKeys]
    induction m.entries with
    | nil => rfl
    | cons e rest ih =>
      rw [List.filter_cons, lookup_cons, ← ih]
      by_cases hk : key = e.1
      · simp [lookup_cons, ← hk, hkeep]
      · cases keep e.1 <;> simp [lookup_cons, hk]
  · next hkeep =>
    rw [get?_eq_none_iff, keys_filterKeys, List.mem_filter]
    exact fun h => hkeep h.2

theorem filter_replace {keep : String → Bool} {key : String} (h : keep key = false)
    (entries : List (String × α)) (value : α) :
    (replace entries key value).filter (fun e => keep e.1) = entries.filter fun e => keep e.1 := by
  induction entries with
  | nil => rfl
  | cons e rest ih =>
    rw [replace, List.map_cons, ← replace, List.filter_cons, List.filter_cons, ih]
    by_cases hk : e.1 = key <;> simp [hk, h]

/-- Removal takes back a write under a name that it removes. -/
theorem filterKeys_insert {m : OrderedMap α} {keep : String → Bool} {key : String} (h : keep key = false)
    (value : α) : (m.insert key value).filterKeys keep = m.filterKeys keep := by
  apply ext_entries
  rw [entries_filterKeys, entries_filterKeys]
  by_cases hk : key ∈ m.keys
  · rw [entries_insert_of_mem hk, filter_replace h]
  · rw [entries_insert hk, List.filter_append, List.filter_cons_of_neg (by simp [h]), List.filter_nil,
      List.append_nil]

theorem filterKeys_eq_self {m : OrderedMap α} {keep : String → Bool} (h : ∀ key ∈ m.keys, keep key = true) :
    m.filterKeys keep = m := by
  apply ext_entries
  rw [entries_filterKeys, List.filter_eq_self]
  exact fun e he => h e.1 (List.mem_map_of_mem he)

/-! ## Many writes -/

/-- What an entry of a map becomes when others are written under distinct names. -/
def overwrite (updates : List (String × α)) (e : String × α) : String × α :=
  (e.1, (updates.lookup e.1).getD e.2)

/-- What is read back after writes under distinct names. -/
theorem get?_foldl_insert {updates : List (String × α)} (h : (updates.map (·.1)).Nodup) (m : OrderedMap α)
    (key : String) :
    (updates.foldl (fun m e => m.insert e.1 e.2) m).get? key = (updates.lookup key).or (m.get? key) := by
  induction updates generalizing m with
  | nil => rfl
  | cons u rest ih =>
    rw [List.map_cons, List.nodup_cons] at h
    rw [List.foldl_cons, ih h.2, get?_insert, lookup_cons]
    by_cases hk : key = u.1
    · rw [if_pos hk, if_pos hk, lookup_eq_none_iff.2 (hk ▸ h.1), Option.none_or, Option.some_or]
    · rw [if_neg hk, if_neg hk]

/-- Writes under distinct names change the entries that are there in their places, and put the others
behind them in the order in which they are written. -/
theorem entries_foldl_insert {updates : List (String × α)} (h : (updates.map (·.1)).Nodup)
    (m : OrderedMap α) :
    (updates.foldl (fun m e => m.insert e.1 e.2) m).entries =
      m.entries.map (overwrite updates) ++ updates.filter fun e => !m.contains e.1 := by
  induction updates generalizing m with
  | nil =>
    have hself : overwrite ([] : List (String × α)) = id := rfl
    simp [hself]
  | cons u rest ih =>
    rw [List.map_cons, List.nodup_cons] at h
    obtain ⟨hu, hrest⟩ := h
    have hlookup : rest.lookup u.1 = none := lookup_eq_none_iff.2 hu
    have hcontains : rest.filter (fun e => !(m.insert u.1 u.2).contains e.1) =
        rest.filter fun e => !m.contains e.1 := by
      refine List.filter_congr fun e he => ?_
      have hne : e.1 ≠ u.1 := fun hn => hu (hn ▸ List.mem_map_of_mem he)
      rw [contains_insert, decide_eq_false hne, Bool.false_or]
    rw [List.foldl_cons, ih hrest, hcontains, List.filter_cons]
    by_cases hk : u.1 ∈ m.keys
    · have hreplace : (replace m.entries u.1 u.2).map (overwrite rest) =
          m.entries.map (overwrite (u :: rest)) := by
        rw [replace, List.map_map]
        refine List.map_congr_left fun e _ => ?_
        by_cases hn : e.1 = u.1
        · simp [overwrite, lookup_cons, hn, hlookup]
        · simp [overwrite, lookup_cons, hn]
      rw [entries_insert_of_mem hk, hreplace, contains_iff.2 hk]
      rfl
    · have hkept : m.entries.map (overwrite rest) = m.entries.map (overwrite (u :: rest)) := by
        refine List.map_congr_left fun e he => ?_
        have hn : e.1 ≠ u.1 := fun hn => hk (hn ▸ List.mem_map_of_mem he)
        simp [overwrite, lookup_cons, hn]
      have habsent : m.contains u.1 = false := by simpa [contains] using hk
      rw [entries_insert hk, List.map_append, hkept, habsent]
      simp [overwrite, hlookup]

end OrderedMap

end SceneLang
