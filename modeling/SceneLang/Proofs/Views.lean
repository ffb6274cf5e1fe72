/-
The views of the elements in a scene.

A scene shows its elements in three ways: by a key that is put together (`hasElement`), by names that
are cut at their dots (`elementIds`), and by names that start with a stem (`elementProperties` and
`withdraw`). A host can set variables of any name, with dots wherever it likes and none where they are
expected. The views agree on every scene all the same: each property is read off its key as it was
put in, and every id that is cut out of a name gives that name again.

* `map_elementIds`, `map_elementProperties`: each view, back in terms of the variables.
* `mem_elementProperties_iff`: the properties of an element are its variables.
* `views_agree`: what the views say of one id.
-/
import SceneLang.Proofs.Keys

namespace SceneLang.Scene

variable {s : Scene} {id property : String} {v : Value}

/-- The ids of a scene are read off the keys of its `type` variables, in their order. -/
theorem map_elementIds (s : Scene) :
    s.elementIds.map (elementKey · typeProperty) = s.vars.keys.filter fun name => (elementId? name).isSome := by
  rw [elementIds]
  induction s.vars.keys with
  | nil => rfl
  | cons name rest ih =>
    cases h : elementId? name with
    | none => rw [List.filterMap_cons_none h, ih, List.filter_cons_of_neg (by simp [h])]
    | some id =>
      rw [List.filterMap_cons_some h, List.map_cons, ih, List.filter_cons_of_pos (by simp [h]),
        ← elementId?_eq_some_iff.1 h]

/-- Behind the stem of a key stands the property. -/
theorem drop_elementStem (id property : String) :
    String.ofList ((elementKey id property).toList.drop (elementStem id).length) = property := by
  rw [elementKey, String.toList_append, ← String.length_toList, List.drop_left, String.ofList_toList]

/-- The properties of an element are its variables, each under its key and in their order. -/
theorem map_elementProperties (s : Scene) (id : String) :
    (s.elementProperties id).map (fun e => (elementKey id e.1, e.2)) =
      s.vars.entries.filter fun e => startsWith (elementStem id) e.1 := by
  rw [elementProperties, List.map_map]
  have hback : ∀ e ∈ s.vars.entries.filter fun e => startsWith (elementStem id) e.1,
      (elementKey id (String.ofList (e.1.toList.drop (elementStem id).length)), e.2) = e := by
    rintro ⟨name, v⟩ he
    obtain ⟨property, rfl⟩ := startsWith_elementStem_iff.1 (List.mem_filter.1 he).2
    rw [drop_elementStem]
  exact (List.map_congr_left hback).trans (List.map_id _)

theorem mem_elementProperties_iff :
    (property, v) ∈ s.elementProperties id ↔ s.vars.get? (elementKey id property) = some v := by
  have hinjective : Function.Injective fun e : String × Value => (elementKey id e.1, e.2) := by
    rintro ⟨p, v⟩ ⟨q, w⟩ h
    obtain ⟨hkey, hv⟩ := Prod.mk.inj h
    exact Prod.ext (elementKey_injective id hkey) hv
  rw [← List.mem_map_of_injective hinjective, map_elementProperties, List.mem_filter]
  constructor
  · intro h
    exact OrderedMap.get?_of_mem_entries h.1
  · intro h
    exact ⟨OrderedMap.mem_entries_of_get? h, startsWith_elementStem_iff.2 ⟨property, rfl⟩⟩

/-- No property is shown twice. -/
theorem nodup_elementProperties (s : Scene) (id : String) : ((s.elementProperties id).map (·.1)).Nodup := by
  have hkeys : (((s.elementProperties id).map (·.1)).map (elementKey id)).Nodup := by
    have hsublist : ((s.vars.entries.filter fun e => startsWith (elementStem id) e.1).map (·.1)).Sublist
        s.vars.keys := List.filter_sublist.map _
    rw [← map_elementProperties, List.map_map] at hsublist
    rw [List.map_map]
    exact s.vars.nodup.sublist hsublist
  exact hkeys.of_map _

/-- **The views agree.** In every scene, whatever its variables are called, an id is listed exactly if
the element exists, and once, in the order of the `type` variables. The properties of the id are the
variables under its keys, each of them once. Removing what starts with the stem of the id takes
these variables away and no others, leaves the others as they are and in order, and counts them. -/
theorem views_agree (s : Scene) (id : String) :
    (id ∈ s.elementIds ↔ s.hasElement id = true) ∧ s.elementIds.Nodup ∧
    (s.elementIds.map (elementKey · typeProperty)).Sublist s.vars.keys ∧
    (∀ property v, (property, v) ∈ s.elementProperties id ↔ s.vars.get? (elementKey id property) = some v) ∧
    ((s.elementProperties id).map (·.1)).Nodup ∧
    ((s.elementProperties id).map fun e => (elementKey id e.1, e.2)).Sublist s.vars.entries ∧
    ∃ count after, s.withdraw (elementStem id) = (count, after) ∧
      count = (s.elementProperties id).length ∧ after.active = s.active ∧
      after.vars.entries.Sublist s.vars.entries ∧
      ∀ name v, after.vars.get? name = some v ↔
        s.vars.get? name = some v ∧ ∀ property, name ≠ elementKey id property := by
  refine ⟨mem_elementIds_iff, nodup_elementIds s, ?_, fun _ _ => mem_elementProperties_iff,
    nodup_elementProperties s id, ?_, _, _, rfl, ?_, rfl, List.filter_sublist, fun name v => ?_⟩
  · rw [map_elementIds]
    exact List.filter_sublist
  · rw [map_elementProperties]
    exact List.filter_sublist
  · have hcount := congrArg List.length (map_elementProperties s id)
    rw [List.length_map] at hcount
    rw [hcount, namesStarting, OrderedMap.keys, List.filter_map, List.length_map]
    rfl
  · have hkept : startsWith (elementStem id) name = false ↔ ∀ property, name ≠ elementKey id property := by
      rw [← Bool.not_eq_true, startsWith_elementStem_iff, not_exists]
    rw [← hkept, removeStarting, OrderedMap.get?_filterKeys]
    cases startsWith (elementStem id) name <;> simp

end SceneLang.Scene
