/-
The keys of elements.

A key is a word, an id and a property with dots between them. As long as ids and properties have no
dots a key says which element and which property it belongs to, and the stem of an element is the
start of its own keys only. The key of a `type` says more: its id can be read off it whatever dots
it has, so the ids that a scene lists are those of its elements.

* `startsWith_elementStem_iff`: what a stem catches.
* `elementKey_inj`, `startsWith_elementKey_iff`: keys and stems of different elements differ.
* `mem_elementIds_iff`, `nodup_elementIds`: every element of a scene is listed, and once.
* `elementIds_set`, `elementIds_birth`: what a write does to the list.
-/
import SceneLang.Command.Element
import Mathlib.Data.List.Nodup

namespace SceneLang

open Command (isKeyPart)

theorem Command.isKeyPart_iff {part : String} : isKeyPart part = true ↔ part ≠ "" ∧ '.' ∉ part.toList := by
  simp [isKeyPart]

namespace Scene

theorem toList_elementStem (id : String) :
    (elementStem id).toList = elementWord.toList ++ '.' :: (id.toList ++ ['.']) := by
  simp [elementStem, toString]

theorem toList_elementKey (id property : String) :
    (elementKey id property).toList = elementWord.toList ++ '.' :: (id.toList ++ '.' :: property.toList) := by
  simp [elementKey, toList_elementStem]

/-- The keys of different properties of an element differ. -/
theorem elementKey_injective (id : String) : Function.Injective (elementKey id) := by
  intro property property' h
  rw [← String.toList_inj, toList_elementKey, toList_elementKey] at h
  exact String.toList_inj.1 (by simpa using h)

theorem ends_iff {parts : List (List Char)} {first last : List Char} :
    3 ≤ parts.length ∧ parts.head? = some first ∧ parts.getLast? = some last ↔
      ∃ middle, middle ≠ [] ∧ parts = first :: (middle ++ [last]) := by
  constructor
  · intro h
    obtain ⟨hlen, hfirst, hlast⟩ := h
    obtain ⟨others, rfl⟩ := List.head?_eq_some_iff.1 hfirst
    have hne : others ≠ [] := by
      intro h
      simp [h] at hlen
    rw [List.getLast?_cons_of_ne_nil hne] at hlast
    obtain ⟨middle, rfl⟩ := List.getLast?_eq_some_iff.1 hlast
    refine ⟨middle, ?_, rfl⟩
    intro h
    simp [h] at hlen
  · intro h
    obtain ⟨middle, hne, rfl⟩ := h
    have hpos := List.length_pos_iff.2 hne
    refine ⟨?_, rfl, ?_⟩
    · simp only [List.length_cons, List.length_append, List.length_nil]
      omega
    · rw [List.getLast?_cons_of_ne_nil (by simp), List.getLast?_append_of_ne_nil _ (by simp)]
      rfl

/-- The key of an element's `type` says which element it is, whatever the id looks like. -/
theorem elementId?_eq_some_iff {key id : String} :
    elementId? key = some id ↔ key = elementKey id typeProperty := by
  rw [← String.toList_inj, toList_elementKey]
  simp only [elementId?]
  constructor
  · intro h
    split at h
    · next hc =>
      obtain ⟨middle, hne, hp⟩ := ends_iff.1 hc
      cases h
      rw [hp, List.drop_one, List.tail_cons, List.dropLast_concat, String.toList_ofList,
        ← Text.join_splitAt '.' key.toList, hp, Text.join_cons _ _ (by simp), Text.join_append _ hne (by simp)]
      rfl
    · cases h
  · intro h
    have hw : Text.splitAt '.' elementWord.toList = [elementWord.toList] := by decide
    have ht : Text.splitAt '.' typeProperty.toList = [typeProperty.toList] := by decide
    have hp : Text.splitAt '.' key.toList =
        elementWord.toList :: (Text.splitAt '.' id.toList ++ [typeProperty.toList]) := by
      rw [h, Text.splitAt_append, Text.splitAt_append, hw, ht]
      rfl
    rw [if_pos (ends_iff.2 ⟨_, Text.splitAt_ne_nil _ _, hp⟩), hp, List.drop_one, List.tail_cons,
      List.dropLast_concat, Text.join_splitAt, String.ofList_toList]

/-- Keys of parts say which element and which property they belong to. -/
theorem elementKey_inj {id property id' property' : String} (hi : '.' ∉ id.toList)
    (hp : '.' ∉ property.toList) :
    elementKey id property = elementKey id' property' ↔ id = id' ∧ property = property' := by
  rw [← String.toList_inj, toList_elementKey, toList_elementKey, List.append_cancel_left_eq,
    List.cons_inj_right, List.append_cons_inj_of_notMem hi hp, String.toList_inj, String.toList_inj]
  simp only [true_and]

/-- What starts with the stem of an id is a key of that id, whatever dots there are. -/
theorem startsWith_elementStem_iff {id name : String} :
    startsWith (elementStem id) name = true ↔ ∃ property, name = elementKey id property := by
  rw [startsWith, List.isPrefixOf_iff_prefix]
  constructor
  · rintro ⟨more, hmore⟩
    refine ⟨String.ofList more, String.toList_inj.1 ?_⟩
    rw [elementKey, String.toList_append, String.toList_ofList, hmore]
  · rintro ⟨property, rfl⟩
    rw [elementKey, String.toList_append]
    exact List.prefix_append ..

/-- Among keys of parts, a stem catches those of its own element only. -/
theorem startsWith_elementKey_iff {id id' property : String} (hi : '.' ∉ id.toList)
    (hp : '.' ∉ property.toList) :
    startsWith (elementStem id') (elementKey id property) = true ↔ id = id' := by
  rw [startsWith, List.isPrefixOf_iff_prefix, toList_elementStem, toList_elementKey,
    List.prefix_append_right_inj, List.cons_prefix_cons]
  constructor
  · intro h
    obtain ⟨-, more, hm⟩ := h
    rw [List.append_assoc, List.singleton_append, eq_comm, List.append_cons_inj_of_notMem hi hp] at hm
    exact String.toList_inj.1 hm.1
  · intro h
    subst h
    exact ⟨rfl, property.toList, by simp⟩

/-! ## The ids of a scene -/

theorem elementId?_elementKey {id property : String} (hi : '.' ∉ id.toList) (hp : '.' ∉ property.toList) :
    elementId? (elementKey id property) = if property = typeProperty then some id else none := by
  split
  · next h => rw [h, elementId?_eq_some_iff]
  · next h =>
    refine Option.eq_none_iff_forall_ne_some.2 fun id' hid => h ?_
    exact ((elementKey_inj hi hp).1 (elementId?_eq_some_iff.1 hid)).2

/-- A scene lists the ids of its elements. -/
theorem mem_elementIds_iff {s : Scene} {id : String} : id ∈ s.elementIds ↔ s.hasElement id = true := by
  simp only [elementIds, List.mem_filterMap, elementId?_eq_some_iff, exists_eq_right, hasElement_iff]

/-- No id is listed twice. -/
theorem nodup_elementIds (s : Scene) : s.elementIds.Nodup := by
  refine List.Nodup.filterMap (fun key key' id h h' => ?_) s.vars.nodup
  rw [elementId?_eq_some_iff.1 h, elementId?_eq_some_iff.1 h']

/-- A write to an element that exists leaves the list as it is. -/
theorem elementIds_set {s : Scene} {id property : String} (hi : '.' ∉ id.toList) (hp : '.' ∉ property.toList)
    (h : s.hasElement id = true) (v : Value) :
    (s.set (elementKey id property) v).elementIds = s.elementIds := by
  simp only [elementIds, set, OrderedMap.keys_insert]
  split
  · rfl
  · next hm =>
    have hne : property ≠ typeProperty := by
      intro hp
      rw [hp] at hm
      exact hm (hasElement_iff.1 h)
    rw [List.filterMap_append, List.filterMap_cons_none (by rw [elementId?_elementKey hi hp, if_neg hne]),
      List.filterMap_nil, List.append_nil]

/-- The first write of a `type` puts the id at the end of the list. -/
theorem elementIds_birth {s : Scene} {id : String} (h : s.hasElement id = false) (v : Value) :
    (s.set (elementKey id typeProperty) v).elementIds = s.elementIds ++ [id] := by
  have hm : elementKey id typeProperty ∉ s.vars.keys := by
    rw [← hasElement_iff, h]
    exact Bool.false_ne_true
  simp only [elementIds, set, OrderedMap.keys_insert, if_neg hm, List.filterMap_append]
  rw [List.filterMap_cons_some (elementId?_eq_some_iff.2 rfl), List.filterMap_nil]

theorem hasElement_set {s : Scene} {id property : String} (hi : '.' ∉ id.toList) (hp : '.' ∉ property.toList)
    (v : Value) (id' : String) :
    (s.set (elementKey id property) v).hasElement id' = true ↔
      s.hasElement id' = true ∨ id' = id ∧ property = typeProperty := by
  simp only [hasElement_iff, set, OrderedMap.keys_insert]
  split
  · next hm =>
    refine ⟨.inl, fun h => ?_⟩
    rcases h with h | ⟨rfl, rfl⟩
    · exact h
    · exact hm
  · rw [List.mem_append, List.mem_singleton, eq_comm (b := elementKey id property), elementKey_inj hi hp,
      eq_comm (a := id)]

end Scene

end SceneLang
