/-
When a scene is a store.

A scene represents a store if its variables are exactly the properties of the store's elements,
each under its key. Only ids and properties without dots occur in such a store, so every key is
that of one property of one element: the property is found under it whatever id is asked for, a
write to it is a write to that element alone, and a removal by stem is the removal of that element.

* `Represents.get?_elementKey`, `Represents.hasElement_eq`: what a scene is asked, a store answers.
* `Represents.write`, `Represents.create`, `Represents.delete`: what is done to both.
-/
import SceneLang.Proofs.Invariant
import SceneLang.Proofs.Store

namespace SceneLang

open Command (isKeyPart)

/-- Whether an element has a `type`, and under usable names nothing but values of the language. -/
structure Element.Sound (e : Element) : Prop where
  typed : (e.get? Scene.typeProperty).isSome = true
  named : ∀ property v, e.get? property = some v → isKeyPart property = true ∧ v.isNative = true

/-- The variable that holds a property of an element. -/
def Element.key (id property : String) : String := s!"element.{id}.{property}"

namespace Scene

theorem key_eq (id property : String) : Element.key id property = elementKey id property := rfl

/-- Whether a scene is a store: its variables are exactly the properties of the elements. -/
structure Represents (s : Scene) (a : Store) : Prop where
  active : s.active = a.active
  vars : ∀ key v, s.vars.get? key = some v ↔
    ∃ id e property, a.elements.get? id = some e ∧ e.get? property = some v ∧ key = Element.key id property
  sound : ∀ id e, a.elements.get? id = some e → isKeyPart id = true ∧ e.Sound

variable {s : Scene} {a : Store} {id property : String} {e : Element}

/-! ## What is asked -/

/-- Under the key of a property a scene has what the store has, whatever id or property is asked for. -/
theorem Represents.get?_elementKey (h : s.Represents a) (id property : String) :
    s.vars.get? (elementKey id property) = (a.elements.get? id).bind (·.get? property) := by
  refine Option.ext fun v => ?_
  rw [Option.bind_eq_some_iff]
  constructor
  · intro hv
    obtain ⟨id', e, property', he, hp, hkey⟩ := (h.vars _ v).1 hv
    obtain ⟨hi, hsound⟩ := h.sound id' e he
    have hpart := (hsound.named property' v hp).1
    obtain ⟨rfl, rfl⟩ := (elementKey_inj (dotless hi) (dotless hpart)).1 hkey.symm
    exact ⟨e, he, hp⟩
  · intro h
    obtain ⟨e, he, hv⟩ := h
    exact (h.vars _ v).2 ⟨id, e, property, he, hv, rfl⟩

theorem Represents.hasElement_eq (h : s.Represents a) (id : String) :
    s.hasElement id = (a.elements.get? id).isSome := by
  rw [hasElement, has, OrderedMap.contains_eq_isSome, h.get?_elementKey]
  cases he : a.elements.get? id with
  | none => rfl
  | some e => exact (h.sound id e he).2.typed

theorem Represents.tidy (h : s.Represents a) : s.Tidy := by
  refine ⟨fun key hk => ?_, fun id property hk => ?_⟩
  · obtain ⟨v, hv⟩ := OrderedMap.mem_keys_iff.1 hk
    obtain ⟨id, e, property, he, hp, rfl⟩ := (h.vars key v).1 hv
    obtain ⟨hi, hsound⟩ := h.sound id e he
    exact ⟨id, property, hi, (hsound.named property v hp).1, rfl⟩
  · obtain ⟨v, hv⟩ := OrderedMap.mem_keys_iff.1 hk
    rw [h.get?_elementKey] at hv
    obtain ⟨e, he, -⟩ := Option.bind_eq_some_iff.1 hv
    rw [h.hasElement_eq, he, Option.isSome_some]

/-- A tidy scene is a store if it holds the same under the keys of usable ids and properties. -/
theorem Tidy.represents (ht : s.Tidy) (hactive : s.active = a.active)
    (hget : ∀ id property, isKeyPart id = true → isKeyPart property = true →
      s.vars.get? (elementKey id property) = (a.elements.get? id).bind (·.get? property))
    (hsound : ∀ id e, a.elements.get? id = some e → isKeyPart id = true ∧ e.Sound) : s.Represents a := by
  refine ⟨hactive, fun key v => ⟨fun hv => ?_, ?_⟩, hsound⟩
  · obtain ⟨id, property, hi, hp, rfl⟩ := ht.keyed key (OrderedMap.mem_keys_iff.2 ⟨v, hv⟩)
    rw [hget id property hi hp] at hv
    obtain ⟨e, he, hv⟩ := Option.bind_eq_some_iff.1 hv
    exact ⟨id, e, property, he, hv, rfl⟩
  · intro h
    obtain ⟨id, e, property, he, hv, rfl⟩ := h
    obtain ⟨hi, he'⟩ := hsound id e he
    rw [key_eq, hget id property hi (he'.named property v hv).1, he]
    exact hv

/-! ## What is done -/

/-- Writing properties of an element in the scene is writing them in the element. -/
theorem get?_setProperties {properties : List (String × Value)} (hi : isKeyPart id = true)
    (hp : ∀ p ∈ properties, isKeyPart p.1 = true)
    (he : ∀ property, s.vars.get? (elementKey id property) = e.get? property) (id' property : String) :
    (s.setProperties id properties).vars.get? (elementKey id' property) =
      if id' = id then (e.setAll properties).get? property else s.vars.get? (elementKey id' property) := by
  induction properties generalizing s e with
  | nil =>
    split
    · next h =>
      rw [h]
      exact he property
    · rfl
  | cons first rest ih =>
    rw [List.forall_mem_cons] at hp
    have hset : ∀ id' property, (s.set (elementKey id first.1) first.2).vars.get? (elementKey id' property) =
        if id' = id ∧ property = first.1 then some first.2 else s.vars.get? (elementKey id' property) := by
      intro id' property
      have hinj : elementKey id first.1 = elementKey id' property ↔ id = id' ∧ first.1 = property :=
        elementKey_inj (dotless hi) (dotless hp.1)
      simp only [set, OrderedMap.get?_insert, eq_comm (b := elementKey id first.1), hinj, eq_comm (a := id),
        eq_comm (a := first.1)]
    have hinsert : ∀ property, (s.set (elementKey id first.1) first.2).vars.get? (elementKey id property) =
        (e.insert first.1 first.2).get? property := by
      intro property
      rw [hset, OrderedMap.get?_insert, he]
      simp only [true_and]
    rw [setProperties_cons, ih hp.2 hinsert, hset]
    split
    · rfl
    · next h => rw [if_neg fun hc => h hc.1]

end Scene

namespace Element

variable {e : Element} {properties : List (String × Value)}

theorem named_setAll
    (he : ∀ property v, e.get? property = some v → isKeyPart property = true ∧ v.isNative = true)
    (hp : ∀ p ∈ properties, isKeyPart p.1 = true ∧ p.2.isNative = true) (property : String) (v : Value)
    (h : (e.setAll properties).get? property = some v) : isKeyPart property = true ∧ v.isNative = true := by
  induction properties generalizing e with
  | nil => exact he property v h
  | cons first rest ih =>
    rw [List.forall_mem_cons] at hp
    refine ih (fun property v hv => ?_) hp.2 h
    rw [OrderedMap.get?_insert] at hv
    split at hv
    · next hn =>
      cases hv
      exact hn ▸ hp.1
    · exact he property v hv

theorem isSome_get?_setAll {name : String} (h : (e.get? name).isSome = true) :
    ((e.setAll properties).get? name).isSome = true := by
  induction properties generalizing e with
  | nil => exact h
  | cons first rest ih =>
    refine ih ?_
    rw [OrderedMap.get?_insert]
    split
    · rfl
    · exact h

theorem Sound.setAll (he : e.Sound) (hp : ∀ p ∈ properties, isKeyPart p.1 = true ∧ p.2.isNative = true) :
    Sound (e.setAll properties) :=
  ⟨isSome_get?_setAll he.typed, named_setAll he.named hp⟩

theorem sound_of_type {v : Value} {others : List (String × Value)}
    (hp : ∀ p ∈ (Scene.typeProperty, v) :: others, isKeyPart p.1 = true ∧ p.2.isNative = true) :
    Sound (Element.setAll ∅ ((Scene.typeProperty, v) :: others)) := by
  refine ⟨?_, named_setAll (fun property v h => ?_) hp⟩
  · refine isSome_get?_setAll (e := OrderedMap.insert ∅ Scene.typeProperty v) ?_
    rw [OrderedMap.get?_insert, if_pos rfl, Option.isSome_some]
  · cases h

end Element

namespace Scene

variable {s : Scene} {a : Store} {id : String} {e : Element} {properties : List (String × Value)}

/-- The store with an element put in the place of its id. -/
theorem Represents.sound_insert (h : s.Represents a) (hi : isKeyPart id = true) (he : e.Sound) :
    ∀ id' e', (a.elements.insert id e).get? id' = some e' → isKeyPart id' = true ∧ e'.Sound := by
  intro id' e' h'
  rw [OrderedMap.get?_insert] at h'
  split at h'
  · next hid =>
    cases h'
    exact ⟨hid ▸ hi, he⟩
  · exact h.sound id' e' h'

/-- Writing properties of an element that is there. -/
theorem Represents.write (h : s.Represents a) (he : a.elements.get? id = some e)
    (hp : ∀ p ∈ properties, isKeyPart p.1 = true ∧ p.2.isNative = true) :
    (s.setProperties id properties).Represents
      { a with elements := a.elements.insert id (e.setAll properties) } := by
  obtain ⟨hi, hsound⟩ := h.sound id e he
  have hexists : s.hasElement id = true := by rw [h.hasElement_eq, he, Option.isSome_some]
  have hkey : ∀ property, s.vars.get? (elementKey id property) = e.get? property := by
    intro property
    rw [h.get?_elementKey, he]
    rfl
  have ht := (setProperties_of_hasElement h.tidy hexists fun p hm => (hp p hm).1).1
  refine ht.represents (by rw [active_setProperties, h.active]) (fun id' property _ _ => ?_)
    (h.sound_insert hi (hsound.setAll hp))
  rw [get?_setProperties hi (fun p hm => (hp p hm).1) hkey, OrderedMap.get?_insert, h.get?_elementKey]
  split <;> rfl

/-- Writing the properties of an element that is not there. -/
theorem Represents.create {v : Value} {others : List (String × Value)} (h : s.Represents a)
    (hn : a.elements.get? id = none) (hi : isKeyPart id = true)
    (hp : ∀ p ∈ (typeProperty, v) :: others, isKeyPart p.1 = true ∧ p.2.isNative = true) :
    (s.setProperties id ((typeProperty, v) :: others)).Represents
      { a with elements := a.elements.insert id (Element.setAll ∅ ((typeProperty, v) :: others)) } := by
  have habsent : s.hasElement id = false := by rw [h.hasElement_eq, hn, Option.isSome_none]
  have hkey : ∀ property, s.vars.get? (elementKey id property) = (∅ : Element).get? property := by
    intro property
    rw [h.get?_elementKey, hn]
    rfl
  have hothers := (List.forall_mem_cons.1 hp).2
  have ht := (setProperties_of_not_hasElement (v := v) h.tidy hi habsent fun p hm => (hothers p hm).1).1
  refine ht.represents (by rw [active_setProperties, h.active]) (fun id' property _ _ => ?_)
    (h.sound_insert hi (Element.sound_of_type hp))
  rw [get?_setProperties hi (fun p hm => (hp p hm).1) hkey, OrderedMap.get?_insert, h.get?_elementKey]
  split <;> rfl

/-- Deleting an element. -/
theorem Represents.delete (h : s.Represents a) (id : String) :
    (s.removeStarting (elementStem id)).Represents { a with elements := a.elements.erase id } := by
  refine (h.tidy.removeStarting id).represents h.active (fun id' property hi hp => ?_) fun id' e he => ?_
  · simp only [Scene.removeStarting, OrderedMap.erase, OrderedMap.get?_filterKeys, h.get?_elementKey,
      Bool.not_eq_true', ← Bool.not_eq_true, startsWith_elementKey_iff (dotless hi) (dotless hp)]
    by_cases hid : id' = id <;> simp [hid]
  · simp only [OrderedMap.erase, OrderedMap.get?_filterKeys] at he
    split at he
    · exact h.sound id' e he
    · cases he

end Scene

end SceneLang
