/-
This file proves that every step of a workspace keeps it sound, so that whatever is reached is.
-/

import NetworkAutomation.Proofs.Collections
import NetworkAutomation.Proofs.Edits

namespace NetworkAutomation

/-- An element that stands under its key keeps a keyed collection sound. -/
theorem KeyedCollection.withEntry_sound {types : List EntityType} {collection : KeyedCollection}
    (sound : Value.SoundThroughout types (.map collection)) {key : String} {item : Entity}
    (descends : item.instanceOf collection.itemType = true)
    (itemSound : item.SoundThroughout types)
    (accepted : item.type.AcceptsKey collection.keyField key) :
    Value.SoundThroughout types (.map (collection.withEntry key item)) := by
  have distinct := Entries.nodup_keys_put sound.here.distinct key item
  refine withEntries_sound sound distinct fun entry member => ?_
  rcases Entries.mem_put member with rfl | old
  · exact .inr ⟨descends, itemSound, accepted⟩
  · exact .inl old

variable {space : Workspace}

/-! ## Commands -/

/-- A new keyed collection has no elements, and texts stand in its key field. -/
theorem KeyedCollection.withKey_sound {types : List EntityType} {itemType : EntityType}
    (known : itemType ∈ types) {keyField : String} {collection : KeyedCollection}
    (opened : withKey itemType keyField = .ok collection) :
    Value.SoundThroughout types (.map collection) ∧ collection = ⟨itemType, keyField, []⟩ := by
  obtain ⟨text, same⟩ := Success.check_bind_eq_ok.mp opened
  obtain rfl := Except.ok.inj same
  refine ⟨⟨{
    known := known
    keyField := text
    distinct := List.nodup_nil
    items := fun entry member => absurd member List.not_mem_nil
    keys := fun entry member => absurd member List.not_mem_nil }, fun item member => ?_⟩, rfl⟩
  exact absurd member List.not_mem_nil

namespace Workspace.Sound

theorem suppliedFields (sound : space.Sound) {fields : List (String × Value)}
    (supplied : space.SuppliesFields fields) :
    ∀ field ∈ fields, field.2.SoundThroughout space.types :=
  fun field member => sound.supplied (supplied field member)

theorem suppliedItem (sound : space.Sound) {item : Entity}
    (held : .entity item ∈ space.targets) : item.SoundThroughout space.types :=
  Value.SoundThroughout.object_iff.mp (sound.targets _ held)

theorem entityCommand (sound : space.Sound) {command : EntityCommand} {entity changed : Entity}
    (supplied : space.SuppliesEntityCommand command)
    (entitySound : entity.SoundThroughout space.types)
    (ran : command.run entity = .ok changed) :
    changed.SoundThroughout space.types ∧ changed.type = entity.type := by
  cases command with
  | set name value =>
      exact Entity.set_sound sound.registry entitySound (sound.supplied supplied) ran
  | delete name => exact Entity.delete_sound sound.registry entitySound ran
  | setExtra name document => exact Entity.setExtra_sound sound.registry entitySound supplied ran
  | rewriteDict name entries =>
      exact Entity.rewriteDict_sound sound.registry entitySound supplied ran

theorem orderedCommand (sound : space.Sound) {command : OrderedCommand}
    {collection changed : OrderedCollection} {answer : Option Entity}
    (supplied : space.SuppliesOrderedCommand command)
    (collectionSound : Value.SoundThroughout space.types (.index collection))
    (ran : command.run collection = .ok (answer, changed)) :
    Value.SoundThroughout space.types (.index changed) ∧
      changed.itemType = collection.itemType := by
  cases command with
  | append item =>
      obtain ⟨_, appended, same⟩ := Success.bind_eq_ok.mp ran
      obtain ⟨rfl, rfl⟩ := Prod.mk.inj (Except.ok.inj same)
      obtain ⟨descends, rfl⟩ := OrderedCollection.append_eq_ok_iff.mp appended
      refine ⟨OrderedCollection.withItems_sound collectionSound fun entity member => ?_, rfl⟩
      rcases List.mem_append.mp member with old | new
      · exact .inl old
      · rw [List.mem_singleton.mp new]
        exact .inr ⟨descends, sound.suppliedItem supplied⟩
  | insert index item =>
      obtain ⟨_, inserted, same⟩ := Success.bind_eq_ok.mp ran
      obtain ⟨rfl, rfl⟩ := Prod.mk.inj (Except.ok.inj same)
      obtain ⟨descends, rfl⟩ := OrderedCollection.insert_eq_ok_iff.mp inserted
      refine ⟨OrderedCollection.withItems_sound collectionSound fun entity member => ?_, rfl⟩
      rcases List.mem_append.mp member with before | after
      · exact .inl (List.mem_of_mem_take before)
      · rcases List.mem_cons.mp after with rfl | later
        · exact .inr ⟨descends, sound.suppliedItem supplied⟩
        · exact .inl (List.mem_of_mem_drop later)
  | replace index item =>
      obtain ⟨⟨previous, _⟩, replaced, same⟩ := Success.bind_eq_ok.mp ran
      obtain ⟨rfl, rfl⟩ := Prod.mk.inj (Except.ok.inj same)
      obtain ⟨descends, _, rfl⟩ := OrderedCollection.replace_eq_ok_iff.mp replaced
      refine ⟨OrderedCollection.withItems_sound collectionSound fun entity member => ?_, rfl⟩
      rcases List.mem_or_eq_of_mem_set member with old | rfl
      · exact .inl old
      · exact .inr ⟨descends, sound.suppliedItem supplied⟩
  | remove index =>
      obtain ⟨⟨removed, _⟩, dropped, same⟩ := Success.bind_eq_ok.mp ran
      obtain ⟨rfl, rfl⟩ := Prod.mk.inj (Except.ok.inj same)
      obtain ⟨_, rfl⟩ := OrderedCollection.remove_eq_ok_iff.mp dropped
      refine ⟨OrderedCollection.withItems_sound collectionSound fun entity member => ?_, rfl⟩
      exact .inl (List.mem_of_mem_eraseIdx member)
  | clear =>
      obtain ⟨rfl, rfl⟩ := Prod.mk.inj (Except.ok.inj ran)
      refine ⟨OrderedCollection.withItems_sound collectionSound fun entity member => ?_, rfl⟩
      exact absurd member List.not_mem_nil
  | create fields =>
      obtain ⟨⟨created, _⟩, made, same⟩ := Success.bind_eq_ok.mp ran
      obtain ⟨rfl, rfl⟩ := Prod.mk.inj (Except.ok.inj same)
      obtain ⟨filled, rfl⟩ := OrderedCollection.create_eq_ok_iff.mp made
      obtain ⟨itemSound, sameType⟩ := sound.registry.create_sound collectionSound.here.known
        (sound.suppliedFields supplied) filled
      refine ⟨OrderedCollection.withItems_sound collectionSound fun entity member => ?_, rfl⟩
      rcases List.mem_append.mp member with old | new
      · exact .inl old
      · rw [List.mem_singleton.mp new, Entity.instanceOf, sameType]
        exact .inr ⟨collection.itemType.isA_self, itemSound⟩
  | deserialize documents =>
      obtain ⟨_, taken, same⟩ := Success.bind_eq_ok.mp ran
      obtain ⟨rfl, rfl⟩ := Prod.mk.inj (Except.ok.inj same)
      have known := collectionSound.here.known
      have reads := sound.registry.readsSoundly known
      exact OrderedCollection.readItems_sound known reads supplied taken

theorem keyedCommand (sound : space.Sound) {command : KeyedCommand}
    {collection changed : KeyedCollection} {answer : Option Entity}
    (supplied : space.SuppliesKeyedCommand command)
    (collectionSound : Value.SoundThroughout space.types (.map collection))
    (ran : command.run collection = .ok (answer, changed)) :
    Value.SoundThroughout space.types (.map changed) ∧
      changed.itemType = collection.itemType ∧ changed.keyField = collection.keyField := by
  cases command with
  | add item =>
      obtain ⟨descends, key, stores, same⟩ := KeyedCollection.add_eq_ok_iff.mp ran
      obtain ⟨_, rfl⟩ := Prod.mk.inj same
      have itemSound := sound.suppliedItem supplied
      exact ⟨KeyedCollection.withEntry_sound collectionSound descends itemSound
        (stores.acceptsKey itemSound), rfl, rfl⟩
  | insert key item =>
      obtain ⟨descends, keyed, set, same⟩ := KeyedCollection.insert_eq_ok_iff.mp ran
      obtain ⟨_, rfl⟩ := Prod.mk.inj same
      have itemSound := sound.suppliedItem supplied
      have textSound : Value.SoundThroughout space.types (.text key) :=
        ⟨trivial, fun _ member => absurd member List.not_mem_nil⟩
      obtain ⟨keyedSound, sameType⟩ := Entity.set_sound sound.registry itemSound textSound set
      have accepted := (Entity.set_text_eq_ok set).1
      rw [Entity.instanceOf, ← sameType] at descends
      rw [← sameType] at accepted
      exact ⟨KeyedCollection.withEntry_sound collectionSound descends keyedSound accepted,
        rfl, rfl⟩
  | create fields =>
      obtain ⟨⟨created, _⟩, made, same⟩ := Success.bind_eq_ok.mp ran
      obtain ⟨rfl, rfl⟩ := Prod.mk.inj (Except.ok.inj same)
      obtain ⟨filled, key, stores, _, rfl⟩ := KeyedCollection.create_eq_ok_iff.mp made
      obtain ⟨itemSound, sameType⟩ := sound.registry.create_sound collectionSound.here.known
        (sound.suppliedFields supplied) filled
      have descends : created.instanceOf collection.itemType = true := by
        rw [Entity.instanceOf, sameType]
        exact collection.itemType.isA_self
      exact ⟨KeyedCollection.withEntry_sound collectionSound descends itemSound
        (stores.acceptsKey itemSound), rfl, rfl⟩
  | remove key =>
      obtain ⟨_, rfl⟩ := Prod.mk.inj (Except.ok.inj ran)
      have distinct : (Entries.keys (collection.withoutEntry key).entries).Nodup := by
        rw [KeyedCollection.withoutEntry, Entries.keys_eraseP]
        exact collectionSound.here.distinct.erase key
      refine ⟨KeyedCollection.withEntries_sound collectionSound distinct fun entry member => ?_,
        rfl, rfl⟩
      exact .inl (List.mem_of_mem_eraseP member)
  | clear =>
      obtain ⟨rfl, rfl⟩ := Prod.mk.inj (Except.ok.inj ran)
      refine ⟨KeyedCollection.withEntries_sound collectionSound List.nodup_nil
        fun entry member => ?_, rfl, rfl⟩
      exact absurd member List.not_mem_nil
  | deserialize document =>
      obtain ⟨_, taken, same⟩ := Success.bind_eq_ok.mp ran
      obtain ⟨rfl, rfl⟩ := Prod.mk.inj (Except.ok.inj same)
      have known := collectionSound.here.known
      exact KeyedCollection.readEntries_sound known (sound.registry.readsSoundly known)
        collectionSound.here.keyField supplied taken

/-- A command keeps its target sound and of the same frame. -/
theorem command (sound : space.Sound) {command : Command} {target changed : Target}
    {answer : Option Entity} (supplied : space.SuppliesCommand command)
    (targetSound : target.toValue.SoundThroughout space.types)
    (ran : command.run target = .ok (answer, changed)) :
    changed.toValue.SoundThroughout space.types ∧ target.toValue.SameFrame changed.toValue := by
  unfold Command.run at ran
  split at ran
  next command owner =>
    obtain ⟨result, own, same⟩ := Success.bind_eq_ok.mp ran
    obtain ⟨_, rfl⟩ := Prod.mk.inj (Except.ok.inj same)
    obtain ⟨resultSound, sameType⟩ := sound.entityCommand supplied
      (Value.SoundThroughout.object_iff.mp targetSound) own
    exact ⟨Value.SoundThroughout.object_iff.mpr resultSound, rfl, congrArg some sameType, rfl⟩
  next command collection =>
    obtain ⟨⟨_, result⟩, own, same⟩ := Success.bind_eq_ok.mp ran
    obtain ⟨_, rfl⟩ := Prod.mk.inj (Except.ok.inj same)
    obtain ⟨resultSound, sameType⟩ := sound.orderedCommand supplied targetSound own
    exact ⟨resultSound, rfl, congrArg some sameType, rfl⟩
  next command collection =>
    obtain ⟨⟨_, result⟩, own, same⟩ := Success.bind_eq_ok.mp ran
    obtain ⟨_, rfl⟩ := Prod.mk.inj (Except.ok.inj same)
    obtain ⟨resultSound, sameType, sameKey⟩ := sound.keyedCommand supplied targetSound own
    exact ⟨resultSound, rfl, congrArg some sameType, congrArg some sameKey⟩
  next => contradiction

end Workspace.Sound

/-! ## Paths -/

namespace Target

variable {types : List EntityType} {target inner changed : Target} {segment : Segment}

/-- What stands inside a sound target is sound. -/
theorem Leads.sound (leads : target.Leads segment inner)
    (sound : target.toValue.SoundThroughout types) : inner.toValue.SoundThroughout types := by
  cases leads with
  | object stores => exact stores.sound (Value.SoundThroughout.object_iff.mp sound)
  | index stores => exact stores.sound (Value.SoundThroughout.object_iff.mp sound)
  | map stores => exact stores.sound (Value.SoundThroughout.object_iff.mp sound)
  | position stored =>
      exact Value.SoundThroughout.object_iff.mpr (sound.below _ (List.mem_of_getElem? stored))
  | key stored =>
      exact Value.SoundThroughout.object_iff.mpr
        (sound.below _ (List.mem_map_of_mem (Entries.mem_of_find? stored)))

/-- A nested value of the same frame may take the place of the one that a name leads to. -/
theorem replaceField_sound {owner : Entity} {name : String} {former latter : Value}
    {item : EntityType} (registry : Registry types)
    (sound : Value.SoundThroughout types (.object owner)) (stores : owner.Stores name former)
    (nested : former.itemType? = some item) (framed : former.SameFrame latter)
    (latterSound : latter.SoundThroughout types) :
    Value.SoundThroughout types (.object (owner.replaceField name latter)) ∧
      (owner.replaceField name latter).type = owner.type := by
  have ownerSound := Value.SoundThroughout.object_iff.mp sound
  obtain ⟨slot, found, stored⟩ := stores
  obtain ⟨field, placed, holds⟩ := Entity.exists_holding ownerSound found stored
  have fieldSound := (registry.sound _ ownerSound.here.known).attributes field
    (List.mem_of_getElem? placed)
  rw [Entity.replaceField_of_slot? found]
  exact ⟨Value.SoundThroughout.object_iff.mpr (ownerSound.withValue placed latterSound
    (holds.exchange fieldSound framed nested)), rfl⟩

/-- What is put back is of the former frame, so the target around it stays sound. -/
theorem Leads.replace_sound (registry : Registry types) (leads : target.Leads segment inner)
    (sound : target.toValue.SoundThroughout types)
    (changedSound : changed.toValue.SoundThroughout types)
    (framed : inner.toValue.SameFrame changed.toValue) :
    (target.replace segment changed).toValue.SoundThroughout types ∧
      target.toValue.SameFrame (target.replace segment changed).toValue := by
  have kind := framed.kind
  cases leads with
  | object stores =>
      cases changed with
      | entity object =>
          obtain ⟨whole, sameType⟩ :=
            replaceField_sound registry sound stores rfl framed changedSound
          exact ⟨whole, rfl, congrArg some sameType, rfl⟩
      | _ => exact nomatch kind
  | index stores =>
      cases changed with
      | ordered collection =>
          obtain ⟨whole, sameType⟩ :=
            replaceField_sound registry sound stores rfl framed changedSound
          exact ⟨whole, rfl, congrArg some sameType, rfl⟩
      | _ => exact nomatch kind
  | map stores =>
      cases changed with
      | keyed collection =>
          obtain ⟨whole, sameType⟩ :=
            replaceField_sound registry sound stores rfl framed changedSound
          exact ⟨whole, rfl, congrArg some sameType, rfl⟩
      | _ => exact nomatch kind
  | @position collection index former stored =>
      cases changed with
      | entity item =>
          have sameType : item.type = former.type := Option.some.inj framed.item
          have descends : item.instanceOf collection.itemType = true := by
            rw [Entity.instanceOf, sameType]
            exact sound.here.items former (List.mem_of_getElem? stored)
          refine ⟨OrderedCollection.withItems_sound sound fun entity member => ?_, rfl, rfl, rfl⟩
          rcases List.mem_or_eq_of_mem_set member with old | rfl
          · exact .inl old
          · exact .inr ⟨descends, Value.SoundThroughout.object_iff.mp changedSound⟩
      | _ => exact nomatch kind
  | @key collection key former stored =>
      cases changed with
      | entity item =>
          have sameType : item.type = former.type := Option.some.inj framed.item
          have member := Entries.mem_of_find? stored
          have descends : item.instanceOf collection.itemType = true := by
            rw [Entity.instanceOf, sameType]
            exact sound.here.items _ member
          have accepted : item.type.AcceptsKey collection.keyField key := by
            rw [sameType]
            exact sound.here.keys _ member
          have whole := KeyedCollection.withEntry_sound sound descends
            (Value.SoundThroughout.object_iff.mp changedSound) accepted
          rw [KeyedCollection.withEntry, ← KeyedCollection.upsert_eq_put] at whole
          exact ⟨whole, rfl, rfl, rfl⟩
      | _ => exact nomatch kind

/-- What a whole path leads to is sound. -/
theorem resolve_sound {path : List Segment} (sound : target.toValue.SoundThroughout types)
    (resolved : target.resolve path = .ok inner) : inner.toValue.SoundThroughout types := by
  induction path generalizing target with
  | nil =>
      obtain rfl := Except.ok.inj resolved
      exact sound
  | cons segment path ih =>
      rw [resolve, List.foldlM_cons] at resolved
      obtain ⟨middle, descended, later⟩ := Success.bind_eq_ok.mp resolved
      exact ih ((descend_eq_ok_iff.mp descended).sound sound) later

/-- An operation that keeps targets sound and of their frame does so at the end of any path. -/
theorem edit_sound {α : Type} (registry : Registry types)
    {operation : Target → Checked (α × Target)}
    (keeps : ∀ target answer changed, target.toValue.SoundThroughout types →
      operation target = .ok (answer, changed) →
      changed.toValue.SoundThroughout types ∧ target.toValue.SameFrame changed.toValue)
    {path : List Segment} {answer : α} (sound : target.toValue.SoundThroughout types)
    (edited : target.edit operation path = .ok (answer, changed)) :
    changed.toValue.SoundThroughout types ∧ target.toValue.SameFrame changed.toValue := by
  induction path generalizing target changed with
  | nil => exact keeps target answer changed sound (edit_nil_eq_ok_iff.mp edited)
  | cons segment path ih =>
      obtain ⟨inner, result, leads, later, rfl⟩ := edit_cons_eq_ok_iff.mp edited
      obtain ⟨resultSound, framed⟩ := ih (leads.sound sound) later
      exact leads.replace_sound registry sound resultSound framed

end Target

/-! ## Steps and runs -/

namespace Workspace

theorem Sound.keep (sound : space.Sound) {added : List Target}
    (addedSound : ∀ target ∈ added, target.toValue.SoundThroughout space.types) :
    (space.keep added).Sound where
  registry := sound.registry
  targets target member := by
    rcases List.mem_append.mp member with new | old
    · exact addedSound target new
    · exact sound.targets target old

theorem Sound.keepOne (sound : space.Sound) {added : Target}
    (addedSound : added.toValue.SoundThroughout space.types) : (space.keep [added]).Sound :=
  sound.keep fun target member => by
    rw [List.mem_singleton.mp member]
    exact addedSound

/-- Every type that can be declared in a sound workspace is sound. -/
theorem Sound.build (sound : space.Sound) {declaration : TypeDeclaration} {identity : Nat}
    {type : EntityType} (supplied : space.SuppliesType declaration)
    (fresh : ∀ known ∈ space.types, known.identity ≠ identity)
    (built : declaration.build identity = .ok type) :
    Workspace.Sound { space with types := type :: space.types } := by
  have typeSound := TypeDeclaration.build_sound sound.registry supplied.parents
    (fun entry member => (supplied.declared entry member).item)
    (fun entry member => sound.supplied (supplied.declared entry member).default) built
  rw [← (TypeDeclaration.build_eq_ok built).1] at fresh
  exact ⟨sound.registry.cons typeSound fresh,
    fun target member => (sound.targets target member).mono (List.subset_cons_self _ _)⟩

/-- Every step keeps the workspace sound. -/
theorem Step.sound {next : Workspace} (taken : space.Step next) (sound : space.Sound) :
    next.Sound := by
  cases taken with
  | build supplied fresh built => exact sound.build supplied fresh built
  | @coerce declaration name field value result supplied defined given coerced =>
      have fieldSound := Declaration.define_sound sound.registry supplied.item
        (sound.supplied supplied.default) defined
      obtain ⟨resultSound, _⟩ :=
        sound.registry.coercesSoundly fieldSound value result (sound.supplied given) coerced
      refine sound.keep fun target member => ?_
      cases result <;> simp only [Value.targets, List.mem_singleton, List.not_mem_nil] at member
      all_goals
        subst member
        exact resultSound
  | create known supplied created =>
      obtain ⟨entitySound, _⟩ :=
        sound.registry.create_sound known (sound.suppliedFields supplied) created
      exact sound.keepOne (Value.SoundThroughout.object_iff.mpr entitySound)
  | blank known created =>
      obtain ⟨entitySound, _⟩ := EntityType.empty_sound sound.registry known created
      exact sound.keepOne (Value.SoundThroughout.object_iff.mpr entitySound)
  | read known formed taken =>
      obtain ⟨entitySound, _⟩ := sound.registry.readDocument_sound known formed taken
      exact sound.keepOne (Value.SoundThroughout.object_iff.mpr entitySound)
  | ordered known =>
      refine sound.keepOne ⟨⟨known, fun item member => ?_⟩, fun item member => ?_⟩
      all_goals exact absurd member List.not_mem_nil
  | keyed known opened =>
      obtain ⟨collectionSound, _⟩ := KeyedCollection.withKey_sound known opened
      exact sound.keepOne collectionSound
  | reach held resolved =>
      exact sound.keepOne (Target.resolve_sound (sound.targets _ held) resolved)
  | change held supplied edited =>
      obtain ⟨changedSound, _⟩ := Target.edit_sound sound.registry
        (fun target answer changed before ran => sound.command supplied before ran)
        (sound.targets _ held) edited
      exact sound.keepOne changedSound

/-- Whatever is reached is sound. -/
theorem Reachable.sound (reached : space.Reachable) : space.Sound := by
  induction reached with
  | start =>
      have none : Registry ([] : List EntityType) :=
        ⟨fun _ member => absurd member List.not_mem_nil,
          fun _ member => absurd member List.not_mem_nil⟩
      exact ⟨none, fun _ member => absurd member List.not_mem_nil⟩
  | step _ taken ih => exact taken.sound ih

end Workspace

end NetworkAutomation
