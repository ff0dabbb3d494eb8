/-
This file says which changes of an element in its place leave it under a key that it still holds.
-/

import NetworkAutomation.Proofs.HeldKeys

namespace NetworkAutomation

/-! ## Changes of one element -/

/-- The field of the name holds the text after it was given this value. -/
def EntityType.LeavesText (type : EntityType) (name : String) (value : Value) (text : String) :
    Prop :=
  ∃ field, type.field? name = some field ∧ field.Leaves value text

/-- What the command gives to the field, by its name or by an alias, leaves the text there. -/
def EntityCommand.Spares (type : EntityType) (name text : String) : EntityCommand → Prop
  | .set given value => type.slot? given = type.slot? name → type.LeavesText name value text
  | .delete given => type.slot? given = type.slot? name → type.LeavesText name .null text
  | .setExtra given document =>
      type.slot? given = type.slot? name → type.LeavesText name (.ofDocument document) text
  | .rewriteDict _ _ => True

/-- Nothing that is reached inside the entity is one of its texts. -/
def Command.Spares (type : EntityType) (name text : String) : Command → List Segment → Prop
  | .entity command, [] => command.Spares type name text
  | _, _ => True

section Element

variable {types : List EntityType}

namespace Entity

variable {entity changed : Entity} {name text : String}

/-- A text that stands in a field is kept unless its slot takes another value. -/
theorem Stores.withValue_iff {value other : Value} (stores : entity.Stores name value)
    {slot : Nat} : (entity.withValue slot other).Stores name value ↔
      (entity.type.slot? name = some slot → other = value) := by
  obtain ⟨own, located, stored⟩ := stores
  have inRange := (List.getElem?_eq_some_iff.mp stored).1
  have stores_iff : (entity.withValue slot other).Stores name value ↔
      (entity.values.set slot other)[own]? = some value := by
    simp [Stores, located]
  rw [stores_iff, located, Option.some.injEq]
  by_cases same : own = slot
  · subst same
    simp [List.getElem?_set_self inRange]
  · rw [List.getElem?_set_ne (Ne.symm same)]
    exact iff_of_true stored fun equal => absurd equal same

/-- A value of another sort may be exchanged without touching a text. -/
theorem Stores.replaceField_keeps {given : String} {former latter : Value}
    (holds : entity.Stores given former) (notText : former ≠ .text text)
    (stores : entity.Stores name (.text text)) :
    (entity.replaceField given latter).Stores name (.text text) := by
  obtain ⟨slot, found, stored⟩ := holds
  rw [replaceField_of_slot? found]
  refine stores.withValue_iff.mpr fun located => absurd ?_ notText
  obtain ⟨own, ownLocated, ownStored⟩ := stores
  obtain rfl := Option.some.inj (located.symm.trans ownLocated)
  exact Option.some.inj (stored.symm.trans ownStored)

theorem set_stores_iff (sound : entity.SoundThroughout types)
    (stores : entity.Stores name (.text text)) {given : String} {value : Value}
    (set : entity.set given value = .ok changed) : changed.Stores name (.text text) ↔
      (entity.type.slot? given = entity.type.slot? name →
        entity.type.LeavesText name value text) := by
  obtain ⟨own, field, located, placed, isText, _⟩ := stores.acceptsKey sound
  obtain ⟨slot, other, result, found, otherPlaced, coerced, _, rfl⟩ := set_eq_ok set
  have fieldFound : entity.type.field? name = some field := by
    rw [EntityType.field?, located, Option.bind_some, placed]
  rw [stores.withValue_iff, found, eq_comm (a := some slot)]
  refine imp_congr_right fun same => ?_
  obtain rfl := Option.some.inj (located.symm.trans same)
  obtain rfl := Option.some.inj (placed.symm.trans otherPlaced)
  rw [Attribute.coerce_eq_text_iff isText coerced]
  simp [EntityType.LeavesText, fieldFound]

theorem delete_stores_iff (stores : entity.Stores name (.text text)) {given : String}
    (deleted : entity.delete given = .ok changed) : changed.Stores name (.text text) ↔
      (entity.type.slot? given = entity.type.slot? name →
        entity.type.LeavesText name .null text) := by
  obtain ⟨slot, field, found, placed, _, rfl⟩ := delete_eq_ok deleted
  rw [stores.withValue_iff, found, eq_comm (a := some slot)]
  refine imp_congr_right fun same => ?_
  simp [EntityType.LeavesText, EntityType.field?, same, placed, Attribute.Leaves]

/-- A captured value goes into the catch-all, which is no text field. -/
theorem setExtra_stores_iff (registry : Registry types) (sound : entity.SoundThroughout types)
    (stores : entity.Stores name (.text text)) {given : String} {document : Document}
    (set : entity.setExtra given document = .ok changed) : changed.Stores name (.text text) ↔
      (entity.type.slot? given = entity.type.slot? name →
        entity.type.LeavesText name (.ofDocument document) text) := by
  rcases setExtra_eq_ok set with declared | ⟨undeclared, slot, found, rfl⟩
  · exact set_stores_iff sound stores declared
  · obtain ⟨own, field, located, placed, isText, _⟩ := stores.acceptsKey sound
    have elsewhere : entity.type.slot? given ≠ entity.type.slot? name := fun same =>
      undeclared (EntityType.hasAttribute_iff.mpr ⟨own, same.trans located⟩)
    obtain ⟨catchAll, catchAllPlaced, _, dict⟩ :=
      (registry.sound _ sound.here.known).exists_catchAllSlot found
    have apart : slot ≠ own := by
      rintro rfl
      obtain rfl := Option.some.inj (placed.symm.trans catchAllPlaced)
      exact nomatch isText.symm.trans dict
    obtain ⟨other, otherLocated, stored⟩ := stores
    obtain rfl := Option.some.inj (located.symm.trans otherLocated)
    have kept := (EntityType.capture_keeps apart given document).trans stored
    exact iff_of_true ⟨own, located, kept⟩ fun same => absurd same elsewhere

end Entity

/-- A command keeps a text of an entity just where it spares it. -/
theorem EntityCommand.stores_iff_spares (registry : Registry types) {entity changed : Entity}
    (sound : entity.SoundThroughout types) {name text : String}
    (stores : entity.Stores name (.text text)) {command : EntityCommand}
    (ran : command.run entity = .ok changed) :
    changed.Stores name (.text text) ↔ command.Spares entity.type name text := by
  cases command with
  | set given value => exact Entity.set_stores_iff sound stores ran
  | delete given => exact Entity.delete_stores_iff stores ran
  | setExtra given document => exact Entity.setExtra_stores_iff registry sound stores ran
  | rewriteDict given entries =>
      obtain ⟨slot, former, found, stored, rfl⟩ := Entity.rewriteDict_eq_ok ran
      have holds : entity.Stores given (.dict former) := ⟨slot, found, stored⟩
      rw [← Entity.replaceField_of_slot? found]
      exact iff_of_true (holds.replaceField_keeps Value.noConfusion stores) trivial

/-- What is reached inside an element is put back beside its texts. -/
theorem Target.Leads.replace_stores {owner : Entity} {segment : Segment} {inner : Target}
    (leads : (Target.entity owner).Leads segment inner) (changed : Target) {name text : String}
    (stores : owner.Stores name (.text text)) :
    (((Target.entity owner).replace segment changed).entityOr owner).Stores name
      (.text text) := by
  cases leads with
  | object holds =>
      cases changed with
      | entity object => exact holds.replaceField_keeps Value.noConfusion stores
      | _ => exact stores
  | index holds =>
      cases changed with
      | ordered collection => exact holds.replaceField_keeps Value.noConfusion stores
      | _ => exact stores
  | map holds =>
      cases changed with
      | keyed collection => exact holds.replaceField_keeps Value.noConfusion stores
      | _ => exact stores

/-- An edit of an element keeps one of its texts just where it spares it. -/
theorem Command.edit_stores_iff_spares (registry : Registry types) {item : Entity}
    (sound : item.SoundThroughout types) {name text : String}
    (stores : item.Stores name (.text text)) {command : Command} {path : List Segment}
    {answer : Option Entity} {changed : Target}
    (edited : (Target.entity item).edit command.run path = .ok (answer, changed)) :
    (changed.entityOr item).Stores name (.text text) ↔
      command.Spares item.type name text path := by
  cases path with
  | nil =>
      rw [Target.edit_nil_eq_ok_iff] at edited
      cases command with
      | entity command =>
          obtain ⟨result, performed, same⟩ := Success.bind_eq_ok.mp edited
          obtain ⟨_, rfl⟩ := Prod.mk.inj (Except.ok.inj same)
          exact command.stores_iff_spares registry sound stores performed
      | ordered command => cases edited
      | keyed command => cases edited
  | cons segment path =>
      -- Segments lead to entities and collections only, so no text is exchanged on the way back.
      obtain ⟨inner, replaced, leads, _, rfl⟩ := Target.edit_cons_eq_ok_iff.mp edited
      have kept := leads.replace_stores replaced stores
      cases command <;> exact iff_of_true kept trivial

end Element

/-! ## Uses of a collection -/

/-- A use spares the keys unless it gives another text to the key field of an element. -/
def KeyedUse.Spares (collection : KeyedCollection) : KeyedUse → Prop
  | .whole command => command.Settles collection
  | .element key path command => ∀ item, collection.get? key = some item →
      command.Spares item.type collection.keyField key path

/-- Under its key an element may take any other one that reads this key, and no further one. -/
theorem KeyedCollection.Attached.withEntry_iff {collection : KeyedCollection}
    (attached : collection.Attached) {key : String} {item : Entity} :
    (collection.withEntry key item).Attached ↔
      item.Stores collection.keyField (.text key) :=
  ⟨fun changed => Entity.getText_eq_ok_some_iff.mp
    (changed (key, item) (Entries.mem_put_self _ _ _)), attached.withEntry⟩

theorem KeyedUse.run_whole_eq_ok_iff {command : KeyedCommand} {collection : KeyedCollection}
    {result : Option Entity × KeyedCollection} :
    (whole command).run collection = .ok result ↔ command.run collection = .ok result := by
  rw [run]
  cases command.run collection <;> simp [Except.mapError]

/-- The elements hold their keys after a use just where it spares them. -/
theorem KeyedUse.attached_iff_spares {space : Workspace} (spaceSound : space.Sound)
    {collection next : KeyedCollection} (held : collection.Held space) {use : KeyedUse}
    (supplied : space.SuppliesCommand use.toCommand) {answer : Option Entity}
    (ran : use.run collection = .ok (answer, next)) :
    next.Attached ↔ use.Spares collection := by
  cases use with
  | whole command =>
      have performed := run_whole_eq_ok_iff.mp ran
      exact command.attached_iff_settles spaceSound held.sound held.attached supplied performed
  | element key path command =>
      rw [run] at ran
      split at ran
      next item found =>
        obtain ⟨⟨own, changed⟩, edited, same⟩ := Success.bind_eq_ok.mp ran
        obtain ⟨rfl, rfl⟩ := Prod.mk.inj (Except.ok.inj same)
        have member : (key, item) ∈ collection.entries := Entries.mem_of_find? found
        have stores := KeyedCollection.attached_iff.mp held.attached _ member
        have itemSound := held.sound.below _ (List.mem_map_of_mem member)
        rw [held.attached.withEntry_iff, Spares]
        simp only [found, Option.some.injEq, forall_eq']
        exact command.edit_stores_iff_spares spaceSound.registry itemSound stores edited
      next => contradiction

/-! ## Collections inside other targets -/

namespace Target

variable {α : Type} {target inner changed : Target} {segment : Segment}

/-- What stands at the end of the path is exchanged. -/
def replaceAt (target : Target) : List Segment → Target → Target
  | [], changed => changed
  | segment :: path, changed =>
      match target.descend segment with
      | .ok inner => target.replace segment (inner.replaceAt path changed)
      | .error _ => target

/-- What was put back in the place of a target of its sort is what the segment leads to. -/
theorem Leads.replace_leads (leads : target.Leads segment inner)
    (sort : changed.toValue.primitive? = inner.toValue.primitive?) :
    (target.replace segment changed).Leads segment changed ∧
      (target.replace segment changed).toValue.primitive? = target.toValue.primitive? := by
  have stores {owner : Entity} {field : String} {former : Value}
      (holds : owner.Stores field former) (latter : Value) :
      (owner.replaceField field latter).Stores field latter := by
    obtain ⟨slot, found, stored⟩ := holds
    rw [Entity.replaceField_of_slot? found]
    have inRange := (List.getElem?_eq_some_iff.mp stored).1
    exact ⟨slot, found, List.getElem?_set_self inRange⟩
  cases leads with
  | object holds =>
      cases changed with
      | entity object => exact ⟨.object (stores holds _), rfl⟩
      | _ => exact nomatch sort
  | index holds =>
      cases changed with
      | ordered collection => exact ⟨.index (stores holds _), rfl⟩
      | _ => exact nomatch sort
  | map holds =>
      cases changed with
      | keyed collection => exact ⟨.map (stores holds _), rfl⟩
      | _ => exact nomatch sort
  | position stored =>
      cases changed with
      | entity item =>
          have inRange := (List.getElem?_eq_some_iff.mp stored).1
          exact ⟨.position (List.getElem?_set_self inRange), rfl⟩
      | _ => exact nomatch sort
  | @key collection key former stored =>
      cases changed with
      | entity item =>
          have found := congrFun (Entries.find?_put collection.entries key item) key
          rw [Function.update_self, ← KeyedCollection.upsert_eq_put] at found
          exact ⟨.key found, rfl⟩
      | _ => exact nomatch sort

theorem resolve_cons_eq_ok_iff {path : List Segment} :
    target.resolve (segment :: path) = .ok inner ↔
      ∃ middle, target.Leads segment middle ∧ middle.resolve path = .ok inner := by
  rw [resolve, List.foldlM_cons]
  exact Success.bind_eq_ok.trans (exists_congr fun _ => and_congr_left fun _ => descend_eq_ok_iff)

/-- What was put at the end of a path is found there. -/
theorem resolve_replaceAt {path : List Segment} (resolved : target.resolve path = .ok inner)
    (sort : changed.toValue.primitive? = inner.toValue.primitive?) :
    (target.replaceAt path changed).resolve path = .ok changed ∧
      (target.replaceAt path changed).toValue.primitive? = target.toValue.primitive? := by
  induction path generalizing target with
  | nil =>
      obtain rfl := Except.ok.inj resolved
      exact ⟨rfl, sort⟩
  | cons segment path ih =>
      obtain ⟨middle, leads, later⟩ := resolve_cons_eq_ok_iff.mp resolved
      obtain ⟨found, sameSort⟩ := ih later
      obtain ⟨leadsBack, sameTarget⟩ := leads.replace_leads sameSort
      rw [replaceAt, descend_eq_ok_iff.mpr leads]
      exact ⟨resolve_cons_eq_ok_iff.mpr ⟨_, leadsBack, found⟩, sameTarget⟩

/-- A longer path edits what stands at the end of its first part. -/
theorem edit_append {operation : Target → Checked (α × Target)} {path : List Segment}
    (resolved : target.resolve path = .ok inner) (rest : List Segment) :
    target.edit operation (path ++ rest) =
      (inner.edit operation rest).map fun result =>
        (result.1, target.replaceAt path result.2) := by
  induction path generalizing target with
  | nil =>
      obtain rfl := Except.ok.inj resolved
      rw [List.nil_append]
      cases target.edit operation rest <;> rfl
  | cons segment path ih =>
      obtain ⟨middle, leads, later⟩ := resolve_cons_eq_ok_iff.mp resolved
      have descends := descend_eq_ok_iff.mpr leads
      rw [List.cons_append, edit_cons, descends, Success.bind_ok, ih later]
      cases inner.edit operation rest with
      | error refusal => rfl
      | ok result => simp [replaceAt, descends, Except.map]

end Target

/-- The collection that stands at the end of the path, or the one that stood there before. -/
def Target.keyedAt (path : List Segment) (former : KeyedCollection) (target : Target) :
    KeyedCollection :=
  match target.resolve path with
  | .ok (.keyed collection) => collection
  | _ => former

theorem Target.keyedAt_of_resolve {path : List Segment} {former collection : KeyedCollection}
    {target : Target} (resolved : target.resolve path = .ok (.keyed collection)) :
    target.keyedAt path former = collection := by
  rw [keyedAt, resolved]

/-- A use of the collection at the end of the path. -/
def Target.use (path : List Segment) (target : Target) (use : KeyedUse) :
    Except PathError (Option Entity × Target) :=
  target.edit use.toCommand.run (path ++ use.path)

/-- A use at the end of a path is a use of the collection that stands there. -/
theorem Target.use_follows {path : List Segment} {target : Target} {collection : KeyedCollection}
    (resolved : target.resolve path = .ok (.keyed collection)) (former : KeyedCollection)
    (use : KeyedUse) :
    use.run collection =
        (target.use path use).map (fun result => (result.1, result.2.keyedAt path former)) ∧
      ∀ answer next, target.use path use = .ok (answer, next) →
        next.resolve path = .ok (.keyed (next.keyedAt path former)) := by
  rw [Target.use, edit_append resolved, use.edit_eq_run]
  cases use.run collection with
  | error refusal => exact ⟨rfl, fun answer next taken => by contradiction⟩
  | ok result =>
      obtain ⟨answer, changed⟩ := result
      -- What is put back must be of the former sort, or the path would not lead to it again.
      have sort : (keyed changed).toValue.primitive? = (keyed collection).toValue.primitive? := rfl
      have back := (resolve_replaceAt resolved sort).1
      have shown : (target.replaceAt path (.keyed changed)).keyedAt path former = changed :=
        keyedAt_of_resolve back
      refine ⟨?_, fun own next taken => ?_⟩
      · simp only [Except.map, shown]
      · obtain ⟨_, rfl⟩ := Prod.mk.inj (Except.ok.inj taken)
        rw [shown]
        exact back

/-- Uses at the end of a path are uses of the collection that stands there. -/
theorem Target.performAll_use {root : Target} {path : List Segment} {start : KeyedCollection}
    (resolved : root.resolve path = .ok (.keyed start)) (uses : List KeyedUse) :
    let edited := performAll (Target.use path) uses root
    let used := performAll KeyedUse.run uses start
    edited.1 = used.1 ∧ edited.2.resolve path = .ok (.keyed used.2) := by
  intro edited used
  have viewed : root.keyedAt path start = start := keyedAt_of_resolve resolved
  have follows (use : KeyedUse) (_ : use ∈ uses) (target : Target)
      (here : target.resolve path = .ok (.keyed (target.keyedAt path start))) :=
    use_follows here start use
  have opened : root.resolve path = .ok (.keyed (root.keyedAt path start)) := by
    rw [viewed]
    exact resolved
  obtain ⟨same, found⟩ := performAll_simulates follows opened
  rw [viewed] at same
  have answers : used.1 = edited.1 := congrArg Prod.fst same
  have final : used.2 = edited.2.keyedAt path start := congrArg Prod.snd same
  exact ⟨answers.symm, final ▸ found⟩

/--
The elements of a collection inside a target hold their keys, and each of them is found under the
text of its own key field, as long as no use gives another text to the key field of an element.
-/
theorem Target.attached_of_spared {space : Workspace} (reached : space.Reachable) {root : Target}
    (given : root ∈ space.targets) {path : List Segment} {start : KeyedCollection}
    (resolved : root.resolve path = .ok (.keyed start)) (attached : start.Attached)
    {uses : List KeyedUse} (supplied : ∀ use ∈ uses, space.SuppliesCommand use.toCommand)
    (spared : Throughout KeyedUse.run (fun collection use => use.Spares collection) uses start) :
    let edited := performAll (Target.use path) uses root
    ∃ final, edited.2.resolve path = .ok (.keyed final) ∧
      edited.1 = (performAll KeyedUse.run uses start).1 ∧
      (∀ entry ∈ final.entries, entry.2.getText start.keyField = .ok (some entry.1)) ∧
      (∀ entry ∈ final.entries, ∀ text,
        entry.2.getText start.keyField = .ok (some text) → final.get? text = some entry.2) ∧
      ∀ (use : KeyedUse) (answer : Option Entity) (next : KeyedCollection),
        space.SuppliesCommand use.toCommand → use.run final = .ok (answer, next) →
        ((∀ entry ∈ next.entries, entry.2.getText start.keyField = .ok (some entry.1)) ↔
          use.Spares final) := by
  intro edited
  have spaceSound := reached.sound
  have startSound : Value.SoundThroughout space.types (.map start) :=
    Target.resolve_sound (spaceSound.targets root given) resolved
  obtain ⟨answers, found⟩ := Target.performAll_use resolved uses
  have kept : start.Keeps space (performAll KeyedUse.run uses start).2 ∧
      (performAll KeyedUse.run uses start).2.Attached := by
    refine performAll_keeps (fun collection => start.Keeps space collection ∧
      collection.Attached) ?_ spared ⟨⟨startSound, rfl, rfl, rfl⟩, attached⟩
    rintro use member collection answer next ⟨keeps, held⟩ spares ran
    exact ⟨KeyedUse.run_keeps spaceSound keeps (supplied use member) ran,
      (KeyedUse.attached_iff_spares spaceSound ⟨keeps.sound, held⟩ (supplied use member) ran).mpr
        spares⟩
  generalize (performAll KeyedUse.run uses start).2 = final at found kept
  obtain ⟨keeps, held⟩ := kept
  have keyField : final.keyField = start.keyField := Option.some.inj keeps.framed.key
  rw [KeyedCollection.Attached, keyField] at held
  refine ⟨final, found, answers, held, fun entry member text reads => ?_,
    fun use answer next suppliedUse ran => ?_⟩
  · obtain rfl : entry.1 = text := Option.some.inj (Except.ok.inj ((held entry member).symm.trans
      reads))
    exact (Entries.find?_eq_some_iff keeps.sound.here.distinct).mpr member
  · have nextKeeps := KeyedUse.run_keeps spaceSound keeps suppliedUse ran
    have nextField : next.keyField = start.keyField := Option.some.inj nextKeeps.framed.key
    have exact_iff := KeyedUse.attached_iff_spares spaceSound
      ⟨keeps.sound, by rwa [KeyedCollection.Attached, keyField]⟩ suppliedUse ran
    rwa [KeyedCollection.Attached, nextField] at exact_iff

namespace Catalogue

/-- A host keeps its key while its other fields are changed and its own name is set again. -/
theorem leaf_spared :
    let uses : List KeyedUse := [
      .element "leaf" [] (.entity (.set "ansible_host" (.text "10.0.0.1"))),
      .element "leaf" [] (.entity (.setExtra "rack" (.integer 7))),
      .element "leaf" [] (.entity (.set "name" (.text "leaf"))),
      .element "leaf" [] (.entity (.delete "ansible_host"))]
    let edited := performAll (Target.use [.map "hosts"]) uses
      (.entity (inventoryOf [("leaf", leaf)]))
    ∃ final, edited.2.resolve [.map "hosts"] = .ok (.keyed final) ∧
      ∀ entry ∈ final.entries, ∀ text, entry.2.getText "name" = .ok (some text) →
        final.get? text = some entry.2 := by
  intro uses edited
  have spared : Throughout KeyedUse.run (fun collection use => use.Spares collection) uses
      ⟨host, "name", [("leaf", leaf)]⟩ := by
    refine ⟨?_, ?_, ?_, ?_, trivial⟩
    all_goals
      rintro item found same
      obtain rfl := Option.some.inj found
    · exact absurd same (by decide)
    · exact absurd same (by decide)
    · exact ⟨_, rfl, .inl rfl⟩
    · exact absurd same (by decide)
  have supplied : ∀ use ∈ uses, Workspace.SuppliesCommand ⟨types.reverse,
      [.entity (inventoryOf [("leaf", leaf)]), .entity (inventoryOf []), .entity leaf]⟩
      use.toCommand := by
    simp only [uses, List.forall_mem_cons]
    exact ⟨Workspace.supplies_text _, .number _, Workspace.supplies_text _, trivial, nofun⟩
  have attached : KeyedCollection.Attached ⟨host, "name", [("leaf", leaf)]⟩ :=
    List.forall_mem_singleton.mpr rfl
  have resolved : (Target.entity (inventoryOf [("leaf", leaf)])).resolve [.map "hosts"] =
      .ok (.keyed ⟨host, "name", [("leaf", leaf)]⟩) := rfl
  obtain ⟨final, found, _, _, looked, _⟩ := Target.attached_of_spared leaf_reachable
    List.mem_cons_self resolved attached supplied spared
  exact ⟨final, found, looked⟩

/-- A host that is renamed in its place stays under its former key. -/
theorem leaf_detached :
    let space : Workspace := ⟨types.reverse,
      [.entity (inventoryOf [("leaf", leaf)]), .entity (inventoryOf []), .entity leaf]⟩
    let root : Target := .entity (inventoryOf [("leaf", leaf)])
    let start : KeyedCollection := ⟨host, "name", [("leaf", leaf)]⟩
    let use : KeyedUse := .element "leaf" [] (.entity (.set "name" (.text "spine")))
    let edited := performAll (Target.use [.map "hosts"]) [use] root
    space.Reachable ∧ root ∈ space.targets ∧ space.SuppliesCommand use.toCommand ∧
      root.resolve [.map "hosts"] = .ok (.keyed start) ∧ start.Attached ∧
      ∃ final item, edited.2.resolve [.map "hosts"] = .ok (.keyed final) ∧
        final.entries = [("leaf", item)] ∧ item.getText "name" = .ok (some "spine") ∧
        final.get? "spine" = none := by
  intro space root start use edited
  refine ⟨leaf_reachable, List.mem_cons_self, Workspace.supplies_text _, rfl,
    List.forall_mem_singleton.mpr rfl, ?_⟩
  exact ⟨_, _, rfl, rfl, rfl, rfl⟩

end Catalogue

end NetworkAutomation
