/-
This file says when the elements of keyed collections hold their own keys, and which documents
leave other texts in their key fields.
-/

import NetworkAutomation.Proofs.MapRefinement

namespace NetworkAutomation

/-! ## What a given value leaves in a text field -/

/-- A text field holds the text after it was given this value. -/
def Attribute.Leaves (field : Attribute) (value : Value) (text : String) : Prop :=
  value = .text text ∨ (value = .null ∧ field.default = .text text)

/-- The last of the fields that lead to the slot of the name decides about its text. -/
def EntityType.Settles (type : EntityType) (name : String) (fields : List (String × Value))
    (text : String) : Prop :=
  ∃ before last after field, fields = before ++ last :: after ∧
    type.slot? last.1 = type.slot? name ∧
    (∀ later ∈ after, type.slot? later.1 ≠ type.slot? name) ∧
    type.field? name = some field ∧ field.Leaves last.2 text

/-- The key, which is given to the element under the key field, is what its fields settle. -/
def EntityType.SettlesKey (itemType : EntityType) (keyField : String)
    (entry : String × Document) : Prop :=
  ∀ body fields, KeyedCollection.entryBody itemType entry.1 entry.2 = .ok body →
    itemType.unwrap (Mapping.insert body keyField (.text entry.1)) = .ok fields →
    itemType.Settles keyField fields entry.1

def EntityType.SettlesKeys (itemType : EntityType) (keyField : String) (document : Mapping) :
    Prop :=
  ∀ entry ∈ document, itemType.SettlesKey keyField entry

/-- Every element reads its key in its key field. -/
def KeyedCollection.Attached (collection : KeyedCollection) : Prop :=
  ∀ entry ∈ collection.entries, entry.2.getText collection.keyField = .ok (some entry.1)

/-- A text field takes the text itself, or null where the text is the default. -/
theorem Attribute.coerce_eq_text_iff {field : Attribute} (isText : field.type = .text)
    {value result : Value} {text : String} (coerced : field.coerce value = .ok result) :
    result = .text text ↔ field.Leaves value text := by
  unfold Leaves
  by_cases isNull : value = .null
  · subst isNull
    rw [Attribute.coerce_null] at coerced
    obtain rfl := Except.ok.inj coerced
    simp
  · obtain ⟨admitted, _⟩ := (Attribute.coerce_eq_ok_iff field isNull).mp coerced
    have same : result = value := by
      rw [isText] at admitted
      cases value <;> simp_all [AttributeType.admission]
    rw [same]
    exact ⟨.inl, fun leaves => leaves.resolve_right fun default => isNull default.1⟩

namespace EntityType

variable {types : List EntityType} {type : EntityType} {source : FieldSource} {slot : Nat}

/-- A field goes into the slot that its name leads to, and otherwise into no slot. -/
theorem populateField_eq_ok {population next : Population} {entry : String × Value}
    (taken : type.populateField type.coerceAt source population entry = .ok next) :
    (type.slot? entry.1 = none ∧ next.values = population.values) ∨
      ∃ own field value, type.slot? entry.1 = some own ∧ type.attributes[own]? = some field ∧
        field.coerce entry.2 = .ok value ∧ next.values = population.values.set own value := by
  unfold populateField at taken
  split at taken
  next own found =>
    obtain ⟨value, assigned, same⟩ := Success.bind_eq_ok.mp taken
    obtain rfl := Except.ok.inj same
    obtain ⟨field, placed⟩ := exists_field_of_slot? found
    exact .inr ⟨own, field, value, found, placed, ((assign_eq_ok_iff placed).mp assigned).1, rfl⟩
  next unknown =>
    split at taken
    next => exact .inl ⟨unknown, Except.ok.inj taken ▸ rfl⟩
    next => exact nomatch taken

theorem populateField_length {population next : Population} {entry : String × Value}
    (taken : type.populateField type.coerceAt source population entry = .ok next) :
    next.values.length = population.values.length := by
  rcases populateField_eq_ok taken with ⟨_, same⟩ | ⟨own, field, value, _, _, _, same⟩
  · rw [same]
  · rw [same, List.length_set]

theorem populateField_keeps {population next : Population} {entry : String × Value}
    (elsewhere : type.slot? entry.1 ≠ some slot)
    (taken : type.populateField type.coerceAt source population entry = .ok next) :
    next.values[slot]? = population.values[slot]? := by
  rcases populateField_eq_ok taken with ⟨_, same⟩ | ⟨own, field, value, found, _, _, same⟩
  · rw [same]
  · have different : own ≠ slot := fun same => elsewhere (found.trans (congrArg some same))
    rw [same, List.getElem?_set_ne different]

theorem capture_keeps {values : List Value} {other : Nat} (different : other ≠ slot)
    (name : String) (document : Document) :
    (capture values other name document)[slot]? = values[slot]? := by
  unfold capture
  split
  next => exact List.getElem?_set_ne different
  next => exact List.getElem?_set_ne different

/-- Captured values go into the catch-all and into no other slot. -/
theorem captureExtras_keeps {population : Population} (different : type.catchAllSlot? ≠ some slot) :
    (type.captureExtras population)[slot]? = population.values[slot]? := by
  unfold captureExtras
  split
  next other found =>
    have apart : other ≠ slot := fun same => different (found.trans (congrArg some same))
    suffices ∀ (extras : List (String × Value)) (values : List Value),
        (extras.foldl (fun values entry => capture values other entry.1 entry.2.toDocument)
          values)[slot]? = values[slot]? from this _ _
    intro extras
    induction extras with
    | nil => exact fun _ => rfl
    | cons entry rest ih =>
        intro values
        rw [List.foldl_cons, ih, capture_keeps apart]
  next => rfl

/-- A slot holds what the last field that leads there was coerced to. -/
theorem stored_of_populate {field : Attribute} {before after : List (String × Value)}
    {last : String × Value} {entity : Entity} (notCatchAll : type.catchAllSlot? ≠ some slot)
    (placed : type.attributes[slot]? = some field) (found : type.slot? last.1 = some slot)
    (elsewhere : ∀ later ∈ after, type.slot? later.1 ≠ some slot)
    (populated : type.populate type.coerceAt source (before ++ last :: after) = .ok entity) :
    ∃ value, field.coerce last.2 = .ok value ∧ entity.values[slot]? = some value := by
  obtain ⟨population, folded, _, rfl⟩ := populate_eq_ok_iff.mp populated
  -- The fold is split at the last field for the slot, since no field behind it touches the slot.
  rw [List.foldlM_append, Success.bind_eq_ok] at folded
  obtain ⟨early, foldedBefore, folded⟩ := folded
  rw [List.foldlM_cons, Success.bind_eq_ok] at folded
  obtain ⟨middle, taken, foldedAfter⟩ := folded
  have length : early.values.length = type.attributes.length := by
    refine Success.foldlM_preserves
      (fun state : Population => state.values.length = type.attributes.length)
      (List.length_map _) (fun state entry next _ held step => ?_) foldedBefore
    exact (populateField_length step).trans held
  have kept : population.values[slot]? = middle.values[slot]? := by
    refine Success.foldlM_preserves
      (fun state : Population => state.values[slot]? = middle.values[slot]?)
      rfl (fun state entry next member held step => ?_) foldedAfter
    exact (populateField_keeps (elsewhere entry member) step).trans held
  have inRange := (List.getElem?_eq_some_iff.mp placed).1
  rcases populateField_eq_ok taken with ⟨unknown, _⟩ | ⟨own, other, value, ownFound, ownPlaced,
    coerced, same⟩
  · exact nomatch found.symm.trans unknown
  · obtain rfl := Option.some.inj (found.symm.trans ownFound)
    obtain rfl := Option.some.inj (placed.symm.trans ownPlaced)
    refine ⟨value, coerced, ?_⟩
    rw [captureExtras_keeps notCatchAll, kept, same]
    exact List.getElem?_set_self (length ▸ inRange)

/-- A text field reads a text just where the fields settle it. -/
theorem stores_iff_settles {name text : String} {field : Attribute} {entity : Entity}
    {fields : List (String × Value)} (sound : type.Sound types)
    (located : type.slot? name = some slot) (placed : type.attributes[slot]? = some field)
    (isText : field.type = .text) (given : ∃ entry ∈ fields, type.slot? entry.1 = some slot)
    (populated : type.populate type.coerceAt source fields = .ok entity) :
    entity.Stores name (.text text) ↔ type.Settles name fields text := by
  have sameType : entity.type = type := by
    obtain ⟨_, _, _, rfl⟩ := populate_eq_ok_iff.mp populated
    rfl
  have notCatchAll : type.catchAllSlot? ≠ some slot := by
    intro found
    obtain ⟨own, ownPlaced, _, dict⟩ := sound.exists_catchAllSlot found
    obtain rfl := Option.some.inj (placed.symm.trans ownPlaced)
    exact nomatch isText.symm.trans dict
  have stores_iff : entity.Stores name (.text text) ↔
      entity.values[slot]? = some (.text text) := by
    unfold Entity.Stores
    rw [sameType, located]
    simp
  have fieldFound : type.field? name = some field := by
    rw [field?, located, Option.bind_some, placed]
  rw [stores_iff]
  constructor
  · intro stored
    obtain ⟨entry, member, leads⟩ := given
    obtain ⟨before, last, after, rfl, found, later⟩ := Entries.exists_last
      (fun entry => type.slot? entry.1 == some slot) member (beq_iff_eq.mpr leads)
    have lastFound : type.slot? last.1 = some slot := beq_iff_eq.mp found
    have elsewhere : ∀ other ∈ after, type.slot? other.1 ≠ some slot :=
      fun other inAfter => beq_eq_false_iff_ne.mp (later other inAfter)
    obtain ⟨value, coerced, own⟩ :=
      stored_of_populate notCatchAll placed lastFound elsewhere populated
    have same : value = .text text := Option.some.inj (own.symm.trans stored)
    exact ⟨before, last, after, field, rfl, lastFound.trans located.symm,
      fun other inAfter => located ▸ elsewhere other inAfter, fieldFound,
      (Attribute.coerce_eq_text_iff isText coerced).mp same⟩
  · rintro ⟨before, last, after, own, rfl, lastFound, elsewhere, ownFound, leaves⟩
    obtain rfl := Option.some.inj (fieldFound.symm.trans ownFound)
    rw [located] at lastFound elsewhere
    obtain ⟨value, coerced, stored⟩ :=
      stored_of_populate notCatchAll placed lastFound elsewhere populated
    rw [stored, (Attribute.coerce_eq_text_iff isText coerced).mpr leaves]

end EntityType

/-! ## Elements that are read under their keys -/

namespace KeyedCollection

variable {types : List EntityType}

theorem readEntry_stores_iff {itemType : EntityType} (sound : itemType.Sound types)
    {keyField : String} (text : itemType.checkKeyField keyField = .ok ())
    {entry : String × Document} (formed : entry.2.WellFormed) {result : String × Entity}
    (taken : readEntry itemType keyField itemType.read entry = .ok result) :
    result.2.Stores keyField (.text result.1) ↔ itemType.SettlesKey keyField entry := by
  obtain ⟨body, item, bodyTaken, read, rfl⟩ := readEntry_eq_ok_iff.mp taken
  obtain ⟨slot, field, located, placed, isText⟩ := EntityType.checkKeyField_eq_ok_iff.mp text
  rw [EntityType.read_eq] at read
  obtain ⟨fields, unwrapped, populated⟩ := Success.bind_eq_ok.mp read
  have bodyFormed : (Document.mapping body).WellFormed := by
    rcases entryBody_eq_ok_iff.mp bodyTaken with ⟨_, rfl⟩ | isBody
    · exact .nil
    · exact isBody ▸ formed
  have present : (keyField, Document.text entry.1) ∈
      Mapping.insert body keyField (.text entry.1) := by
    rw [Mapping.insert_eq_put]
    exact Entries.mem_put_self _ _ _
  have given := EntityType.mem_unwrap_of_text (bodyFormed.insert keyField (.text entry.1))
    present unwrapped
  rw [EntityType.stores_iff_settles sound located placed isText ⟨_, given, located⟩ populated]
  constructor
  · intro settles own ownFields ownTaken ownUnwrapped
    obtain rfl := Except.ok.inj (bodyTaken.symm.trans ownTaken)
    obtain rfl := Except.ok.inj (unwrapped.symm.trans ownUnwrapped)
    exact settles
  · intro settles
    exact settles body fields bodyTaken unwrapped

theorem attached_iff {collection : KeyedCollection} :
    collection.Attached ↔
      ∀ entry ∈ collection.entries, entry.2.Stores collection.keyField (.text entry.1) :=
  forall₂_congr fun _ _ => Entity.getText_eq_ok_some_iff

/-- The elements that were read hold their keys just where the document settles them. -/
theorem readEntries_attached_iff {itemType : EntityType} (sound : itemType.Sound types)
    {keyField : String} (text : itemType.checkKeyField keyField = .ok ()) {document : Mapping}
    (formed : (Document.mapping document).WellFormed) {collection : KeyedCollection}
    (taken : readEntries itemType keyField itemType.read document = .ok collection) :
    collection.Attached ↔ itemType.SettlesKeys keyField document := by
  obtain ⟨entries, pairs, rfl⟩ := readEntries_eq_ok_iff.mp taken
  rw [attached_iff]
  constructor
  · intro held entry member
    obtain ⟨result, inEntries, read⟩ := Success.exists_source pairs.flip member
    exact (readEntry_stores_iff sound text (formed.entries entry member) read).mp
      (held result inEntries)
  · intro settles result member
    obtain ⟨entry, inDocument, read⟩ := Success.exists_source pairs member
    exact (readEntry_stores_iff sound text (formed.entries entry inDocument) read).mpr
      (settles entry inDocument)

/-- Without an envelope, keys are settled where no element spells the key field otherwise. -/
theorem settlesKeys_of_plain {itemType : EntityType} (bare : itemType.envelope = none)
    {keyField : String} {field : Attribute} (fieldFound : itemType.field? keyField = some field)
    {document : Mapping} (formed : (Document.mapping document).WellFormed)
    (plain : ∀ entry ∈ document, ∀ body, entry.2 = .mapping body → ∀ own ∈ body,
      itemType.slot? own.1 = itemType.slot? keyField → own.1 = keyField) :
    itemType.SettlesKeys keyField document := by
  intro entry member body fields bodyTaken unwrapped
  have bodyPlain : (Document.mapping body).WellFormed ∧ ∀ own ∈ body,
      itemType.slot? own.1 = itemType.slot? keyField → own.1 = keyField := by
    rcases entryBody_eq_ok_iff.mp bodyTaken with ⟨_, rfl⟩ | isBody
    · exact ⟨.nil, fun own inBody => absurd inBody List.not_mem_nil⟩
    · exact ⟨isBody ▸ formed.entries entry member, plain entry member body isBody⟩
  obtain ⟨bodyFormed, named⟩ := bodyPlain
  have distinct := (bodyFormed.insert keyField (.text entry.1)).keys
  rcases EntityType.unwrap_eq_ok_iff.mp unwrapped with ⟨_, rfl⟩ | ⟨root, _, enveloped, _⟩
  · rw [Mapping.insert_eq_put] at distinct ⊢
    obtain ⟨before, after, split⟩ := List.append_of_mem
      (Entries.mem_put_self body keyField (.text entry.1))
    refine ⟨EntityType.fieldsOf before, (keyField, .text entry.1), EntityType.fieldsOf after, field,
      ?_, rfl, ?_, fieldFound, .inl rfl⟩
    · rw [split]
      simp [EntityType.fieldsOf, Value.ofDocument]
    · rintro later inAfter sameSlot
      obtain ⟨own, isLater, rfl⟩ := List.mem_map.mp inAfter
      rw [split, Entries.keys_append, Entries.keys_cons, List.nodup_append] at distinct
      have inKeys := Entries.mem_keys_of_mem isLater
      have apart : own.1 ≠ keyField :=
        fun same => (List.nodup_cons.mp distinct.2.1).1 (same ▸ inKeys)
      have inWhole : own ∈ Entries.put body keyField (.text entry.1) := by
        rw [split]
        exact List.mem_append_right _ (List.mem_cons_of_mem _ isLater)
      rcases Entries.mem_put inWhole with rfl | inBody
      · exact apart rfl
      · exact apart (named own inBody sameSlot)
  · cases bare.symm.trans enveloped

/-! ## Commands -/

variable {collection changed : KeyedCollection} {space : Workspace}

/-- An element that holds its key may be put under it. -/
theorem Attached.withEntry (attached : collection.Attached) {key : String} {item : Entity}
    (stores : item.Stores collection.keyField (.text key)) :
    (collection.withEntry key item).Attached := by
  intro entry member
  rcases Entries.mem_put member with rfl | old
  · exact Entity.getText_eq_ok_some_iff.mpr stores
  · exact attached entry old

theorem deserialize_attached_iff (spaceSound : space.Sound)
    (sound : Value.SoundThroughout space.types (.map collection)) {document : Mapping}
    (formed : (Document.mapping document).WellFormed)
    (taken : collection.deserialize document = .ok changed) :
    changed.Attached ↔ collection.itemType.SettlesKeys collection.keyField document :=
  readEntries_attached_iff (spaceSound.registry.sound _ sound.here.known) sound.here.keyField
    formed taken

end KeyedCollection

/-- What the command makes of elements that hold their keys holds its keys as well. -/
def KeyedCommand.Settles (collection : KeyedCollection) : KeyedCommand → Prop
  | .deserialize document =>
      collection.itemType.SettlesKeys collection.keyField document
  | _ => True

/-- Only a document can tear the elements of a collection from their keys. -/
theorem KeyedCommand.attached_iff_settles {space : Workspace} (spaceSound : space.Sound)
    {collection changed : KeyedCollection}
    (sound : Value.SoundThroughout space.types (.map collection))
    (attached : collection.Attached) {command : KeyedCommand}
    (supplied : space.SuppliesKeyedCommand command) {answer : Option Entity}
    (ran : command.run collection = .ok (answer, changed)) :
    changed.Attached ↔ command.Settles collection := by
  cases command with
  | add item =>
      obtain ⟨_, key, stores, same⟩ := KeyedCollection.add_eq_ok_iff.mp ran
      obtain ⟨_, rfl⟩ := Prod.mk.inj same
      exact iff_of_true (attached.withEntry stores) trivial
  | insert key item =>
      obtain ⟨_, keyed, set, same⟩ := KeyedCollection.insert_eq_ok_iff.mp ran
      obtain ⟨_, rfl⟩ := Prod.mk.inj same
      have stores := Entity.stores_of_set_text (spaceSound.suppliedItem supplied) set
      exact iff_of_true (attached.withEntry stores) trivial
  | create fields =>
      obtain ⟨⟨created, _⟩, made, same⟩ := Success.bind_eq_ok.mp ran
      obtain ⟨rfl, rfl⟩ := Prod.mk.inj (Except.ok.inj same)
      obtain ⟨_, key, stores, _, rfl⟩ := KeyedCollection.create_eq_ok_iff.mp made
      exact iff_of_true (attached.withEntry stores) trivial
  | remove key =>
      obtain ⟨rfl, rfl⟩ := Prod.mk.inj (Except.ok.inj ran)
      exact iff_of_true (fun entry member => attached entry (List.mem_of_mem_eraseP member)) trivial
  | clear =>
      obtain ⟨rfl, rfl⟩ := Prod.mk.inj (Except.ok.inj ran)
      exact iff_of_true (fun entry member => absurd member List.not_mem_nil) trivial
  | deserialize document =>
      obtain ⟨_, taken, same⟩ := Success.bind_eq_ok.mp ran
      obtain ⟨rfl, rfl⟩ := Prod.mk.inj (Except.ok.inj same)
      exact KeyedCollection.deserialize_attached_iff spaceSound sound supplied taken

/-! ## Sequences of commands -/

section Sequence

variable {ε υ α σ : Type}

/-- Every use that succeeds is good for the state that it meets. -/
def Throughout (step : σ → υ → Except ε (α × σ)) (good : σ → υ → Prop) : List υ → σ → Prop
  | [], _ => True
  | use :: rest, state =>
      match step state use with
      | .ok (_, next) => good state use ∧ Throughout step good rest next
      | .error _ => Throughout step good rest state

/-- What good uses preserve holds behind the last of them. -/
theorem performAll_keeps {step : σ → υ → Except ε (α × σ)} {good : σ → υ → Prop}
    (Keeps : σ → Prop) {uses : List υ}
    (kept : ∀ use ∈ uses, ∀ state answer next, Keeps state → good state use →
      step state use = .ok (answer, next) → Keeps next)
    {state : σ} (throughout : Throughout step good uses state) (keeps : Keeps state) :
    Keeps (performAll step uses state).2 := by
  induction uses generalizing state with
  | nil => exact keeps
  | cons use rest ih =>
      have later {next : σ} (goodLater : Throughout step good rest next) (nextKeeps : Keeps next) :=
        ih (fun other member => kept other (List.mem_cons_of_mem _ member)) goodLater nextKeeps
      rw [Throughout] at throughout
      rw [performAll]
      cases taken : step state use with
      | error refusal =>
          rw [taken] at throughout
          exact later throughout keeps
      | ok result =>
          obtain ⟨answer, next⟩ := result
          rw [taken] at throughout
          exact later throughout.2
            (kept use List.mem_cons_self state answer next keeps throughout.1 taken)

end Sequence

/-- The elements of a collection hold their keys, and the collection is sound. -/
structure KeyedCollection.Held (space : Workspace) (collection : KeyedCollection) : Prop where
  sound : Value.SoundThroughout space.types (.map collection)
  attached : collection.Attached

namespace KeyedCollection

/-- A command for the collection, as one step of a sequence. -/
def perform (collection : KeyedCollection) (command : KeyedCommand) :
    Checked (Option Entity × KeyedCollection) :=
  command.run collection

/--
However a new keyed collection is changed, its elements hold their keys as long as the documents
that it takes settle them, and it takes no other document without tearing an element from its key.
-/
theorem attached_of_settled {space : Workspace} (reached : space.Reachable)
    {itemType : EntityType} (known : itemType ∈ space.types) {keyField : String}
    {start : KeyedCollection} (opened : withKey itemType keyField = .ok start)
    {commands : List KeyedCommand}
    (supplied : ∀ command ∈ commands, space.SuppliesKeyedCommand command)
    (settled : Throughout perform (fun collection command => command.Settles collection)
      commands start) :
    let final := (performAll perform commands start).2
    (∀ entry ∈ final.entries, entry.2.getText keyField = .ok (some entry.1)) ∧
      ∀ document changed, (Document.mapping document).WellFormed →
        final.deserialize document = .ok changed →
        ((∀ entry ∈ changed.entries, entry.2.getText keyField = .ok (some entry.1)) ↔
          itemType.SettlesKeys keyField document) := by
  intro final
  have spaceSound := reached.sound
  obtain ⟨startSound, isStart⟩ := withKey_sound known opened
  have startAttached : start.Attached := by
    rw [isStart]
    exact fun entry member => absurd member List.not_mem_nil
  have framed : final.itemType = itemType ∧ final.keyField = keyField ∧ final.Held space := by
    refine performAll_keeps (fun collection => collection.itemType = itemType ∧
      collection.keyField = keyField ∧ collection.Held space) ?_ settled ?_
    · rintro command member collection answer next ⟨items, keys, held⟩ settles ran
      obtain ⟨nextSound, sameItems, sameKeys⟩ :=
        spaceSound.keyedCommand (supplied command member) held.sound ran
      have nextAttached := (KeyedCommand.attached_iff_settles spaceSound held.sound held.attached
        (supplied command member) ran).mpr settles
      exact ⟨sameItems.trans items, sameKeys.trans keys, nextSound, nextAttached⟩
    · exact ⟨isStart ▸ rfl, isStart ▸ rfl, startSound, startAttached⟩
  obtain ⟨items, keys, held⟩ := framed
  refine ⟨keys ▸ held.attached, fun document changed formed taken => ?_⟩
  have taken_iff := deserialize_attached_iff spaceSound held.sound formed taken
  obtain ⟨entries, _, rfl⟩ := readEntries_eq_ok_iff.mp taken
  rw [items, keys] at taken_iff
  exact keys ▸ taken_iff

end KeyedCollection

/-! ## A key field with an alias -/

namespace Catalogue

/-- An item whose name may also be given as its label. -/
def labeled : EntityType :=
  Defined.value (TypeDeclaration.build firstFreeIdentity {
    name := "Item"
    declared := [("name", { type := .text, aliases := ["label"] })] }) rfl

theorem labeled_reachable : Workspace.Reachable ⟨labeled :: types.reverse, []⟩ := by
  have declared : Workspace.Declared (labeled :: types.reverse) 9 := by
    refine Workspace.catalogue_declared.declare rfl ⟨nofun, ?_⟩
    simp only [List.forall_mem_cons]
    exact ⟨.plain rfl rfl, nofun⟩
  exact declared.reached

/-- An item that was added and one that was read both hold their keys. -/
theorem labeled_held :
    let commands : List KeyedCommand := [
      .deserialize [("a", .mapping [("name", .text "x")]), ("b", .null)],
      .create [("label", .text "c")],
      .remove "a"]
    let start : KeyedCollection := ⟨labeled, "name", []⟩
    let final := (performAll KeyedCollection.perform commands start).2
    final.keys = ["b", "c"] ∧
      ∀ entry ∈ final.entries, entry.2.getText "name" = .ok (some entry.1) := by
  intro commands start final
  have opened : KeyedCollection.withKey labeled "name" = .ok start := rfl
  have formed : (Document.mapping
      [("a", .mapping [("name", .text "x")]), ("b", .null)]).WellFormed := by
    simp [Document.WellFormed.mapping_iff, Document.WellFormed.text, Document.WellFormed.null]
  have supplied : ∀ command ∈ commands,
      Workspace.SuppliesKeyedCommand ⟨labeled :: types.reverse, []⟩ command := by
    simp only [commands, List.forall_mem_cons]
    exact ⟨formed, List.forall_mem_singleton.mpr (Workspace.supplies_text "c"), trivial, nofun⟩
  have plain : labeled.SettlesKeys "name"
      [("a", .mapping [("name", .text "x")]), ("b", .null)] := by
    refine KeyedCollection.settlesKeys_of_plain rfl rfl formed ?_
    simp
  obtain ⟨attached, _⟩ := KeyedCollection.attached_of_settled labeled_reachable
    List.mem_cons_self opened supplied ⟨plain, trivial, trivial, trivial⟩
  exact ⟨rfl, attached⟩

/-- The label of the document takes the place of the key that was given before it. -/
theorem labeled_detached :
    let document : Mapping :=
      [("a", .mapping [("name", .text "x"), ("label", .text "b")])]
    let start : KeyedCollection := ⟨labeled, "name", []⟩
    let final := (performAll KeyedCollection.perform [.deserialize document] start).2
    Workspace.Reachable ⟨labeled :: types.reverse, []⟩ ∧
      KeyedCollection.withKey labeled "name" = .ok start ∧
      (Document.mapping document).WellFormed ∧
      ∃ item, final.entries = [("a", item)] ∧ item.getText "name" = .ok (some "b") := by
  refine ⟨labeled_reachable, rfl, ?_, ⟨labeled, [.text "b"]⟩, rfl, rfl⟩
  simp [Document.WellFormed.mapping_iff, Document.WellFormed.text]

end Catalogue

end NetworkAutomation
