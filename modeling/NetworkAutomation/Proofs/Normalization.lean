/-
This file proves when reading what was written of a document changes nothing more.
-/

import NetworkAutomation.Proofs.HeldKeys
import NetworkAutomation.Proofs.Rereading

namespace NetworkAutomation

/-! ## What reading leaves in a slot -/

theorem Value.itemType?_ofDocument (document : Document) :
    (Value.ofDocument document).itemType? = none := by
  cases document with
  | number value =>
      simp only [Value.ofDocument, Value.ofNumber]
      split
      next => split <;> rfl
      next => rfl
  | _ => rfl

/-- Entities inside a value that was made of a document were read from documents. -/
theorem AttributeType.exists_read_of_admission {type : AttributeType} {name : String}
    {document : Document} {result : Value}
    (admitted : type.admission name (Value.ofDocument document) = .ok result) {item : EntityType}
    (element : type.item? = some item) {child : Entity} (inside : child ∈ result.entities) :
    ∃ entries, item.read entries = .ok child := by
  have plain := Value.itemType?_ofDocument document
  generalize Value.ofDocument document = value at admitted plain
  cases type with
  | object own =>
      obtain rfl := Option.some.inj element
      rcases admission_object_eq_ok_iff.mp admitted with
        ⟨entity, rfl, _, _⟩ | ⟨entries, entity, _, taken, rfl⟩
      · exact nomatch plain
      · obtain rfl := List.mem_singleton.mp inside
        exact ⟨entries, taken⟩
  | index own =>
      obtain rfl := Option.some.inj element
      rcases admission_index_eq_ok_iff.mp admitted with
        ⟨collection, rfl, _, _⟩ | ⟨documents, collection, _, taken, rfl⟩
      · exact nomatch plain
      · obtain ⟨items, pairs, rfl⟩ := OrderedCollection.readItems_eq_ok_iff.mp taken
        obtain ⟨given, _, read⟩ := Success.exists_source pairs inside
        obtain ⟨entries, _, read⟩ := EntityType.readMapping_eq_ok_iff.mp read
        exact ⟨entries, read⟩
  | map own keyField =>
      obtain rfl := Option.some.inj element
      rcases admission_map_eq_ok_iff.mp admitted with
        ⟨collection, rfl, _, _, _⟩ | ⟨entries, collection, _, taken, rfl⟩
      · exact nomatch plain
      · obtain ⟨items, pairs, rfl⟩ := KeyedCollection.readEntries_eq_ok_iff.mp taken
        obtain ⟨entry, member, rfl⟩ := List.mem_map.mp inside
        obtain ⟨given, _, read⟩ := Success.exists_source pairs member
        obtain ⟨body, entity, _, readBody, rfl⟩ := KeyedCollection.readEntry_eq_ok_iff.mp read
        exact ⟨_, readBody⟩
  | _ => exact nomatch element

namespace EntityType

theorem exists_document_of_unwrap {type : EntityType} {document : Mapping}
    {fields : List (String × Value)} (unwrapped : type.unwrap document = .ok fields)
    {entry : String × Value} (member : entry ∈ fields) :
    ∃ given, entry.2 = Value.ofDocument given := by
  have made {entries : Mapping} (inside : entry ∈ fieldsOf entries) :
      ∃ given, entry.2 = Value.ofDocument given := by
    obtain ⟨own, _, rfl⟩ := List.mem_map.mp inside
    exact ⟨own.2, rfl⟩
  rcases unwrap_eq_ok_iff.mp unwrapped with ⟨_, rfl⟩ | ⟨root, body, _, _, _, rfl⟩
  · exact made member
  · rcases List.mem_append.mp member with outside | inside
    · exact made outside
    · exact made inside

/-- Apart from a catch-all a slot holds its default or what one of the fields was coerced to. -/
theorem slot_of_populate {type : EntityType} {source : FieldSource} {slot : Nat}
    {fields : List (String × Value)} {entity : Entity} {field : Attribute} {value : Value}
    (notCatchAll : type.catchAllSlot? ≠ some slot) (placed : type.attributes[slot]? = some field)
    (populated : type.populate type.coerceAt source fields = .ok entity)
    (stored : entity.values[slot]? = some value) :
    value = field.default ∨ ∃ entry ∈ fields, field.coerce entry.2 = .ok value := by
  obtain ⟨population, folded, _, rfl⟩ := populate_eq_ok_iff.mp populated
  rw [captureExtras_keeps notCatchAll] at stored
  -- This is what the slot holds after any number of fields.
  let made (state : Population) : Prop := ∀ held, state.values[slot]? = some held →
    held = field.default ∨ ∃ entry ∈ fields, field.coerce entry.2 = .ok held
  refine Success.foldlM_preserves made ?_ ?_ folded value stored
  · intro held start
    rw [defaults, List.getElem?_map, placed] at start
    exact .inl (Option.some.inj start).symm
  · intro state entry next member before taken held after
    rcases populateField_eq_ok taken with
      ⟨_, same⟩ | ⟨own, other, result, _, ownPlaced, coerced, same⟩
    · exact before held (same ▸ after)
    · rw [same] at after
      by_cases hit : own = slot
      · subst hit
        obtain rfl := Option.some.inj (placed.symm.trans ownPlaced)
        have inRange := (List.getElem?_eq_some_iff.mp after).1
        rw [List.length_set] at inRange
        rw [List.getElem?_set_self inRange] at after
        obtain rfl := Option.some.inj after
        exact .inr ⟨entry, member, coerced⟩
      · rw [List.getElem?_set_ne hit] at after
        exact before held after

/-- An entity inside one that was read stands in a default or was read itself. -/
theorem Sound.child_of_read {types : List EntityType} {type item : EntityType}
    (sound : type.Sound types) {document : Mapping} {entity child : Entity}
    (taken : type.read document = .ok entity) {slot : Nat} {field : Attribute} {value : Value}
    (placed : type.attributes[slot]? = some field) (stored : entity.values[slot]? = some value)
    (element : field.type.item? = some item) (inside : child ∈ value.entities) :
    child ∈ field.default.entities ∨ ∃ entries, item.read entries = .ok child := by
  rw [read_eq, Success.bind_eq_ok] at taken
  obtain ⟨fields, unwrapped, populated⟩ := taken
  have notCatchAll : type.catchAllSlot? ≠ some slot := by
    intro found
    obtain ⟨own, ownPlaced, _, dict⟩ := sound.exists_catchAllSlot found
    obtain rfl := Option.some.inj (ownPlaced.symm.trans placed)
    rw [dict] at element
    contradiction
  rcases slot_of_populate notCatchAll placed populated stored with
    rfl | ⟨entry, inFields, coerced⟩
  · exact .inl inside
  · obtain ⟨given, made⟩ := exists_document_of_unwrap unwrapped inFields
    rw [made] at coerced
    by_cases isNull : Value.ofDocument given = .null
    · rw [isNull, Attribute.coerce_null] at coerced
      obtain rfl := Except.ok.inj coerced
      exact .inl inside
    · have admitted := ((field.coerce_eq_ok_iff isNull).mp coerced).1
      exact .inr (AttributeType.exists_read_of_admission admitted element inside)

/-- The defaults of the type can be read again, and keys stand under the name of their field. -/
structure LegibleDefaults (type : EntityType) : Prop where
  children : ∀ field ∈ type.attributes, ∀ item, field.type.item? = some item →
    ∀ child ∈ field.default.entities, child.LegibleThroughout item
  keyed : ∀ field ∈ type.attributes, ∀ item key, field.type = .map item key →
    key ∈ item.fieldNames ∧ item.envelope = none

end EntityType

/-- A type has a place for everything that is written of its own entities. -/
theorem Entity.legible_self {entity : Entity} (distinct : entity.type.fieldNames.Nodup)
    (defaults : entity.type.LegibleDefaults) : entity.Legible entity.type where
  keeps := entity.type.keeps_self
  added entry member undeclared := by
    rcases mem_body_iff.mp member with ⟨slot, field, value, held, _, rfl⟩ | captured
    · rw [EntityType.hasAttribute_name distinct (List.mem_of_getElem? held.placed)] at undeclared
      contradiction
    · exact EntityType.exists_flattenedSlot (List.ne_nil_of_mem captured)
  keyed slot field collection item keyField shows isMap _ entry _ := by
    obtain ⟨named, bare⟩ :=
      defaults.keyed field (List.mem_of_getElem? shows.placed) item keyField isMap
    rw [KeyedFor, bare]
    exact .inl named

/-- Types that lose nothing have legible defaults when no entity stands in these. -/
theorem EntityType.Lossless.legibleDefaults {type : EntityType} (lossless : type.Lossless)
    (plain : ∀ field ∈ type.attributes, field.default.entities = []) : type.LegibleDefaults where
  children field member item _ child inside := by
    rw [plain field member] at inside
    exact absurd inside List.not_mem_nil
  keyed := lossless.keyed

/-- What is read can be read again when the defaults of all types below can be. -/
theorem Registry.legible_of_read {types : List EntityType} (registry : Registry types)
    {type : EntityType} (known : type ∈ types)
    (legible : ∀ inner, type.Reaches inner → inner.LegibleDefaults) {document : Mapping}
    {entity : Entity} (taken : type.read document = .ok entity) :
    entity.LegibleThroughout type := by
  induction type using EntityType.itemInduction generalizing document entity with
  | step type inductionHypothesis =>
      have typeSound := registry.sound type known
      have defaults := legible type Relation.ReflTransGen.refl
      obtain rfl := EntityType.type_of_read taken
      apply Entity.legibleThroughout_iff.mpr
      constructor
      · exact Entity.legible_self typeSound.distinct defaults
      · rintro item child ⟨slot, field, value, shows, _, element, inside⟩
        have member := List.mem_of_getElem? shows.placed
        have nested : entity.type.HasItem item := ⟨field, member, element⟩
        obtain ⟨place, held⟩ := shows.held
        obtain rfl := EntityType.slot_eq_of_field typeSound.distinct held.placed shows.placed
        -- Defaults are legible by assumption, and what was read is of a smaller type.
        rcases typeSound.child_of_read taken shows.placed held.stored element inside with
          inDefault | ⟨entries, childTaken⟩
        · exact defaults.children field member item element child inDefault
        · apply inductionHypothesis item nested
          · exact (typeSound.attributes field member).item item element
          · exact fun inner reached => legible inner (.of_item nested reached)
          · exact childTaken

/-! ## Types that lose nothing -/

/-- The inner types that are met are below the reader. -/
theorem Entity.ShowsWithin.reaches {entity inner : Entity} {reader innerReader : EntityType}
    (within : entity.ShowsWithin reader innerReader inner) : reader.Reaches innerReader := by
  induction within with
  | here => exact Relation.ReflTransGen.refl
  | deeper shown _ inductionHypothesis =>
      obtain ⟨slot, field, value, shows, _, element, _⟩ := shown
      exact .of_item ⟨field, List.mem_of_getElem? shows.placed, element⟩ inductionHypothesis

theorem EntityType.Lossless.restoredBy {reader : EntityType} (lossless : reader.Lossless)
    (entity : Entity) : entity.RestoredBy reader where
  absent slot field value shows policy container _ :=
    lossless.absent field (List.mem_of_getElem? shows.placed) policy container
  captured slot field entries flattened placed dict key member _ := by
    rw [lossless.captured slot field flattened placed] at dict
    obtain rfl := Value.dict.inj dict
    exact absurd member List.not_mem_nil

/-- Types that lose nothing make nothing up. -/
theorem EntityType.restoredThroughout_of_lossless {reader : EntityType}
    (lossless : ∀ inner, reader.Reaches inner → inner.Lossless) (entity : Entity) :
    entity.RestoredThroughout reader := by
  intro innerReader inner within
  exact (lossless innerReader within.reaches).restoredBy inner

/-! ## Normal documents -/

/--
What is read of a document can be written and read again, as long as the type has a place for
everything that is written. It agrees exactly where the defaults make nothing up. Types always have
a place when their defaults can be read again and keys stand under the names of their fields.
-/
theorem Workspace.Reachable.normalizes {space : Workspace} (reached : space.Reachable)
    {type : EntityType} (known : type ∈ space.types) {document : Document}
    (formed : document.WellFormed) {entity : Entity}
    (taken : type.readDocument document = .ok entity) :
    ((∀ inner, type.Reaches inner → inner.LegibleDefaults) → entity.LegibleThroughout type) ∧
      (entity.LegibleThroughout type → ∃ rebuilt,
        type.readDocument entity.toDocument = .ok rebuilt ∧
          (rebuilt.agrees entity = true ↔ entity.RestoredThroughout type)) := by
  have registry := reached.sound.registry
  constructor
  · intro defaults
    obtain ⟨entries, _, read⟩ := EntityType.readMapping_eq_ok_iff.mp taken
    exact registry.legible_of_read known defaults read
  · intro legible
    have sound := (registry.readDocument_sound known formed taken).1
    obtain ⟨rebuilt, read, agrees⟩ := (Entity.readsAs registry sound known legible).plain
    exact ⟨rebuilt, EntityType.readMapping_eq_ok_iff.mpr ⟨entity.serialize, rfl, read⟩, agrees⟩

namespace Catalogue

/-- No type of the catalogue has an entity in a default. -/
theorem reaches_legibleDefaults {type inner : EntityType} (known : type ∈ types)
    (reached : type.Reaches inner) : inner.LegibleDefaults := by
  have plain : ∀ type ∈ types, ∀ field ∈ type.attributes, field.default.entities = [] := by
    decide
  exact (reaches_lossless known reached).legibleDefaults (plain inner (reaches_known known reached))

/-- An inventory with one host is read, written and read again. -/
theorem leaf_normalizes :
    let document : Document := .mapping [("all", .mapping [("hosts", .mapping [
      ("leaf", .mapping [])])])]
    ∃ entity rebuilt, inventory.readDocument document = .ok entity ∧
      inventory.readDocument entity.toDocument = .ok rebuilt ∧ rebuilt.agrees entity = true := by
  intro document
  have known : inventory ∈ types := by simp [types]
  have formed : document.WellFormed := by
    simp [document, Document.WellFormed.mapping_iff]
  have taken : inventory.readDocument document = .ok (inventoryOf [("leaf", leaf)]) := rfl
  obtain ⟨legible, again⟩ :=
    leaf_reachable.normalizes (List.mem_reverse.mpr known) formed taken
  obtain ⟨rebuilt, read, agrees⟩ := again (legible fun inner => reaches_legibleDefaults known)
  refine ⟨_, rebuilt, taken, read, agrees.mpr ?_⟩
  exact EntityType.restoredThroughout_of_lossless (fun inner => reaches_lossless known) _

/-- An item with a list of ports that is left out while it is empty, but not empty by default. -/
def ported : EntityType :=
  Defined.value (TypeDeclaration.build firstFreeIdentity {
    name := "Item"
    declared := [("ports", {
      type := .list, policy := .present, default := .list [.number (.integer 1)] })] }) rfl

/-- Ports that are given as empty are left out, so the default ports come back. -/
theorem ported_made_up :
    let document : Document := .mapping [("ports", .list [])]
    Workspace.Reachable ⟨ported :: types.reverse, []⟩ ∧ document.WellFormed ∧
      ∃ entity rebuilt, ported.readDocument document = .ok entity ∧
        ported.readDocument entity.toDocument = .ok rebuilt ∧
        entity.toDocument = .mapping [] ∧
        rebuilt.toDocument = .mapping [("ports", .list [.number (.integer 1)])] ∧
        rebuilt.agrees entity = false := by
  intro document
  have declared : Workspace.Declared (ported :: types.reverse) 9 := by
    refine Workspace.catalogue_declared.declare rfl ⟨nofun, ?_⟩
    simp only [List.forall_mem_cons]
    refine ⟨⟨nofun, ?_⟩, nofun⟩
    exact .list fun item _ => by simp_all [Document.WellFormed.number]
  refine ⟨declared.reached, ?_, ⟨ported, [.list []]⟩,
    ⟨ported, [.list [.number (.integer 1)]]⟩, rfl, rfl, rfl, rfl, rfl⟩
  exact Document.WellFormed.mapping_iff.mpr ⟨List.nodup_singleton _,
    List.forall_mem_singleton.mpr (.list nofun)⟩

end Catalogue

end NetworkAutomation
