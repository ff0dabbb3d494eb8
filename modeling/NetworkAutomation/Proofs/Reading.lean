/-
This file states what reading a document, admitting a value and filling an entity come down to.
-/

import NetworkAutomation.Proofs.Entries
import NetworkAutomation.Proofs.Success
import NetworkAutomation.Proofs.Slots

namespace NetworkAutomation

namespace Attribute

theorem coerce_null (field : Attribute) : field.coerce .null = .ok field.default := by
  cases field
  rw [Attribute.coerce]

theorem coerce_of_ne_null (field : Attribute) {value : Value} (given : value ≠ .null) :
    field.coerce value = (do
      let admitted ← field.type.admission field.name value
      EntityError.ofValidation (Validator.checkAll field.validators admitted)
      return admitted) := by
  cases field
  rw [Attribute.coerce]
  exact fun isNull => given isNull

theorem coerceAt_eq (fields : List Attribute) (slot : Nat) (value : Value) :
    Attribute.coerceAt fields slot value =
      match fields[slot]? with
      | some field => field.coerce value
      | none => .ok value := by
  induction fields generalizing slot with
  | nil => simp [Attribute.coerceAt]
  | cons field rest ih =>
      cases slot with
      | zero => simp [Attribute.coerceAt]
      | succ slot => simp [Attribute.coerceAt, ih]

theorem checkAll_eq_ok_iff {validators : List Validator} {value : Value} :
    EntityError.ofValidation (Validator.checkAll validators value) = .ok () ↔
      ∀ validator ∈ validators, validator.check value = .ok () := by
  rw [← Success.forM_eq_ok_iff, ← Validator.checkAll]
  cases Validator.checkAll validators value with
  | ok => simp [EntityError.ofValidation]
  | error refusal => simp [EntityError.ofValidation]

/-- A value that is not null is admitted by the type, and then every validator accepts it. -/
theorem coerce_eq_ok_iff (field : Attribute) {value result : Value} (given : value ≠ .null) :
    field.coerce value = .ok result ↔
      field.type.admission field.name value = .ok result ∧
        ∀ validator ∈ field.validators, validator.check result = .ok () := by
  rw [coerce_of_ne_null field given]
  constructor
  · intro coerced
    obtain ⟨admitted, first, rest⟩ := Success.bind_eq_ok.mp coerced
    obtain ⟨_, accepted, same⟩ := Success.bind_eq_ok.mp rest
    obtain rfl := Except.ok.inj same
    exact ⟨first, checkAll_eq_ok_iff.mp accepted⟩
  · rintro ⟨first, accepted⟩
    rw [first, Success.bind_ok, checkAll_eq_ok_iff.mpr accepted]
    rfl

theorem requireValue_eq_ok_iff {field : Attribute} {entity : String} {value result : Value} :
    field.requireValue entity value = .ok result ↔
      result = value ∧ (field.required = true → value ≠ .null) := by
  unfold Attribute.requireValue
  cases required : field.required with
  | false => simp [eq_comm]
  | true => cases value <;> simp [Value.isNull, eq_comm]

end Attribute

namespace AttributeType

/-- An object field takes an entity of its type, or a document that is read as one. -/
theorem admission_object_eq_ok_iff {item : EntityType} {name : String} {value result : Value} :
    (object item).admission name value = .ok result ↔
      (∃ entity, value = .object entity ∧ entity.type.isA item = true ∧ result = value) ∨
      ∃ entries entity, value = .dict entries ∧ item.read entries = .ok entity ∧
        result = .object entity := by
  cases value with
  | object entity =>
      rw [AttributeType.admission]
      cases descends : entity.type.isA item <;> simp [descends, @eq_comm _ result]
  | dict entries =>
      rw [AttributeType.admission]
      cases read : item.read entries <;> simp [read, @eq_comm _ result]
  | _ => simp [AttributeType.admission]

theorem admission_index_eq_ok_iff {item : EntityType} {name : String} {value result : Value} :
    (index item).admission name value = .ok result ↔
      (∃ collection, value = .index collection ∧ collection.itemType.isA item = true ∧
        result = value) ∨
      ∃ documents collection, value = .list documents ∧
        OrderedCollection.readItems item item.read documents = .ok collection ∧
        result = .index collection := by
  cases value with
  | index collection =>
      rw [AttributeType.admission]
      cases descends : collection.itemType.isA item <;> simp [descends, @eq_comm _ result]
  | list documents =>
      rw [AttributeType.admission]
      cases read : OrderedCollection.readItems item item.read documents <;>
        simp [read, @eq_comm _ result]
  | _ => simp [AttributeType.admission]

theorem admission_map_eq_ok_iff {item : EntityType} {key name : String} {value result : Value} :
    (map item key).admission name value = .ok result ↔
      (∃ collection, value = .map collection ∧ collection.itemType.isA item = true ∧
        collection.keyField = key ∧ result = value) ∨
      ∃ document collection, value = .dict document ∧
        KeyedCollection.readEntries item key item.read document = .ok collection ∧
        result = .map collection := by
  cases value with
  | map collection =>
      rw [AttributeType.admission]
      cases descends : collection.itemType.isA item <;>
        cases same : collection.keyField == key <;> simp_all [@eq_comm _ result]
  | dict document =>
      rw [AttributeType.admission]
      cases read : KeyedCollection.readEntries item key item.read document <;>
        simp [read, @eq_comm _ result]
  | _ => simp [AttributeType.admission]

/-- Nothing that a type admits is null. -/
theorem admission_ne_null {type : AttributeType} {name : String} {value result : Value}
    (admitted : type.admission name value = .ok result) : result ≠ .null := by
  cases type with
  | object item =>
      rcases admission_object_eq_ok_iff.mp admitted with
        ⟨entity, rfl, _, rfl⟩ | ⟨entries, entity, _, _, rfl⟩
      all_goals exact Value.noConfusion
  | index item =>
      rcases admission_index_eq_ok_iff.mp admitted with
        ⟨collection, rfl, _, rfl⟩ | ⟨documents, collection, _, _, rfl⟩
      all_goals exact Value.noConfusion
  | map item key =>
      rcases admission_map_eq_ok_iff.mp admitted with
        ⟨collection, rfl, _, _, rfl⟩ | ⟨document, collection, _, _, rfl⟩
      all_goals exact Value.noConfusion
  | _ =>
      cases value <;> simp only [AttributeType.admission, Except.ok.injEq, reduceCtorEq] at admitted
      subst admitted
      exact Value.noConfusion

end AttributeType

namespace EntityType

theorem read_eq (type : EntityType) (document : Mapping) :
    type.read document = (do
      let fields ← type.unwrap document
      type.populate type.coerceAt .document fields) := by
  cases type
  rw [EntityType.read]
  rfl

theorem outerFields_eq_ok_iff {type : EntityType} {root : String} {document : Mapping}
    {outer : List (String × Value)} :
    type.outerFields root document = .ok outer ↔
      outer = fieldsOf (document.without root) ∧
        (document.without root ≠ [] → type.isOpen = true) := by
  unfold outerFields
  rw [← Mapping.without]
  cases document.without root with
  | nil =>
      simp only [Except.ok.injEq, ne_eq, not_true_eq_false, false_implies, and_true]
      exact eq_comm
  | cons entry rest =>
      cases type.isOpen with
      | true =>
          simp only [if_true, Except.ok.injEq, implies_true, and_true]
          exact eq_comm
      | false => simp

/-- A document is read from its own keys, or from the body under the root and the keys beside it. -/
theorem unwrap_eq_ok_iff {type : EntityType} {document : Mapping}
    {fields : List (String × Value)} :
    type.unwrap document = .ok fields ↔
      (type.envelope = none ∧ fields = fieldsOf document) ∨
      ∃ root body, type.envelope = some root ∧ document.lookup? root = some (.mapping body) ∧
        (document.without root ≠ [] → type.isOpen = true) ∧
        fields = fieldsOf (document.without root) ++ fieldsOf body := by
  unfold unwrap
  constructor
  · intro unwrapped
    split at unwrapped
    next envelope => exact .inl ⟨envelope, (Except.ok.inj unwrapped).symm⟩
    next root envelope =>
      split at unwrapped
      next body found =>
        obtain ⟨outer, taken, same⟩ := Success.bind_eq_ok.mp unwrapped
        obtain ⟨rfl, allowed⟩ := outerFields_eq_ok_iff.mp taken
        exact .inr ⟨root, body, envelope, found, allowed, (Except.ok.inj same).symm⟩
      next => contradiction
      next => contradiction
  · rintro (⟨envelope, rfl⟩ | ⟨root, body, envelope, found, allowed, rfl⟩)
    · rw [envelope]
    · rw [envelope]
      dsimp only
      rw [found]
      dsimp only
      rw [outerFields_eq_ok_iff.mpr ⟨rfl, allowed⟩]
      rfl

/-- A value for a slot is coerced by the attribute of the slot, and a required slot stays set. -/
theorem assign_eq_ok_iff {type : EntityType} {slot : Nat} {field : Attribute}
    (placed : type.attributes[slot]? = some field) {value result : Value} :
    type.assign type.coerceAt slot value = .ok result ↔
      field.coerce value = .ok result ∧ (field.required = true → result ≠ .null) := by
  unfold EntityType.assign EntityType.coerceAt
  rw [Attribute.coerceAt_eq, placed, Success.bind_eq_ok]
  constructor
  · rintro ⟨coerced, first, second⟩
    obtain ⟨rfl, set⟩ := Attribute.requireValue_eq_ok_iff.mp second
    exact ⟨first, set⟩
  · rintro ⟨first, set⟩
    exact ⟨result, first, Attribute.requireValue_eq_ok_iff.mpr ⟨rfl, set⟩⟩

theorem populate_eq_ok_iff {type : EntityType} {coerce : Nat → Value → Checked Value}
    {source : FieldSource} {fields : List (String × Value)} {entity : Entity} :
    type.populate coerce source fields = .ok entity ↔
      ∃ population, fields.foldlM (type.populateField coerce source) ⟨type.defaults, []⟩ =
          .ok population ∧
        type.checkRequired (type.captureExtras population) = .ok () ∧
        entity = ⟨type, type.captureExtras population⟩ := by
  unfold EntityType.populate
  rw [Success.bind_eq_ok]
  constructor
  · rintro ⟨population, folded, rest⟩
    obtain ⟨_, complete, same⟩ := Success.bind_eq_ok.mp rest
    exact ⟨population, folded, complete, (Except.ok.inj same).symm⟩
  · rintro ⟨population, folded, complete, rfl⟩
    exact ⟨population, folded, Success.bind_eq_ok.mpr ⟨(), complete, rfl⟩⟩

theorem type_of_read {type : EntityType} {document : Mapping} {entity : Entity}
    (taken : type.read document = .ok entity) : entity.type = type := by
  rw [read_eq, Success.bind_eq_ok] at taken
  obtain ⟨fields, _, populated⟩ := taken
  obtain ⟨_, _, _, rfl⟩ := populate_eq_ok_iff.mp populated
  rfl

/-- No required attribute is left without a value. -/
theorem checkRequired_eq_ok_iff {type : EntityType} {values : List Value} :
    type.checkRequired values = .ok () ↔
      ∀ entry ∈ type.attributes.zip values, entry.1.required = true → entry.2 ≠ .null := by
  unfold EntityType.checkRequired
  rw [Success.forM_eq_ok_iff]
  refine forall₂_congr fun entry _ => ?_
  cases required : entry.1.required with
  | false => simp
  | true => cases entry.2 <;> simp [Value.isNull]

theorem readMapping_eq_ok_iff {type : EntityType} {read : Mapping → Checked Entity}
    {document : Document} {entity : Entity} :
    type.readMapping read document = .ok entity ↔
      ∃ entries, document = .mapping entries ∧ read entries = .ok entity := by
  cases document with
  | mapping entries => simp [readMapping]
  | _ => simp [readMapping, malformed]

theorem checkKeyField_eq_ok_iff {type : EntityType} {keyField : String} :
    type.checkKeyField keyField = .ok () ↔ ∃ slot field, type.slot? keyField = some slot ∧
      type.attributes[slot]? = some field ∧ field.type = .text := by
  rw [← fieldType_eq_some_iff, checkKeyField]
  split
  next text => simp [text]
  next other => exact ⟨fun refused => (nomatch refused), fun text => absurd text other⟩

end EntityType

/-- The elements of an ordered collection are read one from each document. -/
theorem OrderedCollection.readItems_eq_ok_iff {itemType : EntityType}
    {read : Mapping → Checked Entity} {documents : List Document}
    {collection : OrderedCollection} :
    OrderedCollection.readItems itemType read documents = .ok collection ↔
      ∃ items, List.Forall₂ (fun document item => itemType.readMapping read document = .ok item)
        documents items ∧ collection = ⟨itemType, items⟩ := by
  unfold OrderedCollection.readItems
  rw [Success.bind_eq_ok]
  refine exists_congr fun items => and_congr Success.mapM_eq_ok_iff ?_
  rw [Success.pure_eq_ok, Except.ok.injEq]
  exact eq_comm

namespace KeyedCollection

theorem entryBody_eq_ok_iff {itemType : EntityType} {key : String} {document : Document}
    {body : Mapping} :
    entryBody itemType key document = .ok body ↔
      (document = .null ∧ body = []) ∨ document = .mapping body := by
  cases document with
  | null =>
      simp only [entryBody, Except.ok.injEq, true_and, reduceCtorEq, or_false]
      exact eq_comm
  | mapping entries => simp [entryBody]
  | _ => simp [entryBody, EntityType.malformed]

theorem readEntry_eq_ok_iff {itemType : EntityType} {keyField : String}
    {read : Mapping → Checked Entity} {entry : String × Document} {result : String × Entity} :
    readEntry itemType keyField read entry = .ok result ↔
      ∃ body item, entryBody itemType entry.1 entry.2 = .ok body ∧
        read (Mapping.insert body keyField (.text entry.1)) = .ok item ∧
        result = (entry.1, item) := by
  unfold readEntry
  rw [Success.bind_eq_ok]
  constructor
  · rintro ⟨body, first, rest⟩
    obtain ⟨item, taken, same⟩ := Success.bind_eq_ok.mp rest
    exact ⟨body, item, first, taken, (Except.ok.inj same).symm⟩
  · rintro ⟨body, item, first, taken, rfl⟩
    exact ⟨body, first, Success.bind_eq_ok.mpr ⟨item, taken, rfl⟩⟩

/-- The entries of a keyed collection are read one from each entry of the document. -/
theorem readEntries_eq_ok_iff {itemType : EntityType} {keyField : String}
    {read : Mapping → Checked Entity} {document : Mapping} {collection : KeyedCollection} :
    readEntries itemType keyField read document = .ok collection ↔
      ∃ entries, List.Forall₂
        (fun entry result => readEntry itemType keyField read entry = .ok result)
        document entries ∧ collection = ⟨itemType, keyField, entries⟩ := by
  unfold readEntries
  rw [Success.bind_eq_ok]
  refine exists_congr fun entries => and_congr Success.mapM_eq_ok_iff ?_
  rw [Success.pure_eq_ok, Except.ok.injEq]
  exact eq_comm

theorem keys_readEntries {itemType : EntityType} {keyField : String}
    {read : Mapping → Checked Entity} {document : Mapping} {entries : List (String × Entity)}
    (taken : List.Forall₂
      (fun entry result => readEntry itemType keyField read entry = .ok result)
      document entries) :
    Entries.keys entries = Entries.keys document := by
  induction taken with
  | nil => rfl
  | cons head _ ih =>
      obtain ⟨_, _, _, _, rfl⟩ := readEntry_eq_ok_iff.mp head
      rw [Entries.keys_cons, Entries.keys_cons, ih]

end KeyedCollection

end NetworkAutomation
