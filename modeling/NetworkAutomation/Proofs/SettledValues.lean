/-
This file proves that attributes accept their own defaults, and once more whatever they accepted.
-/

import NetworkAutomation.Proofs.Inventories

namespace NetworkAutomation

/-! ## What an attribute takes -/

/--
A value is taken as it is, or it is the document of an entity or of a collection of exactly the
element type.
-/
inductive AttributeType.Takes : AttributeType → Value → Value → Prop where
  | plain {type : AttributeType} {value : Value} (unnested : type.item? = none)
      (kind : value.primitive? = some type.primitive) : Takes type value value
  | object {item : EntityType} {entity : Entity} (descends : entity.instanceOf item = true) :
      Takes (.object item) (.object entity) (.object entity)
  | index {item : EntityType} {collection : OrderedCollection}
      (descends : collection.itemType.isA item = true) :
      Takes (.index item) (.index collection) (.index collection)
  | map {item : EntityType} {key : String} {collection : KeyedCollection}
      (descends : collection.itemType.isA item = true) (sameKey : collection.keyField = key) :
      Takes (.map item key) (.map collection) (.map collection)
  | readObject {item : EntityType} {document : Mapping} {entity : Entity}
      (taken : item.readDocument (.mapping document) = .ok entity) :
      Takes (.object item) (.dict document) (.object entity)
  | readIndex {item : EntityType} {documents : List Document} {collection : OrderedCollection}
      (taken : (OrderedCollection.empty item).deserialize documents = .ok collection) :
      Takes (.index item) (.list documents) (.index collection)
  | readMap {item : EntityType} {key : String} {document : Mapping}
      {collection : KeyedCollection}
      (taken : KeyedCollection.deserialize ⟨item, key, []⟩ document = .ok collection) :
      Takes (.map item key) (.dict document) (.map collection)

/-- Texts, booleans and numbers of any sort. -/
def Value.IsScalar : Value → Prop
  | .text _ => True
  | .integer _ => True
  | .boolean _ => True
  | .number _ => True
  | _ => False

/-- The default is null, or the attribute accepts it as it accepts any other value. -/
def Attribute.KeepsDefault (field : Attribute) : Prop :=
  field.default = .null ∨ (field.type.Fits field.default ∧
    ∀ validator ∈ field.validators, validator.check field.default = .ok ())

/-- An attribute accepts its default, and nothing that it accepted changes any more. -/
structure Attribute.Settled (field : Attribute) : Prop where
  null : field.coerce .null = .ok field.default
  default : field.KeepsDefault
  taken : ∀ value result, value ≠ .null → (field.coerce value = .ok result ↔
    field.type.Takes value result ∧
      ∀ validator ∈ field.validators, validator.check result = .ok ())
  unconverted : ∀ value result, value.IsScalar → field.coerce value = .ok result →
    result = value ∧ value.primitive? = some field.type.primitive
  again : ∀ value result, field.coerce value = .ok result → field.coerce result = .ok result

namespace AttributeType

variable {type : AttributeType} {value result : Value}

theorem admission_eq_ok_iff_takes {name : String} :
    type.admission name value = .ok result ↔ type.Takes value result := by
  constructor
  · intro admitted
    cases type with
    | object item =>
        rcases admission_object_eq_ok_iff.mp admitted with
          ⟨entity, rfl, descends, rfl⟩ | ⟨entries, entity, rfl, taken, rfl⟩
        · exact .object descends
        · exact .readObject taken
    | index item =>
        rcases admission_index_eq_ok_iff.mp admitted with
          ⟨collection, rfl, descends, rfl⟩ | ⟨documents, collection, rfl, taken, rfl⟩
        · exact .index descends
        · exact .readIndex taken
    | map item key =>
        rcases admission_map_eq_ok_iff.mp admitted with
          ⟨collection, rfl, descends, sameKey, rfl⟩ | ⟨document, collection, rfl, taken, rfl⟩
        · exact .map descends sameKey
        · exact .readMap taken
    | _ =>
        cases value <;>
          simp only [AttributeType.admission, Except.ok.injEq, reduceCtorEq] at admitted
        subst admitted
        exact .plain rfl rfl
  · intro takes
    cases takes with
    | plain unnested kind =>
        cases type <;> simp only [item?, reduceCtorEq] at unnested <;> cases value <;>
          simp_all [Value.primitive?, primitive, AttributeType.admission]
    | object descends => exact admission_object_eq_ok_iff.mpr (.inl ⟨_, rfl, descends, rfl⟩)
    | index descends => exact admission_index_eq_ok_iff.mpr (.inl ⟨_, rfl, descends, rfl⟩)
    | map descends sameKey =>
        exact admission_map_eq_ok_iff.mpr (.inl ⟨_, rfl, descends, sameKey, rfl⟩)
    | readObject taken => exact admission_object_eq_ok_iff.mpr (.inr ⟨_, _, rfl, taken, rfl⟩)
    | readIndex taken => exact admission_index_eq_ok_iff.mpr (.inr ⟨_, _, rfl, taken, rfl⟩)
    | readMap taken => exact admission_map_eq_ok_iff.mpr (.inr ⟨_, _, rfl, taken, rfl⟩)

/-- Documents are read as entities and collections of exactly the element type. -/
theorem Takes.again (takes : type.Takes value result) : type.Takes result result := by
  cases takes with
  | plain unnested kind => exact .plain unnested kind
  | object descends => exact .object descends
  | index descends => exact .index descends
  | map descends sameKey => exact .map descends sameKey
  | @readObject item document entity taken =>
      have same : entity.type = item := EntityType.type_of_read taken
      refine .object ?_
      rw [Entity.instanceOf, same]
      exact item.isA_self
  | @readIndex item documents collection taken =>
      obtain ⟨items, _, rfl⟩ := OrderedCollection.readItems_eq_ok_iff.mp taken
      exact .index item.isA_self
  | @readMap item key document collection taken =>
      obtain ⟨entries, _, rfl⟩ := KeyedCollection.readEntries_eq_ok_iff.mp taken
      exact .map item.isA_self rfl

theorem Fits.takes_self (fits : type.Fits value) : type.Takes value value := by
  have kind := fits.kind
  cases type with
  | object item =>
      cases value with
      | object entity => exact .object (fits.item item entity.type rfl rfl)
      | _ => exact nomatch kind
  | index item =>
      cases value with
      | index collection => exact .index (fits.item item collection.itemType rfl rfl)
      | _ => exact nomatch kind
  | map item key =>
      cases value with
      | map collection =>
          exact .map (fits.item item collection.itemType rfl rfl)
            (fits.key item key collection.keyField rfl rfl)
      | _ => exact nomatch kind
  | _ => exact .plain rfl kind

theorem Takes.fits_self (takes : type.Takes value value) : type.Fits value := by
  cases takes with
  | plain unnested kind =>
      refine ⟨kind, fun item own element => ?_, fun item key own isMap => ?_⟩
      · exact nomatch unnested.symm.trans element
      · subst isMap
        exact nomatch unnested
  | object descends => exact .object descends
  | index descends => exact .index descends
  | map descends sameKey => exact .map descends sameKey

theorem Takes.eq_of_isScalar (takes : type.Takes value result) (scalar : value.IsScalar) :
    result = value ∧ value.primitive? = some type.primitive := by
  cases takes with
  | plain unnested kind => exact ⟨rfl, kind⟩
  | _ => exact scalar.elim

theorem Takes.eq_of_result (takes : type.Takes value result) (scalar : result.IsScalar) :
    result = value := by
  cases takes with
  | plain => rfl
  | _ => exact scalar.elim

/-- An implicit default is null, or it is an empty container of the declared kind. -/
theorem implicitDefault_fits (type : AttributeType) :
    type.implicitDefault = .null ∨
      (type.isContainer = true ∧ type.Fits type.implicitDefault) := by
  cases type with
  | list => exact .inr ⟨rfl, .plain rfl rfl rfl⟩
  | dict => exact .inr ⟨rfl, .plain rfl rfl rfl⟩
  | index item => exact .inr ⟨rfl, .index item.isA_self⟩
  | map item key => exact .inr ⟨rfl, .map item.isA_self rfl⟩
  | object item =>
      cases created : item.empty with
      | error refusal =>
          left
          simp only [implicitDefault, created]
      | ok entity =>
          obtain ⟨_, _, same⟩ := Success.bind_eq_ok.mp created
          obtain rfl := Except.ok.inj same
          right
          simp only [implicitDefault, created]
          exact ⟨rfl, .object item.isA_self⟩
  | _ => exact .inl rfl

end AttributeType

/-! ## Defaults -/

namespace Attribute

variable {field : Attribute} {value result : Value}

theorem coerce_eq_ok_iff_takes (given : value ≠ .null) :
    field.coerce value = .ok result ↔ field.type.Takes value result ∧
      ∀ validator ∈ field.validators, validator.check result = .ok () := by
  rw [coerce_eq_ok_iff field given, AttributeType.admission_eq_ok_iff_takes]

/-- With its default an attribute accepts all that it makes of other values. -/
theorem KeepsDefault.coerce_again (keeps : field.KeepsDefault)
    (coerced : field.coerce value = .ok result) : field.coerce result = .ok result := by
  by_cases isNull : value = .null
  · subst isNull
    obtain rfl := Except.ok.inj ((field.coerce_null).symm.trans coerced)
    rcases keeps with unset | ⟨fits, accepted⟩
    · rw [unset, field.coerce_null, unset]
    · have given : field.default ≠ .null := by
        intro unset
        have kind := fits.kind
        rw [unset] at kind
        exact nomatch kind
      exact (coerce_eq_ok_iff_takes given).mpr ⟨fits.takes_self, accepted⟩
  · obtain ⟨admitted, accepted⟩ := (coerce_eq_ok_iff field isNull).mp coerced
    have given := AttributeType.admission_ne_null admitted
    have takes := AttributeType.admission_eq_ok_iff_takes.mp admitted
    exact (coerce_eq_ok_iff_takes given).mpr ⟨takes.again, accepted⟩

end Attribute

/-- A declared default was coerced, and an implicit one is not judged by any validator. -/
theorem Declaration.keepsDefault_of_define {declaration : Declaration} {name : String}
    {field : Attribute} (defined : declaration.define name = .ok field) : field.KeepsDefault := by
  obtain ⟨supported, _, _, default, taken, rfl⟩ := define_eq_ok defined
  rcases defaultFor_eq_ok_iff.mp taken with ⟨_, rfl⟩ | ⟨given, coerced⟩
  · rcases declaration.type.implicitDefault_fits with unset | ⟨container, fits⟩
    · exact .inl unset
    · have unjudged : declaration.validators = [] :=
        Validator.eq_nil_of_isContainer (checkValidators_eq_ok_iff.mp supported) container
      refine .inr ⟨fits, fun validator member => ?_⟩
      rw [withDefault, unjudged] at member
      exact absurd member List.not_mem_nil
  · obtain ⟨takes, accepted⟩ := (Attribute.coerce_eq_ok_iff_takes given).mp coerced
    exact .inr ⟨takes.again.fits_self, accepted⟩

theorem Attribute.KeepsDefault.settled {field : Attribute} (keeps : field.KeepsDefault) :
    field.Settled where
  null := field.coerce_null
  default := keeps
  taken _ _ given := coerce_eq_ok_iff_takes given
  unconverted value result scalar coerced := by
    have given : value ≠ .null := by
      rintro rfl
      exact scalar
    exact ((coerce_eq_ok_iff_takes given).mp coerced).1.eq_of_isScalar scalar
  again _ _ coerced := keeps.coerce_again coerced

/--
An attribute that could be defined accepts its default and, unchanged, whatever it accepted before.
The default is the declared one, read as any other value, or else the implicit one of the type.
-/
theorem Declaration.settled_of_define {declaration : Declaration} {name : String}
    {field : Attribute} (defined : declaration.define name = .ok field) :
    field.Settled ∧
      (declaration.default = .null → field.default = declaration.type.implicitDefault) ∧
      (declaration.default ≠ .null → field.coerce declaration.default = .ok field.default) := by
  refine ⟨(keepsDefault_of_define defined).settled, ?_⟩
  obtain ⟨_, _, _, default, taken, rfl⟩ := define_eq_ok defined
  rcases defaultFor_eq_ok_iff.mp taken with ⟨unset, rfl⟩ | ⟨given, coerced⟩
  · exact ⟨fun _ => rfl, fun given => absurd unset given⟩
  · refine ⟨fun unset => absurd unset given, fun _ => ?_⟩
    rw [Attribute.coerce_of_ne_null _ given] at coerced ⊢
    exact coerced

/-- The hosts of a group are the leaf unless others are given, and the leaf is read only once. -/
theorem Catalogue.leafHosts_settled : ∃ field,
    Declaration.define { type := .map host "name", default := .dict [("leaf", .null)] } "hosts" =
        .ok field ∧
      field.default = .map ⟨host, "name", [("leaf", leaf)]⟩ ∧
      field.coerce (.dict [("leaf", .null)]) = .ok field.default ∧
      field.coerce field.default = .ok field.default := by
  obtain ⟨field, defined⟩ : ∃ field, Declaration.define
      { type := .map host "name", default := .dict [("leaf", .null)] } "hosts" = .ok field :=
    ⟨_, rfl⟩
  obtain ⟨settled, _, declared⟩ := Declaration.settled_of_define defined
  have coerced := declared Value.noConfusion
  refine ⟨field, defined, ?_, coerced, settled.again _ _ coerced⟩
  obtain rfl := Except.ok.inj defined
  rfl

end NetworkAutomation
