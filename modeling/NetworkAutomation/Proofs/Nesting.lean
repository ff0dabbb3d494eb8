/-
This file relates types to the element types of their fields, and entities to those inside them.
-/

import Mathlib.Logic.Relation
import NetworkAutomation.Collection.Path

namespace NetworkAutomation

namespace EntityType

/-- The item is the element type of one of the fields. -/
def HasItem (type item : EntityType) : Prop :=
  ∃ field ∈ type.attributes, field.type.item? = some item

/-- The element types of the fields, in their order. -/
def items (type : EntityType) : List EntityType :=
  type.attributes.filterMap fun field => field.type.item?

theorem hasItem_iff {type item : EntityType} : type.HasItem item ↔ item ∈ type.items := by
  rw [items, List.mem_filterMap]
  rfl

/-- A type reaches itself and every element type below its fields, at any depth. -/
def Reaches : EntityType → EntityType → Prop :=
  Relation.ReflTransGen HasItem

theorem sizeOf_attributes_lt (type : EntityType) : sizeOf type.attributes < sizeOf type := by
  cases type
  simp only [EntityType.mk.sizeOf_spec]
  omega

theorem sizeOf_item_lt {type : AttributeType} {item : EntityType}
    (element : type.item? = some item) : sizeOf item < sizeOf type := by
  cases type with
  | object own =>
      obtain rfl := Option.some.inj element
      rw [AttributeType.object.sizeOf_spec]
      omega
  | index own =>
      obtain rfl := Option.some.inj element
      rw [AttributeType.index.sizeOf_spec]
      omega
  | map own key =>
      obtain rfl := Option.some.inj element
      rw [AttributeType.map.sizeOf_spec]
      omega
  | _ => contradiction

theorem HasItem.sizeOf_lt {type item : EntityType} (below : type.HasItem item) :
    sizeOf item < sizeOf type := by
  obtain ⟨field, member, element⟩ := below
  have inList := List.sizeOf_lt_of_mem member
  have inType := sizeOf_attributes_lt type
  have inField : sizeOf field.type < sizeOf field := by
    cases field
    simp only [Attribute.mk.sizeOf_spec]
    omega
  have inAttribute := sizeOf_item_lt element
  omega

/-- What the element types of a type hand up to it holds of every type. -/
theorem itemInduction {motive : EntityType → Prop}
    (step : ∀ type, (∀ item, type.HasItem item → motive item) → motive type)
    (type : EntityType) : motive type :=
  step type fun item _ => itemInduction step item
termination_by sizeOf type
decreasing_by
  rename_i below
  exact below.sizeOf_lt

theorem Reaches.of_item {type item inner : EntityType} (below : type.HasItem item)
    (reached : item.Reaches inner) : type.Reaches inner :=
  Relation.ReflTransGen.head below reached

theorem sizeOf_parent_lt {type parent : EntityType} (member : parent ∈ type.parents) :
    sizeOf parent < sizeOf type := by
  have inList := List.sizeOf_lt_of_mem member
  cases type
  simp only [EntityType.mk.sizeOf_spec] at inList ⊢
  omega

/-- What the parents of a type hand down to it holds of every type. -/
theorem parentInduction {motive : EntityType → Prop}
    (step : ∀ type : EntityType, (∀ parent ∈ type.parents, motive parent) → motive type)
    (type : EntityType) : motive type :=
  step type fun parent _ => parentInduction step parent
termination_by sizeOf type
decreasing_by
  rename_i member
  exact sizeOf_parent_lt member

end EntityType

/-- The entities that stand directly in a value. -/
def Value.entities : Value → List Entity
  | .object entity => [entity]
  | .index collection => collection.items
  | .map collection => collection.entries.map Prod.snd
  | _ => []

namespace Entity

/-- The entities that stand directly in the slots of an entity. -/
def children (entity : Entity) : List Entity :=
  entity.values.flatMap Value.entities

/-- An entity contains itself and every entity below its slots, at any depth. -/
def Contains : Entity → Entity → Prop :=
  Relation.ReflTransGen fun outer inner => inner ∈ outer.children

theorem mem_children {entity child : Entity} :
    child ∈ entity.children ↔ ∃ value ∈ entity.values, child ∈ value.entities :=
  List.mem_flatMap

theorem sizeOf_entities_lt {value : Value} {entity : Entity} (member : entity ∈ value.entities) :
    sizeOf entity < sizeOf value := by
  cases value with
  | object own =>
      obtain rfl := List.mem_singleton.mp member
      rw [Value.object.sizeOf_spec]
      omega
  | index collection =>
      have inItems := List.sizeOf_lt_of_mem (show entity ∈ collection.items from member)
      have inCollection : sizeOf collection.items < sizeOf collection := by
        cases collection
        simp only [OrderedCollection.mk.sizeOf_spec]
        omega
      rw [Value.index.sizeOf_spec]
      omega
  | map collection =>
      obtain ⟨entry, inEntries, rfl⟩ := List.mem_map.mp member
      have inList := List.sizeOf_lt_of_mem inEntries
      have inEntry : sizeOf entry.2 < sizeOf entry := by
        cases entry
        simp only [Prod.mk.sizeOf_spec]
        omega
      have inCollection : sizeOf collection.entries < sizeOf collection := by
        cases collection
        simp only [KeyedCollection.mk.sizeOf_spec]
        omega
      rw [Value.map.sizeOf_spec]
      omega
  | _ => exact absurd member List.not_mem_nil

theorem sizeOf_child_lt {entity child : Entity} (member : child ∈ entity.children) :
    sizeOf child < sizeOf entity := by
  obtain ⟨value, inValues, inValue⟩ := mem_children.mp member
  have inList := List.sizeOf_lt_of_mem inValues
  have inEntities := sizeOf_entities_lt inValue
  cases entity
  simp only [Entity.mk.sizeOf_spec] at inList ⊢
  omega

/-- What the children of an entity hand up to it holds of every entity. -/
theorem childInduction {motive : Entity → Prop}
    (step : ∀ entity : Entity, (∀ child ∈ entity.children, motive child) → motive entity)
    (entity : Entity) : motive entity :=
  step entity fun child _ => childInduction step child
termination_by sizeOf entity
decreasing_by
  rename_i member
  exact sizeOf_child_lt member

theorem contains_self (entity : Entity) : entity.Contains entity :=
  Relation.ReflTransGen.refl

theorem Contains.of_child {entity child inner : Entity} (below : child ∈ entity.children)
    (contained : child.Contains inner) : entity.Contains inner :=
  Relation.ReflTransGen.head below contained

/-- A property holds throughout an entity when it holds of the entity and below each child. -/
theorem forall_contains_iff {property : Entity → Prop} {entity : Entity} :
    (∀ inner, entity.Contains inner → property inner) ↔
      property entity ∧
        ∀ child ∈ entity.children, ∀ inner, child.Contains inner → property inner := by
  constructor
  · intro throughout
    refine ⟨throughout entity entity.contains_self, fun child member inner contained => ?_⟩
    exact throughout inner (Contains.of_child member contained)
  · rintro ⟨here, below⟩ inner contained
    rcases Relation.ReflTransGen.cases_head contained with rfl | ⟨child, member, rest⟩
    · exact here
    · exact below child member inner rest

end Entity

end NetworkAutomation
