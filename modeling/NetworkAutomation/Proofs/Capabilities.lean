/-
This file proves that descent orders the types that were built, and that whatever an ancestor has
and accepts comes down to its descendants.
-/

import NetworkAutomation.Proofs.Collections
import NetworkAutomation.Proofs.Inheritance
import NetworkAutomation.Proofs.Inventories
import NetworkAutomation.Proofs.Preservation

namespace NetworkAutomation

/-! ## The way up through parents -/

namespace EntityType

def Extends (type parent : EntityType) : Prop :=
  parent ∈ type.parents

variable {types : List EntityType} {lower upper : EntityType}

/-- In a lineage a type descends from those that a way through parents leads to. -/
theorem Lineage.isA_iff_ascends (lineage : Lineage types) (lowerKnown : lower ∈ types)
    (upperKnown : upper ∈ types) :
    lower.isA upper = true ↔ Relation.ReflTransGen Extends lower upper := by
  constructor
  · intro descends
    induction lower using parentInduction with
    | step lower ih =>
        rcases isA_iff.mp descends with same | ⟨parent, member, above⟩
        · obtain rfl := lineage.unique lower lowerKnown upper upperKnown same
          exact .refl
        · have parentKnown := lineage.parents lower lowerKnown parent member
          exact .head member (ih parent member parentKnown above)
  · intro ascends
    clear lowerKnown
    induction ascends using Relation.ReflTransGen.head_induction_on with
    | refl => exact upper.isA_self
    | head member _ above => exact isA_iff.mpr (.inr ⟨_, member, above⟩)

/-- Every step up leads to a smaller type, so no way leads back. -/
theorem eq_or_sizeOf_lt_of_ascends (ascends : Relation.ReflTransGen Extends lower upper) :
    lower = upper ∨ sizeOf upper < sizeOf lower := by
  induction ascends using Relation.ReflTransGen.head_induction_on with
  | refl => exact .inl rfl
  | head member _ ih =>
      right
      have smaller := sizeOf_parent_lt member
      rcases ih with rfl | below
      · exact smaller
      · exact Nat.lt_trans below smaller

theorem Lineage.isA_antisymm (lineage : Lineage types) (lowerKnown : lower ∈ types)
    (upperKnown : upper ∈ types) (down : lower.isA upper = true) (up : upper.isA lower = true) :
    lower = upper := by
  have ascent := (lineage.isA_iff_ascends lowerKnown upperKnown).mp down
  have back := (lineage.isA_iff_ascends upperKnown lowerKnown).mp up
  rcases eq_or_sizeOf_lt_of_ascends ascent with same | smaller
  · exact same
  · rcases eq_or_sizeOf_lt_of_ascends back with same | larger
    · exact same.symm
    · exact absurd larger (Nat.lt_asymm smaller)

/-! ## Fields, openness and envelopes -/

/-- The type has the fields of the other one, and it is open and enveloped where that one is. -/
structure Inherits (type other : EntityType) : Prop where
  fields : other.fieldNames ⊆ type.fieldNames
  opened : other.isOpen = true → type.isOpen = true
  enveloped : other.envelope.isSome = true → type.envelope.isSome = true

theorem inherits_self (type : EntityType) : type.Inherits type :=
  ⟨List.Subset.refl _, id, id⟩

theorem Inherits.trans {middle : EntityType} (first : lower.Inherits middle)
    (second : middle.Inherits upper) : lower.Inherits upper where
  fields := List.Subset.trans second.fields first.fields
  opened := first.opened ∘ second.opened
  enveloped := first.enveloped ∘ second.enveloped

/-- What every type inherits from its parents it inherits from all of its ancestors. -/
theorem inherits_of_ascends (lineage : Lineage types)
    (parents : ∀ type ∈ types, ∀ parent ∈ type.parents, type.Inherits parent)
    (lowerKnown : lower ∈ types) (ascends : Relation.ReflTransGen Extends lower upper) :
    lower.Inherits upper := by
  induction ascends using Relation.ReflTransGen.head_induction_on with
  | refl => exact upper.inherits_self
  | head member _ ih =>
      exact (parents _ lowerKnown _ member).trans (ih (lineage.parents _ lowerKnown _ member))

end EntityType

/-- A type inherits from each of its parents, whatever it declares itself. -/
theorem TypeDeclaration.inherits_of_build {declaration : TypeDeclaration} {identity : Nat}
    {type parent : EntityType} (built : declaration.build identity = .ok type)
    (member : parent ∈ type.parents) : type.Inherits parent := by
  obtain ⟨sequence, ⟨own, _, rfl⟩, merged, _, shaped⟩ := exists_parts_of_build built
  have sameParents : type.parents = declaration.parents := by rw [shaped]; rfl
  have sameCatchAll : type.catchAll =
      declaration.catchAll.or (declaration.parents.findSome? EntityType.catchAll) := by
    rw [shaped]; rfl
  have sameEnvelope : type.envelope =
      declaration.envelope.or (declaration.parents.findSome? EntityType.envelope) := by
    rw [shaped]; rfl
  rw [sameParents] at member
  refine ⟨fun name known => ?_, fun opened => ?_, fun enveloped => ?_⟩
  · obtain ⟨field, inParent, rfl⟩ := List.mem_map.mp known
    rw [EntityType.fieldNames, merged.names, List.mem_eraseDups]
    exact List.mem_map_of_mem
      (List.mem_append_left own (List.mem_flatMap.mpr ⟨parent, member, inParent⟩))
  · rw [EntityType.isOpen, sameCatchAll, Option.isSome_or, Bool.or_eq_true]
    exact .inr (List.findSome?_isSome_iff.mpr ⟨parent, member, opened⟩)
  · rw [sameEnvelope, Option.isSome_or, Bool.or_eq_true]
    exact .inr (List.findSome?_isSome_iff.mpr ⟨parent, member, enveloped⟩)

/-- Every type at hand was built. -/
theorem Workspace.Reachable.exists_declaration {space : Workspace} (reached : space.Reachable)
    {type : EntityType} (known : type ∈ space.types) :
    ∃ (declaration : TypeDeclaration) (identity : Nat), declaration.build identity = .ok type := by
  induction reached with
  | start => exact absurd known List.not_mem_nil
  | step _ taken ih =>
      cases taken with
      | @build declaration identity own _ _ built =>
          rcases List.mem_cons.mp known with rfl | old
          · exact ⟨declaration, identity, built⟩
          · exact ih old
      | _ => exact ih known

/-! ## Elements of collections -/

namespace OrderedCommand

/-- The element that a command puts into a collection. -/
def item? : OrderedCommand → Option Entity
  | .append item => some item
  | .insert _ item => some item
  | .replace _ item => some item
  | _ => none

/-- An element is only replaced where there is one. -/
def FindsPlace (command : OrderedCommand) (collection : OrderedCollection) : Prop :=
  match command with
  | .replace index _ => index < collection.items.length
  | _ => True

/-- An element is taken for its type alone. -/
theorem exists_run_iff {command : OrderedCommand} {item : Entity}
    (carried : command.item? = some item) {collection : OrderedCollection} :
    (∃ result, command.run collection = .ok result) ↔
      item.instanceOf collection.itemType = true ∧ command.FindsPlace collection := by
  cases command with
  | append own =>
      obtain rfl := Option.some.inj carried
      simp [run, FindsPlace, Success.bind_eq_ok, OrderedCollection.append_eq_ok_iff]
  | insert index own =>
      obtain rfl := Option.some.inj carried
      simp [run, FindsPlace, Success.bind_eq_ok, OrderedCollection.insert_eq_ok_iff]
  | replace index own =>
      obtain rfl := Option.some.inj carried
      simp [run, FindsPlace, Success.bind_eq_ok, OrderedCollection.replace_eq_ok_iff,
        ← Option.isSome_iff_exists]
  | _ => exact nomatch carried

end OrderedCommand

namespace KeyedCommand

/-- The element that a command puts into a collection. -/
def item? : KeyedCommand → Option Entity
  | .add item => some item
  | .insert _ item => some item
  | _ => none

/-- The element has a key in the field, or takes the given one there. -/
def FindsKey (command : KeyedCommand) (keyField : String) : Prop :=
  match command with
  | .add item => ∃ key, item.Stores keyField (.text key)
  | .insert key item => ∃ keyed, item.set keyField (.text key) = .ok keyed
  | _ => True

/-- An element is taken for its type and its key. -/
theorem exists_run_iff {command : KeyedCommand} {item : Entity}
    (carried : command.item? = some item) {collection : KeyedCollection} :
    (∃ result, command.run collection = .ok result) ↔
      item.instanceOf collection.itemType = true ∧ command.FindsKey collection.keyField := by
  cases command with
  | add own =>
      obtain rfl := Option.some.inj carried
      simp [run, FindsKey, KeyedCollection.add_eq_ok_iff]
  | insert key own =>
      obtain rfl := Option.some.inj carried
      simp [run, FindsKey, KeyedCollection.insert_eq_ok_iff]
  | _ => exact nomatch carried

end KeyedCommand

namespace EntityType

/--
Collections of the upper type take every element that collections of the lower type take, at each
place that they have and under each key that the element has for them.
-/
structure Feeds (types : List EntityType) (lower upper : EntityType) : Prop where
  ordered : ∀ (narrow wide : OrderedCollection) (command : OrderedCommand) (item : Entity),
    narrow.itemType = lower → wide.itemType = upper → item.type ∈ types →
    command.item? = some item → command.FindsPlace wide →
    (∃ result, command.run narrow = .ok result) → ∃ result, command.run wide = .ok result
  keyed : ∀ (narrow wide : KeyedCollection) (command : KeyedCommand) (item : Entity),
    narrow.itemType = lower → wide.itemType = upper → item.type ∈ types →
    command.item? = some item →
    wide.keyField = narrow.keyField ∨ command.FindsKey wide.keyField →
    (∃ result, command.run narrow = .ok result) → ∃ result, command.run wide = .ok result

variable {types : List EntityType} {lower upper : EntityType}

theorem Lineage.feeds (lineage : Lineage types) (lowerKnown : lower ∈ types)
    (descends : lower.isA upper = true) : Feeds types lower upper where
  ordered narrow wide command item narrowItems wideItems itemKnown carried place taken := by
    subst narrowItems wideItems
    obtain ⟨isInstance, _⟩ := (OrderedCommand.exists_run_iff carried).mp taken
    have above : item.instanceOf wide.itemType = true :=
      lineage.isA_trans itemKnown lowerKnown isInstance descends
    exact (OrderedCommand.exists_run_iff carried).mpr ⟨above, place⟩
  keyed narrow wide command item narrowItems wideItems itemKnown carried keys taken := by
    subst narrowItems wideItems
    obtain ⟨isInstance, found⟩ := (KeyedCommand.exists_run_iff carried).mp taken
    have above : item.instanceOf wide.itemType = true :=
      lineage.isA_trans itemKnown lowerKnown isInstance descends
    have key : command.FindsKey wide.keyField := by
      rcases keys with same | key
      · rwa [same]
      · exact key
    exact (KeyedCommand.exists_run_iff carried).mpr ⟨above, key⟩

end EntityType

/--
Descent is a partial order on the types that were built. A type has the fields of those that it
descends from, it is open and enveloped where they are, and its elements are elements of theirs.
-/
theorem Workspace.Reachable.descent_orders_types {space : Workspace} (reached : space.Reachable) :
    (∀ type ∈ space.types, type.isA type = true) ∧
    (∀ lower ∈ space.types, ∀ middle ∈ space.types, ∀ upper ∈ space.types,
      lower.isA middle = true → middle.isA upper = true → lower.isA upper = true) ∧
    (∀ lower ∈ space.types, ∀ upper ∈ space.types,
      lower.isA upper = true → upper.isA lower = true → lower = upper) ∧
    ∀ lower ∈ space.types, ∀ upper ∈ space.types, lower.isA upper = true →
      lower.Inherits upper ∧ EntityType.Feeds space.types lower upper := by
  have lineage := reached.sound.registry.lineage
  refine ⟨fun type _ => type.isA_self, ?_, ?_, ?_⟩
  · exact fun lower lowerKnown middle middleKnown upper _ first second =>
      lineage.isA_trans lowerKnown middleKnown first second
  · exact fun lower lowerKnown upper upperKnown down up =>
      lineage.isA_antisymm lowerKnown upperKnown down up
  · intro lower lowerKnown upper upperKnown descends
    have ascends := (lineage.isA_iff_ascends lowerKnown upperKnown).mp descends
    have parents : ∀ type ∈ space.types, ∀ parent ∈ type.parents, type.Inherits parent := by
      intro type known parent member
      obtain ⟨declaration, identity, built⟩ := reached.exists_declaration known
      exact TypeDeclaration.inherits_of_build built member
    exact ⟨EntityType.inherits_of_ascends lineage parents lowerKnown ascends,
      lineage.feeds lowerKnown descends⟩

namespace Catalogue

/-- The blades of a chassis as they are built. -/
def bladeType : EntityType :=
  ((blade []).build (firstFreeIdentity + 2)).value rfl

theorem blades_declared :
    Workspace.Declared [bladeType, tagged, chassis] (firstFreeIdentity + 3) := by
  have start : Workspace.Declared [] firstFreeIdentity := ⟨.start, nofun⟩
  have first : Workspace.Declared [chassis] (firstFreeIdentity + 1) :=
    start.declare rfl (.plain nofun rfl)
  have second : Workspace.Declared [tagged, chassis] (firstFreeIdentity + 2) :=
    first.declare rfl (.plain nofun rfl)
  exact second.declare rfl (.plain (by simp [blade]) rfl)

/-- A blade has tags although it declares none, and it is an element wherever tagged things are. -/
theorem blade_is_tagged :
    Workspace.Reachable ⟨[bladeType, tagged, chassis], []⟩ ∧
      "tags" ∈ bladeType.fieldNames ∧ bladeType.isOpen = true ∧
      bladeType.envelope.isSome = true ∧ ∃ item,
        bladeType.create [("name", .text "left")] = .ok item ∧
        ∃ result, (OrderedCommand.append item).run (.empty tagged) = .ok result := by
  have reached := blades_declared.reached
  obtain ⟨_, _, _, inherited⟩ := reached.descent_orders_types
  obtain ⟨inherits, feeds⟩ := inherited bladeType (by simp) tagged (by simp) rfl
  obtain ⟨item, made⟩ : ∃ item, bladeType.create [("name", .text "left")] = .ok item := ⟨_, rfl⟩
  refine ⟨reached, inherits.fields (by decide), inherits.opened rfl, inherits.enveloped rfl,
    item, made, ?_⟩
  have own : item.type = bladeType := by
    obtain rfl := Except.ok.inj made
    rfl
  have taken : ∃ result, (OrderedCommand.append item).run (.empty bladeType) = .ok result := by
    refine (OrderedCommand.exists_run_iff rfl).mpr ⟨?_, trivial⟩
    rw [Entity.instanceOf, own]
    exact bladeType.isA_self
  exact feeds.ordered (.empty bladeType) (.empty tagged) (.append item) item rfl rfl
    (by simp [own]) rfl trivial taken

end Catalogue

end NetworkAutomation
