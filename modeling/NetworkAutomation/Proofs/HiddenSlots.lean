/-
This file proves that slots which are never written have no influence on anything that is written.
-/

import NetworkAutomation.Proofs.Digests
import NetworkAutomation.Proofs.Inventories

namespace NetworkAutomation

/-- A slot is hidden when it is never written and its entries are not captured either. -/
def EntityType.Hides (type : EntityType) (slot : Nat) : Prop :=
  ∃ field, type.attributes[slot]? = some field ∧ field.policy = .never ∧
    type.flattenedSlot? ≠ some slot

/-- Values are the same up to entities that are alike, pair by pair and under the same keys. -/
inductive Value.AlikeBy (alike : Entity → Entity → Prop) : Value → Value → Prop where
  | same (value : Value) : AlikeBy alike value value
  | object {left right : Entity} (pair : alike left right) :
      AlikeBy alike (.object left) (.object right)
  | index {left right : OrderedCollection} (items : List.Forall₂ alike left.items right.items) :
      AlikeBy alike (.index left) (.index right)
  | map {left right : KeyedCollection}
      (keys : Entries.keys left.entries = Entries.keys right.entries)
      (items : List.Forall₂ alike (left.entries.map Prod.snd) (right.entries.map Prod.snd)) :
      AlikeBy alike (.map left) (.map right)

/-- Entities are alike when nothing but hidden slots tells them apart, at any depth. -/
inductive Entity.Alike : Entity → Entity → Prop where
  | intro {left right : Entity} (sameType : left.type = right.type)
      (slots : ∀ slot first second, left.values[slot]? = some first →
        right.values[slot]? = some second → ¬ left.type.Hides slot →
        Value.AlikeBy Entity.Alike first second) :
      Entity.Alike left right

variable {types others : List EntityType}

/-- Collections in one field have one key field. -/
theorem Attribute.Holds.keyField_eq {field : Attribute} {left right : KeyedCollection}
    (first : field.Holds (.map left)) (second : field.Holds (.map right)) :
    left.keyField = right.keyField := by
  have firstFits := first.accepts.fits Value.noConfusion
  have secondFits := second.accepts.fits Value.noConfusion
  have kind := firstFits.kind
  cases declared : field.type with
  | map item key =>
      rw [firstFits.key item key left.keyField declared rfl,
        secondFits.key item key right.keyField declared rfl]
  | _ =>
      rw [declared] at kind
      exact nomatch kind

/-- Members may be compared in another way as soon as those at hand allow it. -/
theorem Value.AlikeBy.imp {alike wider : Entity → Entity → Prop} {left right : Value}
    (pairs : Value.AlikeBy alike left right)
    (implied : ∀ child ∈ left.entities, ∀ other ∈ right.entities, alike child other →
      wider child other) : Value.AlikeBy wider left right := by
  have lists {inputs outputs : List Entity} (all : List.Forall₂ alike inputs outputs)
      (each : ∀ child ∈ inputs, ∀ other ∈ outputs, alike child other → wider child other) :
      List.Forall₂ wider inputs outputs := by
    obtain ⟨sameLength, related⟩ := List.forall₂_iff_zip.mp all
    refine List.forall₂_iff_zip.mpr ⟨sameLength, fun {child other} member => ?_⟩
    obtain ⟨inInputs, inOutputs⟩ := List.of_mem_zip member
    exact each child inInputs other inOutputs (related member)
  cases pairs with
  | same => exact .same left
  | object pair =>
      exact .object (implied _ (List.mem_singleton.mpr rfl) _ (List.mem_singleton.mpr rfl) pair)
  | index items => exact .index (lists items implied)
  | map keys items => exact .map keys (lists items implied)

/-- Values in one field are written alike when their entities are. -/
theorem Value.AlikeBy.toDocument_eq {field : Attribute} {left right : Value}
    (alike : Value.AlikeBy (fun child other => child.toDocument = other.toDocument) left right)
    (leftHolds : field.Holds left) (rightHolds : field.Holds right) :
    left.toDocument = right.toDocument := by
  cases alike with
  | same value => rfl
  | object pair => exact pair
  | @index left right items =>
      rw [toDocument, toDocument, OrderedCollection.serialize_eq, OrderedCollection.serialize_eq,
        Success.map_eq_of_related items fun _ _ same => same.symm]
  | @map left right keys items =>
      have bodies (keyField : String) : (left.entries.map fun entry =>
            KeyedCollection.entryDocument keyField entry.2.serialize) =
          right.entries.map fun entry =>
            KeyedCollection.entryDocument keyField entry.2.serialize := by
        refine (Success.map_eq_of_related (List.forall₂_map_left_iff.mp
          (List.forall₂_map_right_iff.mp items)) fun entry other same => ?_).symm
        rw [Document.mapping.inj same]
      rw [toDocument, toDocument, KeyedCollection.serialize_eq, KeyedCollection.serialize_eq,
        leftHolds.keyField_eq rightHolds, ← List.zip_map', ← List.zip_map', bodies]
      rw [Entries.keys, Entries.keys] at keys
      rw [keys]

/-- Documents are laid out alike when they are the same in every slot that is not hidden. -/
theorem EntityType.layout_eq_of_visible {type : EntityType} {former latter : List Document}
    (sameLength : former.length = latter.length)
    (visible : ∀ slot, ¬ type.Hides slot → former[slot]? = latter[slot]?) :
    type.layout former = type.layout latter := by
  have declared : declaredEntries type.flattenedSlot? 0 type.attributes former =
      declaredEntries type.flattenedSlot? 0 type.attributes latter := by
    refine declaredEntries_congr sameLength fun slot field one two placed left right apart => ?_
    rw [Nat.zero_add] at apart
    by_cases never : field.policy = .never
    · rw [never]
      exact ⟨rfl, fun emitted => nomatch emitted⟩
    · have shown : ¬ type.Hides slot := by
        rintro ⟨own, ownPlaced, hidden, _⟩
        obtain rfl := Option.some.inj (placed.symm.trans ownPlaced)
        exact never hidden
      obtain rfl : one = two := by
        rw [visible slot shown, right] at left
        exact (Option.some.inj left).symm
      exact ⟨rfl, fun _ => rfl⟩
  have captured : type.capturedEntries former = type.capturedEntries latter := by
    unfold capturedEntries
    cases flattened : type.flattenedSlot? with
    | none => rfl
    | some slot =>
        -- Its field may well be left out, but the entries that it captured are still written.
        have shown : ¬ type.Hides slot := fun ⟨_, _, _, apart⟩ => apart flattened
        rw [Option.bind_some, Option.bind_some, visible slot shown]
  rw [layout, layout, declared, captured]

/-- Sound entities that are alike are written as one document. -/
theorem Entity.Alike.toDocument_eq {left right : Entity} (alike : left.Alike right)
    (leftSound : left.SoundThroughout types) (rightSound : right.SoundThroughout others) :
    left.toDocument = right.toDocument := by
  -- The right entity is followed slot by slot, so the induction is on the left one alone.
  induction left using Entity.childInduction generalizing right with
  | step left ih =>
      obtain ⟨sameType, slots⟩ := alike
      have leftSlots := leftSound.here.slots
      have rightSlots := rightSound.here.slots
      rw [← sameType] at rightSlots
      have sameLength := leftSlots.length_eq.symm.trans rightSlots.length_eq
      rw [Entity.toDocument, Entity.toDocument, Entity.serialize_eq, Entity.serialize_eq,
        ← sameType]
      refine congrArg Document.mapping
        (EntityType.layout_eq_of_visible (by simpa using sameLength) ?_)
      intro slot shown
      rw [List.getElem?_map, List.getElem?_map]
      cases placed : left.type.attributes[slot]? with
      | none =>
          have outside := List.getElem?_eq_none_iff.mp placed
          rw [List.getElem?_eq_none_iff.mpr (leftSlots.length_eq ▸ outside),
            List.getElem?_eq_none_iff.mpr (rightSlots.length_eq ▸ outside)]
      | some field =>
          obtain ⟨first, firstStored, firstHolds⟩ := exists_related leftSlots placed
          obtain ⟨second, secondStored, secondHolds⟩ := exists_related rightSlots placed
          have firstMember := List.mem_of_getElem? firstStored
          have secondMember := List.mem_of_getElem? secondStored
          have pairs := (slots slot first second firstStored secondStored shown).imp
            fun child inLeft other inRight alike =>
              ih child (Entity.mem_children.mpr ⟨first, firstMember, inLeft⟩) alike
                ((leftSound.values first firstMember).below child inLeft)
                ((rightSound.values second secondMember).below other inRight)
          rw [firstStored, secondStored, Option.map_some, Option.map_some,
            pairs.toDocument_eq firstHolds secondHolds]

/-- Nothing that is written, compared or hashed tells alike entities apart. -/
theorem Workspace.Reachable.hidden_slots_unobservable {first second : Workspace}
    (firstReached : first.Reachable) (secondReached : second.Reachable) {left right : Entity}
    (leftHeld : .entity left ∈ first.targets) (rightHeld : .entity right ∈ second.targets)
    (alike : left.Alike right) :
    left.toDocument = right.toDocument ∧ left.agrees right = true ∧
      left.render = right.render ∧ left.digest = right.digest := by
  have same : left.toDocument = right.toDocument :=
    alike.toDocument_eq
      (Value.SoundThroughout.object_iff.mp (firstReached.sound.targets _ leftHeld))
      (Value.SoundThroughout.object_iff.mp (secondReached.sound.targets _ rightHeld))
  refine ⟨same, ?_, congrArg Document.render same,
    congrArg Mapping.digest (Document.mapping.inj same)⟩
  rw [Entity.agrees, same]
  exact (secondReached.toDocument_wellFormed rightHeld).agrees_refl

/-! ## Accounts with secrets -/

namespace Catalogue

/-- An account has a name and a secret that is never written. -/
def account : EntityType :=
  (TypeDeclaration.build firstFreeIdentity {
    name := "account"
    declared := [("name", { type := .text, policy := .present }),
      ("secret", { type := .text, policy := .never })] }).value rfl

/-- A site leaves its administrator out when nothing of the account is written. -/
def site : EntityType :=
  (TypeDeclaration.build (firstFreeIdentity + 1) {
    name := "site"
    declared := [("admin", { type := .object account, policy := .present }),
      ("accounts", { type := .map account "name" })] }).value rfl

def accountOf (name : Value) (secret : String) : Entity :=
  ⟨account, [name, .text secret]⟩

/-- One secret of a site stands in an object and another one in a map. -/
def siteOf (adminSecret guestSecret : String) : Entity :=
  ⟨site, [.object (accountOf .null adminSecret),
    .map ⟨account, "name", [("guest", accountOf (.text "guest") guestSecret)]⟩]⟩

def siteDocument (adminSecret guestSecret : String) : Document :=
  .mapping [("admin", .mapping [("secret", .text adminSecret)]),
    ("accounts", .mapping [("guest", .mapping [("secret", .text guestSecret)])])]

theorem siteDocument_wellFormed (adminSecret guestSecret : String) :
    (siteDocument adminSecret guestSecret).WellFormed := by
  simp [siteDocument, Document.WellFormed.mapping_iff, Document.WellFormed.text]

theorem site_reachable (adminSecret guestSecret : String) : ∃ space : Workspace,
    space.Reachable ∧ .entity (siteOf adminSecret guestSecret) ∈ space.targets := by
  have accounts : Workspace.Declared (account :: types.reverse) (firstFreeIdentity + 1) := by
    refine Workspace.catalogue_declared.declare rfl ⟨nofun, ?_⟩
    simp only [List.forall_mem_cons]
    exact ⟨.plain rfl rfl, .plain rfl rfl, nofun⟩
  have sites : Workspace.Declared (site :: account :: types.reverse) (firstFreeIdentity + 2) := by
    refine accounts.declare rfl ⟨nofun, ?_⟩
    simp only [List.forall_mem_cons]
    exact ⟨.element rfl (by simp) rfl, .element rfl (by simp) rfl, nofun⟩
  refine ⟨_, sites.reached.step (.read List.mem_cons_self
    (siteDocument_wellFormed adminSecret guestSecret) (show
      site.readDocument _ = .ok (siteOf adminSecret guestSecret) from rfl)), List.mem_cons_self⟩

theorem account_alike (name : Value) (secret other : String) :
    (accountOf name secret).Alike (accountOf name other) := by
  refine .intro rfl fun slot first second stored otherStored shown => ?_
  match slot with
  | 0 =>
      obtain rfl := Option.some.inj stored
      obtain rfl := Option.some.inj otherStored
      exact .same name
  | 1 => exact absurd ⟨_, rfl, rfl, nofun⟩ shown
  | slot + 2 => exact nomatch stored

theorem site_alike (adminSecret otherAdminSecret guestSecret otherGuestSecret : String) :
    (siteOf adminSecret guestSecret).Alike (siteOf otherAdminSecret otherGuestSecret) := by
  refine .intro rfl fun slot first second stored otherStored _ => ?_
  match slot with
  | 0 =>
      obtain rfl := Option.some.inj stored
      obtain rfl := Option.some.inj otherStored
      exact .object (account_alike .null adminSecret otherAdminSecret)
  | 1 =>
      obtain rfl := Option.some.inj stored
      obtain rfl := Option.some.inj otherStored
      exact .map rfl (.cons (account_alike (.text "guest") guestSecret otherGuestSecret) .nil)
  | slot + 2 => exact nomatch stored

/-- Sites that differ in their secrets only are written alike. -/
theorem secrets_unobservable :
    siteOf "blue" "red" ≠ siteOf "green" "grey" ∧
      (siteOf "blue" "red").toDocument = (siteOf "green" "grey").toDocument ∧
      (siteOf "blue" "red").digest = (siteOf "green" "grey").digest := by
  obtain ⟨first, firstReached, firstHeld⟩ := site_reachable "blue" "red"
  obtain ⟨second, secondReached, secondHeld⟩ := site_reachable "green" "grey"
  obtain ⟨written, _, _, hashed⟩ := firstReached.hidden_slots_unobservable secondReached
    firstHeld secondHeld (site_alike "blue" "green" "red" "grey")
  refine ⟨fun same => ?_, written, hashed⟩
  have secrets := congrArg (fun entity => entity.values.flatMap Value.entities) same
  simp [siteOf, accountOf, Value.entities] at secrets

end Catalogue

end NetworkAutomation
