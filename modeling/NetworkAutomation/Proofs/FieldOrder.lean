/-
This file proves that the order of fields only matters among fields that compete for one place.
-/

import NetworkAutomation.Proofs.Filling
import NetworkAutomation.Proofs.Rereading

namespace NetworkAutomation

/-- The fields are the same, and those of one slot or of one undeclared name keep their order. -/
structure EntityType.Reordered (type : EntityType) (fields others : List (String × Value)) :
    Prop where
  perm : fields.Perm others
  declared : ∀ slot, (fields.filter fun entry => type.slot? entry.1 == some slot) =
    others.filter fun entry => type.slot? entry.1 == some slot
  undeclared : ∀ name, type.slot? name = none →
    (fields.filter fun entry => entry.1 == name) = others.filter fun entry => entry.1 == name

/-- No two entries lead to one field. -/
def EntityType.Unambiguous (type : EntityType) (entries : Mapping) : Prop :=
  entries.Pairwise fun first second =>
    ∀ slot, type.slot? first.1 = some slot → type.slot? second.1 ≠ some slot

/-- The entries that are read as fields without looking under the root of an envelope. -/
def EntityType.outermost (type : EntityType) (document : Mapping) : Mapping :=
  match type.envelope with
  | none => document
  | some root => document.without root

/-- The documents have the same entries, and each field has at most one of them. -/
inductive EntityType.SameEntries (type : EntityType) : Mapping → Mapping → Prop where
  | outside {document other : Mapping} (perm : document.Perm other)
      (once : type.Unambiguous (type.outermost document)) : SameEntries type document other
  | inside {document other body otherBody : Mapping} {root : String}
      (enveloped : type.envelope = some root)
      (found : document.lookup? root = some (.mapping body))
      (otherFound : other.lookup? root = some (.mapping otherBody))
      (perm : (document.without root).Perm (other.without root))
      (once : type.Unambiguous (document.without root))
      (bodyPerm : body.Perm otherBody) (bodyOnce : type.Unambiguous body) :
      SameEntries type document other

/-- Entities hold the same in all slots, up to the order of the entries that they captured. -/
structure Entity.SameUpToCaptures (entity other : Entity) : Prop where
  sameType : other.type = entity.type
  length : other.values.length = entity.values.length
  slots : ∀ slot, entity.type.catchAllSlot? ≠ some slot →
    other.values[slot]? = entity.values[slot]?
  captured : ∀ slot, entity.type.catchAllSlot? = some slot → ∃ entries others,
    entity.values[slot]? = some (.dict entries) ∧ other.values[slot]? = some (.dict others) ∧
      entries.Perm others

/-- Two attempts at making an entity are both refused, or they make equal entities. -/
inductive Entity.MadeAlike : Checked Entity → Checked Entity → Prop where
  | made {entity other : Entity} (equal : entity.agrees other = true)
      (same : entity.SameUpToCaptures other) : MadeAlike (.ok entity) (.ok other)
  | refused {error other : EntityError} : MadeAlike (.error error) (.error other)

variable {types : List EntityType} {type : EntityType}

/-! ## Equal entities -/

namespace Entity.SameUpToCaptures

variable {entity other : Entity} (same : entity.SameUpToCaptures other)
include same

/-- The same slot holds agreeing documents in both entities. -/
theorem stored_agree {slot : Nat} {value second : Value}
    (formed : value.toDocument.WellFormed) (secondFormed : second.toDocument.WellFormed)
    (stored : entity.values[slot]? = some value) (otherStored : other.values[slot]? = some second) :
    value.toDocument.agrees second.toDocument = true := by
  by_cases located : entity.type.catchAllSlot? = some slot
  · obtain ⟨entries, others, held, otherHeld, perm⟩ := same.captured slot located
    obtain rfl := Option.some.inj (held.symm.trans stored)
    obtain rfl := Option.some.inj (otherHeld.symm.trans otherStored)
    exact (Document.mapping_agrees_perm secondFormed.keys secondFormed.keys perm (.refl _)).mpr
      secondFormed.agrees_refl
  · rw [same.slots slot located, stored] at otherStored
    obtain rfl := Option.some.inj otherStored
    exact formed.agrees_refl

/-- Sound entities that differ in the order of what they captured are equal. -/
theorem agrees (registry : Registry types) (sound : entity.SoundThroughout types)
    (otherSound : other.SoundThroughout types) : entity.agrees other = true := by
  have seen := sound.seenBy_self registry
  have otherSeen : other.SeenBy types entity.type :=
    same.sameType ▸ otherSound.seenBy_self registry
  have distinct := seen.typeSound.distinct
  rw [Entity.agrees, Entity.toDocument, Entity.toDocument, serialize_eq_wrap, serialize_eq_wrap,
    same.sameType, EntityType.wrap_agrees_iff, seen.body_agrees_iff otherSeen]
  constructor
  · intro slot field value second shows otherShows
    obtain ⟨place, held⟩ := shows.held
    obtain ⟨otherPlace, otherHeld⟩ := otherShows.held
    obtain rfl := EntityType.slot_eq_of_field distinct held.placed shows.placed
    obtain rfl :=
      EntityType.slot_eq_of_field distinct (same.sameType ▸ otherHeld.placed) held.placed
    refine field.written_alike (same.stored_agree ?_ ?_ held.stored otherHeld.stored)
    · exact (sound.values _ shows.mem_values).toDocument_wellFormed registry
    · exact (otherSound.values _ otherShows.mem_values).toDocument_wellFormed registry
  · intro name undeclared
    have otherDistinct : other.type.fieldNames.Nodup := same.sameType ▸ distinct
    have otherUndeclared : other.type.hasAttribute name = false := same.sameType ▸ undeclared
    cases flattened : entity.type.flattenedSlot? with
    | none =>
        have otherFlattened : other.type.flattenedSlot? = none := same.sameType ▸ flattened
        rw [find?_body_of_closed distinct flattened undeclared,
          find?_body_of_closed otherDistinct otherFlattened otherUndeclared]
        exact .none
    | some slot =>
        have otherFlattened : other.type.flattenedSlot? = some slot := same.sameType ▸ flattened
        obtain ⟨entries, others, held, otherHeld, perm⟩ :=
          same.captured slot (EntityType.catchAllSlot?_of_flattenedSlot? flattened)
        have formed : (Document.mapping entries).WellFormed :=
          (sound.values _ (List.mem_of_getElem? held)).here
        rw [find?_body_of_flattened distinct flattened held undeclared,
          find?_body_of_flattened otherDistinct otherFlattened otherHeld otherUndeclared,
          Entries.find?_perm formed.keys perm.symm]
        cases found : Entries.find? entries name with
        | none => exact .none
        | some document =>
            exact .some (formed.entries _ (Entries.mem_of_find? found)).agrees_refl

end Entity.SameUpToCaptures

/-! ## Fields in another order -/

namespace EntityType.Reordered

variable {fields others : List (String × Value)}

theorem refl (fields : List (String × Value)) : type.Reordered fields fields :=
  ⟨.refl fields, fun _ => rfl, fun _ _ => rfl⟩

theorem append {more moreOthers : List (String × Value)} (first : type.Reordered fields others)
    (second : type.Reordered more moreOthers) :
    type.Reordered (fields ++ more) (others ++ moreOthers) where
  perm := first.perm.append second.perm
  declared slot := by
    rw [List.filter_append, List.filter_append, first.declared slot, second.declared slot]
  undeclared name unknown := by
    rw [List.filter_append, List.filter_append, first.undeclared name unknown,
      second.undeclared name unknown]

variable (reordered : type.Reordered fields others)
include reordered

theorem givenTo_eq (slot : Nat) : type.givenTo slot fields = type.givenTo slot others := by
  rw [givenTo, givenTo, Entries.lastOf?, Entries.lastOf?, reordered.declared slot]

theorem lastOf?_captured_eq (key : String) :
    Entries.lastOf? (· == key) (type.captured fields) =
      Entries.lastOf? (· == key) (type.captured others) := by
  rw [lastOf?_captured, lastOf?_captured]
  split
  next => rfl
  next undeclared =>
    have unknown : type.slot? key = none := by simpa [hasAttribute] using undeclared
    rw [Entries.lastOf?, Entries.lastOf?, reordered.undeclared key unknown]

theorem exists_populate_iff (sound : type.Sound types) {source : FieldSource} :
    (∃ entity, type.populate type.coerceAt source fields = .ok entity) ↔
      ∃ other, type.populate type.coerceAt source others = .ok other := by
  rw [EntityType.exists_populate_iff sound, EntityType.exists_populate_iff sound]
  simp only [reordered.perm.mem_iff, reordered.givenTo_eq]

/-- What fields fill does not depend on their order, up to the order of what is captured. -/
theorem sameUpToCaptures {values otherValues : List Value} (fills : type.Fills fields values)
    (otherFills : type.Fills others otherValues)
    (sound : Entity.SoundThroughout types ⟨type, values⟩)
    (otherSound : Entity.SoundThroughout types ⟨type, otherValues⟩) :
    Entity.SameUpToCaptures ⟨type, values⟩ ⟨type, otherValues⟩ where
  sameType := rfl
  length := otherFills.sized.trans fills.sized.symm
  slots slot apart := by
    cases placed : type.attributes[slot]? with
    | none =>
        have outside := List.getElem?_eq_none_iff.mp placed
        exact (List.getElem?_eq_none_iff.mpr (otherFills.sized ▸ outside)).trans
          (List.getElem?_eq_none_iff.mpr (fills.sized ▸ outside)).symm
    | some field =>
        obtain ⟨value, coerced, stored⟩ := fills.slots slot field placed apart
        obtain ⟨second, otherCoerced, otherStored⟩ := otherFills.slots slot field placed apart
        rw [reordered.givenTo_eq, otherCoerced] at coerced
        obtain rfl := Except.ok.inj coerced
        exact otherStored.trans stored.symm
  captured slot located := by
    obtain ⟨field, entries, placed, coerced, stored⟩ := fills.captured slot located
    obtain ⟨own, more, otherPlaced, otherCoerced, otherStored⟩ := otherFills.captured slot located
    obtain rfl := Option.some.inj (placed.symm.trans otherPlaced)
    rw [reordered.givenTo_eq, otherCoerced] at coerced
    obtain rfl := Value.dict.inj (Except.ok.inj coerced)
    -- New keys are captured in another order, so the dicts are compared by what is found in them.
    refine ⟨_, _, stored, otherStored, Entries.perm_of_find? ?_ ?_ fun key => ?_⟩
    · exact Document.WellFormed.keys (sound.values _ (List.mem_of_getElem? stored)).here
    · exact Document.WellFormed.keys (otherSound.values _ (List.mem_of_getElem? otherStored)).here
    · rw [Mapping.find?_merge_last, Mapping.find?_merge_last, reordered.lastOf?_captured_eq]

/-- Fields in another order make an equal entity, or they are refused as well. -/
theorem populate_alike (registry : Registry types) (known : type ∈ types)
    (given : ∀ entry ∈ fields, entry.2.SoundThroughout types) (source : FieldSource) :
    Entity.MadeAlike (type.populate type.coerceAt source fields)
      (type.populate type.coerceAt source others) := by
  have typeSound := registry.sound type known
  have together : (∃ entity, type.populate type.coerceAt source fields = .ok entity) ↔
      ∃ other, type.populate type.coerceAt source others = .ok other :=
    reordered.exists_populate_iff typeSound
  cases first : type.populate type.coerceAt source fields with
  | error refusal =>
      cases second : type.populate type.coerceAt source others with
      | error other => exact .refused
      | ok other =>
          obtain ⟨entity, made⟩ := together.mpr ⟨other, second⟩
          exact nomatch first.symm.trans made
  | ok entity =>
      obtain ⟨other, second⟩ := together.mp ⟨entity, first⟩
      have coerces := registry.attributes_coerceSoundly known
      have otherGiven : ∀ entry ∈ others, entry.2.SoundThroughout types :=
        fun entry member => given entry (reordered.perm.mem_iff.mpr member)
      have sound := (populate_sound registry known coerces given first).1
      have otherSound := (populate_sound registry known coerces otherGiven second).1
      obtain ⟨sameType, fills⟩ := fills_of_populate typeSound first
      obtain ⟨otherType, otherFills⟩ := fills_of_populate typeSound second
      obtain ⟨own, values⟩ := entity
      obtain ⟨ownOther, otherValues⟩ := other
      subst sameType otherType
      have same := reordered.sameUpToCaptures fills otherFills sound otherSound
      rw [second]
      exact .made (same.agrees registry sound otherSound) same

end EntityType.Reordered

/-! ## Documents in another order -/

/-- Members of a sort that only one member is of stand alone, in whatever order. -/
theorem filter_eq_of_perm {α : Type} {chosen : α → Bool} {left right : List α}
    (perm : left.Perm right)
    (single : left.Pairwise fun first second => chosen first = true → chosen second ≠ true) :
    left.filter chosen = right.filter chosen := by
  have kept := perm.filter chosen
  have alone : (left.filter chosen).Pairwise fun _ _ => False :=
    List.pairwise_filter.mpr (single.imp fun apart first second => apart first second)
  match found : left.filter chosen with
  | [] =>
      rw [found] at kept
      exact kept.nil_eq
  | [member] =>
      rw [found] at kept
      exact (List.perm_singleton.mp kept.symm).symm
  | first :: second :: rest =>
      rw [found] at alone
      exact ((List.pairwise_cons.mp alone).1 second List.mem_cons_self).elim

namespace EntityType

theorem filter_fieldsOf (entries : Mapping) (chosen : String → Bool) :
    ((fieldsOf entries).filter fun entry => chosen entry.1) =
      fieldsOf (entries.filter fun entry => chosen entry.1) := by
  rw [fieldsOf, List.filter_map]
  rfl

/-- Entries under distinct keys may be reordered, unless two of them lead to one field. -/
theorem Unambiguous.reordered {entries others : Mapping} (once : type.Unambiguous entries)
    (perm : entries.Perm others) (distinct : (Entries.keys entries).Nodup) :
    type.Reordered (fieldsOf entries) (fieldsOf others) where
  perm := perm.map _
  declared slot := by
    rw [filter_fieldsOf _ fun name => type.slot? name == some slot,
      filter_fieldsOf _ fun name => type.slot? name == some slot,
      filter_eq_of_perm perm (once.imp fun apart first second => ?_)]
    exact apart slot (beq_iff_eq.mp first) (beq_iff_eq.mp second)
  undeclared name _ := by
    rw [filter_fieldsOf _ fun key => key == name, filter_fieldsOf _ fun key => key == name,
      filter_eq_of_perm perm ((List.pairwise_map.mp distinct).imp fun apart first second => ?_)]
    exact apart ((beq_iff_eq.mp first).trans (beq_iff_eq.mp second).symm)

namespace SameEntries

variable {document other : Mapping}

theorem symm (same : type.SameEntries document other) : type.SameEntries other document := by
  have turned {entries others : Mapping} (once : type.Unambiguous entries)
      (perm : entries.Perm others) : type.Unambiguous others :=
    perm.pairwise once fun apart slot first second => apart slot second first
  cases same with
  | outside perm once =>
      refine .outside perm.symm (turned once ?_)
      unfold outermost
      split
      next => exact perm
      next root _ => exact perm.filter _
  | inside enveloped found otherFound perm once bodyPerm bodyOnce =>
      exact .inside enveloped otherFound found perm.symm (turned once perm) bodyPerm.symm
        (turned bodyOnce bodyPerm)

/-- Under the root of an envelope, and beside it, there stand the same entries in another order. -/
theorem enveloped (same : type.SameEntries document other)
    (formed : (Document.mapping document).WellFormed) {root : String} {body : Mapping}
    (enveloped : type.envelope = some root) (found : document.lookup? root = some (.mapping body)) :
    ∃ otherBody, other.lookup? root = some (.mapping otherBody) ∧
      (document.without root).Perm (other.without root) ∧
      type.Unambiguous (document.without root) ∧
      type.Reordered (fieldsOf body) (fieldsOf otherBody) := by
  cases same with
  | outside perm once =>
      have otherFound := (Entries.find?_perm formed.keys perm.symm root).trans found
      rw [outermost, enveloped] at once
      exact ⟨body, otherFound, perm.filter _, once, .refl _⟩
  | @inside own otherBody ownRoot ownEnveloped ownFound otherFound perm once bodyPerm bodyOnce =>
      obtain rfl := Option.some.inj (enveloped.symm.trans ownEnveloped)
      obtain rfl := Document.mapping.inj (Option.some.inj (found.symm.trans ownFound))
      have bodyFormed : (Document.mapping body).WellFormed :=
        formed.entries _ (Entries.mem_of_find? found)
      exact ⟨otherBody, otherFound, perm, once, bodyOnce.reordered bodyPerm bodyFormed.keys⟩

/-- Documents with the same entries are read from fields in another order. -/
theorem exists_unwrap (same : type.SameEntries document other)
    (formed : (Document.mapping document).WellFormed) {fields : List (String × Value)}
    (unwrapped : type.unwrap document = .ok fields) :
    ∃ others, type.unwrap other = .ok others ∧ type.Reordered fields others := by
  rcases unwrap_eq_ok_iff.mp unwrapped with
    ⟨bare, rfl⟩ | ⟨root, body, enveloped, found, allowed, rfl⟩
  · refine ⟨fieldsOf other, unwrap_eq_ok_iff.mpr (.inl ⟨bare, rfl⟩), ?_⟩
    cases same with
    | outside perm once =>
        rw [outermost, bare] at once
        exact once.reordered perm formed.keys
    | inside enveloped => exact nomatch bare.symm.trans enveloped
  · obtain ⟨otherBody, otherFound, perm, once, bodies⟩ := same.enveloped formed enveloped found
    refine ⟨_, unwrap_eq_ok_iff.mpr (.inr ⟨root, otherBody, enveloped, otherFound, ?_, rfl⟩), ?_⟩
    · exact fun outside => allowed fun empty => outside (empty ▸ perm).nil_eq.symm
    · exact (once.reordered perm (formed.filter _).keys).append bodies

/-- Documents with the same entries make equal entities, or they are both refused. -/
theorem read_alike (same : type.SameEntries document other) (registry : Registry types)
    (known : type ∈ types) (formed : (Document.mapping document).WellFormed)
    (otherFormed : (Document.mapping other).WellFormed) :
    Entity.MadeAlike (type.read document) (type.read other) := by
  rw [read_eq, read_eq]
  cases unwrapped : type.unwrap document with
  | ok fields =>
      obtain ⟨others, otherUnwrapped, reordered⟩ := same.exists_unwrap formed unwrapped
      rw [otherUnwrapped]
      exact reordered.populate_alike registry known (unwrap_sound formed unwrapped) .document
  | error refusal =>
      cases otherUnwrapped : type.unwrap other with
      | error _ => exact .refused
      | ok others =>
          obtain ⟨fields, taken, _⟩ := same.symm.exists_unwrap otherFormed otherUnwrapped
          exact nomatch unwrapped.symm.trans taken

end SameEntries

end EntityType

/--
Unrelated fields may be given in any order. Each order makes an entity or none of them does, and the
entities are equal: their slots hold the same, and their catch-alls the same entries. The same goes
for the keys of a document, whether one of them is the catch-all itself or not.
-/
theorem Workspace.Reachable.field_order_immaterial {space : Workspace} (reached : space.Reachable)
    {type : EntityType} (known : type ∈ space.types) :
    (∀ fields others, space.SuppliesFields fields → type.Reordered fields others →
      Entity.MadeAlike (type.create fields) (type.create others)) ∧
    ∀ document other, (Document.mapping document).WellFormed →
      (Document.mapping other).WellFormed → type.SameEntries document other →
      Entity.MadeAlike (type.readDocument (.mapping document))
        (type.readDocument (.mapping other)) := by
  have sound := reached.sound
  constructor
  · intro fields others supplied reordered
    exact reordered.populate_alike sound.registry known
      (fun entry member => sound.supplied (supplied entry member)) .caller
  · intro document other formed otherFormed same
    exact same.read_alike sound.registry known formed otherFormed

namespace Catalogue

/-- A host with some variables, and with its rack beside them. -/
def racked : Mapping :=
  [("vars", .mapping [("zone", .text "a"), ("rack", .integer 1)]), ("rack", .integer 7),
    ("name", .text "leaf")]

/-- The host is read backwards as well, and a later name and rack count in either order. -/
theorem racked_backwards :
    let later : List (String × Value) := [("rack", .integer 8), ("name", .text "spine")]
    (host.readDocument (.mapping racked)).isOk = true ∧
      Entity.MadeAlike (host.create (EntityType.fieldsOf racked ++ later))
        (host.create (EntityType.fieldsOf racked.reverse ++ later)) ∧
      Entity.MadeAlike (host.readDocument (.mapping racked))
        (host.readDocument (.mapping racked.reverse)) := by
  intro later
  have known : host ∈ types.reverse := by simp [types]
  have perm : racked.Perm racked.reverse := (List.reverse_perm racked).symm
  have formed : (Document.mapping racked).WellFormed := by
    simp [racked, Document.WellFormed.mapping_iff, Document.WellFormed.text,
      Document.WellFormed.number, Document.integer]
  have otherFormed : (Document.mapping racked.reverse).WellFormed :=
    .mapping ((perm.map Prod.fst).nodup_iff.mp formed.keys)
      fun entry member => formed.entries entry (List.mem_reverse.mp member)
  have once : host.Unambiguous racked := by
    have vars : host.slot? "vars" = some 5 := rfl
    have rack : host.slot? "rack" = none := rfl
    have name : host.slot? "name" = some 0 := rfl
    simp [EntityType.Unambiguous, racked, vars, rack, name]
  have supplied : Workspace.SuppliesFields ⟨types.reverse, []⟩
      (EntityType.fieldsOf racked ++ later) := by
    have vars := formed.entries _ List.mem_cons_self
    have rack (place : Int64) : Workspace.Supplies ⟨types.reverse, []⟩ (.integer place) :=
      fun _ member => absurd member List.not_mem_nil
    simp only [Workspace.SuppliesFields, List.forall_mem_append, EntityType.fieldsOf, racked,
      List.map_cons, List.map_nil, List.forall_mem_cons, later]
    exact ⟨⟨vars, rack 7, Workspace.supplies_text _, List.forall_mem_nil _⟩, rack 8,
      Workspace.supplies_text _, List.forall_mem_nil _⟩
  obtain ⟨created, read⟩ :=
    Workspace.catalogue_declared.reached.field_order_immaterial known
  exact ⟨rfl, created _ _ supplied ((once.reordered perm formed.keys).append (.refl later)),
    read _ _ formed otherFormed (.outside perm once)⟩

end Catalogue

end NetworkAutomation
