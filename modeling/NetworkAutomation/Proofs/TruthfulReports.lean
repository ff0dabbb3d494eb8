/-
This file proves that every operation on entities reports truly what the validators refuse in it.
-/

import NetworkAutomation.Proofs.Judgements
import NetworkAutomation.Proofs.Preservation

namespace NetworkAutomation

/-! ## What is reported by whom -/

/-- The command fills an entity of the type with the fields, or changes these fields of one. -/
inductive Command.Fills : Command → Target → EntityType → List (String × Value) → Prop where
  | set {owner : Entity} {name : String} {value : Value} :
      Fills (.entity (.set name value)) (.entity owner) owner.type [(name, value)]
  | setExtra {owner : Entity} {name : String} {document : Document} :
      Fills (.entity (.setExtra name document)) (.entity owner) owner.type
        [(name, Value.ofDocument document)]
  | createOrdered {collection : OrderedCollection} {fields : List (String × Value)} :
      Fills (.ordered (.create fields)) (.ordered collection) collection.itemType fields
  | readOrdered {collection : OrderedCollection} {documents : List Document} {entries : Mapping}
      {fields : List (String × Value)} (member : .mapping entries ∈ documents)
      (unwrapped : collection.itemType.unwrap entries = .ok fields) :
      Fills (.ordered (.deserialize documents)) (.ordered collection) collection.itemType fields
  | insertKeyed {collection : KeyedCollection} {key : String} {item : Entity} :
      Fills (.keyed (.insert key item)) (.keyed collection) item.type
        [(collection.keyField, .text key)]
  | createKeyed {collection : KeyedCollection} {fields : List (String × Value)} :
      Fills (.keyed (.create fields)) (.keyed collection) collection.itemType fields
  | readKeyed {collection : KeyedCollection} {document body : Mapping}
      {entry : String × Document} {fields : List (String × Value)} (member : entry ∈ document)
      (taken : KeyedCollection.entryBody collection.itemType entry.1 entry.2 = .ok body)
      (unwrapped : collection.itemType.unwrap
        (Mapping.insert body collection.keyField (.text entry.1)) = .ok fields) :
      Fills (.keyed (.deserialize document)) (.keyed collection) collection.itemType fields

def Command.Passes (command : Command) (target : Target) (inner : Attribute) (given : Value) :
    Prop :=
  ∃ type fields, command.Fills target type fields ∧ type.Passes fields inner given

/-- A default is refused with the message of a true report, and later values are refused truly. -/
structure Declaration.Truthful (declaration : Declaration) (name : String) : Prop where
  refused : ∀ owner reason, declaration.define name = .error (.invalidDefault owner reason) →
    owner = name ∧ ∃ error, reason = error.message ∧
      (declaration.withDefault name .null).coerce declaration.default = .error error ∧
      ReportsTruly ((declaration.withDefault name .null).Passes declaration.default)
        fun cause => error = .validation cause
  defined : ∀ field value, declaration.define name = .ok field →
    ReportsTruly (field.Passes value) fun cause => field.coerce value = .error (.validation cause)

/-- All that the validators of the known types report is true. -/
structure Workspace.Truthful (space : Workspace) : Prop where
  create : ∀ type ∈ space.types, ∀ fields, ReportsTruly (type.Passes fields)
    fun cause => type.create fields = .error (.validation cause)
  read : ∀ type ∈ space.types, ∀ document, ReportsTruly
    (fun field given => ∃ entries, document = .mapping entries ∧
      type.PassesDocument entries field given)
    fun cause => type.readDocument document = .error (.validation cause)
  edit : ∀ root ∈ space.targets, ∀ path command, space.SuppliesCommand command → ReportsTruly
    (fun field given => ∃ inner, root.resolve path = .ok inner ∧ command.Passes inner field given)
    fun cause => root.edit command.run path = .error (.refused (.validation cause))
  setAll : ∀ collection, .ordered collection ∈ space.targets → ∀ name value, ReportsTruly
    (fun field given => ∃ item ∈ collection.items, item.type.Passes [(name, value)] field given)
    fun cause => (collection.setAll name value).2 = some (.validation cause)
  define : ∀ (declaration : Declaration) name,
    (∀ item, declaration.type.item? = some item → item ∈ space.types) → declaration.Truthful name

/-! ## Refusals without a validator -/

section Unjudged

variable {cause : ValidationError}

theorem Entity.slot_ne_validation {entity : Entity} {name : String} :
    entity.slot name ≠ .error (.validation cause) := by
  intro refused
  unfold Entity.slot at refused
  split at refused <;> cases refused

/-- A view of a field tells no more than which kind of value stands there. -/
theorem Entity.view_ne_validation {α : Type} {entity : Entity} {name : String}
    {view : Value → Checked α} (views : ∀ value, view value ≠ .error (.validation cause)) :
    (entity.get name >>= view) ≠ .error (.validation cause) := by
  intro refused
  rcases Success.bind_eq_error.mp refused with failed | ⟨value, _, viewed⟩
  · exact Entity.slot_ne_validation (Success.bind_pure_eq_error.mp failed)
  · exact views value viewed

theorem KeyedCollection.keyOf_ne_validation {collection : KeyedCollection} {item : Entity} :
    collection.keyOf item ≠ .error (.validation cause) := by
  intro refused
  rcases Success.bind_eq_error.mp refused with failed | ⟨key, _, later⟩
  · exact Entity.view_ne_validation (fun value => by cases value <;> nofun) failed
  · cases key <;> cases later

theorem Target.descend_ne_validation {target : Target} {segment : Segment} :
    target.descend segment ≠ .error (.refused (.validation cause)) := by
  have ofField {α : Type} {wrap : α → Target} {checked : Checked α}
      (unjudged : checked ≠ .error (.validation cause)) :
      Target.ofField (checked.map wrap) ≠ .error (.refused (.validation cause)) := by
    cases checked with
    | ok value => nofun
    | error error =>
        intro refused
        cases refused
        exact unjudged rfl
  intro refused
  unfold Target.descend at refused
  split at refused
  next => exact ofField (Entity.view_ne_validation fun value => by cases value <;> nofun) refused
  next => exact ofField (Entity.view_ne_validation fun value => by cases value <;> nofun) refused
  next => exact ofField (Entity.view_ne_validation fun value => by cases value <;> nofun) refused
  next => split at refused <;> cases refused
  next => split at refused <;> cases refused
  next => cases refused

/-- Where a path is refused for a validator, its end was reached and the operation refused. -/
theorem Target.exists_resolved_of_edit {α : Type} {operation : Target → Checked (α × Target)}
    {target : Target} {path : List Segment}
    (refused : target.edit operation path = .error (.refused (.validation cause))) :
    ∃ inner, target.resolve path = .ok inner ∧ operation inner = .error (.validation cause) := by
  induction path generalizing target with
  | nil =>
      refine ⟨target, rfl, ?_⟩
      rw [edit_nil] at refused
      split at refused <;> cases refused
      assumption
  | cons segment path ih =>
      rw [edit_cons] at refused
      rcases Success.bind_eq_error.mp refused with failed | ⟨middle, descended, later⟩
      · exact absurd failed descend_ne_validation
      · obtain ⟨inner, resolved, failed⟩ := ih (Success.bind_pure_eq_error.mp later)
        refine ⟨inner, ?_, failed⟩
        rw [resolve, List.foldlM_cons, descended]
        exact resolved

theorem OrderedCollection.checkItem_ne_validation {collection : OrderedCollection} {item : Entity} :
    collection.checkItem item ≠ .error (.validation cause) := by
  intro refused
  unfold OrderedCollection.checkItem at refused
  split at refused <;> cases refused

theorem KeyedCollection.checkItem_ne_validation {collection : KeyedCollection} {item : Entity} :
    collection.checkItem item ≠ .error (.validation cause) := by
  intro refused
  unfold KeyedCollection.checkItem at refused
  split at refused <;> cases refused

end Unjudged

/-! ## Commands -/

section Commands

variable {cause : ValidationError}

theorem Entity.exists_judges_of_set {entity : Entity} {name : String} {value : Value}
    (refused : entity.set name value = .error (.validation cause)) :
    ∃ inner given, entity.type.Passes [(name, value)] inner given ∧ inner.Judges given cause := by
  rcases Success.bind_eq_error.mp refused with failed | ⟨slot, located, later⟩
  · exact absurd failed slot_ne_validation
  · have found := slot_eq_ok_iff.mp located
    obtain ⟨field, placed⟩ := EntityType.exists_field_of_slot? found
    rcases Success.bind_eq_error.mp later with assigned | ⟨_, _, same⟩
    · have coerced := EntityType.assign_eq_validation placed assigned
      obtain ⟨inner, given, passes, judges⟩ := Attribute.exists_judges_of_coerce coerced
      refine ⟨inner, given, ⟨_, List.mem_singleton_self _, field, ?_, passes⟩, judges⟩
      rw [EntityType.field?, found, Option.bind_some, placed]
    · contradiction

theorem EntityCommand.exists_judges {command : EntityCommand} {owner : Entity}
    (refused : command.run owner = .error (.validation cause)) :
    ∃ inner given, Command.Passes (.entity command) (.entity owner) inner given ∧
      inner.Judges given cause := by
  cases command with
  | set name value =>
      obtain ⟨inner, given, passes, judges⟩ := Entity.exists_judges_of_set refused
      exact ⟨inner, given, ⟨_, _, .set, passes⟩, judges⟩
  | delete name =>
      rcases Success.bind_eq_error.mp refused with failed | ⟨slot, _, later⟩
      · exact absurd failed Entity.slot_ne_validation
      · split at later
        next => split at later <;> cases later
        next => cases later
  | setExtra name document =>
      unfold EntityCommand.run Entity.setExtra at refused
      dsimp only at refused
      split at refused
      next =>
        obtain ⟨inner, given, passes, judges⟩ := Entity.exists_judges_of_set refused
        exact ⟨inner, given, ⟨_, _, .setExtra, passes⟩, judges⟩
      next => split at refused <;> cases refused
  | rewriteDict name entries =>
      rcases Success.bind_eq_error.mp refused with failed | ⟨slot, _, later⟩
      · exact absurd failed Entity.slot_ne_validation
      · split at later <;> cases later

theorem OrderedCommand.exists_judges {command : OrderedCommand} {collection : OrderedCollection}
    (refused : command.run collection = .error (.validation cause)) :
    ∃ inner given, Command.Passes (.ordered command) (.ordered collection) inner given ∧
      inner.Judges given cause := by
  cases command with
  | append item =>
      have failed := Success.bind_pure_eq_error.mp (Success.bind_pure_eq_error.mp refused)
      exact absurd failed OrderedCollection.checkItem_ne_validation
  | insert index item =>
      have failed := Success.bind_pure_eq_error.mp (Success.bind_pure_eq_error.mp refused)
      exact absurd failed OrderedCollection.checkItem_ne_validation
  | replace index item =>
      rcases Success.bind_eq_error.mp (Success.bind_pure_eq_error.mp refused) with
        failed | ⟨_, _, later⟩
      · exact absurd failed OrderedCollection.checkItem_ne_validation
      · split at later <;> cases later
  | remove index =>
      have failed := Success.bind_pure_eq_error.mp refused
      unfold OrderedCollection.remove at failed
      split at failed <;> cases failed
  | clear => cases refused
  | create fields =>
      have failed := Success.bind_pure_eq_error.mp (Success.bind_pure_eq_error.mp refused)
      obtain ⟨inner, given, passes, judges⟩ := EntityType.exists_judges_of_populate failed
      exact ⟨inner, given, ⟨_, _, .createOrdered, passes⟩, judges⟩
  | deserialize documents =>
      have failed := Success.bind_pure_eq_error.mp refused
      obtain ⟨entries, member, read⟩ := OrderedCollection.readItems_eq_validation failed
      obtain ⟨inner, given, ⟨fields, unwrapped, passes⟩, judges⟩ :=
        EntityType.exists_judges_of_read read
      exact ⟨inner, given, ⟨_, fields, .readOrdered member unwrapped, passes⟩, judges⟩

theorem KeyedCommand.exists_judges {command : KeyedCommand} {collection : KeyedCollection}
    (refused : command.run collection = .error (.validation cause)) :
    ∃ inner given, Command.Passes (.keyed command) (.keyed collection) inner given ∧
      inner.Judges given cause := by
  cases command with
  | add item =>
      rcases Success.bind_eq_error.mp refused with failed | ⟨_, _, later⟩
      · exact absurd failed KeyedCollection.checkItem_ne_validation
      · exact absurd (Success.bind_pure_eq_error.mp later) KeyedCollection.keyOf_ne_validation
  | insert key item =>
      rcases Success.bind_eq_error.mp refused with failed | ⟨_, _, later⟩
      · exact absurd failed KeyedCollection.checkItem_ne_validation
      · obtain ⟨inner, given, passes, judges⟩ :=
          Entity.exists_judges_of_set (Success.bind_pure_eq_error.mp later)
        exact ⟨inner, given, ⟨_, _, .insertKeyed, passes⟩, judges⟩
  | create fields =>
      rcases Success.bind_eq_error.mp (Success.bind_pure_eq_error.mp refused) with
        failed | ⟨item, _, later⟩
      · obtain ⟨inner, given, passes, judges⟩ := EntityType.exists_judges_of_populate failed
        exact ⟨inner, given, ⟨_, _, .createKeyed, passes⟩, judges⟩
      · rcases Success.bind_eq_error.mp later with failed | ⟨_, _, later⟩
        · exact absurd failed KeyedCollection.keyOf_ne_validation
        · split at later <;> cases later
  | remove key => cases refused
  | clear => cases refused
  | deserialize document =>
      have failed := Success.bind_pure_eq_error.mp refused
      obtain ⟨entry, member, body, taken, read⟩ :=
        KeyedCollection.readEntries_eq_validation failed
      obtain ⟨inner, given, ⟨fields, unwrapped, passes⟩, judges⟩ :=
        EntityType.exists_judges_of_read read
      exact ⟨inner, given, ⟨_, fields, .readKeyed member taken unwrapped, passes⟩, judges⟩

theorem Command.exists_judges {command : Command} {target : Target}
    (refused : command.run target = .error (.validation cause)) :
    ∃ inner given, command.Passes target inner given ∧ inner.Judges given cause := by
  unfold Command.run at refused
  split at refused
  next => exact EntityCommand.exists_judges (Success.bind_pure_eq_error.mp refused)
  next => exact OrderedCommand.exists_judges (Success.bind_pure_eq_error.mp refused)
  next => exact KeyedCommand.exists_judges (Success.bind_pure_eq_error.mp refused)
  next => cases refused

/-- An element whose turn it was refused the value. -/
theorem OrderedCollection.exists_judges_of_setEach {name : String} {value : Value}
    {items : List Entity} (refused : (setEach name value items).2 = some (.validation cause)) :
    ∃ inner given, (∃ item ∈ items, item.type.Passes [(name, value)] inner given) ∧
      inner.Judges given cause := by
  induction items with
  | nil => exact nomatch refused
  | cons item rest ih =>
      rw [setEach] at refused
      split at refused
      next changed _ =>
        obtain ⟨inner, given, ⟨other, member, passes⟩, judges⟩ := ih refused
        exact ⟨inner, given, ⟨other, List.mem_cons_of_mem _ member, passes⟩, judges⟩
      next error failed =>
        obtain rfl := Option.some.inj refused
        obtain ⟨inner, given, passes, judges⟩ := Entity.exists_judges_of_set failed
        exact ⟨inner, given, ⟨item, List.mem_cons_self, passes⟩, judges⟩

end Commands

/-! ## Definitions -/

theorem Naming.check_ne_invalidDefault {name owner reason : String} :
    Naming.check name ≠ .error (.invalidDefault owner reason) := by
  intro refused
  unfold Naming.check at refused
  repeat' split at refused
  all_goals cases refused

/-- Only a default that its own attribute refuses is an invalid one. -/
theorem Declaration.define_eq_invalidDefault {declaration : Declaration}
    {name owner reason : String}
    (refused : declaration.define name = .error (.invalidDefault owner reason)) :
    owner = name ∧ declaration.checkValidators = .ok () ∧ ∃ error, reason = error.message ∧
      (declaration.withDefault name .null).coerce declaration.default = .error error := by
  unfold define at refused
  rcases Success.bind_eq_error.mp refused with failed | ⟨_, _, refused⟩
  · exact absurd failed Naming.check_ne_invalidDefault
  rcases Success.bind_eq_error.mp refused with failed | ⟨_, _, refused⟩
  · obtain ⟨_, name, _, _, _, failed⟩ := Success.forM_eq_error_iff.mp failed
    exact absurd failed Naming.check_ne_invalidDefault
  rcases Success.bind_eq_error.mp refused with failed | ⟨_, supported, refused⟩
  · unfold checkValidators at failed
    split at failed <;> cases failed
  rcases Success.bind_eq_error.mp refused with failed | ⟨_, _, refused⟩
  · unfold checkPolicy at failed
    split at failed <;> cases failed
  rcases Success.bind_eq_error.mp refused with failed | ⟨_, _, refused⟩
  · cases type : declaration.type with
    | map item key =>
        rw [type, AttributeType.checkKey, EntityType.checkKeyField] at failed
        split at failed <;> cases failed
    | _ =>
        rw [type] at failed
        cases failed
  have failed := Success.bind_pure_eq_error.mp refused
  unfold defaultFor at failed
  split at failed
  next => cases failed
  next =>
    split at failed
    next => cases failed
    next error coerced =>
      cases failed
      exact ⟨rfl, supported, error, rfl, coerced⟩

/-- Whatever default it has, the attribute of the declaration is judged by supported kinds only. -/
theorem Declaration.wellJudged_withDefault {declaration : Declaration} {types : List EntityType}
    (known : ∀ item, declaration.type.item? = some item → item ∈ types)
    (supported : declaration.checkValidators = .ok ()) (name : String) (default : Value) :
    (declaration.withDefault name default).WellJudged types :=
  ⟨known, checkValidators_eq_ok_iff.mp supported⟩

/-! ## Workspaces -/

namespace Workspace

variable {space : Workspace}

/-- A command only fills entities of known types. -/
theorem Sound.known_of_fills (sound : space.Sound) {command : Command} {target : Target}
    (held : target.toValue.SoundThroughout space.types)
    (supplied : space.SuppliesCommand command) {type : EntityType}
    {fields : List (String × Value)} (fills : command.Fills target type fields) :
    type ∈ space.types := by
  cases fills with
  | set => exact (Value.SoundThroughout.object_iff.mp held).here.known
  | setExtra => exact (Value.SoundThroughout.object_iff.mp held).here.known
  | createOrdered => exact held.here.known
  | readOrdered => exact held.here.known
  | insertKeyed => exact (sound.suppliedItem supplied).here.known
  | createKeyed => exact held.here.known
  | readKeyed => exact held.here.known

theorem Sound.truthful (sound : space.Sound) : space.Truthful where
  create type known fields := by
    refine .of_judges space.types ?_ fun cause refused => ?_
    · exact fun _ _ passes => passes.wellJudged sound.registry known
    · exact EntityType.exists_judges_of_populate refused
  read type known document := by
    refine .of_judges space.types ?_ fun cause refused => ?_
    · rintro field given ⟨entries, _, passes⟩
      exact passes.wellJudged sound.registry known
    · obtain ⟨entries, rfl, failed⟩ := EntityType.readMapping_eq_validation refused
      obtain ⟨inner, given, passes, judges⟩ := EntityType.exists_judges_of_read failed
      exact ⟨inner, given, ⟨entries, rfl, passes⟩, judges⟩
  edit root held path command supplied := by
    refine .of_judges space.types ?_ fun cause refused => ?_
    · rintro field given ⟨inner, resolved, type, fields, fills, passes⟩
      have innerSound := Target.resolve_sound (sound.targets root held) resolved
      exact passes.wellJudged sound.registry (sound.known_of_fills innerSound supplied fills)
    · obtain ⟨inner, resolved, failed⟩ := Target.exists_resolved_of_edit refused
      obtain ⟨field, given, passes, judges⟩ := Command.exists_judges failed
      exact ⟨field, given, ⟨inner, resolved, passes⟩, judges⟩
  setAll collection held name value := by
    refine .of_judges space.types ?_ fun cause refused => ?_
    · rintro field given ⟨item, member, passes⟩
      have itemSound := (sound.targets _ held).below item member
      exact passes.wellJudged sound.registry itemSound.here.known
    · exact OrderedCollection.exists_judges_of_setEach refused
  define declaration name known := {
    refused := fun owner reason refused => by
      obtain ⟨same, supported, error, shown, failed⟩ :=
        Declaration.define_eq_invalidDefault refused
      have bare := Declaration.wellJudged_withDefault known supported name .null
      have truthful := bare.reportsTruly sound.registry declaration.default
      rw [failed] at truthful
      refine ⟨same, error, shown, failed, ?_⟩
      simpa using truthful
    defined := fun field value defined => by
      obtain ⟨supported, _, _, default, _, rfl⟩ := Declaration.define_eq_ok defined
      exact (Declaration.wellJudged_withDefault known supported name default).reportsTruly
        sound.registry value }

end Workspace

end NetworkAutomation
