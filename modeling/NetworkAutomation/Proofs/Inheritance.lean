/-
This file says which attributes a type inherits and declares, to which of them each of its names
leads, and which declarations are refused for a repeated name.
-/

import Mathlib.Data.List.Nodup
import Mathlib.Data.List.Induction
import NetworkAutomation.Playbook.Catalogue
import NetworkAutomation.Proofs.TypeBuilding

namespace NetworkAutomation

namespace Attribute

/-- Fields stand where their names first occur, and each of them is the last one of its name. -/
structure MergedFrom (sequence attributes : List Attribute) : Prop where
  names : attributes.map Attribute.name = (sequence.map Attribute.name).eraseDups
  last : ∀ field ∈ attributes, ∃ before after, sequence = before ++ field :: after ∧
    ∀ later ∈ after, later.name ≠ field.name

/-- A name leads to the field of the name, and without such a field to the one of the alias. -/
def Leads (attributes : List Attribute) (name : String) (slot : Nat) : Prop :=
  (attributes.map Attribute.name)[slot]? = some name ∨
    name ∉ attributes.map Attribute.name ∧
      ∃ field, attributes[slot]? = some field ∧ name ∈ field.aliases

/-- The aliases that no field hides. -/
def openAliases (attributes : List Attribute) : List String :=
  (attributes.flatMap Attribute.aliases).filter fun name =>
    !(attributes.map Attribute.name).contains name

end Attribute

namespace TypeDeclaration

open Attribute

/-- The attributes of the parents in their order, and then the own ones as they are defined. -/
def Gathers (declaration : TypeDeclaration) (sequence : List Attribute) : Prop :=
  ∃ own, List.Forall₂ (fun entry field => entry.2.define entry.1 = .ok field)
      declaration.declared own ∧
    sequence = declaration.parents.flatMap EntityType.attributes ++ own

/-- The catch-all, be it declared or inherited, leads to a dict field. -/
def CatchesIn (declaration : TypeDeclaration) (attributes : List Attribute) : Prop :=
  ∀ catchAll, declaration.catchAll.or (declaration.parents.findSome? EntityType.catchAll) =
    some catchAll → ∃ slot field, Leads attributes catchAll.field slot ∧
      attributes[slot]? = some field ∧ field.type = .dict

/-- An own field is declared twice, or an alias that is no field name is given twice. -/
def Repeats (declaration : TypeDeclaration) (attributes : List Attribute) : Prop :=
  ¬(declaration.declared.map Prod.fst).Nodup ∨
    ∃ name, name ∉ attributes.map Attribute.name ∧
      1 < (attributes.flatMap Attribute.aliases).count name

/-! ## Merging -/

theorem mem_merge_self (attributes : List Attribute) (added : Attribute) :
    added ∈ merge attributes added := by
  induction attributes with
  | nil => exact List.mem_singleton.mpr rfl
  | cons first rest ih =>
      rw [merge]
      split
      next => exact List.mem_cons_self
      next => exact List.mem_cons_of_mem _ ih

/-- One more attribute takes the place of the field of its name, or the place behind all others. -/
theorem mergedFrom_merge {sequence attributes : List Attribute}
    (merged : MergedFrom sequence attributes) (distinct : (attributes.map Attribute.name).Nodup)
    (added : Attribute) : MergedFrom (sequence ++ [added]) (merge attributes added) where
  names := by
    rw [names_merge, merged.names, List.map_append, List.map_singleton, eraseDups_concat]
    simp only [List.mem_eraseDups]
  last field member := by
    by_cases same : field.name = added.name
    · have coherent : Coherent (fun _ => True) attributes := ⟨distinct, fun _ _ => trivial⟩
      have mergedDistinct : ((merge attributes added).map Attribute.name).Nodup :=
        (coherent.merge trivial).distinct
      obtain rfl := List.inj_on_of_nodup_map mergedDistinct member (mem_merge_self _ _) same
      exact ⟨sequence, [], rfl, fun _ absurdly => absurd absurdly List.not_mem_nil⟩
    · have old : field ∈ attributes := by
        rcases mem_merge member with rfl | old
        · exact absurd rfl same
        · exact old
      obtain ⟨before, after, rfl, apart⟩ := merged.last field old
      refine ⟨before, after ++ [added], by simp, fun later inLater => ?_⟩
      rcases List.mem_append.mp inLater with earlier | last
      · exact apart later earlier
      · rw [List.mem_singleton.mp last]
        exact Ne.symm same

theorem nodup_foldl_merge (sequence : List Attribute) :
    ((sequence.foldl merge []).map Attribute.name).Nodup := by
  have start : Coherent (fun _ => True) [] :=
    ⟨List.nodup_nil, fun _ member => absurd member List.not_mem_nil⟩
  exact (start.mergeAll fun _ _ => trivial).distinct

theorem mergedFrom_foldl (sequence : List Attribute) :
    MergedFrom sequence (sequence.foldl merge []) := by
  induction sequence using List.reverseRecOn with
  | nil => exact ⟨rfl, fun _ member => absurd member List.not_mem_nil⟩
  | append_singleton sequence added ih =>
      rw [List.foldl_append]
      exact mergedFrom_merge ih (nodup_foldl_merge sequence) added

end TypeDeclaration

namespace Attribute

/-- Each field is the first one of its name from behind. -/
theorem MergedFrom.find?_reverse {sequence attributes : List Attribute}
    (merged : MergedFrom sequence attributes) {field : Attribute} (member : field ∈ attributes) :
    (sequence.reverse.find? fun other => other.name == field.name) = some field := by
  obtain ⟨before, after, rfl, apart⟩ := merged.last field member
  rw [List.find?_eq_some_iff_append]
  refine ⟨beq_self_eq_true _, after.reverse, before.reverse, by simp, fun later inAfter => ?_⟩
  simpa using apart later (List.mem_reverse.mp inAfter)

/-- A sequence determines what is merged from it. -/
theorem MergedFrom.unique {sequence first second : List Attribute}
    (firstMerged : MergedFrom sequence first) (secondMerged : MergedFrom sequence second) :
    first = second := by
  have names := firstMerged.names.trans secondMerged.names.symm
  have sameLength : first.length = second.length := by
    simpa using congrArg List.length names
  refine List.ext_getElem sameLength fun slot inFirst inSecond => ?_
  have sameName : first[slot].name = second[slot].name := by
    have placed := congrArg (fun names => names[slot]?) names
    simpa [inFirst, inSecond] using placed
  have found := firstMerged.find?_reverse (List.getElem_mem inFirst)
  rw [sameName, secondMerged.find?_reverse (List.getElem_mem inSecond)] at found
  exact (Option.some.inj found).symm

/-! ## Names -/

section Names

variable {attributes : List Attribute} {name : String} {slot : Nat}

theorem mem_openAliases : name ∈ openAliases attributes ↔
    name ∉ attributes.map Attribute.name ∧ ∃ field ∈ attributes, name ∈ field.aliases := by
  simp [openAliases, and_comm]

/-- An alias that no field hides is counted as often as it is given. -/
theorem count_openAliases (unhidden : name ∉ attributes.map Attribute.name) :
    (openAliases attributes).count name = (attributes.flatMap Attribute.aliases).count name :=
  List.count_filter (by simpa using unhidden)

theorem nodup_openAliases_iff : (openAliases attributes).Nodup ↔
    ∀ name, name ∉ attributes.map Attribute.name →
      (attributes.flatMap Attribute.aliases).count name ≤ 1 := by
  rw [List.nodup_iff_count_le_one]
  constructor
  · intro once name unhidden
    rw [← count_openAliases unhidden]
    exact once name
  · intro once name
    by_cases hidden : name ∈ attributes.map Attribute.name
    · have absent : name ∉ openAliases attributes := fun member =>
        (mem_openAliases.mp member).1 hidden
      rw [List.count_eq_zero_of_not_mem absent]
      exact Nat.zero_le 1
    · rw [count_openAliases hidden]
      exact once name hidden

theorem Leads.inRange (leads : Leads attributes name slot) : slot < attributes.length := by
  rcases leads with named | ⟨_, field, placed, _⟩
  · simpa using (List.getElem?_eq_some_iff.mp named).1
  · exact (List.getElem?_eq_some_iff.mp placed).1

/-- An alias that is given once belongs to one field. -/
theorem eq_of_alias (once : (openAliases attributes).Nodup)
    (unhidden : name ∉ attributes.map Attribute.name) {first second : Nat}
    {field other : Attribute} (placed : attributes[first]? = some field)
    (otherPlaced : attributes[second]? = some other) (known : name ∈ field.aliases)
    (otherKnown : name ∈ other.aliases) : first = second := by
  rw [openAliases, List.filter_flatMap, List.nodup_flatMap] at once
  -- The aliases of two fields are disjoint, as far as no field hides them.
  have apart {earlier later : Nat} {left right : Attribute} (before : earlier < later)
      (leftPlaced : attributes[earlier]? = some left)
      (rightPlaced : attributes[later]? = some right) (inLeft : name ∈ left.aliases)
      (inRight : name ∈ right.aliases) : False := by
    obtain ⟨earlierInRange, rfl⟩ := List.getElem?_eq_some_iff.mp leftPlaced
    obtain ⟨laterInRange, rfl⟩ := List.getElem?_eq_some_iff.mp rightPlaced
    have disjoint := List.pairwise_iff_getElem.mp once.2 earlier later earlierInRange
      laterInRange before
    exact disjoint (List.mem_filter.mpr ⟨inLeft, by simpa using unhidden⟩)
      (List.mem_filter.mpr ⟨inRight, by simpa using unhidden⟩)
  rcases Nat.lt_trichotomy first second with before | same | after
  · exact (apart before placed otherPlaced known otherKnown).elim
  · exact same
  · exact (apart after otherPlaced placed otherKnown known).elim

theorem Leads.unique (distinct : (attributes.map Attribute.name).Nodup)
    (once : (openAliases attributes).Nodup) {first second : Nat}
    (leads : Leads attributes name first) (also : Leads attributes name second) :
    first = second := by
  rcases leads with named | ⟨unnamed, field, placed, known⟩ <;>
    rcases also with alsoNamed | ⟨alsoUnnamed, other, otherPlaced, otherKnown⟩
  · have inRange := (List.getElem?_eq_some_iff.mp named).1
    exact (List.getElem?_inj inRange distinct).mp (named.trans alsoNamed.symm)
  · exact absurd (List.mem_of_getElem? named) alsoUnnamed
  · exact absurd (List.mem_of_getElem? alsoNamed) unnamed
  · exact eq_of_alias once unnamed placed otherPlaced known otherKnown

end Names

end Attribute

namespace EntityType

open Attribute

variable {type : EntityType} {name : String} {slot : Nat}

theorem leads_of_slot? (found : type.slot? name = some slot) :
    Leads type.attributes name slot := by
  unfold slot? at found
  split at found
  next own direct =>
    obtain rfl := Option.some.inj found
    obtain ⟨inRange, named, _⟩ := List.findIdx?_eq_some_iff_getElem.mp direct
    left
    simpa [inRange] using named
  next unnamed =>
    obtain ⟨inRange, known, _⟩ := List.findIdx?_eq_some_iff_getElem.mp found
    right
    refine ⟨?_, type.attributes[slot], List.getElem?_eq_getElem inRange, by simpa using known⟩
    simpa using unnamed

theorem slot?_isSome_of_leads (leads : Leads type.attributes name slot) :
    ∃ found, type.slot? name = some found := by
  rw [← Option.isSome_iff_exists, slot?]
  split
  next => rfl
  next unnamed =>
    rcases leads with named | ⟨_, field, placed, known⟩
    · have member := List.mem_of_getElem? named
      simp only [List.findIdx?_eq_none_iff, beq_eq_false_iff_ne] at unnamed
      obtain ⟨field, inFields, same⟩ := List.mem_map.mp member
      exact absurd same (unnamed field inFields)
    · rw [List.findIdx?_isSome]
      exact List.any_eq_true.mpr ⟨field, List.mem_of_getElem? placed, by simpa using known⟩

/-- Names are looked up exactly as they lead, where neither names nor aliases are repeated. -/
theorem slot?_eq_some_iff_leads (distinct : type.fieldNames.Nodup)
    (once : (openAliases type.attributes).Nodup) :
    type.slot? name = some slot ↔ Leads type.attributes name slot := by
  refine ⟨leads_of_slot?, fun leads => ?_⟩
  obtain ⟨found, located⟩ := slot?_isSome_of_leads leads
  rw [located, Leads.unique distinct once leads (leads_of_slot? located)]

end EntityType

/-! ## Repeated names -/

namespace TypeDeclaration

open Attribute

/-- The first name that was seen already, either before or earlier in the list. -/
def firstRepeated? : List String → List String → Option String
  | _, [] => none
  | seen, name :: rest =>
      if seen.contains name then some name else firstRepeated? (name :: seen) rest

theorem firstRepeated?_eq_none_iff {seen names : List String} :
    firstRepeated? seen names = none ↔ names.Nodup ∧ ∀ name ∈ names, name ∉ seen := by
  induction names generalizing seen with
  | nil => simp [firstRepeated?]
  | cons name rest ih =>
      rw [firstRepeated?]
      by_cases known : name ∈ seen
      · simp [known]
      · rw [if_neg (by simpa using known), ih, List.nodup_cons, List.forall_mem_cons]
        simp only [List.mem_cons, not_or]
        constructor
        · rintro ⟨distinct, fresh⟩
          refine ⟨⟨fun again => (fresh name again).1 rfl, distinct⟩, known, ?_⟩
          exact fun other member => (fresh other member).2
        · rintro ⟨⟨absent, distinct⟩, _, fresh⟩
          refine ⟨distinct, fun other member => ⟨?_, fresh other member⟩⟩
          rintro rfl
          exact absent member

/-- A name is refused as soon as it comes again. -/
def refuseRepeated (entity : String) (names : List String) : Defined Unit :=
  match firstRepeated? [] names with
  | some name => .error (.duplicateAttribute entity name)
  | none => .ok ()

theorem checkAliases_eq (entity : String) (names seen aliases : List String) :
    checkAliases entity names seen aliases =
      match firstRepeated? seen (aliases.filter fun name => !names.contains name) with
      | some name => .error (.duplicateAttribute entity name)
      | none => .ok () := by
  induction aliases generalizing seen with
  | nil => rfl
  | cons name rest ih =>
      rw [checkAliases]
      by_cases hidden : names.contains name = true
      · rw [if_pos hidden, List.filter_cons_of_neg (by simpa using hidden), ih]
      · rw [if_neg hidden, List.filter_cons_of_pos (by simpa using hidden), firstRepeated?, ih]
        split <;> rfl

/-- Own attributes that can all be defined are merged unless a name is declared twice. -/
theorem mergeOwn_eq {entity : String} {seen : List String} {attributes own : List Attribute}
    {declared : List (String × Declaration)}
    (defined : List.Forall₂ (fun entry field => entry.2.define entry.1 = .ok field) declared own) :
    mergeOwn entity seen attributes declared =
      match firstRepeated? seen (declared.map Prod.fst) with
      | some name => .error (.duplicateAttribute entity name)
      | none => .ok (own.foldl merge attributes) := by
  induction defined generalizing seen attributes with
  | nil => rfl
  | @cons entry field declared own first _ ih =>
      rw [mergeOwn, List.map_cons, firstRepeated?, first, Success.bind_ok, ih]
      split <;> rfl

theorem exists_defined_of_mergeOwn {entity : String} {seen : List String}
    {attributes result : List Attribute} {declared : List (String × Declaration)}
    (merged : mergeOwn entity seen attributes declared = .ok result) : ∃ own,
      List.Forall₂ (fun entry field => entry.2.define entry.1 = .ok field) declared own := by
  induction declared generalizing seen attributes with
  | nil => exact ⟨[], .nil⟩
  | cons entry rest ih =>
      rw [mergeOwn] at merged
      split at merged
      next => contradiction
      next =>
        obtain ⟨field, defined, later⟩ := Success.bind_eq_ok.mp merged
        obtain ⟨own, others⟩ := ih later
        exact ⟨field :: own, .cons defined others⟩

theorem refuseRepeated_eq_ok_iff {entity : String} {names : List String} :
    refuseRepeated entity names = .ok () ↔ names.Nodup := by
  have none_iff : firstRepeated? [] names = none ↔ names.Nodup := by
    simp [firstRepeated?_eq_none_iff]
  rw [← none_iff, refuseRepeated]
  split
  next repeated => simp [repeated]
  next fresh => simp [fresh]

theorem exists_refused (entity : String) {names : List String} (repeated : ¬names.Nodup) :
    ∃ name, refuseRepeated entity names = .error (.duplicateAttribute entity name) := by
  have refused : refuseRepeated entity names ≠ .ok () := mt refuseRepeated_eq_ok_iff.mp repeated
  rw [refuseRepeated] at refused ⊢
  split at refused
  next name _ => exact ⟨name, rfl⟩
  next => exact absurd rfl refused

/-! ## Building -/

/-- The type that a declaration builds when it merges these attributes. -/
def shape (declaration : TypeDeclaration) (identity : Nat) (attributes : List Attribute) :
    EntityType where
  identity := identity
  name := declaration.name
  parents := declaration.parents
  attributes := attributes
  catchAll := declaration.catchAll.or (declaration.parents.findSome? EntityType.catchAll)
  envelope := declaration.envelope.or (declaration.parents.findSome? EntityType.envelope)

variable {declaration : TypeDeclaration} {identity : Nat} {sequence attributes : List Attribute}

/-- Beside its catch-all, a declaration of valid parts is refused for nothing but repeated names. -/
theorem build_eq (named : Naming.check declaration.name = .ok ())
    (gathers : declaration.Gathers sequence) (merged : MergedFrom sequence attributes) :
    declaration.build identity = (do
      refuseRepeated declaration.name (declaration.declared.map Prod.fst)
      refuseRepeated declaration.name (openAliases attributes)
      checkCatchAll (declaration.shape identity attributes)
      return declaration.shape identity attributes) := by
  obtain ⟨own, defined, rfl⟩ := gathers
  obtain rfl := merged.unique (mergedFrom_foldl _)
  rw [build, named, Success.bind_ok, mergeOwn_eq defined, refuseRepeated]
  cases firstRepeated? [] (declaration.declared.map Prod.fst) with
  | some name => rfl
  | none =>
      rw [List.foldl_append]
      simp only [Success.bind_ok, checkAliases_eq]
      rfl

theorem exists_gathers (built : ∃ type, declaration.build identity = .ok type) :
    Naming.check declaration.name = .ok () ∧ ∃ sequence, declaration.Gathers sequence := by
  obtain ⟨type, built⟩ := built
  unfold build at built
  obtain ⟨named, built⟩ := Success.check_bind_eq_ok.mp built
  obtain ⟨attributes, merged, _⟩ := Success.bind_eq_ok.mp built
  obtain ⟨own, defined⟩ := exists_defined_of_mergeOwn merged
  exact ⟨named, _, own, defined, rfl⟩

theorem nodup_of_mergedFrom (merged : MergedFrom sequence attributes) :
    (attributes.map Attribute.name).Nodup := by
  rw [merged.unique (mergedFrom_foldl sequence)]
  exact nodup_foldl_merge sequence

theorem not_repeats_iff : ¬declaration.Repeats attributes ↔
    (declaration.declared.map Prod.fst).Nodup ∧ (openAliases attributes).Nodup := by
  rw [Repeats, nodup_openAliases_iff]
  simp only [not_or, not_not, not_exists, not_and, Nat.not_lt]

theorem checkCatchAll_shape_iff (merged : MergedFrom sequence attributes)
    (once : (openAliases attributes).Nodup) :
    checkCatchAll (declaration.shape identity attributes) = .ok () ↔
      declaration.CatchesIn attributes := by
  have looked {name : String} {slot : Nat} :
      (declaration.shape identity attributes).slot? name = some slot ↔
        Leads attributes name slot :=
    EntityType.slot?_eq_some_iff_leads (nodup_of_mergedFrom merged) once
  rw [checkCatchAll_eq_ok_iff]
  simp only [looked]
  rfl

theorem build_eq_ok_iff_of_gathers (named : Naming.check declaration.name = .ok ())
    (gathers : declaration.Gathers sequence) (merged : MergedFrom sequence attributes)
    {type : EntityType} : declaration.build identity = .ok type ↔
      ¬declaration.Repeats attributes ∧ declaration.CatchesIn attributes ∧
        type = declaration.shape identity attributes := by
  rw [build_eq named gathers merged, Success.check_bind_eq_ok, Success.check_bind_eq_ok,
    Success.check_bind_eq_ok, refuseRepeated_eq_ok_iff, refuseRepeated_eq_ok_iff, not_repeats_iff,
    and_assoc]
  refine and_congr_right fun _ => and_congr_right fun once => ?_
  rw [checkCatchAll_shape_iff merged once, Success.pure_eq_ok, Except.ok.injEq,
    @eq_comm _ type]

/-- This is what a type is built of. -/
theorem exists_parts_of_build {type : EntityType} (built : declaration.build identity = .ok type) :
    ∃ sequence, declaration.Gathers sequence ∧ MergedFrom sequence type.attributes ∧
      ¬declaration.Repeats type.attributes ∧
      type = declaration.shape identity type.attributes := by
  obtain ⟨named, sequence, gathers⟩ := exists_gathers ⟨type, built⟩
  have merged := mergedFrom_foldl sequence
  obtain ⟨fresh, _, rfl⟩ := (build_eq_ok_iff_of_gathers named gathers merged).mp built
  exact ⟨sequence, gathers, merged, fresh, rfl⟩

/-- A declaration of valid parts is refused exactly where a name is repeated. -/
theorem exists_refused_iff (named : Naming.check declaration.name = .ok ())
    (gathers : declaration.Gathers sequence) (merged : MergedFrom sequence attributes)
    (caught : declaration.CatchesIn attributes) :
    (∃ entity name, declaration.build identity = .error (.duplicateAttribute entity name)) ↔
      declaration.Repeats attributes := by
  constructor
  · rintro ⟨entity, name, refused⟩
    by_contra fresh
    have built : declaration.build identity = .ok (declaration.shape identity attributes) :=
      (build_eq_ok_iff_of_gathers named gathers merged).mpr ⟨fresh, caught, rfl⟩
    exact nomatch built.symm.trans refused
  · intro repeated
    rw [build_eq named gathers merged]
    by_cases distinct : (declaration.declared.map Prod.fst).Nodup
    · have twice : ¬(openAliases attributes).Nodup := fun once =>
        not_repeats_iff.mpr ⟨distinct, once⟩ repeated
      obtain ⟨name, refused⟩ := exists_refused declaration.name twice
      rw [refuseRepeated_eq_ok_iff.mpr distinct, refused]
      exact ⟨declaration.name, name, rfl⟩
    · obtain ⟨name, refused⟩ := exists_refused declaration.name distinct
      rw [refused]
      exact ⟨declaration.name, name, rfl⟩

/--
A type has the fields of its parents and its own, each where its name first occurs and as it is
declared last. Every name leads to one of them at most, and it is looked up there. A declaration
whose names, attributes and catch-all are valid is refused exactly where an own field is declared
twice or an alias that no field hides is given twice.
-/
theorem build_resolves_names (declaration : TypeDeclaration) (identity : Nat) :
    (∀ type, declaration.build identity = .ok type → ∃ sequence, declaration.Gathers sequence ∧
      type.fieldNames.Nodup ∧ MergedFrom sequence type.attributes ∧
      ∀ name slot, (type.slot? name = some slot ↔ Leads type.attributes name slot) ∧
        (Leads type.attributes name slot → slot < type.attributes.length ∧
          ∀ other, Leads type.attributes name other → other = slot)) ∧
    ∀ sequence attributes, Naming.check declaration.name = .ok () →
      declaration.Gathers sequence → MergedFrom sequence attributes →
      declaration.CatchesIn attributes →
      ((∃ entity name, declaration.build identity = .error (.duplicateAttribute entity name)) ↔
        declaration.Repeats attributes) ∧
      ((∃ type, declaration.build identity = .ok type) ↔ ¬declaration.Repeats attributes) := by
  constructor
  · intro type built
    obtain ⟨sequence, gathers, merged, fresh, _⟩ := exists_parts_of_build built
    have distinct := nodup_of_mergedFrom merged
    have once := (not_repeats_iff.mp fresh).2
    refine ⟨sequence, gathers, distinct, merged, fun name slot => ⟨?_, fun leads => ⟨?_, ?_⟩⟩⟩
    · exact EntityType.slot?_eq_some_iff_leads distinct once
    · exact leads.inRange
    · exact fun other also => also.unique distinct once leads
  · intro sequence attributes named gathers merged caught
    refine ⟨exists_refused_iff named gathers merged caught, ?_⟩
    simp [build_eq_ok_iff_of_gathers named gathers merged, caught]

end TypeDeclaration

/-! ## Blades of a chassis -/

namespace Catalogue

def chassis : EntityType :=
  (TypeDeclaration.build firstFreeIdentity {
    name := "chassis"
    declared := [("name", { type := .text, aliases := ["label"] }),
      ("unit", { type := .integer })] }).value rfl

/-- Undeclared names become tags. -/
def tagged : EntityType :=
  (TypeDeclaration.build (firstFreeIdentity + 1) {
    name := "tagged"
    declared := [("unit", { type := .text }), ("tags", { type := .dict })]
    catchAll := some ⟨"tags", .nested⟩
    envelope := some "device" }).value rfl

/-- The unit is declared anew, and the label hides an alias of the name. -/
def blade (aliases : List String) : TypeDeclaration where
  name := "blade"
  parents := [chassis, tagged]
  declared := [("unit", { type := .text, aliases := ["slot"] }),
    ("label", { type := .text, aliases := aliases })]

/-- One alias leads to the unit of a blade, and it cannot lead to its label as well. -/
theorem blade_resolved :
    (∃ type, (blade []).build (firstFreeIdentity + 2) = .ok type ∧
      type.slot? "label" = some 3 ∧ type.slot? "slot" = some 1) ∧
    ∃ entity name, (blade ["slot"]).build (firstFreeIdentity + 2) =
      .error (.duplicateAttribute entity name) := by
  constructor
  · obtain ⟨type, built⟩ : ∃ type, (blade []).build (firstFreeIdentity + 2) = .ok type := ⟨_, rfl⟩
    obtain ⟨_, _, _, _, names⟩ :=
      (TypeDeclaration.build_resolves_names (blade []) (firstFreeIdentity + 2)).1 type built
    refine ⟨type, built, (names "label" 3).1.mpr ?_, (names "slot" 1).1.mpr ?_⟩
    all_goals obtain rfl := Except.ok.inj built
    · exact .inl rfl
    · exact .inr ⟨by decide, _, rfl, by decide⟩
  · have gathers : (blade ["slot"]).Gathers _ := ⟨[_, _], .cons rfl (.cons rfl .nil), rfl⟩
    refine ((TypeDeclaration.build_resolves_names (blade ["slot"]) (firstFreeIdentity + 2)).2 _ _
      rfl gathers (TypeDeclaration.mergedFrom_foldl _) ?_).1.mpr (.inr ⟨"slot", ?_, ?_⟩)
    · rintro catchAll inherited
      obtain rfl := Option.some.inj inherited
      exact ⟨2, _, .inl rfl, rfl, rfl⟩
    · decide
    · decide

end Catalogue

end NetworkAutomation
