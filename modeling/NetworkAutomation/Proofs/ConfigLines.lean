/-
This file proves that the lines of a configuration are read kind by kind, that the last line of each
kind counts, and that the first line without a number is what a refusal names.
-/

import NetworkAutomation.Proofs.ConfigObjects
import NetworkAutomation.Proofs.WordTexts

namespace NetworkAutomation.PortConfig

open NetworkAutomation.Text

/-! ## Lines of one kind -/

def modeWords : String := "switchport mode "

def accessWords : String := "switchport access vlan "

def trunkWords : String := "switchport trunk allowed vlan "

/-- What stands behind the words in the lines that begin with them. -/
def behind (words : String) (lines : List String) : List String :=
  (lines.filter fun line => words.toList.isPrefixOf line.toList).map fun line =>
    String.ofList (line.toList.drop words.toList.length)

/-- The words of an access line are followed by the number of a VLAN. -/
def SpellsVlan (rest : String) (vlan : Int64) : Prop :=
  SpellsInteger (trim rest).toList vlan.toInt

/--
Only the lines of a kind decide on what the kind sets. The numbers of all access lines are read
before the last one of them counts.
-/
inductive Interprets (lines : List String) : Except FormatError PortConfig → Prop where
  | configured {vlans : List Int64}
      (numbers : List.Forall₂ SpellsVlan (behind accessWords lines) vlans) :
      Interprets lines (.ok ⟨(behind modeWords lines).getLast?, vlans.getLast?,
        ((behind trunkWords lines).getLast?).getD ""⟩)
  | invalid {before after : List String} {rest : String}
      (split : behind accessWords lines = before ++ rest :: after)
      (numbers : ∀ earlier ∈ before, ∃ vlan, SpellsVlan earlier vlan)
      (noNumber : ∀ vlan, ¬SpellsVlan rest vlan) :
      Interprets lines (.error (.invalidVlan (accessWords ++ rest)))

/-- The first list of output lines holds these items. -/
def Lists (document : Document) (items : List Document) : Prop :=
  ∃ entries others, document = .mapping entries ∧
    Entries.find? entries "stdout_lines" = some (.list (.list items :: others))

/-- An unknown system comes before all else, and a missing list of lines comes next. -/
inductive Normalizes (system : String) (document : Document) :
    Except FormatError PortConfig → Prop where
  | unsupported (other : system ≠ "fos") :
      Normalizes system document (.error (.unsupportedSystem system))
  | missing (understood : system = "fos") (unlisted : ∀ items, ¬Lists document items) :
      Normalizes system document (.error .missingLines)
  | listed {items : List Document} {outcome : Except FormatError PortConfig}
      (understood : system = "fos") (lists : Lists document items)
      (interprets : Interprets (texts items) outcome) :
      Normalizes system document outcome

/-! ## One line -/

variable {words rest line : String}

theorem behind_concat (words : String) (lines : List String) (line : String) :
    behind words (lines ++ [line]) = behind words lines ++ behind words [line] := by
  simp [behind]

theorem behind_self (words rest : String) : behind words [words ++ rest] = [rest] := by
  simp [behind]

/-- A line that begins with other words is of another kind. -/
theorem behind_other {other : String} (apart : ¬words.toList <+: other.toList)
    (otherApart : ¬other.toList <+: words.toList) (rest : String) :
    behind words [other ++ rest] = [] := by
  have noPrefix : ¬words.toList <+: (other ++ rest).toList := by
    intro begins
    rw [String.toList_append] at begins
    exact (List.prefix_or_prefix_of_prefix begins (List.prefix_append _ _)).elim apart otherApart
  simpa [behind] using noPrefix

theorem eq_append_of_stripLead? {characters : List Char}
    (stripped : stripLead? words.toList line.toList = some characters) :
    line = words ++ String.ofList characters := by
  rw [← String.toList_inj, stripLead?_eq_some_iff.mp stripped, String.toList_append,
    String.toList_ofList]

theorem behind_of_stripLead? (kept : stripLead? words.toList line.toList = none) :
    behind words [line] = [] := by
  have noPrefix : ¬words.toList <+: line.toList := by
    rintro ⟨rest, whole⟩
    exact nomatch kept.symm.trans (stripLead?_eq_some_iff.mpr whole.symm)
  simpa [behind] using noPrefix

def readVlan (rest : String) : Except FormatError Int64 :=
  match readWord? (trim rest) with
  | some vlan => .ok vlan
  | none => .error (.invalidVlan (accessWords ++ rest))

theorem readVlan_eq_ok_iff {vlan : Int64} : readVlan rest = .ok vlan ↔ SpellsVlan rest vlan := by
  rw [SpellsVlan, ← readWord?_eq_some_iff, readVlan]
  cases readWord? (trim rest) <;> simp

theorem readVlan_eq_error_iff {error : FormatError} : readVlan rest = .error error ↔
    (∀ vlan, ¬SpellsVlan rest vlan) ∧ error = .invalidVlan (accessWords ++ rest) := by
  simp only [← readVlan_eq_ok_iff, readVlan]
  cases readWord? (trim rest) <;> simp [eq_comm]

/-- The kind of a line tells what the line sets, and a line of no kind sets nothing. -/
inductive LineRead (config : PortConfig) : String → Except FormatError PortConfig → Prop where
  | mode (rest : String) :
      LineRead config (modeWords ++ rest) (.ok { config with mode := some rest })
  | access (rest : String) : LineRead config (accessWords ++ rest)
      ((readVlan rest).map fun vlan => { config with vlan := some vlan })
  | trunk (rest : String) :
      LineRead config (trunkWords ++ rest) (.ok { config with trunkedVlans := rest })
  | other {line : String} (noMode : behind modeWords [line] = [])
      (noAccess : behind accessWords [line] = []) (noTrunk : behind trunkWords [line] = []) :
      LineRead config line (.ok config)

theorem lineRead (config : PortConfig) (line : String) :
    LineRead config line (readLine config line) := by
  unfold readLine
  dsimp only
  split
  next mode found =>
    have whole : line = modeWords ++ _ := eq_append_of_stripLead? found
    exact whole ▸ .mode (String.ofList mode)
  next noMode =>
    split
    next vlan found =>
      have whole : line = accessWords ++ _ := eq_append_of_stripLead? found
      have read : LineRead config _ _ := .access (String.ofList vlan)
      rw [← whole, readVlan, ← whole, trim, String.toList_ofList] at read
      revert read
      cases readWord? (String.ofList (trimCharacters vlan)) <;> exact id
    next noAccess =>
      split
      next vlans found =>
        have whole : line = trunkWords ++ _ := eq_append_of_stripLead? found
        exact whole ▸ .trunk (String.ofList vlans)
      next noTrunk =>
        exact .other (behind_of_stripLead? noMode) (behind_of_stripLead? noAccess)
          (behind_of_stripLead? noTrunk)

/-! ## All lines -/

/-- Reading line by line comes to reading the lines of each kind by themselves. -/
theorem readLines_eq (lines : List String) :
    readLines lines = (behind accessWords lines).mapM readVlan >>= fun vlans =>
      .ok ⟨(behind modeWords lines).getLast?, vlans.getLast?,
        ((behind trunkWords lines).getLast?).getD ""⟩ := by
  induction lines using List.reverseRecOn with
  | nil => rfl
  | append_singleton lines line ih =>
    rw [readLines, List.foldlM_append, ← readLines, ih, behind_concat, behind_concat, behind_concat,
      List.mapM_append]
    cases (behind accessWords lines).mapM readVlan with
    | error refusal => rfl
    | ok vlans =>
      simp only [Success.bind_ok, List.foldlM_cons, List.foldlM_nil, bind_pure]
      have read := lineRead ⟨(behind modeWords lines).getLast?, vlans.getLast?,
        ((behind trunkWords lines).getLast?).getD ""⟩ line
      generalize readLine _ line = outcome at read ⊢
      cases read with
      | mode rest =>
        rw [behind_self, behind_other (by decide) (by decide), behind_other (by decide) (by decide)]
        simp
      | access rest =>
        rw [behind_self, behind_other (by decide) (by decide), behind_other (by decide) (by decide)]
        cases taken : readVlan rest <;> simp [taken, Except.map]
      | trunk rest =>
        rw [behind_self, behind_other (by decide) (by decide), behind_other (by decide) (by decide)]
        simp
      | other noMode noAccess noTrunk => simp [noMode, noAccess, noTrunk]

theorem readLines_eq_iff {lines : List String} {outcome : Except FormatError PortConfig} :
    readLines lines = outcome ↔ Interprets lines outcome := by
  rw [readLines_eq]
  constructor
  · rintro rfl
    cases taken : (behind accessWords lines).mapM readVlan with
    | ok vlans =>
      refine .configured ((Success.mapM_eq_ok_iff.mp taken).imp fun _ _ read => ?_)
      exact readVlan_eq_ok_iff.mp read
    | error refusal =>
      obtain ⟨before, rest, after, split, earlier, refused⟩ := Success.mapM_eq_error_iff.mp taken
      obtain ⟨noNumber, rfl⟩ := readVlan_eq_error_iff.mp refused
      refine .invalid split (fun other member => ?_) noNumber
      exact (earlier other member).imp fun _ => readVlan_eq_ok_iff.mp
  · rintro (⟨numbers⟩ | @⟨before, after, rest, split, numbers, noNumber⟩)
    · have taken : (behind accessWords lines).mapM readVlan = .ok _ :=
        Success.mapM_eq_ok_iff.mpr (numbers.imp fun _ _ => readVlan_eq_ok_iff.mpr)
      rw [taken, Success.bind_ok]
    · have refused : readVlan rest = .error (.invalidVlan (accessWords ++ rest)) :=
        readVlan_eq_error_iff.mpr ⟨noNumber, rfl⟩
      have taken : (behind accessWords lines).mapM readVlan =
          .error (.invalidVlan (accessWords ++ rest)) := by
        refine Success.mapM_eq_error_iff.mpr ⟨_, _, _, split, fun earlier member => ?_, refused⟩
        exact (numbers earlier member).imp fun _ => readVlan_eq_ok_iff.mpr
      rw [taken, Success.bind_error]

/-! ## The object -/

theorem lines?_eq_some_iff {document : Document} {lines : List String} :
    lines? document = some lines ↔ ∃ items, Lists document items ∧ texts items = lines := by
  constructor
  · intro read
    unfold lines? at read
    split at read
    next entries =>
      split at read
      next items others found =>
        exact ⟨items, ⟨entries, others, rfl, found⟩, Option.some.inj read⟩
      next => exact nomatch read
    next => exact nomatch read
  · rintro ⟨items, ⟨entries, others, rfl, found⟩, rfl⟩
    have found : Mapping.lookup? entries "stdout_lines" = some (.list (.list items :: others)) :=
      found
    rw [lines?, found]

theorem lines?_eq_none_iff {document : Document} :
    lines? document = none ↔ ∀ items, ¬Lists document items := by
  simp [Option.eq_none_iff_forall_ne_some, lines?_eq_some_iff]

theorem Lists.unique {document : Document} {items others : List Document}
    (lists : Lists document items) (also : Lists document others) : items = others := by
  obtain ⟨entries, _, rfl, found⟩ := lists
  obtain ⟨_, _, same, alsoFound⟩ := also
  obtain rfl := Document.mapping.inj same
  rw [found] at alsoFound
  simp only [Option.some.injEq, Document.list.injEq, List.cons.injEq] at alsoFound
  exact alsoFound.1

/-- What an object is normalized to is told by the system and by the lines of the object. -/
theorem normalizes_iff {system : String} {document : Document}
    {outcome : Except FormatError PortConfig} :
    Normalizes system document outcome ↔ outcome =
      if system = understoodSystem then ofObject document
      else .error (.unsupportedSystem system) := by
  constructor
  · rintro (other | ⟨rfl, unlisted⟩ | ⟨rfl, lists, interprets⟩)
    · rw [if_neg (show system ≠ understoodSystem from other)]
    · rw [if_pos (show "fos" = understoodSystem from rfl), ofObject,
        lines?_eq_none_iff.mpr unlisted]
    · rw [if_pos (show "fos" = understoodSystem from rfl), ofObject,
        lines?_eq_some_iff.mpr ⟨_, lists, rfl⟩]
      exact (readLines_eq_iff.mpr interprets).symm
  · rintro rfl
    split
    next understood =>
      unfold ofObject
      split
      next lines listed =>
        obtain ⟨items, lists, rfl⟩ := lines?_eq_some_iff.mp listed
        exact .listed understood lists (readLines_eq_iff.mp rfl)
      next unlisted => exact .missing understood (lines?_eq_none_iff.mp unlisted)
    next other => exact .unsupported other

/--
The output of a query whose object can be read is normalized in one way only, which the order of
lines of different kinds does not change.
-/
theorem format_normalizes {output system : String} {object : List Char} {document : Document}
    (found : lastObject output.toList = .ok object) (read : readObject? object = some document) :
    ∃ outcome, (∀ other, Normalizes system document other ↔ other = outcome) ∧
      format output system = outcome.map (fun config => String.ofList
        (replaceAll object config.toDocument.characters output.toList)) ∧
      ∀ other items otherItems, Lists document items → Lists other otherItems →
        (∀ words ∈ [modeWords, accessWords, trunkWords],
          behind words (texts otherItems) = behind words (texts items)) →
        Normalizes system other outcome := by
  refine ⟨_, fun _ => normalizes_iff, ?_, fun other items otherItems lists otherLists same => ?_⟩
  · unfold format
    rw [found]
    dsimp only
    rw [read]
    dsimp only
    split
    next => cases ofObject document <;> rfl
    next => rfl
  · simp only [List.forall_mem_cons] at same
    have listed := lines?_eq_some_iff.mpr ⟨items, lists, rfl⟩
    have otherListed := lines?_eq_some_iff.mpr ⟨otherItems, otherLists, rfl⟩
    rw [normalizes_iff, ofObject, ofObject, listed, otherListed]
    dsimp only
    rw [readLines_eq, readLines_eq, same.1, same.2.1, same.2.2.1]

/-- The VLAN is given twice, and a number and a line of another kind stand in between. -/
def mixedPort : String :=
  "a \x7b\"stdout_lines\":[[\"switchport access vlan 12\",7,\"switchport mode trunk\"," ++
    "\"switchport access vlan +37\"]]\x7d"

def normalizedPort : String :=
  "a \x7b\"mode\":\"trunk\",\"vlan\":37,\"trunked_vlans\":\"\"\x7d"

theorem mixedPort_normalizes :
    format mixedPort "fos" = .ok normalizedPort ∧ ∃ object document config,
      lastObject mixedPort.toList = .ok object ∧ readObject? object = some document ∧
        Normalizes "fos" document (.ok config) := by
  have formatted : format mixedPort "fos" = .ok normalizedPort := by decide +kernel
  obtain ⟨object, document, _, found, read, _⟩ := format_eq_ok_iff.mp formatted
  obtain ⟨outcome, only, same, _⟩ := format_normalizes found read
  rw [formatted] at same
  cases outcome with
  | error refusal => exact nomatch same
  | ok config => exact ⟨formatted, object, document, config, found, read, (only _).mpr rfl⟩

end NetworkAutomation.PortConfig
