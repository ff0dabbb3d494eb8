/-
This file holds the documents whose keys are distinct at every depth, and the values they stand for.
-/

import NetworkAutomation.Proofs.Entries

namespace NetworkAutomation

/-- No mapping inside the document holds two entries under one key. -/
inductive Document.WellFormed : Document → Prop where
  | null : Document.null.WellFormed
  | boolean (value : Bool) : (Document.boolean value).WellFormed
  | number (value : Number) : (Document.number value).WellFormed
  | text (value : String) : (Document.text value).WellFormed
  | list {items : List Document} (each : ∀ item ∈ items, item.WellFormed) :
      (Document.list items).WellFormed
  | mapping {entries : List (String × Document)} (distinct : (Entries.keys entries).Nodup)
      (each : ∀ entry ∈ entries, entry.2.WellFormed) : (Document.mapping entries).WellFormed

namespace Document.WellFormed

theorem items {items : List Document} (formed : (Document.list items).WellFormed) :
    ∀ item ∈ items, item.WellFormed := by
  cases formed with
  | list each => exact each

theorem keys {entries : Mapping} (formed : (Document.mapping entries).WellFormed) :
    (Entries.keys entries).Nodup := by
  cases formed with
  | mapping distinct _ => exact distinct

theorem entries {entries : Mapping} (formed : (Document.mapping entries).WellFormed) :
    ∀ entry ∈ entries, entry.2.WellFormed := by
  cases formed with
  | mapping _ each => exact each

theorem mapping_iff {entries : Mapping} :
    (Document.mapping entries).WellFormed ↔
      (Entries.keys entries).Nodup ∧ ∀ entry ∈ entries, entry.2.WellFormed :=
  ⟨fun formed => ⟨formed.keys, formed.entries⟩, fun both => mapping both.1 both.2⟩

theorem nil : (Document.mapping []).WellFormed :=
  .mapping List.nodup_nil fun _ member => absurd member List.not_mem_nil

/-- The inserted document is the only new one, and its key the only new key. -/
theorem insert {entries : Mapping} (formed : (Document.mapping entries).WellFormed)
    (key : String) {document : Document} (added : document.WellFormed) :
    (Document.mapping (Mapping.insert entries key document)).WellFormed := by
  rw [Mapping.insert_eq_put]
  refine .mapping (Entries.nodup_keys_put formed.keys key document) fun entry member => ?_
  rcases Entries.mem_put member with rfl | old
  · exact added
  · exact formed.entries entry old

/-- Leaving out entries keeps the remaining keys distinct. -/
theorem filter {entries : Mapping} (formed : (Document.mapping entries).WellFormed)
    (kept : String × Document → Bool) :
    (Document.mapping (entries.filter kept)).WellFormed := by
  refine .mapping (formed.keys.sublist (List.filter_sublist.map _)) fun entry member => ?_
  exact formed.entries entry (List.mem_of_mem_filter member)

end Document.WellFormed

namespace Text

theorem toInt_of_word? {value : Int} {word : Int64} (read : word? value = some word) :
    word.toInt = value := by
  unfold word? at read
  split at read
  next bounds =>
    obtain rfl := Option.some.inj read
    exact Int64.toInt_ofInt_of_le bounds.1 (Int.lt_add_one_of_le bounds.2)
  next => contradiction

theorem word?_toInt (word : Int64) : word? word.toInt = some word := by
  have lower : wordMin ≤ word.toInt := Int64.le_toInt word
  have upper : word.toInt ≤ wordMax := Int.le_of_lt_add_one (Int64.toInt_lt word)
  rw [word?, if_pos ⟨lower, upper⟩, Int64.ofInt_toInt]

end Text

namespace Value

/-- A value that was taken from a document is written as that document. -/
theorem toDocument_ofDocument (document : Document) :
    (Value.ofDocument document).toDocument = document := by
  cases document with
  | number value =>
      cases value with
      | integer value =>
          simp only [Value.ofDocument, Value.ofNumber]
          split
          next word read =>
            simp only [Value.toDocument, Document.word, Document.integer]
            rw [Text.toInt_of_word? read]
          next => rfl
      | float value => rfl
  | _ => rfl

theorem ofDocument_word (value : Int64) :
    Value.ofDocument (Document.word value) = .integer value := by
  simp only [Document.word, Document.integer, Value.ofDocument, Value.ofNumber]
  rw [Text.word?_toInt]

end Value

end NetworkAutomation
