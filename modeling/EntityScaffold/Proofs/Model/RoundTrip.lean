import EntityScaffold.Proofs.Generation.Files
import EntityScaffold.Proofs.Json.Compact
import EntityScaffold.Proofs.Model.Written

/-! # Writing a model and reading it

The JSON of a model writes the model, in whatever order the fields are put. The text of any JSON that writes a
model is read as the model, and so is any other text with a document that does.
-/

namespace EntityScaffold

/-! ## Orders of fields -/

/-- An order in which the fields of an object are put. -/
def IsArrangement (arrange : List (String × Json) → List (String × Json)) : Prop :=
  ∀ fields, (fields.map Prod.fst).Nodup → (arrange fields).Perm fields

/-- Sorting the fields by their names. -/
theorem isArrangement_sortEntries : IsArrangement sortEntries := by
  intro fields hnames
  have hperm := Keyed.perm_insertAll Keyed.empty hnames
  rw [Keyed.entries_insertAll] at hperm
  exact hperm

/-- A value of a field as it is put into an object. -/
structure WrittenField.WrittenBy (field : WrittenField) (entry : String × Json) : Prop where
  name : entry.1 = field.name
  value : field.writtenAs entry.2.document
  isNumberFree : entry.2.isNumberFree = true

/-- What is related to a list item by item has something for each item. -/
theorem exists_mem_of_forall₂ {α β : Type} {R : α → β → Prop} {as : List α} {bs : List β}
    (h : List.Forall₂ R as bs) {a : α} (ha : a ∈ as) : ∃ b ∈ bs, R a b := by
  induction h with
  | nil => cases ha
  | @cons _ b _ bs hfirst _ ih =>
    rcases List.mem_cons.1 ha with rfl | ha
    · exact ⟨b, List.mem_cons_self, hfirst⟩
    · obtain ⟨b, hb, hab⟩ := ih ha
      exact ⟨b, List.mem_cons_of_mem _ hb, hab⟩

/-- The entries of an object can be put in any order. -/
theorem EntriesWrite.of_perm {fields : List WrittenField} {entries others : List WrittenEntry}
    (h : EntriesWrite fields entries) (hperm : others.Perm entries) : EntriesWrite fields others where
  each entry hentry := h.each entry (hperm.mem_iff.1 hentry)
  once field hfield := (hperm.pairwise_iff fun hab hb ha => hab ha hb).2 (h.once field hfield)
  missing field hfield := (h.missing field hfield).imp_right fun ⟨entry, hentry, hname⟩ =>
    ⟨entry, hperm.mem_iff.2 hentry, hname⟩

/-- The names of entries that write the fields one by one. -/
theorem map_fst_of_writtenBy {fields : List WrittenField} {entries : List (String × Json)}
    (h : List.Forall₂ WrittenField.WrittenBy fields entries) : entries.map Prod.fst = fields.map (·.name) := by
  induction h with
  | nil => rfl
  | cons hfirst _ ih => rw [List.map_cons, List.map_cons, ih, hfirst.name]

/-- Entries that write the fields one by one are an object that writes the record. -/
theorem entriesWrite_fieldDocuments {fields : List WrittenField} {entries : List (String × Json)}
    (h : List.Forall₂ WrittenField.WrittenBy fields entries) (hnames : (fields.map (·.name)).Nodup) :
    EntriesWrite fields (Json.fieldDocuments entries) := by
  rw [Json.fieldDocuments_eq_map]
  refine ⟨fun entry hentry => ?_, fun field hfield => ?_, fun field hfield => .inr ?_⟩
  · obtain ⟨⟨name, value⟩, hmem, rfl⟩ := List.mem_map.1 hentry
    obtain ⟨field, hfield, hwritten⟩ := exists_mem_of_forall₂ h.flip hmem
    refine ⟨⟨name, rfl⟩, fun other hother hname => ?_, fun hother => ?_⟩
    · have hsame : field = other :=
        List.inj_on_of_nodup_map hnames hfield hother (hwritten.name.symm.trans (Except.ok.inj hname))
      exact hsame ▸ hwritten.value
    · exact absurd (congrArg Except.ok hwritten.name) (hother field hfield)
  · rw [List.pairwise_map]
    have hdistinct : entries.Pairwise fun first second => first.1 ≠ second.1 := by
      rw [← List.pairwise_map, map_fst_of_writtenBy h]
      exact hnames
    refine hdistinct.imp fun hne hfirst hsecond => hne ?_
    exact (Except.ok.inj hfirst).trans (Except.ok.inj hsecond).symm
  · obtain ⟨⟨name, value⟩, hmem, hwritten⟩ := exists_mem_of_forall₂ h hfield
    exact ⟨_, List.mem_map.2 ⟨_, hmem, rfl⟩, congrArg Except.ok hwritten.name⟩

/-- A value without numbers writes a record. -/
structure WritesRecord (fields : List WrittenField) (value : Json) : Prop where
  written : RecordWrites fields value.document
  isNumberFree : value.isNumberFree = true

/-- Entries that write the fields one by one make an object that writes the record, in whatever order they are
put. -/
theorem IsArrangement.writesRecord {arrange : List (String × Json) → List (String × Json)}
    (h : IsArrangement arrange) {fields : List WrittenField} {entries : List (String × Json)}
    (hentries : List.Forall₂ WrittenField.WrittenBy fields entries) (hnames : (fields.map (·.name)).Nodup) :
    WritesRecord fields (.object (arrange entries)) := by
  have hperm := h entries (map_fst_of_writtenBy hentries ▸ hnames)
  refine ⟨.object ((entriesWrite_fieldDocuments hentries hnames).of_perm ?_), ?_⟩
  · rw [Json.fieldDocuments_eq_map, Json.fieldDocuments_eq_map]
    exact hperm.map _
  · rw [Json.isNumberFree, Json.fieldsNumberFree_eq_all, List.all_eq_true]
    intro entry hentry
    obtain ⟨field, -, hwritten⟩ := exists_mem_of_forall₂ hentries.flip (hperm.mem_iff.1 hentry)
    exact hwritten.isNumberFree

/-! ### Kinds of fields -/

namespace WrittenField

variable {name : String}

theorem writtenBy_text (value : String) : (text name value).WrittenBy (name, .string value) := ⟨rfl, rfl, rfl⟩

theorem writtenBy_optionalText (value : Option String) :
    (optionalText name value).WrittenBy (name, .ofString? value) := by
  cases value <;> exact ⟨rfl, rfl, rfl⟩

theorem writtenBy_flag (value : Bool) : (flag name value).WrittenBy (name, .bool value) := ⟨rfl, rfl, rfl⟩

/-- A list is written by the array of its values. -/
theorem writtenBy_list {α : Type} {fields : α → List WrittenField} {write : α → Json}
    (h : ∀ value, WritesRecord (fields value) (write value)) (values : List α) :
    (list name (fun value d => RecordWrites (fields value) d) values).WrittenBy
      (name, .array (values.map write)) where
  name := rfl
  value := by
    refine ⟨_, rfl, ?_⟩
    rw [Json.documents_eq_map, List.map_map, List.forall₂_map_right_iff, List.forall₂_same]
    exact fun value _ => (h value).written
  isNumberFree := by
    rw [Json.isNumberFree, Json.itemsNumberFree_eq_all, List.all_map, List.all_eq_true]
    exact fun value _ => (h value).isNumberFree

end WrittenField

/-- What an entry under a name has to be. -/
theorem entryWrites_iff {fields : List WrittenField} {name : String} {d : Document} :
    EntryWrites fields (.ok name, d) ↔ (∀ field ∈ fields, name = field.name → field.writtenAs d) ∧
      ((∀ field ∈ fields, name ≠ field.name) → d.skip = .ok ()) := by
  refine ⟨fun h => ⟨fun field hfield hname => h.known field hfield (congrArg _ hname), fun hother => h.unknown ?_⟩,
    fun h => ⟨⟨name, rfl⟩, fun field hfield hname => h.1 field hfield (Except.ok.inj hname), fun hother => h.2 ?_⟩⟩
  · exact fun field hfield heq => hother field hfield (Except.ok.inj heq)
  · exact fun field hfield heq => hother field hfield (congrArg _ heq)

/-! ## Models -/

section Arranged

variable (arrange : List (String × Json) → List (String × Json))

/-- The object of a property with its fields put in an order. -/
def Property.arranged (property : Property) : Json := .object <| arrange
  [("name", .string property.name), ("column_name", .ofString? property.columnName),
    ("clr_type", .string property.clrType), ("nullable", .bool property.nullable),
    ("is_key", .bool property.isKey)]

/-- The object of a navigation with its fields put in an order. -/
def Navigation.arranged (navigation : Navigation) : Json := .object <| arrange
  [("name", .string navigation.name), ("target_entity", .string navigation.targetEntity),
    ("is_collection", .bool navigation.isCollection)]

/-- The object of an entity type with its fields put in an order. -/
def EntityType.arranged (entity : EntityType) : Json := .object <| arrange
  [("name", .string entity.name), ("table_name", .ofString? entity.tableName),
    ("schema", .ofString? entity.schema), ("properties", .array (entity.properties.map (·.arranged arrange))),
    ("navigations", .array (entity.navigations.map (·.arranged arrange)))]

/-- The object of a model with its fields put in an order, on every level. -/
def DatabaseModel.arranged (model : DatabaseModel) : Json := .object <| arrange
  [("name", .string model.name), ("entity_types", .array (model.entityTypes.map (·.arranged arrange)))]

end Arranged

/-- The JSON of a model has its fields in ascending order. -/
theorem DatabaseModel.toJson_eq (model : DatabaseModel) : model.toJson = model.arranged sortEntries := rfl

section Written

open WrittenField

variable {arrange : List (String × Json) → List (String × Json)} (h : IsArrangement arrange)

include h

theorem Property.writesRecord (property : Property) :
    WritesRecord property.writtenFields (property.arranged arrange) :=
  h.writesRecord (.cons (writtenBy_text _) (.cons (writtenBy_optionalText _) (.cons (writtenBy_text _)
    (.cons (writtenBy_flag _) (.cons (writtenBy_flag _) .nil))))) (by simp [writtenFields])

theorem Navigation.writesRecord (navigation : Navigation) :
    WritesRecord navigation.writtenFields (navigation.arranged arrange) :=
  h.writesRecord (.cons (writtenBy_text _) (.cons (writtenBy_text _) (.cons (writtenBy_flag _) .nil)))
    (by simp [writtenFields])

theorem EntityType.writesRecord (entity : EntityType) :
    WritesRecord entity.writtenFields (entity.arranged arrange) :=
  h.writesRecord (.cons (writtenBy_text _) (.cons (writtenBy_optionalText _) (.cons (writtenBy_optionalText _)
    (.cons (writtenBy_list (Property.writesRecord h) _)
      (.cons (writtenBy_list (Navigation.writesRecord h) _) .nil))))) (by simp [writtenFields])

theorem DatabaseModel.writesRecord (model : DatabaseModel) :
    WritesRecord model.writtenFields (model.arranged arrange) :=
  h.writesRecord (.cons (writtenBy_text _) (.cons (writtenBy_list (EntityType.writesRecord h) _) .nil))
    (by simp [writtenFields])

end Written

namespace DatabaseModel

/-- A text is read as a model if its document writes the model and nothing follows. -/
theorem parse_of_writtenAs {model : DatabaseModel} {source : String}
    (htrailing : (Json.documentOf source.toList).trailing = false)
    (h : model.WrittenAs (Json.documentOf source.toList).document) : parse source = .ok model := by
  rw [parse]
  simp only [model.decode_eq_ok _ h, JsonText.finish, htrailing]
  rfl

/-- The text of a value without numbers that writes a model is read as the model. -/
theorem parse_compact {model : DatabaseModel} {value : Json} (hnumbers : value.isNumberFree = true)
    (h : model.WrittenAs value.document) : parse value.compact = .ok model := by
  have hdocument := Json.documentOf_compact hnumbers
  refine parse_of_writtenAs ?_ ?_
  · rw [hdocument]
  · rw [hdocument]
    exact h

/-- Reading what was written gives the model back: the JSON of the model, whatever order its fields are put in; any
other JSON that writes the model; and any text whose document does, whatever the values of its unknown fields. -/
theorem parse_written (model : DatabaseModel) :
    parse model.toJson.compact = .ok model ∧
    (∀ arrange, IsArrangement arrange → parse (model.arranged arrange).compact = .ok model) ∧
    (∀ value : Json, value.isNumberFree = true → model.WrittenAs value.document →
      parse value.compact = .ok model) ∧
    ∀ source : String, (Json.documentOf source.toList).trailing = false →
      model.WrittenAs (Json.documentOf source.toList).document → parse source = .ok model := by
  have harranged (arrange : List (String × Json) → List (String × Json)) (h : IsArrangement arrange) :
      parse (model.arranged arrange).compact = .ok model :=
    parse_compact (model.writesRecord h).isNumberFree (model.writesRecord h).written
  have hown : parse model.toJson.compact = .ok model := by
    rw [model.toJson_eq]
    exact harranged sortEntries isArrangement_sortEntries
  exact ⟨hown, harranged, fun _ => parse_compact, fun _ => parse_of_writtenAs⟩

/-- A shop with one entity, which has a key. -/
def shop : DatabaseModel := ⟨"Shop", [⟨"Order", none, some "dbo", [⟨"Id", none, "int", false, true⟩], []⟩]⟩

/-- The shop as an array with an array of its entity, which ends early. The fields of the property are out of
order, and one of them is unknown. -/
def shopDocument (other : Document) : Document := .array
  [.string (.ok "Shop"), .array [.array [.string (.ok "Order"), .null, .string (.ok "dbo"), .array [.object
    [(.ok "note", other), (.ok "is_key", .bool true), (.ok "clr_type", .string (.ok "int")),
      (.ok "name", .string (.ok "Id"))]]]]]

theorem shop_writtenAs {other : Document} (h : other.skip = .ok ()) : shop.WrittenAs (shopDocument other) := by
  have hproperty : Property.WrittenAs ⟨"Id", none, "int", false, true⟩ (.object
      [(.ok "note", other), (.ok "is_key", .bool true), (.ok "clr_type", .string (.ok "int")),
        (.ok "name", .string (.ok "Id"))]) :=
    .object ⟨by simp [entryWrites_iff, Property.writtenFields, h], by simp [Property.writtenFields],
      by simp [Property.writtenFields]⟩
  have hentity : EntityType.WrittenAs ⟨"Order", none, some "dbo", [⟨"Id", none, "int", false, true⟩], []⟩ _ :=
    .array (.item rfl (.item rfl (.item rfl (.item ⟨_, rfl, .cons hproperty .nil⟩ (.done (by simp))))))
  exact .array (.item rfl (.item ⟨_, rfl, .cons hentity .nil⟩ (.done (by simp))))

/-- The shop as a value. -/
def shopValue : Json := .array
  [.string "Shop", .array [.array [.string "Order", .null, .string "dbo", .array [.object
    [("note", .null), ("is_key", .bool true), ("clr_type", .string "int"), ("name", .string "Id")]]]]]

/-- The shop as a text, in which the unknown field has a number. -/
def shopSource : String :=
  "[\"Shop\",[[\"Order\",null,\"dbo\",[\x7b\"note\":1,\"is_key\":true,\"clr_type\":\"int\",\"name\":\"Id\"\x7d]]]]"

theorem documentOf_shopSource : Json.documentOf shopSource.toList =
    ⟨shopDocument (.number (NumberNotation.value? ⟨false, ['1'], none, none⟩)), false⟩ := by
  simp [shopSource, shopDocument, Json.documentOf, Json.documentPart, Json.skipSeparators, Json.isSeparator,
    Json.word, Json.itemParts, Json.itemPart, Json.stringAfterQuote, Json.stringParts, Json.joinParts, Except.map,
    Json.fieldParts, Json.fieldPart, Json.afterColon, Json.numberAfterSign, Json.numberFraction,
    Json.numberExponent]

/-- The shop is read from its JSON backwards, from the value and from the text. -/
theorem parse_written_shop : parse (shop.arranged List.reverse).compact = .ok shop ∧
    parse shopValue.compact = .ok shop ∧ parse shopSource = .ok shop := by
  obtain ⟨-, harranged, hvalue, hsource⟩ := parse_written shop
  have hnull : Document.null.skip = .ok () := rfl
  have hnumber : (Document.number (NumberNotation.value? ⟨false, ['1'], none, none⟩)).skip = .ok () := rfl
  refine ⟨harranged _ fun fields _ => fields.reverse_perm, hvalue _ rfl (shop_writtenAs hnull), hsource _ ?_ ?_⟩
  · rw [documentOf_shopSource]
  · rw [documentOf_shopSource]
    exact shop_writtenAs hnumber

end DatabaseModel

end EntityScaffold
