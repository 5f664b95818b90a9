import EntityScaffold.Model.Notation
import EntityScaffold.Proofs.Generation.Members
import Mathlib.Tactic.Simps.Basic

/-! # Documents that write a model

A record can be written in many ways: as an object with its fields in any order, among them unknown ones
with whatever value, without those that are absent, empty or false; or as an array of its fields in their
order. Which documents write a value is said field by field and does not mention how documents are read.
Whatever document writes a value, reading it gives the value back.
-/

namespace EntityScaffold

/-! ## Fields -/

/-- An entry of an object as it is written. -/
abbrev WrittenEntry := Except Fault String × Document

/-- A field as a value of a record has it. -/
structure WrittenField where
  name : String
  /-- The documents that write what the field holds. -/
  writtenAs : Document → Prop
  /-- Whether the field may be missing in an object. -/
  mayMiss : Prop
  /-- Whether the field may be missing at the end of an array. -/
  mayEnd : Prop

namespace WrittenField

/-- A text, which is never missing. -/
@[simps]
def text (name value : String) : WrittenField :=
  ⟨name, fun d => d = .string (.ok value), False, False⟩

/-- A text or null, which may be missing in an object where it is null. -/
@[simps]
def optionalText (name : String) (value : Option String) : WrittenField :=
  ⟨name, fun d => d = value.elim .null fun text => .string (.ok text), value = none, False⟩

/-- A flag, which may be missing where it is not set. -/
@[simps]
def flag (name : String) (value : Bool) : WrittenField :=
  ⟨name, fun d => d = .bool value, value = false, value = false⟩

/-- An array of values, which may be missing where it is empty. -/
@[simps]
def list {α : Type} (name : String) (writtenAs : α → Document → Prop) (values : List α) : WrittenField :=
  ⟨name, fun d => ∃ items, d = .array items ∧ List.Forall₂ writtenAs values items, values = [], values = []⟩

end WrittenField

/-! ## Records -/

/-- An entry of an object writes a field, or is none of them and is well written. -/
structure EntryWrites (fields : List WrittenField) (entry : WrittenEntry) : Prop where
  named : ∃ name, entry.1 = .ok name
  known : ∀ field ∈ fields, entry.1 = .ok field.name → field.writtenAs entry.2
  unknown : (∀ field ∈ fields, entry.1 ≠ .ok field.name) → entry.2.skip = .ok ()

/-- The entries of an object write the fields of a record. -/
structure EntriesWrite (fields : List WrittenField) (entries : List WrittenEntry) : Prop where
  each : ∀ entry ∈ entries, EntryWrites fields entry
  /-- No field is there twice. -/
  once : ∀ field ∈ fields,
    entries.Pairwise fun first second => first.1 = .ok field.name → second.1 ≠ .ok field.name
  /-- A field that is not there may be missing. -/
  missing : ∀ field ∈ fields, field.mayMiss ∨ ∃ entry ∈ entries, entry.1 = .ok field.name

/-- The items of an array write the fields of a record in their order. -/
inductive ItemsWrite : List WrittenField → List Document → Prop
  | done {fields : List WrittenField} (hmissing : ∀ field ∈ fields, field.mayEnd) : ItemsWrite fields []
  | item {field : WrittenField} {fields : List WrittenField} {d : Document} {items : List Document}
      (hfirst : field.writtenAs d) (hrest : ItemsWrite fields items) : ItemsWrite (field :: fields) (d :: items)

/-- A document writes a record with the given fields. -/
inductive RecordWrites (fields : List WrittenField) : Document → Prop
  | object {entries : List WrittenEntry} (hwritten : EntriesWrite fields entries) :
      RecordWrites fields (.object entries)
  | array {items : List Document} (hwritten : ItemsWrite fields items) : RecordWrites fields (.array items)

/-! ### The records of a model -/

/-- What the fields of a property hold. -/
def Property.writtenFields (property : Property) : List WrittenField :=
  [.text "name" property.name, .optionalText "column_name" property.columnName,
    .text "clr_type" property.clrType, .flag "nullable" property.nullable, .flag "is_key" property.isKey]

/-- A document writes a property. -/
def Property.WrittenAs (property : Property) (d : Document) : Prop := RecordWrites property.writtenFields d

/-- What the fields of a navigation hold. -/
def Navigation.writtenFields (navigation : Navigation) : List WrittenField :=
  [.text "name" navigation.name, .text "target_entity" navigation.targetEntity,
    .flag "is_collection" navigation.isCollection]

/-- A document writes a navigation. -/
def Navigation.WrittenAs (navigation : Navigation) (d : Document) : Prop :=
  RecordWrites navigation.writtenFields d

/-- What the fields of an entity type hold. -/
def EntityType.writtenFields (entity : EntityType) : List WrittenField :=
  [.text "name" entity.name, .optionalText "table_name" entity.tableName, .optionalText "schema" entity.schema,
    .list "properties" Property.WrittenAs entity.properties,
    .list "navigations" Navigation.WrittenAs entity.navigations]

/-- A document writes an entity type. -/
def EntityType.WrittenAs (entity : EntityType) (d : Document) : Prop := RecordWrites entity.writtenFields d

/-- What the fields of a model hold. -/
def DatabaseModel.writtenFields (model : DatabaseModel) : List WrittenField :=
  [.text "name" model.name, .list "entity_types" EntityType.WrittenAs model.entityTypes]

/-- A document writes a model. -/
def DatabaseModel.WrittenAs (model : DatabaseModel) (d : Document) : Prop := RecordWrites model.writtenFields d

/-! ## Reading what is written -/

namespace Decoder

variable {δ α : Type} {draft : List String → δ} {rules : List (FieldRule δ)} {fields : List WrittenField}
  {complete : δ → Except ModelFault α} {value : α}

/-- A rule reads a field of a value into its drafts. There is a draft for each list of fields that have been
read. -/
structure Reads (draft : List String → δ) (rule : FieldRule δ) (field : WrittenField) : Prop where
  name : rule.name = field.name
  isSet : ∀ seen, rule.isSet (draft seen) = decide (field.name ∈ seen)
  read : ∀ seen d, field.writtenAs d → rule.read (draft seen) d = .ok (draft (field.name :: seen))
  optional : field.mayEnd → rule.optional = true

/-- The rules of a record read the fields of a value, and the value is made from every draft that lacks only
what may be missing. -/
structure ReadsRecord (draft : List String → δ) (rules : List (FieldRule δ)) (fields : List WrittenField)
    (complete : δ → Except ModelFault α) (value : α) : Prop where
  rules : List.Forall₂ (Reads draft) rules fields
  ends : ∀ field ∈ fields, field.mayEnd → field.mayMiss
  complete : ∀ seen, (∀ field ∈ fields, field.mayMiss ∨ field.name ∈ seen) → complete (draft seen) = .ok value

/-- The rule that is found under a name reads a field of the name. -/
theorem exists_field_of_find? (h : List.Forall₂ (Reads draft) rules fields) {name : String} {rule : FieldRule δ}
    (hfind : rules.find? (·.name == name) = some rule) :
    ∃ field ∈ fields, field.name = name ∧ Reads draft rule field := by
  induction h with
  | nil => cases hfind
  | @cons other field rules fields hreads _ ih =>
    rw [List.find?_cons] at hfind
    cases hname : other.name == name with
    | true =>
      rw [hname] at hfind
      cases hfind
      exact ⟨field, List.mem_cons_self, hreads.name ▸ eq_of_beq hname, hreads⟩
    | false =>
      rw [hname] at hfind
      obtain ⟨found, hmem, hfound⟩ := ih hfind
      exact ⟨found, List.mem_cons_of_mem _ hmem, hfound⟩

/-- A name without a rule is the name of no field. -/
theorem name_ne_of_find? (h : List.Forall₂ (Reads draft) rules fields) {name : String}
    (hfind : rules.find? (·.name == name) = none) : ∀ field ∈ fields, field.name ≠ name := by
  induction h with
  | nil => exact fun _ hmem => nomatch hmem
  | @cons other field rules fields hreads _ ih =>
    rw [List.find?_cons] at hfind
    cases hname : other.name == name with
    | true =>
      rw [hname] at hfind
      cases hfind
    | false =>
      rw [hname] at hfind
      rintro found (_ | ⟨_, hmem⟩)
      · rw [← hreads.name]
        exact ne_of_beq_false hname
      · exact ih hfind found hmem

/-- The entries of an object are read one after another. What has been read afterwards are the fields from before
and those that the entries have. -/
theorem readFields_of_writes (h : List.Forall₂ (Reads draft) rules fields) (seen : List String)
    {entries : List WrittenEntry} (heach : ∀ entry ∈ entries, EntryWrites fields entry)
    (honce : ∀ field ∈ fields,
      entries.Pairwise fun first second => first.1 = .ok field.name → second.1 ≠ .ok field.name)
    (hfresh : ∀ field ∈ fields, field.name ∈ seen → ∀ entry ∈ entries, entry.1 ≠ .ok field.name) :
    ∃ read, readFields rules (draft seen) entries = .ok (draft read) ∧ seen ⊆ read ∧
      ∀ field ∈ fields, ∀ entry ∈ entries, entry.1 = .ok field.name → field.name ∈ read := by
  induction entries generalizing seen with
  | nil => exact ⟨seen, rfl, fun _ hmem => hmem, fun _ _ _ hmem => nomatch hmem⟩
  | cons entry entries ih =>
    obtain ⟨⟨name, hname⟩, hknown, hunknown⟩ := heach entry List.mem_cons_self
    obtain ⟨key, d⟩ := entry
    subst hname
    have heachRest := fun entry hmem => heach entry (List.mem_cons_of_mem _ hmem)
    have honceRest := fun field hfield => (List.pairwise_cons.1 (honce field hfield)).2
    rw [readFields]
    cases hfind : rules.find? (·.name == name) with
    | none =>
      have hother := name_ne_of_find? h hfind
      have hskip : d.skip = .ok () := hunknown fun field hfield heq => hother field hfield (Except.ok.inj heq).symm
      obtain ⟨read, hread, hseen, hmem⟩ := ih seen heachRest honceRest fun field hfield hin entry hentry =>
        hfresh field hfield hin entry (List.mem_cons_of_mem _ hentry)
      simp only [hskip]
      refine ⟨read, hread, hseen, fun field hfield entry hentry hname => ?_⟩
      rcases List.mem_cons.1 hentry with rfl | hentry
      · exact absurd (Except.ok.inj hname).symm (hother field hfield)
      · exact hmem field hfield entry hentry hname
    | some rule =>
      obtain ⟨field, hfield, rfl, hreads⟩ := exists_field_of_find? h hfind
      have hnew : field.name ∉ seen := fun hin => hfresh field hfield hin _ List.mem_cons_self rfl
      have hset : rule.isSet (draft seen) = false := by
        rw [hreads.isSet, decide_eq_false hnew]
      obtain ⟨read, hread, hseen, hmem⟩ := ih (field.name :: seen) heachRest honceRest
        fun other hother hin entry hentry hname => by
          rcases List.mem_cons.1 hin with heq | hin
          · exact (List.pairwise_cons.1 (honce field hfield)).1 entry hentry rfl (heq ▸ hname)
          · exact hfresh other hother hin entry (List.mem_cons_of_mem _ hentry) hname
      simp only [hset, hreads.read seen d (hknown field hfield rfl), Bool.false_eq_true, if_false]
      refine ⟨read, hread, fun _ hin => hseen (List.mem_cons_of_mem _ hin),
        fun other hother entry hentry hname => ?_⟩
      rcases List.mem_cons.1 hentry with rfl | hentry
      · rw [← Except.ok.inj hname]
        exact hseen List.mem_cons_self
      · exact hmem other hother entry hentry hname

/-- The items of an array are read one after another. The fields that have not been read afterwards are at the
end. -/
theorem readItems_of_writes (h : List.Forall₂ (Reads draft) rules fields) (expected : String)
    {items : List Document} (hitems : ItemsWrite fields items) (seen : List String) (index : Nat) :
    ∃ read, readItems expected (draft seen) index rules items = .ok (draft read) ∧ seen ⊆ read ∧
      ∀ field ∈ fields, field.mayEnd ∨ field.name ∈ read := by
  induction h generalizing items seen index with
  | nil =>
    cases hitems with
    | done => exact ⟨seen, rfl, fun _ hmem => hmem, fun _ hmem => nomatch hmem⟩
  | @cons rule field rules fields hreads _ ih =>
    cases hitems with
    | done hmissing =>
      have hend := hmissing field List.mem_cons_self
      obtain ⟨read, hread, hseen, hmem⟩ :=
        ih (.done fun field hfield => hmissing field (List.mem_cons_of_mem _ hfield)) seen (index + 1)
      refine ⟨read, ?_, hseen, fun other hother => ?_⟩
      · rw [readItems, if_pos (hreads.optional hend), hread]
      · rcases List.mem_cons.1 hother with rfl | hother
        · exact .inl hend
        · exact hmem other hother
    | @item _ _ d items hfirst hrest =>
      obtain ⟨read, hread, hseen, hmem⟩ := ih hrest (field.name :: seen) (index + 1)
      refine ⟨read, ?_, fun _ hin => hseen (List.mem_cons_of_mem _ hin), fun other hother => ?_⟩
      · simp only [readItems, hreads.read seen d hfirst, hread]
      · rcases List.mem_cons.1 hother with rfl | hother
        · exact .inr (hseen List.mem_cons_self)
        · exact hmem other hother

/-- A record is read from every document that writes it. -/
theorem ReadsRecord.record_eq (h : ReadsRecord draft rules fields complete value) (name : String) {d : Document}
    (hd : RecordWrites fields d) : record name rules (draft []) complete d = .ok value := by
  cases hd with
  | object hwritten =>
    obtain ⟨read, hread, -, hmem⟩ := readFields_of_writes h.rules [] hwritten.each hwritten.once
      fun _ _ hin => nomatch hin
    rw [record, hread]
    refine h.complete read fun field hfield => ?_
    rcases hwritten.missing field hfield with hmiss | ⟨entry, hentry, hname⟩
    · exact .inl hmiss
    · exact .inr (hmem field hfield entry hentry hname)
  | array hwritten =>
    obtain ⟨read, hread, -, hmem⟩ := readItems_of_writes h.rules
      ("struct " ++ name ++ " with " ++ toString rules.length ++ " elements") hwritten [] 0
    simp only [record, hread]
    exact h.complete read fun field hfield => (hmem field hfield).imp_left (h.ends field hfield)

/-! ### Drafts -/

/-- What a draft has of a field that holds a value. -/
def ifRead {β : Type} (seen : List String) (name : String) (value : β) : Option β :=
  if name ∈ seen then some value else none

section IfRead

variable {β : Type} {seen : List String} {name : String} {value : β}

@[simp] theorem isSome_ifRead : (ifRead seen name value).isSome = decide (name ∈ seen) := by
  unfold ifRead
  split <;> simp_all

@[simp] theorem ifRead_cons_self : ifRead (name :: seen) name value = some value := if_pos List.mem_cons_self

@[simp] theorem ifRead_cons_of_ne {other : String} (h : name ≠ other) :
    ifRead (other :: seen) name value = ifRead seen name value := by
  simp only [ifRead, List.mem_cons, h, false_or]

/-- A field that must be there has been read. -/
theorem required_ifRead (h : name ∈ seen) : required name (ifRead seen name value) = .ok value := by
  rw [ifRead, if_pos h]
  rfl

/-- A field that has not been read holds its default. -/
theorem getD_ifRead {default : β} (h : value = default ∨ name ∈ seen) :
    (ifRead seen name value).getD default = value := by
  unfold ifRead
  split
  · rfl
  · next hnot => exact (h.resolve_right hnot).symm

end IfRead

/-! ### Rules -/

/-- A rule that decodes a value and puts it into the draft reads each field whose documents decode to the value. -/
theorem reads_of_decodes {β : Type} {decoder : Decoder β} {value : β} {field : WrittenField} {isSet : δ → Bool}
    {set : δ → β → δ} {optional : Bool} (hset : ∀ seen, isSet (draft seen) = decide (field.name ∈ seen))
    (hdecoder : ∀ d, field.writtenAs d → decoder d = .ok value)
    (hdraft : ∀ seen, set (draft seen) value = draft (field.name :: seen))
    (hoptional : field.mayEnd → optional = true) :
    Reads draft ⟨field.name, isSet, fun draft d => do return set draft (← decoder d), optional⟩ field where
  name := rfl
  isSet := hset
  read seen d hd := by
    change (decoder d).bind (fun value => .ok (set (draft seen) value)) = _
    rw [hdecoder d hd, ← hdraft seen]
    rfl
  optional := hoptional

variable {name : String} {d : Document}

theorem text_eq_ok {value : String} (d : Document) (h : (WrittenField.text name value).writtenAs d) :
    text d = .ok value := by
  rw [show d = _ from h]
  rfl

theorem optionalText_eq_ok {value : Option String} (d : Document)
    (h : (WrittenField.optionalText name value).writtenAs d) : optionalText d = .ok value := by
  rw [show d = _ from h]
  cases value <;> rfl

theorem flag_eq_ok {value : Bool} (d : Document) (h : (WrittenField.flag name value).writtenAs d) :
    flag d = .ok value := by
  rw [show d = _ from h]
  rfl

/-- An array of values is read from every document that writes it. -/
theorem list_eq_ok {item : Decoder α} {writtenAs : α → Document → Prop} {values : List α}
    (hitem : ∀ value d, writtenAs value d → item d = .ok value) (d : Document)
    (h : (WrittenField.list name writtenAs values).writtenAs d) : list item d = .ok values := by
  obtain ⟨items, rfl, hitems⟩ := h
  exact mapM_eq_ok.2 (hitems.imp hitem).flip

end Decoder

open Decoder

/-! ## The records of a model -/

namespace Property

/-- The draft of a property in which some fields have been read. -/
def draft (property : Property) (seen : List String) : PropertyDraft where
  name := ifRead seen "name" property.name
  columnName := ifRead seen "column_name" property.columnName
  clrType := ifRead seen "clr_type" property.clrType
  nullable := ifRead seen "nullable" property.nullable
  isKey := ifRead seen "is_key" property.isKey

theorem readsRecord (property : Property) :
    ReadsRecord property.draft PropertyDraft.fields property.writtenFields PropertyDraft.complete property where
  rules := by
    refine .cons ?name (.cons ?columnName (.cons ?clrType (.cons ?nullable (.cons ?isKey .nil))))
    case name | clrType => exact reads_of_decodes (by simp [draft]) text_eq_ok (by simp [draft]) (by simp)
    case columnName => exact reads_of_decodes (by simp [draft]) optionalText_eq_ok (by simp [draft]) (by simp)
    case nullable | isKey => exact reads_of_decodes (by simp [draft]) flag_eq_ok (by simp [draft]) (by simp)
  ends := by simp [writtenFields]
  complete seen h := by
    simp only [writtenFields, List.mem_cons, List.not_mem_nil, or_false, forall_eq_or_imp, forall_eq, false_or,
      WrittenField.text_mayMiss, WrittenField.text_name, WrittenField.optionalText_mayMiss,
      WrittenField.optionalText_name, WrittenField.flag_mayMiss, WrittenField.flag_name] at h
    obtain ⟨hname, hcolumn, htype, hnullable, hkey⟩ := h
    simp only [PropertyDraft.complete, draft, required_ifRead hname, getD_ifRead hcolumn, required_ifRead htype,
      getD_ifRead hnullable, getD_ifRead hkey]
    rfl

/-- A property is read from every document that writes it. -/
theorem decode_eq_ok (property : Property) (d : Document) (h : property.WrittenAs d) : decode d = .ok property :=
  property.readsRecord.record_eq "Property" h

end Property

namespace Navigation

/-- The draft of a navigation in which some fields have been read. -/
def draft (navigation : Navigation) (seen : List String) : NavigationDraft where
  name := ifRead seen "name" navigation.name
  targetEntity := ifRead seen "target_entity" navigation.targetEntity
  isCollection := ifRead seen "is_collection" navigation.isCollection

theorem readsRecord (navigation : Navigation) :
    ReadsRecord navigation.draft NavigationDraft.fields navigation.writtenFields NavigationDraft.complete
      navigation where
  rules := by
    refine .cons ?name (.cons ?targetEntity (.cons ?isCollection .nil))
    case name | targetEntity => exact reads_of_decodes (by simp [draft]) text_eq_ok (by simp [draft]) (by simp)
    case isCollection => exact reads_of_decodes (by simp [draft]) flag_eq_ok (by simp [draft]) (by simp)
  ends := by simp [writtenFields]
  complete seen h := by
    simp only [writtenFields, List.mem_cons, List.not_mem_nil, or_false, forall_eq_or_imp, forall_eq, false_or,
      WrittenField.text_mayMiss, WrittenField.text_name, WrittenField.flag_mayMiss, WrittenField.flag_name] at h
    obtain ⟨hname, htarget, hcollection⟩ := h
    simp only [NavigationDraft.complete, draft, required_ifRead hname, required_ifRead htarget,
      getD_ifRead hcollection]
    rfl

/-- A navigation is read from every document that writes it. -/
theorem decode_eq_ok (navigation : Navigation) (d : Document) (h : navigation.WrittenAs d) :
    decode d = .ok navigation :=
  navigation.readsRecord.record_eq "Navigation" h

end Navigation

namespace EntityType

/-- The draft of an entity type in which some fields have been read. -/
def draft (entity : EntityType) (seen : List String) : EntityDraft where
  name := ifRead seen "name" entity.name
  tableName := ifRead seen "table_name" entity.tableName
  schema := ifRead seen "schema" entity.schema
  properties := ifRead seen "properties" entity.properties
  navigations := ifRead seen "navigations" entity.navigations

theorem readsRecord (entity : EntityType) :
    ReadsRecord entity.draft EntityDraft.fields entity.writtenFields EntityDraft.complete entity where
  rules := by
    refine .cons ?name (.cons ?tableName (.cons ?schema (.cons ?properties (.cons ?navigations .nil))))
    case name => exact reads_of_decodes (by simp [draft]) text_eq_ok (by simp [draft]) (by simp)
    case tableName | schema =>
      exact reads_of_decodes (by simp [draft]) optionalText_eq_ok (by simp [draft]) (by simp)
    case properties =>
      exact reads_of_decodes (by simp [draft]) (list_eq_ok Property.decode_eq_ok) (by simp [draft]) (by simp)
    case navigations =>
      exact reads_of_decodes (by simp [draft]) (list_eq_ok Navigation.decode_eq_ok) (by simp [draft]) (by simp)
  ends := by simp [writtenFields]
  complete seen h := by
    simp only [writtenFields, List.mem_cons, List.not_mem_nil, or_false, forall_eq_or_imp, forall_eq, false_or,
      WrittenField.text_mayMiss, WrittenField.text_name, WrittenField.optionalText_mayMiss,
      WrittenField.optionalText_name, WrittenField.list_mayMiss, WrittenField.list_name] at h
    obtain ⟨hname, htable, hschema, hproperties, hnavigations⟩ := h
    simp only [EntityDraft.complete, draft, required_ifRead hname, getD_ifRead htable, getD_ifRead hschema,
      getD_ifRead hproperties, getD_ifRead hnavigations]
    rfl

/-- An entity type is read from every document that writes it. -/
theorem decode_eq_ok (entity : EntityType) (d : Document) (h : entity.WrittenAs d) : decode d = .ok entity :=
  entity.readsRecord.record_eq "EntityType" h

end EntityType

namespace DatabaseModel

/-- The draft of a model in which some fields have been read. -/
def draft (model : DatabaseModel) (seen : List String) : ModelDraft where
  name := ifRead seen "name" model.name
  entityTypes := ifRead seen "entity_types" model.entityTypes

theorem readsRecord (model : DatabaseModel) :
    ReadsRecord model.draft ModelDraft.fields model.writtenFields ModelDraft.complete model where
  rules := by
    refine .cons ?name (.cons ?entityTypes .nil)
    case name => exact reads_of_decodes (by simp [draft]) text_eq_ok (by simp [draft]) (by simp)
    case entityTypes =>
      exact reads_of_decodes (by simp [draft]) (list_eq_ok EntityType.decode_eq_ok) (by simp [draft]) (by simp)
  ends := by simp [writtenFields]
  complete seen h := by
    simp only [writtenFields, List.mem_cons, List.not_mem_nil, or_false, forall_eq_or_imp, forall_eq, false_or,
      WrittenField.text_mayMiss, WrittenField.text_name, WrittenField.list_mayMiss, WrittenField.list_name] at h
    obtain ⟨hname, hentities⟩ := h
    simp only [ModelDraft.complete, draft, required_ifRead hname, getD_ifRead hentities]
    rfl

/-- A model is read from every document that writes it. -/
theorem decode_eq_ok (model : DatabaseModel) (d : Document) (h : model.WrittenAs d) : decode d = .ok model :=
  model.readsRecord.record_eq "DatabaseModel" h

end DatabaseModel

end EntityScaffold
