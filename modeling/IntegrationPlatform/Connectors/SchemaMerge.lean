import IntegrationPlatform.Connectors.Schemas
import IntegrationPlatform.Json.Fields
import IntegrationPlatform.Stores.Snapshots

/-!
# Merging schemas

`_normalize_fields` gives a field every attribute that its entry leaves out, before `_merge_fields` lets the
fields of the service replace those of the manifest. `merges_iff` says when no attribute is lost by that.
-/

namespace IntegrationPlatform

namespace Schemas

open Connectors Snapshots

/-! ## What the documents give -/

/-- The attributes of a field. -/
inductive Attribute where
  | label
  | type
  | required
  | description

/-- The key of an attribute in a document. -/
def Attribute.key : Attribute → String
  | .label => "label"
  | .type => "type"
  | .required => "required"
  | .description => "description"

/-- An attribute of a normalized field. -/
def Field.attribute (field : Field) : Attribute → Value
  | .label => .str field.label
  | .type => .str field.type
  | .required => .bool field.required
  | .description => field.description

/-- What an attribute is if the entry of a field leaves it out. -/
def Attribute.default (str : Value → String) (name : String) : Attribute → Value
  | .label => .str name
  | .type => .str (str (.str "string"))
  | .required => .bool false
  | .description => .null

/-- The entry of a field gives an attribute. -/
def mentions (attr : Attribute) : Value → Bool
  | .dict fields => Assoc.has fields attr.key
  | _ => false

section Documents

variable (str : Value → String)

/-- The entries of a document that stand for fields, each with its field. -/
def entries (items : List Value) : List (Value × Field) :=
  items.filterMap fun item => (normalizeField str item).map fun field => (item, field)

/-- The names of the fields of a document. -/
def names (items : List Value) : List String :=
  (entries str items).map fun entry => entry.2.field

/-- The last entry of a field. -/
def lastEntry (items : List Value) (name : String) : Option (Value × Field) :=
  latest (fun entry => entry.2.field) (entries str items) name

/-- What the last entry of a field that gives an attribute says of it. -/
def lastGiven (items : List Value) (name : String) (attr : Attribute) : Option Value :=
  (latest (fun entry => entry.2.field)
    ((entries str items).filter fun entry => mentions attr entry.1) name).map
      fun entry => entry.2.attribute attr

/-- What an attribute of a field is to be, if a document says so: the service comes before the manifest. -/
def intended (static dynamic : List Value) (name : String) (attr : Attribute) : Option Value :=
  (lastGiven str dynamic name attr).or
    ((lastEntry str static name).map fun entry => entry.2.attribute attr)

/-- The fields of both documents are merged: each name is there once, an attribute that the service gives
wins, and the others are those of the manifest. -/
structure Merges (static dynamic : List Value) (merged : List Field) : Prop where
  nodup : (merged.map Field.field).Nodup
  names_iff : ∀ name, name ∈ merged.map Field.field ↔ name ∈ names str static ∨ name ∈ names str dynamic
  wins : ∀ field ∈ merged, ∀ attr value,
    lastGiven str dynamic field.field attr = some value → field.attribute attr = value
  keeps : ∀ field ∈ merged, ∀ attr, lastGiven str dynamic field.field attr = none →
    ∀ entry, lastEntry str static field.field = some entry →
      field.attribute attr = entry.2.attribute attr

/-- Where the last entry of the service for a field leaves out an attribute, the attribute is to be what it
is by default. -/
def DefaultsAgree (static dynamic : List Value) : Prop :=
  ∀ name entry, lastEntry str dynamic name = some entry → ∀ attr,
    mentions attr entry.1 = false →
      ∀ value, intended str static dynamic name attr = some value → value = attr.default str name

/-- The items of a document, if there is a list of them. -/
def documentItems (document : Value) : List Value :=
  (iterate document).toOption.getD []

/-- The entries of the manifest for an action. -/
def staticItems (fields : Dict) (action : String) : List Value :=
  documentItems ((fields.find action).getD (.list []))

/-- The entries that the service reports. -/
def reportedItems (key : String) : Option Dict → List Value
  | none => []
  | some [] => []
  | some payload => documentItems ((Assoc.find payload key).getD (.list []))

end Documents

variable {str : Value → String}

/-! ## Entries -/

variable {attr : Attribute}

theorem attribute_default {item : Value} {field : Field} (h : normalizeField str item = some field)
    (hnot : mentions attr item = false) :
    field.attribute attr = attr.default str field.field := by
  cases item with
  | dict fields =>
      have hnone : Assoc.find fields attr.key = none := by
        simpa [mentions, Assoc.has] using hnot
      rw [normalizeField] at h
      split at h
      · obtain rfl := Option.some.inj h
        cases attr with
        | label =>
            rw [Attribute.key] at hnone
            simp [Field.attribute, Attribute.default, hnone, Value.truthy]
        | type =>
            rw [Attribute.key] at hnone
            simp [Field.attribute, Attribute.default, hnone]
        | required =>
            rw [Attribute.key] at hnone
            simp [Field.attribute, Attribute.default, hnone, Value.truthy]
        | description =>
            rw [Attribute.key] at hnone
            simp [Field.attribute, Attribute.default, hnone]
      · cases h
  | _ => cases h

theorem map_entries (items : List Value) :
    (entries str items).map Prod.snd = items.filterMap (normalizeField str) := by
  unfold entries
  rw [List.map_filterMap]
  refine List.filterMap_congr fun item _ => ?_
  cases normalizeField str item <;> rfl

variable {items : List Value} {entry : Value × Field}

theorem normalizeField_of_mem
    (h : entry ∈ entries str items) : normalizeField str entry.1 = some entry.2 := by
  obtain ⟨item, -, hitem⟩ := List.mem_filterMap.mp h
  obtain ⟨field, hfield, rfl⟩ := Option.map_eq_some_iff.mp hitem
  exact hfield

theorem latest_fields (items : List Value) (name : String) :
    latest Field.field (items.filterMap (normalizeField str)) name =
      (lastEntry str items name).map Prod.snd := by
  unfold lastEntry latest
  rw [← map_entries, ← List.map_reverse, List.find?_map]
  rfl

theorem latest_filter {α κ : Type} [DecidableEq κ] {key : α → κ} {items : List α} {wanted : κ}
    {found : α} (keeps : α → Bool) (h : latest key items wanted = some found) (hkeeps : keeps found = true) :
    latest key (items.filter keeps) wanted = some found := by
  induction items using List.reverseRecOn with
  | nil => cases h
  | append_singleton items last ih =>
      rw [latest_append] at h
      rw [List.filter_append]
      by_cases hkey : key last = wanted
      · rw [if_pos hkey] at h
        obtain rfl := Option.some.inj h
        rw [List.filter_cons_of_pos hkeeps, List.filter_nil, latest_append, if_pos hkey]
      · rw [if_neg hkey] at h
        cases hlast : keeps last with
        | true => rw [List.filter_cons_of_pos hlast, List.filter_nil, latest_append, if_neg hkey, ih h]
        | false =>
            rw [List.filter_cons_of_neg (by simp [hlast]), List.filter_nil, List.append_nil, ih h]

/-! ## Merging -/

theorem find_merged (static dynamic : List Field) (name : String) :
    (putFields (putFields [] static) dynamic).find name =
      (latest Field.field dynamic name).or (latest Field.field static name) := by
  unfold putFields
  rw [Assoc.find_foldl_put Field.field (fun field => field),
    Assoc.find_foldl_put Field.field (fun field => field)]
  simp [Assoc.find]

theorem nodup_putFields {merged : Assoc Field} (h : (merged.map Prod.fst).Nodup) (fields : List Field) :
    ((putFields merged fields).map Prod.fst).Nodup := by
  unfold putFields
  induction fields generalizing merged with
  | nil => exact h
  | cons field rest ih => exact ih (Assoc.nodup_put h field.field field)

theorem nodup_merged (static dynamic : List Field) :
    ((putFields (putFields [] static) dynamic).map Prod.fst).Nodup :=
  nodup_putFields (@nodup_putFields [] List.nodup_nil static) dynamic

theorem mem_merged {static dynamic : List Field} {entry : String × Field}
    (h : entry ∈ putFields (putFields [] static) dynamic) :
    (latest Field.field dynamic entry.1).or (latest Field.field static entry.1) = some entry.2 ∧
      entry.2.field = entry.1 := by
  have hfound := Assoc.find_of_mem (nodup_merged static dynamic) h
  rw [find_merged] at hfound
  refine ⟨hfound, ?_⟩
  rcases Option.or_eq_some_iff.mp hfound with hdynamic | ⟨-, hstatic⟩
  · exact (latest_spec hdynamic).2
  · exact (latest_spec hstatic).2

theorem mem_mergeFields {static dynamic : List Field} {field : Field} :
    field ∈ mergeFields static dynamic ↔
      (latest Field.field dynamic field.field).or (latest Field.field static field.field) =
        some field := by
  constructor
  · intro h
    obtain ⟨entry, hentry, rfl⟩ := List.mem_map.mp h
    obtain ⟨hfound, hname⟩ := mem_merged hentry
    rwa [hname]
  · intro h
    rw [← find_merged] at h
    exact List.mem_map.mpr ⟨_, Assoc.mem_of_find h, rfl⟩

theorem nodup_mergeFields (static dynamic : List Field) :
    ((mergeFields static dynamic).map Field.field).Nodup := by
  have hkeys : (mergeFields static dynamic).map Field.field =
      (putFields (putFields [] static) dynamic).map Prod.fst := by
    unfold mergeFields
    rw [List.map_map]
    exact List.map_congr_left fun entry hentry => (mem_merged hentry).2
  rw [hkeys]
  exact nodup_merged static dynamic

section Documents

variable {static dynamic : List Value}

/-- The fields of two documents, merged. -/
def mergedFields (str : Value → String) (static dynamic : List Value) : List Field :=
  mergeFields (static.filterMap (normalizeField str)) (dynamic.filterMap (normalizeField str))

theorem mem_mergedFields {field : Field} : field ∈ mergedFields str static dynamic ↔
    ((lastEntry str dynamic field.field).or (lastEntry str static field.field)).map Prod.snd =
      some field := by
  rw [mergedFields, mem_mergeFields, latest_fields, latest_fields, Option.map_or]

variable {name : String}

theorem mem_names :
    name ∈ names str items ↔ ∃ entry, lastEntry str items name = some entry := by
  constructor
  · intro h
    obtain ⟨entry, hentry, rfl⟩ := List.mem_map.mp h
    exact exists_latest (fun entry : Value × Field => entry.2.field) hentry
  · rintro ⟨entry, hentry⟩
    obtain ⟨hmem, hname⟩ := latest_spec hentry
    exact List.mem_map.mpr ⟨entry, hmem, hname⟩

theorem mem_merged_names : name ∈ (mergedFields str static dynamic).map Field.field ↔
    name ∈ names str static ∨ name ∈ names str dynamic := by
  rw [mem_names, mem_names, List.mem_map]
  constructor
  · rintro ⟨field, hfield, rfl⟩
    obtain ⟨entry, hentry, -⟩ := Option.map_eq_some_iff.mp (mem_mergedFields.mp hfield)
    rcases Option.or_eq_some_iff.mp hentry with hdynamic | ⟨-, hstatic⟩
    · exact .inr ⟨entry, hdynamic⟩
    · exact .inl ⟨entry, hstatic⟩
  · intro h
    have hentry : ∃ entry, (lastEntry str dynamic name).or (lastEntry str static name) = some entry := by
      cases hdynamic : lastEntry str dynamic name with
      | some entry => exact ⟨entry, Option.some_or⟩
      | none =>
          obtain ⟨entry, hstatic⟩ := h.resolve_right (by simp [hdynamic])
          exact ⟨entry, by rw [hstatic, Option.none_or]⟩
    obtain ⟨entry, hentry⟩ := hentry
    have hname : entry.2.field = name := by
      rcases Option.or_eq_some_iff.mp hentry with hdynamic | ⟨-, hstatic⟩
      · exact (latest_spec hdynamic).2
      · exact (latest_spec hstatic).2
    refine ⟨entry.2, mem_mergedFields.mpr ?_, hname⟩
    rw [hname, hentry, Option.map_some]

theorem lastGiven_of_mentions (hentry : lastEntry str items name = some entry)
    (hmentions : mentions attr entry.1 = true) :
    lastGiven str items name attr = some (entry.2.attribute attr) := by
  unfold lastGiven
  rw [latest_filter (fun entry : Value × Field => mentions attr entry.1) hentry hmentions, Option.map_some]

theorem exists_entry_of_given {value : Value} (h : lastGiven str items name attr = some value) :
    ∃ entry, lastEntry str items name = some entry := by
  obtain ⟨entry, hentry, -⟩ := Option.map_eq_some_iff.mp h
  obtain ⟨hmem, hname⟩ := latest_spec hentry
  rw [← hname]
  exact exists_latest (fun entry : Value × Field => entry.2.field) (List.mem_filter.mp hmem).1

theorem lastEntry_default (hentry : lastEntry str items name = some entry)
    (hnot : mentions attr entry.1 = false) : entry.2.attribute attr = attr.default str name := by
  obtain ⟨hmem, hname⟩ := latest_spec hentry
  rw [← hname]
  exact attribute_default (normalizeField_of_mem hmem) hnot

/-- The documents are merged if and only if the attributes that the service leaves out are to be what they
are by default. -/
theorem merges_documents_iff (str : Value → String) (static dynamic : List Value) :
    Merges str static dynamic (mergedFields str static dynamic) ↔ DefaultsAgree str static dynamic := by
  constructor
  · intro h name entry hentry attr hnot value hvalue
    have hname : entry.2.field = name := (latest_spec hentry).2
    have hmem : entry.2 ∈ mergedFields str static dynamic := by
      rw [mem_mergedFields, hname, hentry, Option.some_or, Option.map_some]
    rw [← lastEntry_default hentry hnot]
    rw [← hname] at hvalue
    rcases Option.or_eq_some_iff.mp hvalue with hgiven | ⟨hnone, hstatic⟩
    · exact (h.wins _ hmem attr value hgiven).symm
    · obtain ⟨old, hold, rfl⟩ := Option.map_eq_some_iff.mp hstatic
      exact (h.keeps _ hmem attr hnone old hold).symm
  · intro h
    refine ⟨nodup_mergeFields _ _, fun name => mem_merged_names, ?_, ?_⟩
    · intro field hfield attr value hgiven
      obtain ⟨entry, hentry⟩ := exists_entry_of_given hgiven
      rw [mem_mergedFields, hentry, Option.some_or, Option.map_some] at hfield
      rw [← Option.some.inj hfield]
      cases hmentions : mentions attr entry.1 with
      | true => exact Option.some.inj ((lastGiven_of_mentions hentry hmentions).symm.trans hgiven)
      | false =>
          rw [lastEntry_default hentry hmentions]
          exact (h _ entry hentry attr hmentions value (by rw [intended, hgiven, Option.some_or])).symm
    · intro field hfield attr hnone old hold
      rw [mem_mergedFields] at hfield
      cases hentry : lastEntry str dynamic field.field with
      | none =>
          rw [hentry, Option.none_or, hold, Option.map_some] at hfield
          rw [Option.some.inj hfield]
      | some entry =>
          rw [hentry, Option.some_or, Option.map_some] at hfield
          rw [← Option.some.inj hfield]
          cases hmentions : mentions attr entry.1 with
          | true =>
              rw [lastGiven_of_mentions hentry hmentions] at hnone
              cases hnone
          | false =>
              rw [lastEntry_default hentry hmentions]
              refine (h _ entry hentry attr hmentions _ ?_).symm
              rw [intended, hnone, Option.none_or, hold, Option.map_some]

end Documents

/-! ## Payloads -/

theorem normalizeFields_eq {document : Value} {fields : List Field}
    (h : normalizeFields str document = .ok fields) :
    fields = (documentItems document).filterMap (normalizeField str) := by
  unfold normalizeFields at h
  cases hitems : iterate document with
  | error message =>
      rw [hitems] at h
      cases h
  | ok items =>
      rw [hitems] at h
      rw [documentItems, hitems]
      exact (Except.ok.inj h).symm

theorem dynamicFields_eq {key : String} {fetched : Option Dict} {fields : List Field}
    (h : dynamicFields str key fetched = .ok fields) :
    fields = (reportedItems key fetched).filterMap (normalizeField str) := by
  cases fetched with
  | none => exact (Except.ok.inj h).symm
  | some payload =>
      cases payload with
      | nil => exact (Except.ok.inj h).symm
      | cons field rest => exact normalizeFields_eq h

theorem buildFields_eq {manifest : ConnectorManifest} {action : String} {fetched : Option Dict}
    {schema : SchemaFields} (h : buildFields str manifest action fetched = .ok schema) :
    schema.inputFields = mergedFields str (staticItems manifest.actionFields action)
        (reportedItems "input_fields" fetched) ∧
      schema.outputFields = mergedFields str (staticItems manifest.outputFields action)
        (reportedItems "output_fields" fetched) := by
  obtain ⟨staticInput, hstaticInput, h⟩ := bind_eq_ok.mp h
  obtain ⟨staticOutput, hstaticOutput, h⟩ := bind_eq_ok.mp h
  obtain ⟨dynamicInput, hdynamicInput, h⟩ := bind_eq_ok.mp h
  obtain ⟨dynamicOutput, hdynamicOutput, h⟩ := bind_eq_ok.mp h
  obtain rfl := Except.ok.inj h
  obtain rfl := normalizeFields_eq hstaticInput
  obtain rfl := normalizeFields_eq hstaticOutput
  obtain rfl := dynamicFields_eq hdynamicInput
  obtain rfl := dynamicFields_eq hdynamicOutput
  exact ⟨rfl, rfl⟩

/-- **The fields of an action are merged if and only if the service leaves out no attribute** that is to be
anything but its default. -/
theorem merges_iff (str : Value → String) (manifest : ConnectorManifest) (action : String)
    (fetched : Option Dict) (schema : SchemaFields)
    (h : buildFields str manifest action fetched = .ok schema) :
    (Merges str (staticItems manifest.actionFields action) (reportedItems "input_fields" fetched)
        schema.inputFields ∧
      Merges str (staticItems manifest.outputFields action) (reportedItems "output_fields" fetched)
        schema.outputFields) ↔
    (DefaultsAgree str (staticItems manifest.actionFields action)
        (reportedItems "input_fields" fetched) ∧
      DefaultsAgree str (staticItems manifest.outputFields action)
        (reportedItems "output_fields" fetched)) := by
  obtain ⟨hinput, houtput⟩ := buildFields_eq h
  rw [hinput, houtput, merges_documents_iff, merges_documents_iff]

/-! ## The rates of a courier -/

/-- A connector with one field for the rates of an action. -/
def ratesManifest : ConnectorManifest where
  name := "inpost"
  category := "courier"
  version := "3.0.0"
  actionFields := [("rates.get", .list [.dict [("field", .str "weight"), ("label", .str "Weight"),
    ("type", .str "number"), ("required", .bool true)]])]

/-- A service that reports this field. -/
def reportedSchema (field : Dict) : Option Dict :=
  some [("input_fields", .list [.dict field])]

/-- `str` of a text. -/
def textOf : Value → String
  | .str text => text
  | _ => ""

/-- A service that gives every attribute but the description. -/
theorem full_entry_merges :
    Merges textOf (staticItems ratesManifest.actionFields "rates.get")
        (reportedItems "input_fields" (reportedSchema [("field", .str "weight"),
          ("label", .str "Weight in kg"), ("type", .str "number"), ("required", .bool true)]))
        [⟨"weight", "Weight in kg", "number", true, .null⟩] ∧
      Merges textOf (staticItems ratesManifest.outputFields "rates.get")
        (reportedItems "output_fields" (reportedSchema [("field", .str "weight"),
          ("label", .str "Weight in kg"), ("type", .str "number"), ("required", .bool true)])) [] := by
  refine (merges_iff textOf ratesManifest "rates.get" _ ⟨"merged",
    [⟨"weight", "Weight in kg", "number", true, .null⟩], []⟩ rfl).mpr ⟨?_, ?_⟩
  · intro name entry hentry attr hnot value hvalue
    obtain ⟨hmem, rfl⟩ := latest_spec hentry
    obtain rfl := List.mem_singleton.mp hmem
    cases attr with
    | label | type | required => cases hnot
    | description => exact (Option.some.inj hvalue).symm
  · intro name entry hentry
    cases hentry

/-- A service that gives only the type makes the field optional and loses its label. -/
theorem required_lost :
    ∃ schema, buildFields textOf ratesManifest "rates.get"
        (reportedSchema [("field", .str "weight"), ("type", .str "integer")]) = .ok schema ∧
      ¬ Merges textOf (staticItems ratesManifest.actionFields "rates.get")
        (reportedItems "input_fields" (reportedSchema [("field", .str "weight"), ("type", .str "integer")]))
        schema.inputFields := by
  refine ⟨⟨"merged", [⟨"weight", "weight", "integer", false, .null⟩], []⟩, rfl, fun h => ?_⟩
  have hrequired := h.keeps _ (List.mem_singleton_self _) .required rfl _ rfl
  cases hrequired

end Schemas

end IntegrationPlatform
