/-
The documents that hold no node, read back: columns and literals, relations
and the leaves of trees, configurations and diagnostics.

For each kind there are three facts. Its document is exact, so the text of
the document tells it; the document has a fixed depth; and it is read as the
value it was made from, or, where it holds a time that its text does not tell,
as the settled one. Only the first of them leaves out the literals of binary64
numbers, whose text is rounded.
-/
import QueryText.Document.Config
import QueryText.Document.Node
import QueryText.Proofs.Document.Settled
import QueryText.Proofs.Document.Shape

namespace QueryText

open Document

attribute [local simp] List.lookup_cons List.lookup_append List.countP_cons List.countP_append

-- =============================================================== columns

namespace LogicalType

theorem ofSize_exact (size : Option UInt16) : (ofSize size).Exact := by
  cases size with
  | none => exact .null
  | some n => exact exact_natural (Nat.lt_trans n.toNat_lt (by decide))

/-- A size is read back, also when it is written as null. -/
theorem optional_ofSize {fields : Fields} {name : String} (size : Option UInt16)
    (h : fields.lookup name = some (ofSize size)) : optional fields name uint16? = some size := by
  cases size with
  | none => rw [Document.optional, h, ofSize]
  | some n => exact optional_of_lookup (fun n : UInt16 => .whole n.toNat) h uint16?_whole rfl

theorem toJson_exact (t : LogicalType) : t.toJson.Exact := by
  cases t
  all_goals exact AllExact.tagging (by simp [ofSize_exact])

theorem depth_ofSize (size : Option UInt16) : (ofSize size).depth = 0 := by
  cases size <;> rfl

theorem depth_toJson_le (t : LogicalType) : t.toJson.depth ≤ 1 := by
  cases t
  all_goals exact depth_object_le (by simp [Json.depth, depth_ofSize])

theorem ofJson?_toJson (inner : Bool) (t : LogicalType) : ofJson? inner t.toJson = some t := by
  cases t with
  | decimal precision scale =>
    rw [toJson, ofJson?, tagged_tagging (by decide) (by simp [ofSize_exact]) (by simp)]
    simp only [Option.bind_eq_bind, Option.bind_some]
    rw [record_object (by simp), Option.bind_some, optional_ofSize precision (by simp),
      Option.bind_some, optional_ofSize scale (by simp)]
    rfl
  | _ =>
    rw [toJson, ofJson?, tagged_tagging (by decide) Fields.all_nil rfl]
    rfl

end LogicalType

namespace Column

theorem toJson_exact (c : Column) : c.toJson.Exact :=
  AllExact.object (by simp [LogicalType.toJson_exact])

theorem depth_toJson_le (c : Column) : c.toJson.depth ≤ 2 :=
  depth_object_le (by simp [Json.depth, LogicalType.depth_toJson_le])

theorem ofJson?_toJson (inner : Bool) (c : Column) : ofJson? inner c.toJson = some c := by
  have htype := c.logicalType.ofJson?_toJson inner
  rw [toJson, ofJson?, record_object (by simp)]
  simp [required, Json.text?, htype]

end Column

-- ============================================================== literals

namespace Literal

/-- A literal that is no binary64 number. -/
def FloatFree (l : Literal) : Prop :=
  ∀ x, l ≠ .float x

theorem toJson_exact {l : Literal} (h : l.FloatFree) : l.toJson.Exact := by
  cases l with
  | float x => exact absurd rfl (h x)
  | int n => exact AllExact.tagging (by simp [valueJson, exact_integer])
  | _ => exact AllExact.tagging (by simp [valueJson])

theorem depth_toJson_le (l : Literal) : l.toJson.depth ≤ 1 := by
  cases l
  all_goals exact depth_object_le (by simp [Json.depth, valueJson])

/-- The type and the value of a literal are found in its document. -/
theorem ofJson?_tagging (inner : Bool) (type : String) (value : Json) :
    ofJson? inner (tagging "type" type [("value", value)]) = ofParts? type value := by
  simp [tagging, ofJson?, constantName]

theorem ofJson?_toJson (inner : Bool) (l : Literal) :
    ofJson? inner l.toJson = some l.settled := by
  cases l with
  | null => rfl
  | bool b => exact ofJson?_tagging inner "bool" (.bool b)
  | int n =>
    have hint := int64?_whole n
    simp only [toJson, ofJson?_tagging, typeName, valueJson, ofParts?, hint, Option.map_some,
      settled]
  | float x => exact ofJson?_tagging inner "float" (.real x)
  | decimal s => exact ofJson?_tagging inner "decimal" (.text s)
  | string s => exact ofJson?_tagging inner "string" (.text s)
  | date d =>
    simp [toJson, ofJson?_tagging, typeName, valueJson, ofParts?, Json.text?, d.read_write,
      settled]
  | timestamp t =>
    simp [toJson, ofJson?_tagging, typeName, valueJson, ofParts?, Json.text?, t.read_writeExact,
      settled]

end Literal

-- ============================================================ relations

namespace Relation

theorem fields_exact (r : Relation) : AllExact r.fields := by
  have hoccurrence : (Json.whole r.occurrence.toNat).Exact :=
    exact_natural (Nat.lt_trans r.occurrence.toNat_lt (by decide))
  simp [fields, Fields.all_written, hoccurrence]

theorem toJson_exact (r : Relation) : r.toJson.Exact :=
  r.fields_exact.object

theorem depth_toJson_le (r : Relation) : r.toJson.depth ≤ 1 := by
  apply depth_object_le
  by_cases h : r.occurrence = 0
  · simp [fields, Json.depth, Fields.all_written, h]
  · simp [fields, Json.depth, Fields.all_written, h]

theorem ofJson?_toJson (r : Relation) : ofJson? r.toJson = some r := by
  have hrecord : record ["name", "alias", "instance"] r.toJson = some r.fields :=
    record_object (by simp [fields])
  have hname : required r.fields "name" Json.text? = some r.name :=
    required_of_lookup (.text r.name) (by simp [fields]) rfl
  have hlabel : optional r.fields "alias" Json.text? = some r.label :=
    optional_of_lookup .text (by simp [fields]) (fun _ => rfl) rfl
  have hoccurrence : defaulted r.fields "instance" uint32? 0 = some r.occurrence := by
    -- The first occurrence is left out, and what is left out is the first.
    by_cases h : r.occurrence = 0
    · simp [defaulted, fields, h]
    · exact defaulted_of_lookup (.whole r.occurrence.toNat) (by simp [fields, h]) (uint32?_whole _)
  rw [ofJson?, hrecord]
  simp only [Option.bind_eq_bind, Option.bind_some, hname, hlabel, hoccurrence, Option.pure_def]

end Relation

-- =============================================================== leaves

namespace Attribute

theorem fields_exact (a : Attribute) : AllExact a.fields := by
  simp [fields, Relation.toJson_exact, Column.toJson_exact]

theorem ofFields?_fields (a : Attribute) : ofFields? (.object a.fields) = some a := by
  have hrecord : record ["name", "relation", "alias", "column"] (.object a.fields)
      = some a.fields := record_object (by simp [fields])
  have hname : required a.fields "name" Json.text? = some a.name :=
    required_of_lookup (.text a.name) (by simp [fields]) rfl
  have hrelation : required a.fields "relation" Relation.ofJson? = some a.relation :=
    required_of_lookup a.relation.toJson (by simp [fields]) a.relation.ofJson?_toJson
  have hlabel : optional a.fields "alias" Json.text? = some a.label :=
    optional_of_lookup .text (by simp [fields]) (fun _ => rfl) rfl
  have hcolumn : optional a.fields "column" (Column.ofJson? true) = some a.column :=
    optional_of_lookup Column.toJson (by simp [fields]) (Column.ofJson?_toJson true) rfl
  rw [ofFields?, hrecord]
  simp only [Option.bind_eq_bind, Option.bind_some, hname, hrelation, hlabel, hcolumn,
    Option.pure_def]

end Attribute

namespace Scalar

theorem fields_exact {s : Scalar} (h : s.value.FloatFree) : AllExact s.fields := by
  simp [fields, Literal.toJson_exact h, Column.toJson_exact]

theorem ofFields?_fields (s : Scalar) : ofFields? (.object s.fields) = some s.settled := by
  have hrecord : record ["value", "column"] (.object s.fields) = some s.fields :=
    record_object (by simp [fields])
  have hvalue : required s.fields "value" (Literal.ofJson? true) = some s.value.settled :=
    required_of_lookup s.value.toJson (by simp [fields]) (s.value.ofJson?_toJson true)
  have hcolumn : optional s.fields "column" (Column.ofJson? true) = some s.column :=
    optional_of_lookup Column.toJson (by simp [fields]) (Column.ofJson?_toJson true) rfl
  rw [ofFields?, hrecord]
  simp only [Option.bind_eq_bind, Option.bind_some, hvalue, hcolumn, Option.pure_def, settled]

end Scalar

namespace Subselect

theorem fields_exact (s : Subselect) : AllExact s.fields := by
  simp [fields, Relation.toJson_exact]

theorem ofFields?_fields (s : Subselect) : ofFields? (.object s.fields) = some s := by
  have hrecord : record ["sql", "source_table"] (.object s.fields) = some s.fields :=
    record_object (by simp [fields])
  have hsql : required s.fields "sql" Json.text? = some s.sql :=
    required_of_lookup (.text s.sql) (by simp [fields]) rfl
  have hsource : required s.fields "source_table" Relation.ofJson? = some s.source :=
    required_of_lookup s.source.toJson (by simp [fields]) s.source.ofJson?_toJson
  rw [ofFields?, hrecord]
  simp only [Option.bind_eq_bind, Option.bind_some, hsql, hsource, Option.pure_def]

end Subselect

-- ======================================================== configurations

theorem Dialect.ofJson?_name (d : Dialect) : ofJson? (.text d.name) = some d := by
  cases d <;> rfl

theorem BooleanStyle.ofJson?_name (s : BooleanStyle) : ofJson? (.text s.name) = some s := by
  cases s <;> rfl

namespace QuotingOptions

theorem toJson_exact (o : QuotingOptions) : o.toJson.Exact :=
  AllExact.object (by simp)

theorem depth_toJson_le (o : QuotingOptions) : o.toJson.depth ≤ 1 :=
  depth_object_le (by simp [Json.depth])

theorem ofJson?_toJson (o : QuotingOptions) : ofJson? o.toJson = some o := by
  rw [toJson, ofJson?, record_object (by simp)]
  simp only [Option.bind_eq_bind, Option.bind_some]
  rw [optional_of_lookup (a := o.booleanStyle) (fun s : BooleanStyle => .text s.name) (by simp)
      BooleanStyle.ofJson?_name rfl,
    Option.bind_some,
    optional_of_lookup (a := o.backslashEscapes) .bool (by simp) (fun _ => rfl) rfl]
  rfl

end QuotingOptions

namespace NamingOptions

theorem toJson_exact (o : NamingOptions) : o.toJson.Exact :=
  AllExact.object (by simp)

theorem depth_toJson_le (o : NamingOptions) : o.toJson.depth ≤ 1 :=
  depth_object_le (by simp [Json.depth])

theorem ofJson?_toJson (o : NamingOptions) : ofJson? o.toJson = some o := by
  rw [toJson, ofJson?, record_object (by simp)]
  simp [defaulted, Json.text?]

end NamingOptions

namespace Config

theorem toJson_exact (c : Config) : c.toJson.Exact :=
  AllExact.object (by simp [QuotingOptions.toJson_exact, NamingOptions.toJson_exact])

theorem depth_toJson_le (c : Config) : c.toJson.depth ≤ 2 :=
  depth_object_le (by simp [Json.depth, QuotingOptions.depth_toJson_le,
    NamingOptions.depth_toJson_le])

theorem ofJson?_toJson (c : Config) : ofJson? c.toJson = some c := by
  rw [toJson, ofJson?, record_object (by simp)]
  simp [defaulted, Dialect.ofJson?_name, QuotingOptions.ofJson?_toJson,
    NamingOptions.ofJson?_toJson]

end Config

-- =========================================================== diagnostics

theorem DiagnosticCode.ofJson?_name (c : DiagnosticCode) : ofJson? (.text c.name) = some c := by
  cases c <;> rfl

theorem Severity.ofJson?_name (s : Severity) : ofJson? (.text s.name) = some s := by
  cases s <;> rfl

namespace Diagnostic

theorem toJson_exact (d : Diagnostic) : d.toJson.Exact :=
  AllExact.object (by simp)

theorem depth_toJson_le (d : Diagnostic) : d.toJson.depth ≤ 1 :=
  depth_object_le (by simp [Json.depth])

theorem ofJson?_toJson (d : Diagnostic) : ofJson? d.toJson = some d := by
  rw [toJson, ofJson?, record_object (by simp)]
  simp only [Option.bind_eq_bind, Option.bind_some]
  rw [optional_of_lookup (a := d.node) .text (by simp) (fun _ => rfl) rfl,
    optional_of_lookup (a := d.context) .text (by simp) (fun _ => rfl) rfl]
  simp [required, DiagnosticCode.ofJson?_name, Severity.ofJson?_name, Json.text?]

end Diagnostic
end QueryText
