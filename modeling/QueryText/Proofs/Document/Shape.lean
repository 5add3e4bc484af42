/-
The shapes of documents, read back.

A record is read through the names of its fields, so what counts is what a
lookup finds among the fields that were written: a field that was written
always is found, one that is written only when it has a value is found then
and only then, and what is not found has the value it is left out for.

A tagged value is looked through before its tag counts. Values that their
text tells exactly are valid throughout, so the tag of one that was written
is always taken off again.
-/
import QueryText.Document.Shape
import QueryText.Proofs.Json.ReadBack

namespace QueryText

-- ======================================================= valid throughout

namespace Json

theorem areValid_of_forall {items : List Json} (h : ∀ j ∈ items, j.isValid = true) :
    areValid items = true := by
  induction items with
  | nil => rfl
  | cons item rest ih =>
    obtain ⟨hitem, hrest⟩ := List.forall_mem_cons.mp h
    rw [areValid, hitem, ih hrest]
    rfl

theorem areValidFields_of_forall {fields : List (String × Json)}
    (h : ∀ f ∈ fields, f.2.isValid = true) : areValidFields fields = true := by
  induction fields with
  | nil => rfl
  | cons field rest ih =>
    obtain ⟨hfield, hrest⟩ := List.forall_mem_cons.mp h
    rw [areValidFields, hfield, ih hrest]
    rfl

/-- What its text tells exactly has a value throughout. -/
theorem Exact.isValid {j : Json} (h : j.Exact) : j.isValid = true := by
  induction h with
  | null => rfl
  | bool b => rfl
  | whole h => rfl
  | text s => rfl
  | list h ih => exact areValid_of_forall ih
  | object h ih => exact areValidFields_of_forall ih

-- =========================================================== the nesting

theorem depth_le_of_mem {items : List Json} {j : Json} (h : j ∈ items) :
    j.depth ≤ depthOfItems items := by
  induction items with
  | nil => exact absurd h List.not_mem_nil
  | cons item rest ih =>
    rw [depthOfItems]
    rcases List.mem_cons.mp h with rfl | hrest
    · exact Nat.le_max_left _ _
    · exact Nat.le_trans (ih hrest) (Nat.le_max_right _ _)

theorem depthOfFields_le {fields : List (String × Json)} {depth : Nat}
    (h : ∀ f ∈ fields, f.2.depth ≤ depth) : depthOfFields fields ≤ depth := by
  induction fields with
  | nil => exact Nat.zero_le depth
  | cons field rest ih =>
    obtain ⟨hfield, hrest⟩ := List.forall_mem_cons.mp h
    exact Nat.max_le.mpr ⟨hfield, ih hrest⟩

theorem depth_le_of_mem_fields {fields : List (String × Json)} {f : String × Json}
    (h : f ∈ fields) : f.2.depth ≤ depthOfFields fields := by
  induction fields with
  | nil => exact absurd h List.not_mem_nil
  | cons field rest ih =>
    rw [depthOfFields]
    rcases List.mem_cons.mp h with rfl | hrest
    · exact Nat.le_max_left _ _
    · exact Nat.le_trans (ih hrest) (Nat.le_max_right _ _)

end Json

namespace Document

variable {α : Type} {fields : Fields} {name : String} {o : Option Json}

-- ============================================================ the fields

@[simp]
theorem mem_written {f : String × Json} : f ∈ written name o ↔ f.1 = name ∧ o = some f.2 := by
  obtain ⟨key, j⟩ := f
  cases o with
  | none => simp [written]
  | some j' => simp [written, eq_comm]

/-- A field that is written only when it has a value is found then. -/
@[simp]
theorem lookup_written (name key : String) (o : Option Json) :
    (written name o).lookup key = if key = name then o else none := by
  cases o with
  | none => simp [written]
  | some j =>
    by_cases h : key = name
    · simp [written, h]
    · simp [written, List.lookup_cons, h, beq_false_of_ne h]

/-- A field that may be left out is there at most once. -/
@[simp]
theorem countP_written_self (name : String) (o : Option Json) :
    (written name o).countP (·.1 == name) ≤ 1 := by
  cases o with
  | none => simp [written]
  | some j => simp [written]

@[simp]
theorem countP_written_of_ne {name key : String} (h : name ≠ key) (o : Option Json) :
    (written name o).countP (·.1 == key) = 0 := by
  cases o with
  | none => simp [written]
  | some j => simp [written, h]

/-- What was written without repeated names is a record. -/
theorem record_object {names : List String}
    (h : ∀ name ∈ names, fields.countP (·.1 == name) ≤ 1) :
    record names (.object fields) = some fields := by
  simpa [record] using h

section reading

variable {read : Json → Option α}

theorem required_of_lookup (j : Json) {a : α} (h : fields.lookup name = some j)
    (hread : read j = some a) : required fields name read = some a := by
  rw [required, h, ← hread]

theorem defaulted_of_lookup (j : Json) {a value : α} (h : fields.lookup name = some j)
    (hread : read j = some a) : defaulted fields name read value = some a := by
  rw [defaulted, h, ← hread]

/-- A field that is left out when there is no value means that there is none. -/
theorem optional_of_lookup (write : α → Json) {a : Option α}
    (h : fields.lookup name = a.map write) (hread : ∀ a, read (write a) = some a)
    (hnull : read .null = none) : optional fields name read = some a := by
  cases a with
  | none => simp [optional, h]
  | some a =>
    rw [optional, h, Option.map_some]
    split
    · next heq => cases heq
    · -- A value that is written as null would be taken for none.
      next heq =>
      have hvalue := hread a
      rw [Option.some.inj heq, hnull] at hvalue
      cases hvalue
    · next j _ heq =>
      rw [← Option.some.inj heq, hread a]
      rfl

/-- A list is read member by member, as the list of what they are read as. -/
theorem listOf_map {write : α → Json} {back : α → α} {items : List α}
    (h : ∀ a ∈ items, read (write a) = some (back a)) :
    listOf read (.list (items.map write)) = some (items.map back) := by
  show (items.map write).mapM read = some (items.map back)
  induction items with
  | nil => rfl
  | cons a rest ih =>
    obtain ⟨ha, hrest⟩ := List.forall_mem_cons.mp h
    rw [List.map_cons, List.mapM_cons, ha, ih hrest]
    rfl

end reading

-- ============================================================ the values

theorem uint16?_whole (n : UInt16) : uint16? (.whole n.toNat) = some n := by
  have hn : n.toNat < twoTo 16 := n.toNat_lt
  simp [uint16?, natural?, hn]

theorem uint32?_whole (n : UInt32) : uint32? (.whole n.toNat) = some n := by
  have hn : n.toNat < twoTo 32 := n.toNat_lt
  simp [uint32?, natural?, hn]

theorem uint64?_whole (n : UInt64) : uint64? (.whole n.toNat) = some n := by
  have hn : n.toNat < twoTo 64 := n.toNat_lt
  simp [uint64?, natural?, hn]

theorem int64?_whole (n : Int64) : int64? (.whole n.toInt) = some n := by
  have hlow : -(twoTo 63 : Int) ≤ n.toInt := n.le_toInt
  have hhigh : n.toInt < (twoTo 63 : Int) := n.toInt_lt
  simp [int64?, hlow, hhigh]

-- ============================================================= all fields

/-- Something is true of the value of each field. -/
def Fields.All (P : Json → Prop) (fields : Fields) : Prop :=
  ∀ f ∈ fields, P f.2

section all

variable {P : Json → Prop}

@[simp]
theorem Fields.all_nil : Fields.All P [] := by
  simp [Fields.All]

@[simp]
theorem Fields.all_cons {j : Json} :
    Fields.All P ((name, j) :: fields) ↔ P j ∧ Fields.All P fields :=
  List.forall_mem_cons

@[simp]
theorem Fields.all_append {others : Fields} :
    Fields.All P (fields ++ others) ↔ Fields.All P fields ∧ Fields.All P others :=
  List.forall_mem_append

theorem Fields.all_written : Fields.All P (written name o) ↔ ∀ j, o = some j → P j := by
  constructor
  · intro h j hj
    exact h (name, j) (mem_written.mpr ⟨rfl, hj⟩)
  · intro h f hf
    exact h f.2 (mem_written.mp hf).2

@[simp]
theorem Fields.all_written_map (write : α → Json) (a : Option α) :
    Fields.All P (written name (a.map write)) ↔ ∀ b, a = some b → P (write b) := by
  simp [Fields.all_written]

end all

/-- An object is deeper than its fields by one. -/
theorem depth_object_le {depth : Nat} (h : Fields.All (·.depth ≤ depth) fields) :
    (Json.object fields).depth ≤ depth + 1 := by
  rw [Json.depth]
  exact Nat.succ_le_succ (Json.depthOfFields_le h)

-- ============================================================= exactness

/-- The values of the fields are all exact. -/
abbrev AllExact (fields : Fields) : Prop :=
  Fields.All Json.Exact fields

theorem AllExact.object (h : AllExact fields) : (Json.object fields).Exact :=
  .object h

theorem AllExact.tagging {tag : String} (h : AllExact fields) :
    (tagging tag name fields).Exact :=
  AllExact.object (Fields.all_cons.mpr ⟨.text name, h⟩)

attribute [simp] Json.Exact.null Json.Exact.bool Json.Exact.text

theorem exact_natural {n : Nat} (h : n < twoTo 64) : (Json.whole n).Exact := by
  apply Json.Exact.whole
  constructor
  · omega
  · exact Int.ofNat_lt.mpr h

theorem exact_integer (n : Int64) : (Json.whole n.toInt).Exact := by
  have hlow : -(twoTo 63 : Int) ≤ n.toInt := n.le_toInt
  have hhigh : n.toInt < (twoTo 63 : Int) := n.toInt_lt
  have hbound : (twoTo 63 : Int) < twoTo 64 := by decide
  exact .whole ⟨hlow, Int.lt_trans hhigh hbound⟩

-- ===================================================== the tagged values

theorem filter_eq_of_lookup {tag : String} (h : fields.lookup tag = none) :
    fields.filter (·.1 == tag) = [] ∧ fields.filter (·.1 != tag) = fields := by
  have hne : ∀ f ∈ fields, f.1 ≠ tag := by
    intro f hf heq
    have hf' := List.lookup_eq_none_iff.mp h f hf
    simp [heq] at hf'
  constructor
  · rw [List.filter_eq_nil_iff]
    intro f hf
    simpa using hne f hf
  · rw [List.filter_eq_self]
    intro f hf
    simpa using hne f hf

/-- A tag is taken off again. -/
theorem tagged_tagging {inner : Bool} {tag : String} {tags : List String} (hname : name ∈ tags)
    (hexact : AllExact fields) (htag : fields.lookup tag = none) :
    tagged inner tag tags (tagging tag name fields) = some (name, .object fields) := by
  obtain ⟨hnone, hall⟩ := filter_eq_of_lookup htag
  have hvalid : (tagging tag name fields).isValid = true := hexact.tagging.isValid
  rw [tagged, hvalid, Bool.or_true, if_pos rfl]
  simp [tagging, splitTag, tagName, hname, hnone, hall]

end Document
end QueryText
