/-
The invariant of the naming. The state keeps the names three times over: by
relation, in the order they were given, and as the names in use. `Consistent`
says that the three agree and that no name is given twice. Naming one
relation keeps it (`Consistent.christen`), because the new name is none of
those in use; hence it holds in every session, for every separator.

Where a numbered name meets the name or label of another relation, whichever
comes second is given another number: uniqueness needs the names in use
alone, and nothing about how they came to be.
-/
import QueryText.Proofs.Naming.Fresh
import QueryText.Proofs.Naming.Session

namespace QueryText.Naming

/-- The collections of the state agree, and no two relations share a name. -/
structure Consistent (n : Naming) : Prop where
  nodup_order : n.order.Nodup
  mem_order : ∀ r, r ∈ n.order ↔ (n.nameOf? r).isSome
  mem_taken : ∀ name, name ∈ n.taken ↔ ∃ r, n.nameOf? r = some name
  injective : ∀ r s name, n.nameOf? r = some name → n.nameOf? s = some name → r = s

variable {n : Naming} {r : Relation}

-- ======================================================= at the start

/-- Without names there is nothing to disagree about. -/
theorem consistent_empty (options : NamingOptions) : (empty options).Consistent where
  nodup_order := List.nodup_nil
  mem_order _ := by simp [empty, nameOf?]
  mem_taken _ := by simp [empty, nameOf?]
  injective _ _ _ h := by simp at h

-- =========================================================== one step

/-- The names by relation, after a new one was given. -/
theorem nameOf?_christen_eq_some (h : n.nameOf? r = none) {s : Relation} {name : String} :
    (n.christen r).nameOf? s = some name
      ↔ (s = r ∧ name = n.nextName r.baseName) ∨ n.nameOf? s = some name := by
  by_cases hs : s = r
  · subst hs
    rw [nameOf?_christen_self h, h]
    simp [eq_comm]
  · rw [nameOf?_christen_of_ne hs]
    simp [hs]

/-- The order, after a new name was given. -/
theorem order_christen (h : n.nameOf? r = none) : (n.christen r).order = n.order ++ [r] := by
  rw [christen_of_unnamed h]

/-- The names in use, after a new one was given. -/
theorem mem_taken_christen (h : n.nameOf? r = none) {name : String} :
    name ∈ (n.christen r).taken ↔ name = n.nextName r.baseName ∨ name ∈ n.taken := by
  rw [christen_of_unnamed h]
  exact List.mem_insert_iff

/-- A new name is no other relation's. -/
theorem Consistent.nameOf?_ne_nextName (hn : n.Consistent) (s : Relation) (base : String) :
    n.nameOf? s ≠ some (n.nextName base) := fun hs =>
  nextName_not_mem n base ((hn.mem_taken _).mpr ⟨s, hs⟩)

/-- Naming one relation keeps the collections in step. -/
theorem Consistent.christen (hn : n.Consistent) (r : Relation) : (n.christen r).Consistent := by
  cases h : n.nameOf? r with
  | some name => rwa [christen_of_named h]
  | none =>
      have hr : r ∉ n.order := by
        rw [hn.mem_order, h]
        simp
      refine ⟨?nodup, fun s => ?order, fun name => ?taken, fun s t name hs ht => ?injective⟩
      case nodup =>
        rw [order_christen h]
        exact hn.nodup_order.append (List.nodup_singleton r) (by simpa using hr)
      case order =>
        rw [order_christen h, List.mem_append, List.mem_singleton, hn.mem_order]
        by_cases hs : s = r
        · subst hs
          simp [nameOf?_christen_self h]
        · simp [nameOf?_christen_of_ne hs, hs]
      case taken =>
        rw [mem_taken_christen h, hn.mem_taken]
        simp only [nameOf?_christen_eq_some h]
        constructor
        · rintro (hname | ⟨s, hs⟩)
          · exact ⟨r, .inl ⟨rfl, hname⟩⟩
          · exact ⟨s, .inr hs⟩
        · rintro ⟨s, ⟨-, hname⟩ | hs⟩
          · exact .inl hname
          · exact .inr ⟨s, hs⟩
      case injective =>
        rw [nameOf?_christen_eq_some h] at hs ht
        rcases hs with ⟨rfl, rfl⟩ | hs
        · rcases ht with ⟨rfl, -⟩ | ht
          · rfl
          · exact absurd ht (hn.nameOf?_ne_nextName t s.baseName)
        · rcases ht with ⟨rfl, rfl⟩ | ht
          · exact absurd hs (hn.nameOf?_ne_nextName s t.baseName)
          · exact hn.injective s t name hs ht

-- ======================================================= whole sessions

/-- The collections are in step in every session. -/
theorem Reachable.consistent (h : n.Reachable) : n.Consistent :=
  h.invariant consistent_empty fun _ r hn => hn.christen r

/-- In every session, whatever its separator: the collections are in step
and no two relations share a name; a name that is given stays; and a request
for relations that all have names changes nothing. -/
theorem names_in_step (h : n.Reachable) :
    n.Consistent
      ∧ (∀ (cs : List Christening) (r : Relation) (name : String),
          n.nameOf? r = some name → (n.performAll cs).nameOf? r = some name)
      ∧ (∀ c : Christening, n.Covers c.relations → n.perform c = n) :=
  ⟨h.consistent, fun cs _ _ hname => nameOf?_performAll hname cs, fun _ => perform_of_covers⟩

/-- Without a separator the second `t` would be `t2`; as that is a table's
own name, it is `t3`. -/
theorem names_in_step_clash :
    ∃ n : Naming, n.Reachable
      ∧ n.given = [(⟨"t", none, 0⟩, "t"), (⟨"t2", none, 0⟩, "t2"), (⟨"t", none, 1⟩, "t3")]
      ∧ n.Consistent
      ∧ ∀ cs, (n.performAll cs).nameOf? ⟨"t", none, 1⟩ = some "t3" := by
  have hn : (((empty ⟨""⟩).perform (.relation ⟨"t", none, 0⟩)).perform
      (.node (.array [.table ⟨"t2", none, 0⟩, .table ⟨"t", none, 1⟩]))).Reachable :=
    .perform _ (.perform _ (.empty _))
  obtain ⟨hconsistent, hstable, -⟩ := names_in_step hn
  exact ⟨_, hn, by decide +kernel, hconsistent, fun cs => hstable cs _ _ (by decide +kernel)⟩

end QueryText.Naming
