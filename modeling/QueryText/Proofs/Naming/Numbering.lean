/-
Numbers and the names they make. Every name that is given is a candidate of
its relation's base name, with a number that was tried (`Numbered.named`);
and every candidate with a number that was tried is in use
(`Numbered.passed`). So the counts pass over no free name: a base name that
is in no use has not been tried, and the search for it ends at once, with the
base name itself (`Numbered.nextName_eq_base_iff`).

A base name can be in use before any relation has it: as the numbered name of
a relation with another base name. As names that are given stay, and are not
given twice, the first relation of that base name is numbered then
(`base_name_kept_iff_free`).
-/
import QueryText.Proofs.Naming.Invariant

namespace QueryText.Naming

/-- What the counts say about the names. -/
structure Numbered (n : Naming) : Prop where
  named : ∀ r name, n.nameOf? r = some name → ∃ number, 1 ≤ number
    ∧ number ≤ n.countOf r.baseName ∧ name = candidate n.separator r.baseName number
  passed : ∀ base number, 1 ≤ number → number ≤ n.countOf base →
    candidate n.separator base number ∈ n.taken

variable {n : Naming} {r : Relation}

-- ======================================================= at the start

theorem numbered_empty (options : NamingOptions) : (empty options).Numbered where
  named _ _ h := by simp at h
  passed base number hpos hle := by
    have hzero : (empty options).countOf base = 0 := rfl
    omega

-- =========================================================== one step

@[simp]
theorem separator_christen (n : Naming) (r : Relation) :
    (n.christen r).separator = n.separator := by
  unfold christen
  split <;> rfl

theorem countOf_christen_self (h : n.nameOf? r = none) :
    (n.christen r).countOf r.baseName = n.nextNumber r.baseName := by
  rw [christen_of_unnamed h, countOf, Table.lookup_set_self, Option.getD_some]

theorem countOf_christen_of_ne (h : n.nameOf? r = none) {base : String}
    (hne : base ≠ r.baseName) : (n.christen r).countOf base = n.countOf base := by
  rw [christen_of_unnamed h, countOf, Table.lookup_set_of_ne hne, countOf]

theorem countOf_lt_nextNumber (n : Naming) (base : String) :
    n.countOf base < n.nextNumber base :=
  le_firstFree _ _

/-- Counts do not go back. -/
theorem countOf_le_christen (n : Naming) (r : Relation) (base : String) :
    n.countOf base ≤ (n.christen r).countOf base := by
  cases h : n.nameOf? r with
  | some name => exact Nat.le_of_eq (by rw [christen_of_named h])
  | none =>
      by_cases hbase : base = r.baseName
      · rw [hbase, countOf_christen_self h]
        exact Nat.le_of_lt (n.countOf_lt_nextNumber r.baseName)
      · exact Nat.le_of_eq (countOf_christen_of_ne h hbase).symm

/-- Before the next number there is none that is free: each was tried earlier, or is passed over
now. -/
theorem Numbered.mem_taken_of_lt_nextNumber (hn : n.Numbered) {base : String} {number : Nat}
    (hpos : 1 ≤ number) (hlt : number < n.nextNumber base) :
    candidate n.separator base number ∈ n.taken := by
  rcases Nat.lt_or_ge (n.countOf base) number with hnew | hold
  · exact mem_of_lt_firstFree hnew hlt
  · exact hn.passed base number hpos hold

/-- Naming one relation tries numbers up to the new one only. -/
theorem Numbered.christen (hn : n.Numbered) (r : Relation) : (n.christen r).Numbered := by
  cases h : n.nameOf? r with
  | some name => rwa [christen_of_named h]
  | none =>
      refine ⟨fun s name hs => ?named, fun base number hpos hle => ?passed⟩
      case named =>
        rw [separator_christen]
        rcases (nameOf?_christen_eq_some h).mp hs with ⟨rfl, rfl⟩ | hs
        · exact ⟨n.nextNumber s.baseName, n.one_le_nextNumber s.baseName,
            Nat.le_of_eq (countOf_christen_self h).symm, rfl⟩
        · obtain ⟨number, hpos, hle, hname⟩ := hn.named s name hs
          exact ⟨number, hpos, Nat.le_trans hle (n.countOf_le_christen r s.baseName), hname⟩
      case passed =>
        rw [separator_christen, mem_taken_christen h]
        by_cases hbase : base = r.baseName
        · subst hbase
          rw [countOf_christen_self h] at hle
          rcases Nat.eq_or_lt_of_le hle with rfl | hlt
          · exact .inl rfl
          · exact .inr (hn.mem_taken_of_lt_nextNumber hpos hlt)
        · rw [countOf_christen_of_ne h hbase] at hle
          exact .inr (hn.passed base number hpos hle)

-- ======================================================= whole sessions

/-- In every session the counts say which names are in use. -/
theorem Reachable.numbered (h : n.Reachable) : n.Numbered :=
  h.invariant numbered_empty fun _ r hn => hn.christen r

/-- A free base name is the next name of its own. -/
theorem Numbered.nextName_eq_base_iff (hn : n.Numbered) (base : String) :
    n.nextName base = base ↔ base ∉ n.taken := by
  constructor
  · intro h
    rw [← h]
    exact n.nextName_not_mem base
  · intro hfree
    -- a larger number would leave the first candidate, the base name, in use
    have hnumber : n.nextNumber base ≤ 1 := by
      by_contra hlt
      have hfirst := hn.mem_taken_of_lt_nextNumber (Nat.le_refl 1) (Nat.lt_of_not_le hlt)
      exact hfree (by rwa [candidate_of_le_one (Nat.le_refl 1)] at hfirst)
    exact candidate_of_le_one hnumber _ _

/-- The first relation of a session has its base name. -/
theorem nameOf?_christenAll_first (options : NamingOptions) (r : Relation) (rest : List Relation) :
    ((empty options).christenAll (r :: rest)).nameOf? r = some r.baseName := by
  have hbase : (empty options).nextName r.baseName = r.baseName :=
    ((numbered_empty options).nextName_eq_base_iff r.baseName).mpr List.not_mem_nil
  have hfirst : ((empty options).christen r).nameOf? r = some r.baseName := by
    rw [nameOf?_christen_self (nameOf?_empty options r), hbase]
  exact nameOf?_christenAll hfirst rest

/-- The name that a new relation gets is its base name, or is numbered. -/
theorem nextName_eq_base_or_numbered (n : Naming) (base : String) :
    n.nextName base = base
      ∨ ∃ number, 2 ≤ number ∧ n.nextName base = candidate n.separator base number := by
  rcases Nat.lt_or_ge (n.nextNumber base) 2 with hlt | hge
  · exact .inl (candidate_of_le_one (by omega) _ _)
  · exact .inr ⟨n.nextNumber base, hge, rfl⟩

/-- In every session, whatever its separator, a new relation gets its base
name exactly when no relation is displayed under it. If no relation that has
a name has this base name, then there is one exception only: a relation of
another base name was numbered, and its numbered name is this base name. Then
the new relation is numbered too. -/
theorem base_name_kept_iff_free (h : n.Reachable) (hr : n.nameOf? r = none) :
    ((n.christen r).nameOf? r = some r.baseName ↔ ∀ s, n.nameOf? s ≠ some r.baseName)
      ∧ ((∀ s ∈ n.order, s.baseName ≠ r.baseName) →
          (n.christen r).nameOf? r = some r.baseName
            ∨ (∃ s ∈ n.order, n.nameOf? s = some r.baseName
                ∧ ∃ number, 2 ≤ number ∧ r.baseName = candidate n.separator s.baseName number)
              ∧ ∃ number, 2 ≤ number
                ∧ (n.christen r).nameOf? r = some (candidate n.separator r.baseName number)) := by
  have hkept : (n.christen r).nameOf? r = some r.baseName
      ↔ ∀ s, n.nameOf? s ≠ some r.baseName := by
    rw [nameOf?_christen_self hr, Option.some_inj, h.numbered.nextName_eq_base_iff,
      h.consistent.mem_taken, not_exists]
  refine ⟨hkept, fun hfirst => ?_⟩
  rcases n.nextName_eq_base_or_numbered r.baseName with hbase | ⟨number, hnumber, hname⟩
  · exact .inl (by rw [nameOf?_christen_self hr, hbase])
  · refine .inr ⟨?_, number, hnumber, by rw [nameOf?_christen_self hr, hname]⟩
    have htaken : ¬ ∀ s, n.nameOf? s ≠ some r.baseName := by
      rw [← hkept, nameOf?_christen_self hr, Option.some_inj, hname]
      exact candidate_ne_base hnumber _ _
    obtain ⟨s, hs⟩ := not_forall.mp htaken
    rw [not_not] at hs
    have hmem : s ∈ n.order := (h.consistent.mem_order s).mpr (by simp [hs])
    obtain ⟨k, hpos, -, hbase⟩ := h.numbered.named s r.baseName hs
    refine ⟨s, hmem, hs, k, ?_, hbase⟩
    by_contra hk
    rw [candidate_of_le_one (by omega)] at hbase
    exact hfirst s hmem hbase.symm

/-- Two mentions of `t1`, the second of which is `t12` without a separator. -/
private def numberedTwice : Naming :=
  ((empty ⟨""⟩).perform (.relation ⟨"t1", none, 0⟩)).perform (.relation ⟨"t1", none, 1⟩)

/-- A name in use leaves `t` its base name, but not a table of this name. -/
theorem base_name_kept_iff_free_joined_digits :
    numberedTwice.Reachable
      ∧ numberedTwice.nameOf? ⟨"t", none, 0⟩ = none
      ∧ numberedTwice.nameOf? ⟨"t12", none, 0⟩ = none
      ∧ (numberedTwice.christen ⟨"t", none, 0⟩).nameOf? ⟨"t", none, 0⟩ = some "t"
      ∧ ∃ s ∈ numberedTwice.order, numberedTwice.nameOf? s = some "t12"
        ∧ ∃ number, 2 ≤ number ∧ "t12" = candidate numberedTwice.separator s.baseName number := by
  have hn : numberedTwice.Reachable := .perform _ (.perform _ (.empty _))
  have ht : numberedTwice.nameOf? ⟨"t", none, 0⟩ = none := by decide +kernel
  have ht12 : numberedTwice.nameOf? ⟨"t12", none, 0⟩ = none := by decide +kernel
  obtain ⟨-, hkept⟩ := base_name_kept_iff_free hn ht
  obtain ⟨-, htaken⟩ := base_name_kept_iff_free hn ht12
  refine ⟨hn, ht, ht12, ?kept, ?taken⟩
  case kept =>
    have hfree : ∀ s ∈ numberedTwice.order, numberedTwice.nameOf? s ≠ some "t" := by
      decide +kernel
    refine (hkept (by decide +kernel)).resolve_right ?_
    rintro ⟨⟨s, hs, hname, -⟩, -⟩
    exact hfree s hs hname
  case taken =>
    exact ((htaken (by decide +kernel)).resolve_left (by decide +kernel)).1

/-- A base name can be given away before any relation has it: the second
`users` is displayed as `users_2`, so the table of that name is not. -/
theorem numbered_name_takes_base_name :
    ∃ n : Naming, n.Reachable
      ∧ n.given = [(⟨"users", none, 0⟩, "users"), (⟨"users", none, 1⟩, "users_2")]
      ∧ n.nameOf? ⟨"users_2", none, 0⟩ = none
      ∧ (∀ s ∈ n.order, s.baseName ≠ (⟨"users_2", none, 0⟩ : Relation).baseName)
      ∧ (n.christen ⟨"users_2", none, 0⟩).nameOf? ⟨"users_2", none, 0⟩ = some "users_2_2" :=
  ⟨((empty {}).perform (.relation ⟨"users", none, 0⟩)).perform (.relation ⟨"users", none, 1⟩),
    .perform _ (.perform _ (.empty _)), by decide +kernel, by decide +kernel, by decide +kernel,
    by decide +kernel⟩

end QueryText.Naming
