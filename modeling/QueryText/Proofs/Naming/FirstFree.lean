/-
The plain rule of naming, and that the counts keep to it. By the plain rule
a relation gets the first candidate of its base name, from number one on,
that no relation is displayed under (`IsFirstFree`). The naming does not
begin at one but behind the last number it tried for the base name, and it
looks at no earlier number again. Both come to the same number, because a
number that was tried stays in use (`Numbered.isFirstFree_nextNumber`).

The naming searches with a bound. `Search` is the same loop without one; it
ends, in every state and with every separator, and where the bounded search
ends (`search_nextNumber`): the candidates of one base name are pairwise
distinct, and only so many names are in use.

Over a whole session the first mention of each relation is the one that
counts. `InTurn` says what has become of a list of mentions: the relations
are listed by first appearance, and each has the name that the plain rule
makes of the names before it. Together they fix the list without any state.
One request of one relation keeps this (`InTurn.christen`), and so a session
has it of the mentions of all its requests, one after the other.
-/
import Mathlib.Order.Bounds.Defs
import QueryText.Proofs.Naming.Numbering

namespace QueryText.Naming

variable {n : Naming} {r : Relation} {separator : String}

-- ============================================= the search without a bound

/-- The loop of a search: names in use are passed, and the first free one
is the last. -/
inductive Search (taken : List String) (name : Nat → String) : Nat → Nat → Prop
  | free {number : Nat} : name number ∉ taken → Search taken name number number
  | passed {number last : Nat} : name number ∈ taken →
      Search taken name (number + 1) last → Search taken name number last

theorem Search.of_passed {taken : List String} {name : Nat → String} {start last : Nat}
    (hle : start ≤ last) (hpassed : ∀ k, start ≤ k → k < last → name k ∈ taken)
    (hfree : name last ∉ taken) : Search taken name start last := by
  obtain ⟨more, rfl⟩ := Nat.exists_eq_add_of_le hle
  induction more generalizing start with
  | zero => exact .free hfree
  | succ more ih =>
      have hnext : start + (more + 1) = start + 1 + more := by omega
      rw [hnext] at hpassed hfree ⊢
      refine .passed (hpassed start (Nat.le_refl start) (by omega)) ?_
      exact ih (Nat.le_add_right _ _) (fun k hk => hpassed k (by omega)) hfree

/-- The loop ends, and where the search with the bound does. -/
theorem search_nextNumber (n : Naming) (base : String) :
    Search n.taken (candidate n.separator base) (n.countOf base + 1) (n.nextNumber base) := by
  apply Search.of_passed (n.countOf_lt_nextNumber base)
  · intro k hk hlt
    exact mem_of_lt_firstFree hk hlt
  · exact n.nextName_not_mem base

-- ========================================================= the plain rule

/-- The first number of a base name whose candidate is not in use. -/
def IsFirstFree (separator base : String) (used : Set String) (number : Nat) : Prop :=
  IsLeast {k | 1 ≤ k ∧ candidate separator base k ∉ used} number

/-- To begin behind the count passes over no free name. -/
theorem Numbered.isFirstFree_nextNumber (hn : n.Numbered) (base : String) :
    IsFirstFree n.separator base {name | name ∈ n.taken} (n.nextNumber base) := by
  constructor
  · exact ⟨n.one_le_nextNumber base, n.nextName_not_mem base⟩
  · intro k h
    obtain ⟨hpos, hfree⟩ := h
    by_contra hlt
    exact hfree (hn.mem_taken_of_lt_nextNumber hpos (Nat.lt_of_not_le hlt))

-- ======================================================== the names given

theorem Consistent.map_fst_given (hn : n.Consistent) : n.given.map Prod.fst = n.order := by
  unfold given
  rw [List.map_filterMap]
  calc n.order.filterMap (fun s => ((n.nameOf? s).map fun name => (s, name)).map Prod.fst)
      = n.order.filterMap some := by
        refine List.filterMap_congr fun s hs => ?_
        obtain ⟨name, hname⟩ := Option.isSome_iff_exists.mp ((hn.mem_order s).mp hs)
        simp [hname]
    _ = n.order := List.filterMap_some

theorem Consistent.mem_map_snd_given (hn : n.Consistent) {name : String} :
    name ∈ n.given.map Prod.snd ↔ name ∈ n.taken := by
  rw [hn.mem_taken]
  constructor
  · intro hmem
    obtain ⟨⟨s, _⟩, hs, rfl⟩ := List.mem_map.mp hmem
    obtain ⟨t, -, ht⟩ := List.mem_filterMap.mp hs
    obtain ⟨name, hname, heq⟩ := Option.map_eq_some_iff.mp ht
    cases heq
    exact ⟨s, hname⟩
  · intro h
    obtain ⟨s, hs⟩ := h
    have horder : s ∈ n.order := (hn.mem_order s).mpr (by simp [hs])
    exact List.mem_map.mpr ⟨(s, name), List.mem_filterMap.mpr ⟨s, horder, by simp [hs]⟩, rfl⟩

/-- A new name is put at the end. -/
theorem Consistent.given_christen (hn : n.Consistent) (h : n.nameOf? r = none) :
    (n.christen r).given = n.given ++ [(r, n.nextName r.baseName)] := by
  have hnew : r ∉ n.order := by
    rw [hn.mem_order, h]
    simp
  have hold : ∀ s ∈ n.order, (n.christen r).nameOf? s = n.nameOf? s := by
    intro s hs
    apply nameOf?_christen_of_ne
    rintro rfl
    exact hnew hs
  unfold given
  rw [order_christen h, List.filterMap_append]
  congr 1
  · refine List.filterMap_congr fun s hs => ?_
    rw [hold s hs]
  · simp [nameOf?_christen_self h]

/-- There are not more numbers passed over than relations with names. -/
theorem Numbered.nextNumber_le (hn : n.Numbered) (hnames : n.Consistent) (base : String) :
    n.nextNumber base ≤ n.size + 1 := by
  have hpassed : ∀ i, i < n.nextNumber base - 1 →
      candidate n.separator base (1 + i) ∈ n.given.map Prod.snd := by
    intro i hi
    rw [hnames.mem_map_snd_given]
    exact hn.mem_taken_of_lt_nextNumber (Nat.le_add_right 1 i) (by omega)
  have hcount := count_le_length (fun _ _ hi hj h => candidate_injective hi hj h) hpassed
  have hsize : (n.given.map Prod.snd).length ≤ n.size := by
    rw [List.length_map]
    exact List.length_filterMap_le _ _
  omega

-- =========================================================== in turn

/-- Each relation has the name that the plain rule makes of the names
before it. -/
def NamedInTurn (separator : String) (given : List (Relation × String)) : Prop :=
  ∀ before r name after, given = before ++ (r, name) :: after →
    ∃ number, IsFirstFree separator r.baseName {used | used ∈ before.map Prod.snd} number
      ∧ name = candidate separator r.baseName number

theorem NamedInTurn.append {given : List (Relation × String)} (h : NamedInTurn separator given)
    {number : Nat}
    (hfirst : IsFirstFree separator r.baseName {used | used ∈ given.map Prod.snd} number) :
    NamedInTurn separator (given ++ [(r, candidate separator r.baseName number)]) := by
  intro before s name after heq
  rcases List.eq_nil_or_concat after with rfl | ⟨between, last, rfl⟩
  · obtain ⟨rfl, hlast⟩ := List.append_inj' heq rfl
    cases hlast
    exact ⟨number, hfirst, rfl⟩
  · have hsplit : given ++ [(r, candidate separator r.baseName number)]
        = (before ++ (s, name) :: between) ++ [last] := by
      simpa using heq
    exact h before s name between (List.append_inj' hsplit rfl).1

/-- What has become of some mentions of relations. -/
structure InTurn (separator : String) (mentions : List Relation) (n : Naming) : Prop where
  consistent : n.Consistent
  numbered : n.Numbered
  separator_eq : n.separator = separator
  order_eq : n.order = mentions.eraseDups
  named : NamedInTurn separator n.given

theorem inTurn_empty (options : NamingOptions) :
    InTurn options.separator [] (empty options) where
  consistent := consistent_empty options
  numbered := numbered_empty options
  separator_eq := rfl
  order_eq := List.eraseDups_nil.symm
  named before r name after h := by simp [given, empty] at h

variable {mentions : List Relation}

/-- One more mention: of a relation that has a name, or of a new one, which
is put at the end. -/
theorem InTurn.christen (h : InTurn separator mentions n) (r : Relation) :
    InTurn separator (mentions ++ [r]) (n.christen r) := by
  have hmem : r ∈ mentions ↔ (n.nameOf? r).isSome := by
    rw [← h.consistent.mem_order, h.order_eq, List.mem_eraseDups]
  cases hr : n.nameOf? r with
  | some name =>
      have hold : r ∈ mentions := by simp [hmem, hr]
      rw [christen_of_named hr]
      refine ⟨h.consistent, h.numbered, h.separator_eq, ?order, h.named⟩
      case order =>
        rw [List.eraseDups_append, h.order_eq]
        simp [List.removeAll, hold]
  | none =>
      have hnew : r ∉ mentions := by simp [hmem, hr]
      refine ⟨h.consistent.christen r, h.numbered.christen r, ?separator, ?order, ?named⟩
      case separator => rw [separator_christen, h.separator_eq]
      case order =>
        rw [order_christen hr, List.eraseDups_append, h.order_eq]
        simp [List.removeAll, hnew, List.eraseDups_cons]
      case named =>
        have hfirst := h.numbered.isFirstFree_nextNumber r.baseName
        simp only [← h.consistent.mem_map_snd_given] at hfirst
        rw [h.consistent.given_christen hr, nextName]
        rw [h.separator_eq] at hfirst ⊢
        exact h.named.append hfirst

theorem InTurn.christenAll (h : InTurn separator mentions n) (rs : List Relation) :
    InTurn separator (mentions ++ rs) (n.christenAll rs) := by
  induction rs generalizing n mentions with
  | nil =>
      rw [List.append_nil]
      exact h
  | cons r rs ih =>
      rw [List.append_cons]
      exact ih (h.christen r)

theorem InTurn.performAll (h : InTurn separator mentions n) (cs : List Christening) :
    InTurn separator (mentions ++ cs.flatMap Christening.relations) (n.performAll cs) := by
  induction cs generalizing n mentions with
  | nil =>
      rw [List.flatMap_nil, List.append_nil]
      exact h
  | cons c cs ih =>
      rw [List.flatMap_cons, ← List.append_assoc]
      exact ih (h.christenAll c.relations)

-- ======================================================== the whole session

/-- In every session, whatever its separator, the search for the name of a
new relation ends, and its number is the first of all that is free; it is at
most one more than there are names. So a session names the relations in the
order of their first mention, each by the plain rule. -/
theorem named_by_plain_rule :
    (∀ n : Naming, n.Reachable → ∀ r, n.nameOf? r = none → ∃ number,
        Search n.taken (candidate n.separator r.baseName) (n.countOf r.baseName + 1) number
          ∧ IsFirstFree n.separator r.baseName {name | ∃ s, n.nameOf? s = some name} number
          ∧ number ≤ n.size + 1
          ∧ (n.christen r).nameOf? r = some (candidate n.separator r.baseName number))
      ∧ ∀ (options : NamingOptions) (cs : List Christening),
          ((empty options).performAll cs).given.map Prod.fst
              = (cs.flatMap Christening.relations).eraseDups
            ∧ NamedInTurn options.separator ((empty options).performAll cs).given := by
  constructor
  · intro n hn r hr
    have hfirst := hn.numbered.isFirstFree_nextNumber r.baseName
    simp only [hn.consistent.mem_taken] at hfirst
    exact ⟨n.nextNumber r.baseName, n.search_nextNumber r.baseName, hfirst,
      hn.numbered.nextNumber_le hn.consistent r.baseName, nameOf?_christen_self hr⟩
  · intro options cs
    have hturn := (inTurn_empty options).performAll cs
    rw [List.nil_append] at hturn
    exact ⟨by rw [hturn.consistent.map_fst_given, hturn.order_eq], hturn.named⟩

/-- Three mentions, of which the table `users_2` makes the second `users`
the third of its base name. -/
private def tableBetween : List Christening :=
  [.relation ⟨"users", none, 0⟩,
    .node (.array [.table ⟨"users_2", none, 0⟩, .table ⟨"users", none, 1⟩])]

/-- The search for one more `users` begins at four, behind the three names
that there are, and none before it is free. -/
theorem named_by_plain_rule_behind_table :
    ∃ n : Naming, n.Reachable ∧ n.nameOf? ⟨"users", none, 2⟩ = none
      ∧ n.countOf "users" = 3 ∧ n.size = 3
      ∧ IsFirstFree n.separator "users" {name | ∃ s, n.nameOf? s = some name} 4
      ∧ (n.christen ⟨"users", none, 2⟩).nameOf? ⟨"users", none, 2⟩ = some "users_4"
      ∧ n.given.map Prod.fst
          = [⟨"users", none, 0⟩, ⟨"users_2", none, 0⟩, ⟨"users", none, 1⟩] := by
  have hn : ((empty {}).performAll tableBetween).Reachable := (Reachable.empty {}).performAll _
  have hnew : ((empty {}).performAll tableBetween).nameOf? ⟨"users", none, 2⟩ = none := by
    decide +kernel
  obtain ⟨hsearch, hlist⟩ := named_by_plain_rule
  obtain ⟨number, -, hfirst, -, hname⟩ := hsearch _ hn _ hnew
  have hfour : (((empty {}).performAll tableBetween).christen ⟨"users", none, 2⟩).nameOf?
      ⟨"users", none, 2⟩ = some (candidate "_" "users" 4) := by
    decide +kernel
  have hnumber : number = 4 := by
    rw [hfour, Option.some_inj] at hname
    exact (candidate_injective (by decide) hfirst.1.1 hname).symm
  subst hnumber
  refine ⟨_, hn, hnew, by decide +kernel, by decide +kernel, hfirst, hfour, ?_⟩
  rw [(hlist {} tableBetween).1]
  decide +kernel

end QueryText.Naming
