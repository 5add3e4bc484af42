/-
Sessions of the naming. A session starts without names and serves requests,
each for one relation or for all relations that a tree mentions. This file
says what a request does to the names: the relations asked for have names
afterwards (`covers_perform`), a name that is given stays
(`nameOf?_performAll`), and a request for relations that all have names
changes nothing at all (`perform_of_covers`). None of this needs to know how
the state was reached.
-/
import QueryText.Environment
import QueryText.Statement

namespace QueryText

-- ========================================================= the requests

/-- A request for names: for one relation, or for those of a tree. -/
inductive Christening
  | relation (r : Relation)
  | node (tree : Node)
  | predicate (p : Predicate)
  | statement (s : Statement)

/-- The relations that a request is about, in the order they are named. -/
def Christening.relations : Christening → List Relation
  | .relation r => [r]
  | .node tree => tree.relations
  | .predicate p => p.relations
  | .statement s => s.relations

namespace Naming

/-- Serves a request. -/
def perform (n : Naming) (c : Christening) : Naming :=
  n.christenAll c.relations

/-- Serves several requests, in order. -/
def performAll (n : Naming) (cs : List Christening) : Naming :=
  cs.foldl perform n

/-- The states of all sessions. -/
inductive Reachable : Naming → Prop
  | empty (options : NamingOptions) : Reachable (empty options)
  | perform {n : Naming} (c : Christening) : Reachable n → Reachable (n.perform c)

/-- What holds at the start and is kept by naming one relation holds in
every session. -/
theorem Reachable.invariant {P : Naming → Prop} (hempty : ∀ options, P (.empty options))
    (hchristen : ∀ n r, P n → P (n.christen r)) {n : Naming} (h : n.Reachable) : P n := by
  induction h with
  | empty options => exact hempty options
  | @perform n c _ ih =>
      have hall : ∀ (rs : List Relation) (n : Naming), P n → P (n.christenAll rs) := by
        intro rs
        induction rs with
        | nil => exact fun _ hn => hn
        | cons r rs ih => exact fun n hn => ih _ (hchristen n r hn)
      exact hall c.relations n ih

/-- A session can go on. -/
theorem Reachable.performAll {n : Naming} (h : n.Reachable) (cs : List Christening) :
    (n.performAll cs).Reachable := by
  induction cs generalizing n with
  | nil => exact h
  | cons c cs ih => exact ih (.perform c h)

/-- Relations that all have names. -/
def Covers (n : Naming) (rs : List Relation) : Prop :=
  ∀ r ∈ rs, (n.nameOf? r).isSome

-- ========================================================= one relation

variable {n : Naming} {r s : Relation} {name : String}

/-- There are no names at the start. -/
@[simp]
theorem nameOf?_empty (options : NamingOptions) (r : Relation) :
    (empty options).nameOf? r = none := rfl

/-- A relation that has a name keeps everything as it is. -/
theorem christen_of_named (h : n.nameOf? r = some name) : n.christen r = n := by
  simp [christen, h]

/-- What naming a new relation does. -/
theorem christen_of_unnamed (h : n.nameOf? r = none) :
    n.christen r =
      { n with
        names := Table.set r (n.nextName r.baseName) n.names
        order := n.order ++ [r]
        counts := Table.set r.baseName (n.nextNumber r.baseName) n.counts
        taken := n.taken.insert (n.nextName r.baseName) } := by
  simp [christen, h]

/-- The name that a new relation gets. -/
theorem nameOf?_christen_self (h : n.nameOf? r = none) :
    (n.christen r).nameOf? r = some (n.nextName r.baseName) := by
  rw [christen_of_unnamed h]
  exact Table.lookup_set_self _ _ _

/-- The names of other relations are not touched. -/
theorem nameOf?_christen_of_ne (hne : s ≠ r) : (n.christen r).nameOf? s = n.nameOf? s := by
  cases h : n.nameOf? r with
  | some name => rw [christen_of_named h]
  | none =>
      rw [christen_of_unnamed h]
      exact Table.lookup_set_of_ne hne _ _

/-- A name that is given stays. -/
theorem nameOf?_christen (h : n.nameOf? s = some name) :
    (n.christen r).nameOf? s = some name := by
  by_cases hs : s = r
  · subst hs
    rwa [christen_of_named h]
  · rwa [nameOf?_christen_of_ne hs]

/-- A relation has a name after it was named. -/
theorem isSome_nameOf?_christen (n : Naming) (r : Relation) :
    ((n.christen r).nameOf? r).isSome := by
  cases h : n.nameOf? r with
  | some name => simp [christen_of_named h, h]
  | none => simp [nameOf?_christen_self h]

-- ==================================================== several relations

/-- Names that are given stay, over several relations. -/
theorem nameOf?_christenAll (h : n.nameOf? s = some name) (rs : List Relation) :
    (n.christenAll rs).nameOf? s = some name := by
  induction rs generalizing n with
  | nil => exact h
  | cons r rs ih => exact ih (nameOf?_christen h)

/-- Relations that have names keep having them. -/
theorem Covers.christenAll {rs : List Relation} (h : n.Covers rs) (more : List Relation) :
    (n.christenAll more).Covers rs := by
  intro r hr
  obtain ⟨name, hname⟩ := Option.isSome_iff_exists.mp (h r hr)
  simp [nameOf?_christenAll hname]

/-- Relations have names after they were named. -/
theorem covers_christenAll (n : Naming) (rs : List Relation) : (n.christenAll rs).Covers rs := by
  induction rs generalizing n with
  | nil => simp [Covers]
  | cons r rs ih =>
      intro s hs
      rcases List.mem_cons.mp hs with rfl | hs
      · obtain ⟨name, hname⟩ :=
          Option.isSome_iff_exists.mp (isSome_nameOf?_christen n s)
        have hlater : (n.christenAll (s :: rs)).nameOf? s = some name :=
          nameOf?_christenAll hname rs
        simp [hlater]
      · exact ih (n.christen r) s hs

/-- The names of relations do not depend on what is named after them. -/
theorem nameOf?_christenAll_append {rs : List Relation} (hs : s ∈ rs) (more : List Relation) :
    (n.christenAll (rs ++ more)).nameOf? s = (n.christenAll rs).nameOf? s := by
  obtain ⟨name, hname⟩ := Option.isSome_iff_exists.mp (covers_christenAll n rs s hs)
  have hsplit : n.christenAll (rs ++ more) = (n.christenAll rs).christenAll more :=
    List.foldl_append
  rw [hsplit, nameOf?_christenAll hname, hname]

/-- Relations that all have names keep everything as it is. -/
theorem christenAll_of_covers {rs : List Relation} (h : n.Covers rs) : n.christenAll rs = n := by
  induction rs with
  | nil => rfl
  | cons r rs ih =>
      obtain ⟨name, hname⟩ := Option.isSome_iff_exists.mp (h r List.mem_cons_self)
      have hrest : n.Covers rs := fun s hs => h s (List.mem_cons_of_mem r hs)
      calc n.christenAll (r :: rs)
          = (n.christen r).christenAll rs := rfl
        _ = n.christenAll rs := by rw [christen_of_named hname]
        _ = n := ih hrest

-- ============================================================== requests

/-- Relations have names after they were asked for. -/
theorem covers_perform (n : Naming) (c : Christening) : (n.perform c).Covers c.relations :=
  covers_christenAll n c.relations

/-- A request for relations that all have names changes nothing. -/
theorem perform_of_covers {c : Christening} (h : n.Covers c.relations) : n.perform c = n :=
  christenAll_of_covers h

/-- A name that is given stays for the rest of the session. -/
theorem nameOf?_performAll (h : n.nameOf? s = some name) (cs : List Christening) :
    (n.performAll cs).nameOf? s = some name := by
  induction cs generalizing n with
  | nil => exact h
  | cons c cs ih => exact ih (nameOf?_christenAll h c.relations)

/-- Relations that have names keep having them for the rest of the session. -/
theorem Covers.performAll {rs : List Relation} (h : n.Covers rs) (cs : List Christening) :
    (n.performAll cs).Covers rs := by
  induction cs generalizing n with
  | nil => exact h
  | cons c cs ih => exact ih (h.christenAll c.relations)

end Naming

-- ======================================================= the environment

namespace Environment

/-- Serves several requests, in order. -/
def performAll (env : Environment) (cs : List Christening) : Environment :=
  { env with naming := env.naming.performAll cs }

/-- What a request asked for has names in the environment, also later. -/
theorem covers_performAll_cons (env : Environment) (c : Christening) (later : List Christening) :
    (env.performAll (c :: later)).naming.Covers c.relations :=
  (Naming.covers_perform env.naming c).performAll later

end Environment
end QueryText
