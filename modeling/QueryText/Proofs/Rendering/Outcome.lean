/-
Statements about results that may be failures. `FailsOnly P x` says what the
failure of `x` looks like, if it fails, and `failure? x` is this failure.
`Agree R x y` compares two results: both succeed with related values, or both
fail in the same way. Each goes through binds and through lists, so that a
proof about a rendering follows its text.
-/
import Mathlib.Data.List.Forall2

namespace QueryText

variable {ε α β γ δ : Type}

-- ============================================================== successes

/-- A bind succeeds when both of its halves do. -/
theorem bind_eq_ok {x : Except ε α} {f : α → Except ε β} {b : β} :
    (x >>= f) = .ok b ↔ ∃ a, x = .ok a ∧ f a = .ok b := by
  cases x with
  | ok a => simp [bind, Except.bind]
  | error e => simp [bind, Except.bind]

/-- A list succeeds when all of its members do. -/
theorem forall₂_of_mapM {R : α → β → Prop} {f : α → Except ε β} {l : List α} {bs : List β}
    (h : l.mapM f = .ok bs) (hf : ∀ a ∈ l, ∀ b, f a = .ok b → R a b) : List.Forall₂ R l bs := by
  induction l generalizing bs with
  | nil =>
      cases h
      exact .nil
  | cons a l ih =>
      rw [List.mapM_cons] at h
      obtain ⟨b, hb, h⟩ := bind_eq_ok.mp h
      obtain ⟨others, hothers, h⟩ := bind_eq_ok.mp h
      cases h
      refine .cons (hf a List.mem_cons_self b hb) (ih hothers fun a' ha' => ?_)
      exact hf a' (List.mem_cons_of_mem a ha')

/-- If a list succeeds, each of its members does. -/
theorem exists_ok_of_mapM {f : α → Except ε β} {l : List α} {bs : List β}
    (h : l.mapM f = .ok bs) {a : α} (ha : a ∈ l) : ∃ b, f a = .ok b := by
  have hall : List.Forall₂ (fun a b => f a = .ok b) l bs := forall₂_of_mapM h fun _ _ _ hb => hb
  clear h
  induction hall with
  | nil => cases ha
  | @cons a' b l bs hb _ ih =>
      rcases List.mem_cons.mp ha with rfl | ha
      · exact ⟨b, hb⟩
      · exact ih ha

/-- What a list gives comes from its members. -/
theorem exists_mem_of_mapM {f : α → Except ε β} {l : List α} {bs : List β}
    (h : l.mapM f = .ok bs) {b : β} (hb : b ∈ bs) : ∃ a ∈ l, f a = .ok b := by
  have hall : List.Forall₂ (fun a b => f a = .ok b) l bs := forall₂_of_mapM h fun _ _ _ hb => hb
  clear h
  induction hall with
  | nil => cases hb
  | @cons a b' l bs ha _ ih =>
      rcases List.mem_cons.mp hb with rfl | hb
      · exact ⟨a, List.mem_cons_self, ha⟩
      · obtain ⟨a', ha', hfrom⟩ := ih hb
        exact ⟨a', List.mem_cons_of_mem a ha', hfrom⟩

/-- A list gives the same in two ways when each of its members does. -/
theorem mapM_congr {f g : α → Except ε β} {l : List α} (h : ∀ a ∈ l, f a = g a) :
    l.mapM f = l.mapM g := by
  induction l with
  | nil => rfl
  | cons a l ih =>
      rw [List.mapM_cons, List.mapM_cons, h a List.mem_cons_self,
        ih fun b hb => h b (List.mem_cons_of_mem a hb)]

/-- A list that is made from another one gives the same when each member gives
what its origin gives. -/
theorem mapM_map_eq {f : β → Except ε γ} {g : α → Except ε γ} {k : α → β} {l : List α}
    (h : ∀ a ∈ l, f (k a) = g a) : (l.map k).mapM f = l.mapM g := by
  rw [List.mapM_map]
  exact mapM_congr h

-- =============================================================== failures

/-- The failure, if there is one, is as described. -/
def FailsOnly (P : ε → Prop) (x : Except ε α) : Prop :=
  ∀ e, x = .error e → P e

theorem failsOnly_ok (P : ε → Prop) (a : α) : FailsOnly P (.ok a : Except ε α) := by
  intro e h
  cases h

theorem failsOnly_error {P : ε → Prop} {e : ε} (h : P e) :
    FailsOnly P (.error e : Except ε α) := by
  intro e' he
  cases he
  exact h

theorem FailsOnly.mono {P Q : ε → Prop} {x : Except ε α} (h : FailsOnly P x)
    (hPQ : ∀ e, P e → Q e) : FailsOnly Q x := fun e he => hPQ e (h e he)

/-- A bind fails where one of its halves does. -/
theorem FailsOnly.bind {P : ε → Prop} {x : Except ε α} {f : α → Except ε β}
    (hx : FailsOnly P x) (hf : ∀ a, FailsOnly P (f a)) : FailsOnly P (x >>= f) := by
  cases x with
  | ok a => exact hf a
  | error e => exact failsOnly_error (hx e rfl)

/-- A failure in other words. -/
theorem FailsOnly.mapError {Q : δ → Prop} {f : ε → δ} {x : Except ε α}
    (h : FailsOnly (fun e => Q (f e)) x) : FailsOnly Q (x.mapError f) := by
  cases x with
  | ok a => exact failsOnly_ok Q a
  | error e => exact failsOnly_error (h e rfl)

/-- A list fails where one of its members does. -/
theorem FailsOnly.mapM {P : ε → Prop} {f : α → Except ε β} {l : List α}
    (hf : ∀ a ∈ l, FailsOnly P (f a)) : FailsOnly P (l.mapM f) := by
  induction l with
  | nil => exact failsOnly_ok P []
  | cons a l ih =>
      rw [List.mapM_cons]
      refine (hf a List.mem_cons_self).bind fun b => ?_
      refine (ih fun a' ha' => hf a' (List.mem_cons_of_mem a ha')).bind fun bs => ?_
      exact failsOnly_ok P (b :: bs)

-- ======================================================= the first failure

/-- The failure of a result, if it is one. -/
def failure? : Except ε α → Option ε
  | .ok _ => none
  | .error e => some e

theorem failure?_eq_some {x : Except ε α} {e : ε} : failure? x = some e ↔ x = .error e := by
  cases x with
  | ok a => simp [failure?]
  | error e' => simp [failure?]

theorem failure?_eq_none {x : Except ε α} : failure? x = none ↔ ∃ a, x = .ok a := by
  cases x with
  | ok a => simp [failure?]
  | error e => simp [failure?]

/-- A bind fails as its first half does, or else as its second half. -/
theorem failure?_bind {x : Except ε α} {f : α → Except ε β} {o : Option ε}
    (hf : ∀ a, failure? (f a) = o) : failure? (x >>= f) = (failure? x).or o := by
  cases x with
  | ok a => exact hf a
  | error e => rfl

/-- What is built from a result fails as the result does. -/
theorem failure?_return (x : Except ε α) (f : α → β) :
    failure? (do let a ← x; return f a) = failure? x := by
  cases x with
  | ok a => rfl
  | error e => rfl

/-- A list fails as the first of its members that does. -/
theorem failure?_mapM {f : α → Except ε β} {g : α → Option ε} {l : List α}
    (hf : ∀ a ∈ l, failure? (f a) = g a) : failure? (l.mapM f) = l.findSome? g := by
  induction l with
  | nil => rfl
  | cons a l ih =>
      have hrest : ∀ b, failure? (do let bs ← l.mapM f; return b :: bs) = l.findSome? g := by
        intro b
        rw [failure?_return]
        exact ih fun a' ha' => hf a' (List.mem_cons_of_mem a ha')
      rw [List.mapM_cons, failure?_bind hrest, hf a List.mem_cons_self, List.findSome?_cons]
      cases g a <;> rfl

/-- Lists that stand in for the members of a list, searched one after another. -/
theorem findSome?_flatMap {f : α → List β} {g : β → Option γ} (l : List α) :
    (l.flatMap f).findSome? g = l.findSome? fun a => (f a).findSome? g := by
  induction l with
  | nil => rfl
  | cons a l ih =>
      rw [List.flatMap_cons, List.findSome?_append, ih, List.findSome?_cons]
      cases (f a).findSome? g <;> rfl

/-- The first member of a list that fails, and how it fails. -/
def FirstToFail (f : α → Except ε β) (l : List α) (a : α) (e : ε) : Prop :=
  ∃ before after, l = before ++ a :: after ∧ (∀ b ∈ before, ∃ c, f b = .ok c) ∧ f a = .error e

theorem FirstToFail.mem {f : α → Except ε β} {l : List α} {a : α} {e : ε}
    (h : FirstToFail f l a e) : a ∈ l := by
  obtain ⟨before, after, rfl, -, -⟩ := h
  exact List.mem_append_right before List.mem_cons_self

theorem FirstToFail.eq_error {f : α → Except ε β} {l : List α} {a : α} {e : ε}
    (h : FirstToFail f l a e) : f a = .error e := by
  obtain ⟨-, -, -, -, ha⟩ := h
  exact ha

theorem findSome?_failure?_eq_some {f : α → Except ε β} {l : List α} {e : ε} :
    (l.findSome? fun a => failure? (f a)) = some e ↔ ∃ a, FirstToFail f l a e := by
  rw [List.findSome?_eq_some_iff]
  constructor
  · rintro ⟨before, a, after, hl, ha, hbefore⟩
    exact ⟨a, before, after, hl, fun b hb => failure?_eq_none.mp (hbefore b hb),
      failure?_eq_some.mp ha⟩
  · rintro ⟨a, before, after, hl, hbefore, ha⟩
    exact ⟨before, a, after, hl, failure?_eq_some.mpr ha,
      fun b hb => failure?_eq_none.mpr (hbefore b hb)⟩

theorem findSome?_failure?_eq_none {f : α → Except ε β} {l : List α} :
    (l.findSome? fun a => failure? (f a)) = none ↔ ∀ a ∈ l, ∃ b, f a = .ok b := by
  simp only [List.findSome?_eq_none_iff, failure?_eq_none]

-- ============================================================ comparisons

/-- Two results that are related, or that are the same failure. -/
def Agree (R : α → β → Prop) : Except ε α → Except ε β → Prop
  | .ok a, .ok b => R a b
  | .error e, .error e' => e = e'
  | _, _ => False

theorem Agree.ok {R : α → β → Prop} {a : α} {b : β} (h : R a b) :
    Agree R (.ok a : Except ε α) (.ok b) := h

theorem Agree.error {R : α → β → Prop} (e : ε) :
    Agree R (.error e : Except ε α) (.error e : Except ε β) := rfl

/-- A result agrees with itself when its value is related to itself. -/
theorem Agree.refl {R : α → α → Prop} {x : Except ε α} (h : ∀ a, x = .ok a → R a a) :
    Agree R x x := by
  cases x with
  | ok a => exact h a rfl
  | error e => exact Agree.error e

theorem Agree.mono {R S : α → β → Prop} {x : Except ε α} {y : Except ε β} (h : Agree R x y)
    (hRS : ∀ a b, R a b → S a b) : Agree S x y := by
  cases x with
  | ok a =>
      cases y with
      | ok b => exact hRS a b h
      | error e => exact h.elim
  | error e =>
      cases y with
      | ok b => exact h.elim
      | error e' => exact h

/-- Binds agree when their halves do. -/
theorem Agree.bind {R : α → β → Prop} {S : γ → δ → Prop} {x : Except ε α} {y : Except ε β}
    {f : α → Except ε γ} {g : β → Except ε δ} (hxy : Agree R x y)
    (hfg : ∀ a b, R a b → Agree S (f a) (g b)) : Agree S (x >>= f) (y >>= g) := by
  cases x with
  | ok a =>
      cases y with
      | ok b => exact hfg a b hxy
      | error e => exact hxy.elim
  | error e =>
      cases y with
      | ok b => exact hxy.elim
      | error e' => exact hxy

/-- Lists agree when their members do. -/
theorem Agree.mapM {R : γ → δ → Prop} {f : α → Except ε γ} {g : β → Except ε δ} {l : List α}
    {m : List β} (h : List.Forall₂ (fun a b => Agree R (f a) (g b)) l m) :
    Agree (List.Forall₂ R) (l.mapM f) (m.mapM g) := by
  induction h with
  | nil => exact Agree.ok .nil
  | cons hab _ ih =>
      rw [List.mapM_cons, List.mapM_cons]
      refine hab.bind fun c d hcd => ih.bind fun cs ds hcsds => ?_
      exact Agree.ok (.cons hcd hcsds)

end QueryText
