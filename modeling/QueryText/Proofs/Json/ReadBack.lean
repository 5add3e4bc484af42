/-
JSON values read back from their compact text.

A binary64 number is rounded on its way to a text and back, and an invalid
part has no text of its own; values without them are exact. Each exact value
is read back from the front of a text, with what is left behind it.

The readers recurse on a count of steps. A value takes at most two for each
of its characters, its items or fields one more, which pays for the reader
of a list to hand over to the reader of a value. The limit on the nesting
counts down as the depth of the value does.
-/
import QueryText.Json.Reader
import QueryText.Proofs.Json.Scalar

namespace QueryText.Json

/-- The values that their text tells exactly. -/
inductive Exact : Json → Prop
  | null : Exact .null
  | bool (b : Bool) : Exact (.bool b)
  | whole {n : Int} (h : IsWord n) : Exact (.whole n)
  | text (s : String) : Exact (.text s)
  | list {items : List Json} (h : ∀ j ∈ items, Exact j) : Exact (.list items)
  | object {fields : List (String × Json)} (h : ∀ f ∈ fields, Exact f.2) : Exact (.object fields)

-- =================================================== the front of a value

/-- Blanks, and what ends a list or an object: no value begins with these. -/
def closers : List Char :=
  [' ', '\t', '\n', '\r', ']', '\x7d']

theorem not_mem_of_isDigit {c : Char} (h : Text.isDigit c = true) {others : List Char}
    (hothers : others.all (!Text.isDigit ·) = true) : c ∉ others := by
  intro hc
  have hno := List.all_eq_true.mp hothers c hc
  rw [h] at hno
  cases hno

theorem int_eq_cons (n : Int) :
    ∃ c s, Text.int n = c :: s ∧ (c = '-' ∨ Text.isDigit c = true) := by
  unfold Text.int
  split
  · exact ⟨_, _, rfl, Or.inl rfl⟩
  · obtain ⟨c, s, hd⟩ := List.exists_cons_of_ne_nil (Text.digits_ne_nil n.natAbs)
    exact ⟨c, s, hd, Or.inr (Text.isDigit_of_mem_digits (by rw [hd]; exact List.mem_cons_self))⟩

/-- A value has a first character, which does not end anything. -/
theorem Exact.write_eq_cons {j : Json} (h : j.Exact) :
    ∃ c s, j.write = c :: s ∧ c ∉ closers := by
  cases h with
  | null => exact ⟨'n', _, rfl, by decide⟩
  | bool b =>
    cases b with
    | true => exact ⟨'t', _, rfl, by decide⟩
    | false => exact ⟨'f', _, rfl, by decide⟩
  | @whole n h =>
    obtain ⟨c, s, hs, hc⟩ := int_eq_cons n
    refine ⟨c, s, hs, ?_⟩
    rcases hc with rfl | hdigit
    · decide
    · exact not_mem_of_isDigit hdigit rfl
  | text s => exact ⟨'"', _, rfl, by decide⟩
  | list h => exact ⟨'[', _, rfl, by decide⟩
  | object h => exact ⟨'\x7b', _, rfl, by decide⟩

theorem skipBlanks_cons {c : Char} (h : c ∉ closers) (s : List Char) :
    skipBlanks (c :: s) = c :: s := by
  simp only [closers, List.mem_cons, List.not_mem_nil, or_false, not_or] at h
  simp [skipBlanks, h]

variable {j : Json} {rest : List Char}

theorem Exact.skipBlanks_write (h : j.Exact) : skipBlanks (j.write ++ rest) = j.write ++ rest := by
  obtain ⟨c, s, hs, hc⟩ := h.write_eq_cons
  rw [hs, List.cons_append, skipBlanks_cons hc]

theorem Exact.length_write_pos (h : j.Exact) : 0 < j.write.length := by
  obtain ⟨c, s, hs, _⟩ := h.write_eq_cons
  rw [hs]
  exact Nat.zero_lt_succ _

-- ========================================================= reading it back

/-- A value is read back from the front of a text, given enough steps and
enough room. -/
def ReadsBack (j : Json) : Prop :=
  ∀ {steps room : Nat} {rest : List Char}, j.depth < room → Follows rest →
    2 * j.write.length ≤ steps → readValue steps room (j.write ++ rest) = some (j, rest)

/-- Numbers are what is left when no other value begins. -/
theorem readValue_int {n : Int} (hn : IsWord n) (steps room : Nat) (hrest : Follows rest) :
    readValue (steps + 1) room (Text.int n ++ rest) = some (.whole n, rest) := by
  have hread := readNumber_int hn hrest
  obtain ⟨c, s, hs, hc⟩ := int_eq_cons n
  rw [hs] at hread ⊢
  -- Each other value begins with a character that no number begins with.
  have hother : ∀ d ∈ ['n', 't', 'f', '"', '[', '\x7b'], c ≠ d := by
    rintro d hd rfl
    rcases hc with rfl | hdigit
    · exact absurd hd (by decide)
    · exact absurd hd (not_mem_of_isDigit hdigit rfl)
  simp only [List.mem_cons, List.not_mem_nil, or_false, forall_eq_or_imp, forall_eq] at hother
  obtain ⟨hn, ht, hf, hquote, hlist, hobject⟩ := hother
  rw [List.cons_append] at hread ⊢
  simp [readValue, hn, ht, hf, hquote, hlist, hobject, hread]

/-- Items begin as the first of them does. -/
theorem writeItems_eq_cons {item : Json} (h : item.Exact) (others : List Json) :
    ∃ c s, writeItems (item :: others) = c :: s ∧ c ∉ closers := by
  obtain ⟨c, s, hs, hc⟩ := h.write_eq_cons
  cases others with
  | nil => exact ⟨c, s, hs, hc⟩
  | cons next others => exact ⟨c, _, by rw [writeItems, hs]; rfl, hc⟩

theorem skipBlanks_writeItems {item : Json} (h : item.Exact) (others : List Json) :
    skipBlanks (writeItems (item :: others) ++ rest) = writeItems (item :: others) ++ rest := by
  obtain ⟨c, s, hs, hc⟩ := writeItems_eq_cons h others
  rw [hs, List.cons_append, skipBlanks_cons hc]

/-- Items are read back up to the bracket behind them, if each of them is. -/
theorem readItems_writeItems {items : List Json} (hne : items ≠ [])
    (hexact : ∀ j ∈ items, j.Exact) (hback : ∀ j ∈ items, j.ReadsBack) {steps room : Nat}
    (hroom : depthOfItems items < room) (hsteps : 2 * (writeItems items).length < steps) :
    readItems steps room (writeItems items ++ ']' :: rest) = some (items, rest) := by
  induction items generalizing steps with
  | nil => exact absurd rfl hne
  | cons item others ih =>
    obtain ⟨steps, rfl⟩ := Nat.exists_eq_add_one_of_ne_zero (Nat.ne_zero_of_lt hsteps)
    obtain ⟨hitem, hothers⟩ := List.forall_mem_cons.mp hback
    obtain ⟨_, hexacts⟩ := List.forall_mem_cons.mp hexact
    obtain ⟨hdepth, hdepths⟩ := Nat.max_lt.mp hroom
    -- One step goes to this reader; the first item and its comma pay for it.
    cases others with
    | nil =>
      rw [writeItems] at hsteps ⊢
      rw [readItems, hitem hdepth (follows_bracket rest) (by omega)]
      rfl
    | cons next others =>
      rw [writeItems, List.length_append, List.length_cons] at hsteps
      have hmore : readItems steps room (writeItems (next :: others) ++ ']' :: rest)
          = some (next :: others, rest) :=
        ih (List.cons_ne_nil _ _) hexacts hothers hdepths (by omega)
      rw [writeItems, List.append_assoc, List.cons_append, readItems,
        hitem hdepth (follows_comma _) (by omega)]
      show (readItems steps room (skipBlanks (writeItems (next :: others) ++ ']' :: rest))).map _
        = _
      rw [skipBlanks_writeItems (hexacts next List.mem_cons_self), hmore]
      rfl

theorem writeFields_eq_cons (field : String × Json) (others : List (String × Json)) :
    ∃ s, writeFields (field :: others) = '"' :: s := by
  cases others with
  | nil => exact ⟨_, rfl⟩
  | cons next others => exact ⟨_, rfl⟩

theorem skipBlanks_writeFields (field : String × Json) (others : List (String × Json)) :
    skipBlanks (writeFields (field :: others) ++ rest) = writeFields (field :: others) ++ rest := by
  obtain ⟨s, hs⟩ := writeFields_eq_cons field others
  rw [hs, List.cons_append, skipBlanks_cons (by decide)]

section field

variable {value : Json} {steps room : Nat}

/-- The last field is read up to the brace behind it. -/
theorem readFields_last (hexact : value.Exact) (hback : value.ReadsBack)
    (hroom : value.depth < room) (hsteps : 2 * value.write.length ≤ steps) (name : String) :
    readFields (steps + 1) room (writeText name ++ ':' :: (value.write ++ '\x7d' :: rest))
      = some ([(name, value)], rest) := by
  have hcolon : ∀ s, skipBlanks (':' :: s) = ':' :: s := skipBlanks_cons (by decide)
  have hbrace : skipBlanks ('\x7d' :: rest) = '\x7d' :: rest := rfl
  have hread := hback hroom (follows_brace rest) hsteps
  simp only [writeText, List.cons_append, List.append_assoc, List.nil_append, readFields,
    readQuoted_escaped, hcolon, hexact.skipBlanks_write, hread, hbrace, String.ofList_toList]

/-- A field with a comma behind it is read, and then the others. -/
theorem readFields_next (hexact : value.Exact) (hback : value.ReadsBack)
    (hroom : value.depth < room) (hsteps : 2 * value.write.length ≤ steps) (name : String) :
    readFields (steps + 1) room (writeText name ++ ':' :: (value.write ++ ',' :: rest))
      = (readFields steps room (skipBlanks rest)).map
          fun (fields, s) => ((name, value) :: fields, s) := by
  have hcolon : ∀ s, skipBlanks (':' :: s) = ':' :: s := skipBlanks_cons (by decide)
  have hcomma : skipBlanks (',' :: rest) = ',' :: rest := rfl
  have hread := hback hroom (follows_comma rest) hsteps
  simp only [writeText, List.cons_append, List.append_assoc, List.nil_append, readFields,
    readQuoted_escaped, hcolon, hexact.skipBlanks_write, hread, hcomma, String.ofList_toList]

end field

/-- Fields are read back up to the brace behind them, if the value of each
of them is. -/
theorem readFields_writeFields {fields : List (String × Json)} (hne : fields ≠ [])
    (hexact : ∀ f ∈ fields, f.2.Exact) (hback : ∀ f ∈ fields, f.2.ReadsBack) {steps room : Nat}
    (hroom : depthOfFields fields < room) (hsteps : 2 * (writeFields fields).length < steps) :
    readFields steps room (writeFields fields ++ '\x7d' :: rest) = some (fields, rest) := by
  induction fields generalizing steps with
  | nil => exact absurd rfl hne
  | cons field others ih =>
    obtain ⟨name, value⟩ := field
    obtain ⟨steps, rfl⟩ := Nat.exists_eq_add_one_of_ne_zero (Nat.ne_zero_of_lt hsteps)
    obtain ⟨hvalue, hothers⟩ := List.forall_mem_cons.mp hback
    obtain ⟨hfirst, hexacts⟩ := List.forall_mem_cons.mp hexact
    obtain ⟨hdepth, hdepths⟩ := Nat.max_lt.mp hroom
    cases others with
    | nil =>
      rw [writeFields, List.length_append, List.length_cons] at hsteps
      have hvalueSteps : 2 * value.write.length ≤ steps := by omega
      rw [writeFields, List.append_assoc, List.cons_append,
        readFields_last hfirst hvalue hdepth hvalueSteps]
    | cons next others =>
      rw [writeFields, List.append_assoc, List.length_append, List.cons_append, List.length_cons,
        List.length_append, List.length_cons] at hsteps
      have hvalueSteps : 2 * value.write.length ≤ steps := by omega
      have hmore : readFields steps room (writeFields (next :: others) ++ '\x7d' :: rest)
          = some (next :: others, rest) :=
        ih (List.cons_ne_nil _ _) hexacts hothers hdepths (by omega)
      rw [writeFields]
      simp only [List.append_assoc, List.cons_append]
      rw [readFields_next hfirst hvalue hdepth hvalueSteps, skipBlanks_writeFields, hmore]
      rfl

-- =============================================================== the values

/-- A value has a character, so there is a step for it. -/
theorem Exact.readsBack_of_succ (h : j.Exact)
    (hstep : ∀ {steps room : Nat} {rest : List Char}, j.depth < room → Follows rest →
      2 * j.write.length ≤ steps + 1 →
        readValue (steps + 1) room (j.write ++ rest) = some (j, rest)) : j.ReadsBack := by
  intro steps room rest hroom hrest hsteps
  have hpos := h.length_write_pos
  obtain ⟨steps, rfl⟩ : ∃ k, steps = k + 1 := ⟨steps - 1, by omega⟩
  exact hstep hroom hrest hsteps

theorem readsBack_list {items : List Json} (hexact : ∀ j ∈ items, j.Exact)
    (hback : ∀ j ∈ items, j.ReadsBack) : (Json.list items).ReadsBack := by
  apply (Exact.list hexact).readsBack_of_succ
  intro steps room rest hroom _ hsteps
  rw [depth] at hroom
  have hopen : ¬ room ≤ 1 := by omega
  cases items with
  | nil =>
    simp only [write, writeItems, List.cons_append, List.nil_append, readValue, hopen, ↓reduceIte]
    rfl
  | cons item others =>
    obtain ⟨c, s, hs, hc⟩ := writeItems_eq_cons (hexact item List.mem_cons_self) others
    simp only [write, List.length_cons, List.length_append] at hsteps
    have hread : readItems steps (room - 1) (writeItems (item :: others) ++ ']' :: rest)
        = some (item :: others, rest) :=
      readItems_writeItems (List.cons_ne_nil _ _) hexact hback (by omega) (by omega)
    rw [hs, List.cons_append] at hread
    -- The list is not taken for an empty one.
    have hbracket : c ≠ ']' := by
      rintro rfl
      exact absurd hc (by decide)
    simp only [write, hs, List.cons_append, List.append_assoc, List.nil_append, readValue, hopen,
      ↓reduceIte, skipBlanks_cons hc]
    simp [hread, hbracket]

theorem readsBack_object {fields : List (String × Json)} (hexact : ∀ f ∈ fields, f.2.Exact)
    (hback : ∀ f ∈ fields, f.2.ReadsBack) : (Json.object fields).ReadsBack := by
  apply (Exact.object hexact).readsBack_of_succ
  intro steps room rest hroom _ hsteps
  rw [depth] at hroom
  have hopen : ¬ room ≤ 1 := by omega
  cases fields with
  | nil =>
    simp only [write, writeFields, List.cons_append, List.nil_append, readValue, hopen, ↓reduceIte]
    rfl
  | cons field others =>
    obtain ⟨s, hs⟩ := writeFields_eq_cons field others
    simp only [write, List.length_cons, List.length_append] at hsteps
    have hread : readFields steps (room - 1) (writeFields (field :: others) ++ '\x7d' :: rest)
        = some (field :: others, rest) :=
      readFields_writeFields (List.cons_ne_nil _ _) hexact hback (by omega) (by omega)
    rw [hs, List.cons_append] at hread
    have hquote : '"' ∉ closers := by decide
    simp only [write, hs, List.cons_append, List.append_assoc, List.nil_append, readValue, hopen,
      ↓reduceIte, skipBlanks_cons hquote]
    simp [hread]

theorem Exact.readsBack (h : j.Exact) : j.ReadsBack := by
  induction h with
  | null =>
    apply Exact.null.readsBack_of_succ
    intros
    rfl
  | bool b =>
    apply (Exact.bool b).readsBack_of_succ
    intros
    cases b with
    | true => rfl
    | false => rfl
  | whole hword =>
    apply (Exact.whole hword).readsBack_of_succ
    intro steps room rest _ hrest _
    exact readValue_int hword steps room hrest
  | text s =>
    apply (Exact.text s).readsBack_of_succ
    intro steps room rest _ _ _
    have hread := readQuoted_escaped s.toList rest
    simp [write, writeText, readValue, hread]
  | list hitems ih => exact readsBack_list hitems ih
  | object hfields ih => exact readsBack_object hfields ih

/-- Every exact value that is not nested too deep is read back from its
text. -/
theorem Exact.read_print (h : j.Exact) (hdepth : j.depth < nestingLimit) :
    read j.print = some j := by
  have hread : readValue (2 * j.write.length + 2) nestingLimit (j.write ++ []) = some (j, []) :=
    h.readsBack hdepth follows_nil (by omega)
  have hblanks : skipBlanks (j.write ++ []) = j.write ++ [] := h.skipBlanks_write
  rw [List.append_nil] at hread hblanks
  simp only [read, print, String.toList_ofList, hblanks, hread]
  rfl

end QueryText.Json
