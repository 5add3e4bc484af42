/-
The parts of a JSON text that have no parts themselves, read back: texts
with whatever is escaped in them, and whole numbers of sixty-four bits.

A text ends at its own quotation mark, so anything may come behind it. A
number ends where its digits do; `Follows` says what comes behind a value in
a text that was written, and nothing of that goes on with a number.
-/
import QueryText.Json.Printer
import QueryText.Json.Scalar
import QueryText.Proofs.Text.Runs

namespace QueryText.Json

-- ================================================================ texts

theorem unescape_of_shortEscape {c e : Char} (h : shortEscape c = some e) :
    e ≠ 'u' ∧ unescape e = some c := by
  unfold shortEscape at h
  split at h
  all_goals
    cases h
    try exact ⟨by decide, rfl⟩

/-- What has no short escape ends no text and escapes nothing. -/
theorem plain_of_shortEscape {c : Char} (h : shortEscape c = none) : c ≠ '"' ∧ c ≠ '\\' := by
  constructor
  · rintro rfl
    cases h
  · rintro rfl
    cases h

/-- The digits of a control character give its code. -/
theorem codeUnit_hexDigits :
    ∀ n < 0x20, codeUnit '0' '0' (hexDigit (n / 16)) (hexDigit n) = some n := by
  decide

/-- A control character is no half of a surrogate pair. -/
theorem not_surrogate_of_control {n : Nat} (h : n < 0x20) :
    isHighSurrogate n = false ∧ isLowSurrogate n = false := by
  simp only [isHighSurrogate, isLowSurrogate, Bool.and_eq_false_iff, decide_eq_false_iff_not]
  omega

theorem readQuoted_short {c e : Char} (hu : e ≠ 'u') (hc : unescape e = some c) (s : List Char) :
    readQuoted ('\\' :: e :: s) = (readQuoted s).map fun (t, s) => (c :: t, s) := by
  simp [readQuoted, hu, hc]

theorem readQuoted_plain {c : Char} (hquote : c ≠ '"') (hslash : c ≠ '\\')
    (hcontrol : ¬ c.toNat < 0x20) (s : List Char) :
    readQuoted (c :: s) = (readQuoted s).map fun (t, s) => (c :: t, s) := by
  simp [readQuoted, hslash, hcontrol]

/-- A character is read back from the way it stands in a text. -/
theorem readQuoted_escape (c : Char) (s : List Char) :
    readQuoted (escape c ++ s) = (readQuoted s).map fun (t, s) => (c :: t, s) := by
  unfold escape
  cases hshort : shortEscape c with
  | some e =>
    obtain ⟨hu, hc⟩ := unescape_of_shortEscape hshort
    exact readQuoted_short hu hc s
  | none =>
    obtain ⟨hquote, hslash⟩ := plain_of_shortEscape hshort
    by_cases hcontrol : c.toNat < 0x20
    · -- The other control characters are written by their code.
      obtain ⟨hhigh, hlow⟩ := not_surrogate_of_control hcontrol
      simp only [hcontrol, ↓reduceIte, List.cons_append, List.nil_append, readQuoted,
        codeUnit_hexDigits c.toNat hcontrol, hhigh, hlow, Bool.false_eq_true, Char.ofNat_toNat]
    · rw [if_neg hcontrol]
      exact readQuoted_plain hquote hslash hcontrol s

/-- A text is read back, up to its closing quotation mark. -/
theorem readQuoted_escaped (s rest : List Char) :
    readQuoted (s.flatMap escape ++ '"' :: rest) = some (s, rest) := by
  induction s with
  | nil => rfl
  | cons c s ih => rw [List.flatMap_cons, List.append_assoc, readQuoted_escape, ih, Option.map_some]

-- ============================================================== numbers

/-- A text that may stand behind a value: it is empty, or a list or an
object goes on in it or ends. -/
def Follows (rest : List Char) : Prop :=
  ∀ c ∈ rest.head?, c = ',' ∨ c = ']' ∨ c = '\x7d'

theorem follows_nil : Follows [] := by
  simp [Follows]

theorem follows_comma (rest : List Char) : Follows (',' :: rest) := by
  simp [Follows]

theorem follows_bracket (rest : List Char) : Follows (']' :: rest) := by
  simp [Follows]

theorem follows_brace (rest : List Char) : Follows ('\x7d' :: rest) := by
  simp [Follows]

variable {rest : List Char}

theorem Follows.endsRun (h : Follows rest) : Text.EndsRun rest := by
  intro c hc
  rcases h c hc with rfl | rfl | rfl
  · rfl
  · rfl
  · rfl

theorem Follows.readFraction (h : Follows rest) : readFraction rest = some ([], rest) := by
  cases rest with
  | nil => rfl
  | cons c s =>
    rcases h c rfl with rfl | rfl | rfl
    · rfl
    · rfl
    · rfl

theorem Follows.readExponent (h : Follows rest) : readExponent rest = some (none, rest) := by
  cases rest with
  | nil => rfl
  | cons c s =>
    rcases h c rfl with rfl | rfl | rfl
    · rfl
    · rfl
    · rfl

/-- The digits of a number are read back, with no zero in front of them. -/
theorem readWhole_digits (n : Nat) (h : Follows rest) :
    readWhole (Text.digits n ++ rest) = some (Text.digits n, rest) := by
  have hspan : Text.spanDigits (Text.digits n ++ rest) = (Text.digits n, rest) :=
    Text.spanDigits_append (fun _ => Text.isDigit_of_mem_digits) h.endsRun
  cases hd : Text.digits n with
  | nil => exact absurd hd (Text.digits_ne_nil n)
  | cons c s =>
    rw [hd, List.cons_append] at hspan
    by_cases hc : c = '0'
    · -- A zero in front is the only digit, and no other digit may follow it.
      subst hc
      have hs : s = [] := by
        rw [Text.eq_zero_of_digits hd] at hd
        exact (List.cons.inj hd).2.symm
      have hrun : (Text.spanDigits rest).1 = [] := h.endsRun.takeWhile
      simp [hs, readWhole, hrun]
    · simp [readWhole, hc, hspan]

theorem readUnsigned_digits (negative : Bool) (n : Nat) (h : Follows rest) :
    readUnsigned negative (Text.digits n ++ rest)
      = some (⟨negative, Text.digits n, [], none⟩, rest) := by
  simp [readUnsigned, readWhole_digits n h, h.readFraction, h.readExponent]

/-- Digits are no minus sign, so they are read as a number without one. -/
theorem readNumeral_digits (n : Nat) (s : List Char) :
    readNumeral (Text.digits n ++ s) = readUnsigned false (Text.digits n ++ s) := by
  unfold readNumeral
  split
  · next t heq =>
    obtain ⟨c, d, hd⟩ := List.exists_cons_of_ne_nil (Text.digits_ne_nil n)
    have hc : Text.isDigit c = true := by
      apply Text.isDigit_of_mem_digits (n := n)
      rw [hd]
      exact List.mem_cons_self
    rw [hd] at heq
    rw [(List.cons.inj heq).1] at hc
    exact absurd hc (by decide)
  · rfl

theorem toJson?_natural {n : Nat} (h : n < twoTo 64) :
    Numeral.toJson? ⟨false, Text.digits n, [], none⟩ = some (.whole n) := by
  simp [Numeral.toJson?, Numeral.isWhole, h]

theorem toJson?_negative {n : Nat} (hpos : 0 < n) (h : n ≤ twoTo 63) :
    Numeral.toJson? ⟨true, Text.digits n, [], none⟩ = some (.whole (-n)) := by
  simp [Numeral.toJson?, Numeral.isWhole, hpos, h]

/-- A whole number of sixty-four bits, signed or not. -/
def IsWord (n : Int) : Prop :=
  -(twoTo 63 : Int) ≤ n ∧ n < twoTo 64

theorem readNumber_int {n : Int} (hn : IsWord n) (h : Follows rest) :
    readNumber (Text.int n ++ rest) = some (.whole n, rest) := by
  obtain ⟨hlow, hhigh⟩ := hn
  unfold Text.int
  split
  · next hneg =>
    have hread : readNumeral ('-' :: Text.digits n.natAbs ++ rest)
        = some (⟨true, Text.digits n.natAbs, [], none⟩, rest) :=
      readUnsigned_digits true n.natAbs h
    have hvalue : -(n.natAbs : Int) = n := by omega
    simp only [readNumber, hread, toJson?_negative (n := n.natAbs) (by omega) (by omega), hvalue,
      Option.bind_eq_bind, Option.bind_some, Option.pure_def]
  · next hneg =>
    have hread : readNumeral (Text.digits n.natAbs ++ rest)
        = some (⟨false, Text.digits n.natAbs, [], none⟩, rest) := by
      rw [readNumeral_digits, readUnsigned_digits false n.natAbs h]
    have hvalue : (n.natAbs : Int) = n := by omega
    simp only [readNumber, hread, toJson?_natural (n := n.natAbs) (by omega), hvalue,
      Option.bind_eq_bind, Option.bind_some, Option.pure_def]

end QueryText.Json
