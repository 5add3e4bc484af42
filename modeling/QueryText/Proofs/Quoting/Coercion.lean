/-
Text in the place of exact numbers. Columns of whole and of decimal numbers
take strings and decimals by a grammar: a decimal column every numeral, a
column of whole numbers those without digits behind the point but zeros.
Strings may have blanks around them, decimals may not.

Between the grammar and the literals stands a reader from text to text. What
it owes is the same for both types of column (`ReadsExactly`): it takes the
texts of its grammar and no others, and what it gives is a numeral of the
same number that it gives back unchanged. The literals follow from that in
one step (`ReadsExactly.takesNumbers`), because a numeral has no blanks, so
that trimming, too, leaves what was written as it is.
-/
import QueryText.Proofs.Number.Decimal
import QueryText.Quoting

namespace QueryText.Quoter

open Text

-- ============================================================ the readers

theorem integral?_eq_some_iff {s out : List Char} :
    integral? s = some out
      ↔ ∃ n : Numeral, n.Spells s ∧ (∀ digits ∈ n.fraction, ∀ c ∈ digits, c = '0')
        ∧ out = n.writeWhole := by
  unfold integral?
  constructor
  · intro h
    split at h
    · next n hread =>
      split at h
      · next hzeros =>
        cases h
        exact ⟨n, Numeral.read_eq_some_iff.mp hread, Numeral.isIntegral_iff.mp hzeros, rfl⟩
      · cases h
    · cases h
  · intro h
    obtain ⟨n, hn, hzeros, rfl⟩ := h
    rw [Numeral.read_eq_some_iff.mpr hn]
    exact if_pos (Numeral.isIntegral_iff.mpr hzeros)

theorem decimal?_eq_some_iff {s out : List Char} :
    decimal? s = some out ↔ IsNumeral s ∧ out = s := by
  unfold decimal?
  rw [Option.map_eq_some_iff]
  constructor
  · intro h
    obtain ⟨n, hread, rfl⟩ := h
    exact ⟨⟨n, Numeral.read_eq_some_iff.mp hread⟩, rfl⟩
  · intro h
    obtain ⟨⟨n, hn⟩, rfl⟩ := h
    exact ⟨n, Numeral.read_eq_some_iff.mpr hn, rfl⟩

/-- What a reader of exact numbers owes. -/
structure ReadsExactly (grammar : List Char → Prop)
    (reader : List Char → Option (List Char)) : Prop where
  accepts : ∀ s, (∃ out, reader s = some out) ↔ grammar s
  numeral : ∀ s out, reader s = some out → IsNumeral out
  denotes : ∀ s out, reader s = some out → ∀ x, Text.Denotes out x ↔ Text.Denotes s x
  settled : ∀ s out, reader s = some out → reader out = some out

theorem readsExactly_integral : ReadsExactly IsWhole integral? where
  accepts s := by
    constructor
    · intro h
      obtain ⟨out, hout⟩ := h
      obtain ⟨n, hn, hzeros, -⟩ := integral?_eq_some_iff.mp hout
      exact ⟨n, hn, hzeros⟩
    · intro h
      obtain ⟨n, hn, hzeros⟩ := h
      exact ⟨n.writeWhole, integral?_eq_some_iff.mpr ⟨n, hn, hzeros, rfl⟩⟩
  numeral s out h := by
    obtain ⟨n, hn, -, rfl⟩ := integral?_eq_some_iff.mp h
    exact ⟨_, hn.1.spells_writeWhole⟩
  denotes s out h x := by
    obtain ⟨n, hn, hzeros, rfl⟩ := integral?_eq_some_iff.mp h
    rw [denotes_iff hn.1.spells_writeWhole, denotes_iff hn, Numeral.value_of_zeros hzeros]
  settled s out h := by
    obtain ⟨n, hn, -, rfl⟩ := integral?_eq_some_iff.mp h
    exact integral?_eq_some_iff.mpr ⟨_, hn.1.spells_writeWhole, by simp, rfl⟩

theorem readsExactly_decimal : ReadsExactly IsNumeral decimal? where
  accepts s := by simp [decimal?_eq_some_iff]
  numeral s out h := by
    obtain ⟨hs, rfl⟩ := decimal?_eq_some_iff.mp h
    exact hs
  denotes s out h x := by
    obtain ⟨-, rfl⟩ := decimal?_eq_some_iff.mp h
    exact Iff.rfl
  settled s out h := by
    obtain ⟨-, rfl⟩ := decimal?_eq_some_iff.mp h
    exact h

/-- A whole number is written as digits, with a minus sign at most. -/
theorem digits_of_integral? {s out : List Char} (h : integral? s = some out) :
    ∃ digits, isDigits digits = true ∧ (out = digits ∨ out = '-' :: digits) := by
  obtain ⟨n, hn, -, rfl⟩ := integral?_eq_some_iff.mp h
  refine ⟨n.whole, hn.1.whole, ?_⟩
  unfold Numeral.writeWhole
  split
  · exact .inr rfl
  · exact .inl rfl

theorem finite?_eq_some {s out : List Char} (h : finite? s = some out) :
    ∃ x, Binary64.read s = some x ∧ x.isFinite = true ∧ out = x.write := by
  unfold finite? at h
  split at h
  · next x hread =>
    split at h
    · next hfinite =>
      cases h
      exact ⟨x, hread, hfinite, rfl⟩
    · cases h
  · cases h

/-- What a reader of numbers gives is a numeral. -/
theorem isNumeral_of_numeric? {type : LogicalType} {s out : List Char}
    (h : numeric? type s = some out) : IsNumeral out := by
  unfold numeric? at h
  split at h
  · exact readsExactly_integral.numeral s out h
  · obtain ⟨x, -, hfinite, rfl⟩ := finite?_eq_some h
    exact x.isNumeral_write hfinite
  · exact readsExactly_decimal.numeral s out h

/-- What a reader of numbers takes: numerals, and for binary64 numbers what
else stands for one. -/
theorem source_of_numeric? {type : LogicalType} {s out : List Char}
    (h : numeric? type s = some out) :
    IsNumeral s ∨ type = .float
      ∧ ∃ x, Binary64.read s = some x ∧ x.isFinite = true ∧ out = x.write := by
  unfold numeric? at h
  split at h
  · exact .inl ((readsExactly_integral.accepts s).mp ⟨out, h⟩).isNumeral
  · exact .inr ⟨rfl, finite?_eq_some h⟩
  · exact .inl ((readsExactly_decimal.accepts s).mp ⟨out, h⟩)

-- =========================================================== the literals

variable {q : Quoter} {column : Column} {t out : String}

theorem coerced_eq_ok_iff {given name : String} {target : LogicalType}
    {result : Option (List Char)} :
    coerced given target name result = .ok out ↔ result = some out.toList := by
  cases result with
  | none => simp [coerced]
  | some s =>
      simp only [coerced, Except.ok.injEq, Option.some_inj]
      constructor
      · rintro rfl
        exact String.toList_ofList.symm
      · rintro rfl
        exact String.ofList_toList

/-- A string in a numeric column is read without the blanks around it. -/
theorem value_string_of_numeric (h : column.logicalType.isNumeric = true) :
    q.value (.string t) (some column)
      = coerced t column.logicalType column.name
          (numeric? column.logicalType (trim t.toList)) := by
  simp [value, h]

/-- A decimal in a column of exact numbers is read as it stands. -/
theorem value_decimal_eq_ok_iff (h : column.logicalType.isNumeric = true)
    (hexact : column.logicalType ≠ .float) :
    q.value (.decimal t) (some column) = .ok out
      ↔ numeric? column.logicalType t.toList = some out.toList := by
  obtain ⟨name, type⟩ := column
  cases type with
  | int => exact coerced_eq_ok_iff
  | decimal precision scale => exact coerced_eq_ok_iff
  | float => exact absurd rfl hexact
  | bool | string | date | timestamp | json | unknown => cases h

/-- What a column of exact numbers does with strings and decimals: it takes
those of a grammar, keeps their number, leaves what it has written as it is,
and refuses a string by the text that was given. -/
structure TakesNumbers (q : Quoter) (column : Column) (grammar : List Char → Prop) : Prop where
  string_taken : ∀ t : String,
    (∃ out, q.value (.string t) (some column) = .ok out) ↔ grammar (trim t.toList)
  decimal_taken : ∀ t : String,
    (∃ out, q.value (.decimal t) (some column) = .ok out) ↔ grammar t.toList
  string_kept : ∀ t out : String, q.value (.string t) (some column) = .ok out →
    ∀ x, Text.Denotes out.toList x ↔ Text.Denotes (trim t.toList) x
  decimal_kept : ∀ t out : String, q.value (.decimal t) (some column) = .ok out →
    ∀ x, Text.Denotes out.toList x ↔ Text.Denotes t.toList x
  settled : ∀ t out : String,
    q.value (.string t) (some column) = .ok out ∨ q.value (.decimal t) (some column) = .ok out →
      q.value (.string out) (some column) = .ok out
        ∧ q.value (.decimal out) (some column) = .ok out
  string_refused : ∀ (t : String) (e : QuotingError),
    q.value (.string t) (some column) = .error e →
      e = .coercion t column.logicalType column.name

theorem ReadsExactly.takesNumbers {grammar : List Char → Prop}
    (hreader : ReadsExactly grammar (numeric? column.logicalType))
    (hnumeric : column.logicalType.isNumeric = true) (hexact : column.logicalType ≠ .float)
    (q : Quoter) : q.TakesNumbers column grammar := by
  have hstring : ∀ t out : String, q.value (.string t) (some column) = .ok out
      ↔ numeric? column.logicalType (trim t.toList) = some out.toList := by
    intro t out
    rw [value_string_of_numeric hnumeric, coerced_eq_ok_iff]
  have hdecimal : ∀ t out : String, q.value (.decimal t) (some column) = .ok out
      ↔ numeric? column.logicalType t.toList = some out.toList := by
    intro t out
    exact value_decimal_eq_ok_iff hnumeric hexact
  -- every text that a reader gives is that of a string
  have htaken : ∀ s, (∃ out : String, numeric? column.logicalType s = some out.toList)
      ↔ grammar s := by
    intro s
    rw [← hreader.accepts s]
    constructor
    · intro h
      obtain ⟨out, hout⟩ := h
      exact ⟨out.toList, hout⟩
    · intro h
      obtain ⟨out, hout⟩ := h
      exact ⟨String.ofList out, by rw [hout, String.toList_ofList]⟩
  refine ⟨?string, ?decimal, ?stringKept, ?decimalKept, ?settled, ?refused⟩
  case string =>
    intro t
    simp only [hstring, htaken]
  case decimal =>
    intro t
    simp only [hdecimal, htaken]
  case stringKept =>
    intro t out h
    exact hreader.denotes _ _ ((hstring t out).mp h)
  case decimalKept =>
    intro t out h
    exact hreader.denotes _ _ ((hdecimal t out).mp h)
  case settled =>
    intro t out h
    obtain ⟨s, hs⟩ : ∃ s, numeric? column.logicalType s = some out.toList := by
      rcases h with h | h
      · exact ⟨_, (hstring t out).mp h⟩
      · exact ⟨_, (hdecimal t out).mp h⟩
    have hsettled := hreader.settled _ _ hs
    rw [hstring, hdecimal, (hreader.numeral _ _ hs).trim_eq]
    exact ⟨hsettled, hsettled⟩
  case refused =>
    intro t e h
    rw [value_string_of_numeric hnumeric] at h
    unfold coerced at h
    split at h
    · cases h
    · cases h
      rfl

/-- Columns of whole and of decimal numbers take exactly the texts of their
grammar, and keep their number; a whole number is written without fraction
and plus sign. -/
theorem exact_numbers_kept (q : Quoter) (name : String) :
    q.TakesNumbers ⟨name, .int⟩ IsWhole
      ∧ (∀ precision scale, q.TakesNumbers ⟨name, .decimal precision scale⟩ IsNumeral)
      ∧ ∀ t out : String,
          q.value (.string t) (some ⟨name, .int⟩) = .ok out
            ∨ q.value (.decimal t) (some ⟨name, .int⟩) = .ok out →
          ∃ digits, isDigits digits = true
            ∧ (out.toList = digits ∨ out.toList = '-' :: digits) := by
  refine ⟨?whole, fun precision scale => ?decimal, fun t out h => ?written⟩
  case whole => exact readsExactly_integral.takesNumbers rfl (by simp) q
  case decimal => exact readsExactly_decimal.takesNumbers rfl (by simp) q
  case written =>
    rcases h with h | h
    · rw [value_string_of_numeric rfl, coerced_eq_ok_iff] at h
      exact digits_of_integral? h
    · rw [value_decimal_eq_ok_iff rfl (by simp)] at h
      exact digits_of_integral? h

/-- A number past sixty-four bits, with a fraction of zeros and blanks
around it. -/
theorem exact_numbers_kept_long :
    (ofDialect .ansi).value (.string " +123456789012345678901234.00\t") (some ⟨"age", .int⟩)
        = .ok "123456789012345678901234"
      ∧ (∀ x, Text.Denotes "123456789012345678901234".toList x
          ↔ Text.Denotes "+123456789012345678901234.00".toList x)
      ∧ (ofDialect .ansi).value (.decimal "123456789012345678901234") (some ⟨"age", .int⟩)
        = .ok "123456789012345678901234"
      ∧ (ofDialect .ansi).value (.string " 1.2.3") (some ⟨"total", .decimal none none⟩)
        = .error (.coercion " 1.2.3" (.decimal none none) "total") := by
  have hwritten : (ofDialect .ansi).value (.string " +123456789012345678901234.00\t")
      (some ⟨"age", .int⟩) = .ok "123456789012345678901234" := by
    decide +kernel
  obtain ⟨hwhole, -, -⟩ := exact_numbers_kept (ofDialect .ansi) "age"
  obtain ⟨-, hdecimal, -⟩ := exact_numbers_kept (ofDialect .ansi) "total"
  refine ⟨hwritten, hwhole.string_kept _ _ hwritten, (hwhole.settled _ _ (.inl hwritten)).2, ?_⟩
  cases h : (ofDialect .ansi).value (.string " 1.2.3") (some ⟨"total", .decimal none none⟩) with
  | error e => rw [(hdecimal none none).string_refused _ e h]
  | ok out =>
      have htaken := ((hdecimal none none).string_taken " 1.2.3").mp ⟨out, h⟩
      exact absurd htaken (not_isNumeral_of_read (by decide +kernel))

end QueryText.Quoter
