/-
# RON: written numbers are read back

The text that is written for a natural number or for a double is a literal of the notation
(`IsLiteral`), and what is wanted of it is the number again (`natural?_decimalDigits`,
`double?_textIn`).
-/
import WindowSystem.Proofs.Toml.Numbers
import WindowSystem.Ron.Writer
import WindowSystem.Ron.Number

namespace WindowSystem.Ron

open Toml (ne_of_isDigit signText wholeDigits_decimalDigits)

/-! ## Digits -/

/-- Characters of one sort are split from a text that goes on with another. -/
theorem span_append {p : Char → Bool} {cs rest : List Char} (hcs : ∀ c ∈ cs, p c = true)
    (hrest : ∀ c ∈ rest.head?, p c = false) : (cs ++ rest).span p = (cs, rest) := by
  rw [List.span_eq_takeWhile_dropWhile, List.takeWhile_append_of_pos hcs,
    List.dropWhile_append_of_pos hcs]
  cases rest with
  | nil => simp
  | cons c rest => simp [hrest c rfl]

theorem hexValue?_digit {c : Char} (hc : c.isDigit = true) :
    hexValue? c = some (c.toNat - 48) ∧ c.toNat - 48 < 10 := by
  have hbounds : '0' ≤ c ∧ c ≤ '9' := by
    simpa [Char.isDigit, Char.le_def] using hc
  have hlow : 48 ≤ c.toNat := hbounds.1
  have hhigh : c.toNat ≤ 57 := hbounds.2
  refine ⟨?_, by omega⟩
  rw [hexValue?, if_pos hbounds]

/-- Decimal digits are read as the number that they write. -/
theorem digitsInBase?_digits {ds : List Char} (hds : ∀ c ∈ ds, c.isDigit = true) (hne : ds ≠ []) :
    digitsInBase? 10 ds = some (Toml.decimalValue ds) := by
  have hfold : ∀ n, ds.foldlM (fun n c =>
      if c = '_' then some n
      else (hexValue? c).bind fun d => if d < 10 then some (n * 10 + d) else none) n =
      some (ds.foldl (fun n c => n * 10 + (c.toNat - 48)) n) := by
    clear hne
    induction ds with
    | nil => intro n; rfl
    | cons c ds ih =>
      intro n
      have hc : c.isDigit = true := hds c List.mem_cons_self
      obtain ⟨hvalue, hlt⟩ := hexValue?_digit hc
      have hunderscore : c ≠ '_' := ne_of_isDigit hc (by decide)
      rw [List.foldlM_cons, if_neg hunderscore, hvalue]
      simp only [Option.bind_eq_bind, Option.bind_some, if_pos hlt, List.foldl_cons]
      exact ih (fun d hd => hds d (List.mem_cons_of_mem c hd)) _
  obtain ⟨d, ds, rfl⟩ := List.exists_cons_of_ne_nil hne
  have hunderscore : d ≠ '_' := ne_of_isDigit (hds d List.mem_cons_self) (by decide)
  unfold digitsInBase?
  split
  · rename_i heq
    cases heq
  · rename_i heq
    exact absurd (List.cons.inj heq).1 hunderscore
  · exact hfold 0

/-- A written natural number is read back. -/
theorem natural?_decimalDigits (n : Nat) : natural? (decimalDigits n) = some n := by
  obtain ⟨hdigits, hvalue, -⟩ := decimalDigits_spec n
  -- the letter of another base would be a digit
  have hletter : ∀ {c : Char} {rest : List Char}, decimalDigits n = '0' :: c :: rest →
      c.isDigit = false → False := by
    intro c rest heq hc
    have hmem : c ∈ decimalDigits n := by rw [heq]; simp
    exact ne_of_isDigit (hdigits c hmem) hc rfl
  unfold natural?
  split
  · rename_i heq
    exact (hletter heq (by decide)).elim
  · rename_i heq
    exact (hletter heq (by decide)).elim
  · rename_i heq
    exact (hletter heq (by decide)).elim
  · rw [digitsInBase?_digits hdigits (decimalDigits_ne_nil n), hvalue]

/-! ## Doubles -/

theorem splitSign_digits {ds : List Char} (hds : WholeDigits ds) (negative : Bool)
    (rest : List Char) :
    splitSign (signText negative ++ (ds ++ rest)) = (negative, ds ++ rest) := by
  cases negative with
  | true => rfl
  | false =>
    obtain ⟨d, ds, rfl⟩ := List.exists_cons_of_ne_nil hds.ne_nil
    have hd : d.isDigit = true := hds.isDigit d List.mem_cons_self
    have hplus : d ≠ '+' := ne_of_isDigit hd (by decide)
    have hminus : d ≠ '-' := ne_of_isDigit hd (by decide)
    simp [signText, splitSign, hplus, hminus]

/-- Digits, with a point and others behind them or without, are a significand. -/
theorem significand?_digits {whole : List Char} (hwhole : WholeDigits whole)
    {fraction tail : List Char} (hfraction : ∀ c ∈ fraction, c.isDigit = true)
    (htail : tail = [] ∧ fraction = [] ∨ tail = '.' :: fraction) :
    significand? (whole ++ tail) = some (whole, fraction, []) := by
  have hstop : ∀ c ∈ tail.head?, c.isDigit = false := by
    rcases htail with ⟨rfl, -⟩ | rfl
    · simp
    · simp
  have hne : whole.isEmpty = false := by simpa using hwhole.ne_nil
  unfold significand?
  rw [span_append hwhole.isDigit hstop]
  rcases htail with ⟨rfl, rfl⟩ | rfl
  · simp [hne]
  · have hspan : (fraction ++ []).span Char.isDigit = (fraction, []) :=
      span_append hfraction (by simp)
    rw [List.append_nil] at hspan
    simp only [hspan, hne, Bool.false_and, Bool.false_eq_true, if_false]

/-- What starts with a digit is none of the numbers without digits. -/
theorem ne_word_of_digits {ds : List Char} (hds : WholeDigits ds) (rest : List Char) :
    ds ++ rest ≠ "inf".toList ∧ ds ++ rest ≠ "NaN".toList := by
  obtain ⟨d, ds, rfl⟩ := List.exists_cons_of_ne_nil hds.ne_nil
  have hd : d.isDigit = true := hds.isDigit d List.mem_cons_self
  constructor
  · intro heq
    exact ne_of_isDigit hd (show 'i'.isDigit = false by decide) (List.cons.inj heq).1
  · intro heq
    exact ne_of_isDigit hd (show 'N'.isDigit = false by decide) (List.cons.inj heq).1

/-- Digits with a sign or without are read as the double that they round to. -/
theorem double?_digits {whole : List Char} (hwhole : WholeDigits whole) (negative : Bool)
    {fraction tail : List Char} (hfraction : ∀ c ∈ fraction, c.isDigit = true)
    (htail : tail = [] ∧ fraction = [] ∨ tail = '.' :: fraction) :
    double? (signText negative ++ (whole ++ tail)) =
      some (Double.ofDecimal negative (Toml.decimalValue (whole ++ fraction))
        (-(fraction.length : Int))) := by
  obtain ⟨hinf, hnan⟩ := ne_word_of_digits hwhole tail
  have hvalue : decimalValue = Toml.decimalValue := rfl
  unfold double?
  simp only [splitSign_digits hwhole, if_neg hinf, if_neg hnan,
    significand?_digits hwhole hfraction htail, Option.bind_eq_bind, Option.bind_some, exponent?,
    zero_sub, hvalue]

/-- A written double that is a number is read back. -/
theorem double?_textIn {x : Double} (hx : x.isNaN = false) :
    double? (x.textIn doubleStyle).toList = some x := by
  cases hvalue : x.value with
  | nan => simp [Double.isNaN, hvalue] at hx
  | infinite negative =>
    have htext : (x.textIn doubleStyle).toList = signText negative ++ "inf".toList := by
      simp only [Double.textIn, hvalue]
      cases negative <;> rfl
    have hread : double? (signText negative ++ "inf".toList) = some (Double.infinity negative) := by
      cases negative <;> rfl
    rw [htext, hread, Double.eq_infinity_of_value hvalue]
  | finite negative m q =>
    obtain ⟨whole, fraction, -, hpositions, htext⟩ :=
      Double.textIn_finite (show doubleStyle.fractionAlways = true from rfl) hvalue
    have hread := double?_digits hpositions.wholeDigits negative hpositions.isDigit (Or.inr rfl)
    rw [Double.ofDecimal_positions hvalue hpositions] at hread
    rw [htext]
    exact hread

/-! ## Literals -/

/-- A literal of the notation that starts like a number. -/
structure IsLiteral (literal : List Char) : Prop where
  startsNumber : startsNumber literal = true
  isNumberChar : ∀ c ∈ literal, isNumberChar c = true
  isNumeric : isNumeric literal = true

theorem isNumberChar_of_isDigit {c : Char} (hc : c.isDigit = true) : isNumberChar c = true := by
  simp [isNumberChar, Char.isAlphanum, hc]

/-- What is read as a double is a number. -/
theorem isNumeric_of_double? {literal : List Char} {x : Double} (h : double? literal = some x) :
    isNumeric literal = true := by
  unfold isNumeric
  rw [h]
  exact Bool.or_true _

theorem isLiteral_decimalDigits (n : Nat) : IsLiteral (decimalDigits n) := by
  have hds := wholeDigits_decimalDigits n
  have hread := double?_digits hds false (List.forall_mem_nil _) (Or.inl ⟨rfl, rfl⟩)
  rw [List.append_nil] at hread
  refine ⟨?_, fun c hc => isNumberChar_of_isDigit (hds.isDigit c hc), isNumeric_of_double? hread⟩
  obtain ⟨d, ds, heq⟩ := List.exists_cons_of_ne_nil hds.ne_nil
  have hd : d.isDigit = true := hds.isDigit d (by rw [heq]; exact List.mem_cons_self)
  simp [heq, Ron.startsNumber, hd]

/-- A written double that is a number is a literal or the word for infinity. -/
theorem isLiteral_textIn {x : Double} (hx : x.isNaN = false) :
    IsLiteral (x.textIn doubleStyle).toList ∨ (x.textIn doubleStyle).toList = "inf".toList := by
  have hread := isNumeric_of_double? (double?_textIn hx)
  cases hvalue : x.value with
  | nan => simp [Double.isNaN, hvalue] at hx
  | infinite negative =>
    cases negative with
    | true =>
      have htext : (x.textIn doubleStyle).toList = "-inf".toList := by
        simp only [Double.textIn, hvalue]
        rfl
      rw [htext] at hread ⊢
      exact Or.inl ⟨rfl, List.all_eq_true.mp (by decide), hread⟩
    | false =>
      right
      simp only [Double.textIn, hvalue]
      rfl
  | finite negative m q =>
    obtain ⟨whole, fraction, -, hpositions, htext⟩ :=
      Double.textIn_finite (show doubleStyle.fractionAlways = true from rfl) hvalue
    rw [htext] at hread ⊢
    refine Or.inl ⟨?_, ?_, hread⟩
    · obtain ⟨d, ds, heq⟩ := List.exists_cons_of_ne_nil hpositions.wholeDigits.ne_nil
      have hd : d.isDigit = true :=
        hpositions.wholeDigits.isDigit d (by rw [heq]; exact List.mem_cons_self)
      cases negative <;> simp [heq, Ron.startsNumber, hd]
    · intro c hc
      have hsort : c = '-' ∨ c = '.' ∨ c.isDigit = true := by
        rcases List.mem_append.mp hc with hsign | hrest
        · cases negative with
          | true => exact Or.inl (List.mem_singleton.mp hsign)
          | false => cases hsign
        · rcases List.mem_append.mp hrest with hwhole | htail
          · exact Or.inr (Or.inr (hpositions.wholeDigits.isDigit c hwhole))
          · rcases List.mem_cons.mp htail with hpoint | hfraction
            · exact Or.inr (Or.inl hpoint)
            · exact Or.inr (Or.inr (hpositions.isDigit c hfraction))
      rcases hsort with rfl | rfl | hdigit
      · decide
      · decide
      · exact isNumberChar_of_isDigit hdigit

end WindowSystem.Ron
