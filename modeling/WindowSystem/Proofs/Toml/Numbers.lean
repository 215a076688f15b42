/-
# TOML: written numbers are read back

A number is read as the number that was written when a comma, a bracket or the end of the line
stands behind it. It is not taken for a date, since no sign and no colon follow its first digits,
and a whole number is not taken for a fraction (`numeric?_float`, `numeric?_int`).
-/
import WindowSystem.Proofs.Number.ShortestDecimal
import WindowSystem.Toml.Document
import WindowSystem.Toml.Writer

namespace WindowSystem.Toml

/-- What may stand behind a value: a comma, a closing bracket or a line break. -/
inductive AfterValue : List Char → Prop where
  | comma (rest : List Char) : AfterValue (',' :: rest)
  | bracket (rest : List Char) : AfterValue (']' :: rest)
  | lineBreak (rest : List Char) : AfterValue ('\n' :: rest)

/-! ## Digits -/

theorem ne_of_isDigit {c d : Char} (hc : c.isDigit = true) (hd : d.isDigit = false) : c ≠ d := by
  rintro rfl
  rw [hc] at hd
  cases hd

theorem digits?_cons {c d : Char} (hc : c.isDigit = true) (hd : d ≠ '_') (rest : List Char) :
    digits? Char.isDigit (c :: d :: rest) =
      if d.isDigit = true then
        (digits? Char.isDigit (d :: rest)).map fun (ds, rest) => (c :: ds, rest)
      else some ([c], d :: rest) := by
  rw [digits?.eq_def]
  simp [hc, hd]

/-- Digits are read up to a character that is neither a digit nor an underscore. -/
theorem digits?_append {ds : List Char} (hds : ∀ c ∈ ds, c.isDigit = true) (hne : ds ≠ [])
    {c : Char} (hc : c.isDigit = false) (hunderscore : c ≠ '_') (rest : List Char) :
    digits? Char.isDigit (ds ++ c :: rest) = some (ds, c :: rest) := by
  induction ds with
  | nil => exact absurd rfl hne
  | cons d ds ih =>
    have hd : d.isDigit = true := hds d List.mem_cons_self
    have hds' : ∀ c ∈ ds, c.isDigit = true := fun c hc => hds c (List.mem_cons_of_mem d hc)
    cases ds with
    | nil =>
      rw [List.singleton_append, digits?_cons hd hunderscore, if_neg (by simp [hc])]
    | cons e ds =>
      have he : e.isDigit = true := hds' e List.mem_cons_self
      rw [List.cons_append, List.cons_append, digits?_cons hd (ne_of_isDigit he (by decide)),
        if_pos he, ← List.cons_append, ih hds' (List.cons_ne_nil _ _)]
      rfl

theorem wholeDigits?_append {ds : List Char} (hds : WholeDigits ds) {c : Char}
    (hc : c.isDigit = false) (hunderscore : c ≠ '_') (rest : List Char) :
    wholeDigits? (ds ++ c :: rest) = some (ds, c :: rest) := by
  by_cases hzero : ds.head? = some '0'
  · rw [hds.zero_alone hzero]
    rfl
  · obtain ⟨d, ds', rfl⟩ := List.exists_cons_of_ne_nil hds.ne_nil
    have hd : d ≠ '0' := fun h => hzero (by rw [h]; rfl)
    rw [← digits?_append hds.isDigit hds.ne_nil hc hunderscore rest, List.cons_append,
      wholeDigits?]
    simp [hd]

/-! ## No dates -/

theorem fixedDigits?_eq_some {count low high : Nat} {cs rest : List Char} {n : Nat}
    (h : fixedDigits? count low high cs = some (n, rest)) :
    ∃ ds, ds.length = count ∧ (∀ c ∈ ds, c.isDigit = true) ∧ cs = ds ++ rest := by
  unfold fixedDigits? at h
  simp only at h
  split at h
  · rename_i hds
    split at h
    · cases h
      exact ⟨cs.take count, hds.1, fun c hc => List.all_eq_true.mp hds.2 c hc,
        (List.take_append_drop count cs).symm⟩
    · cases h
  · cases h

/-- The first character behind digits is the same however the digits are found. -/
theorem eq_of_digits_append {ds ds' : List Char} (hds : ∀ c ∈ ds, c.isDigit = true)
    (hds' : ∀ c ∈ ds', c.isDigit = true) {c c' : Char} {rest rest' : List Char}
    (hc : c.isDigit = false) (hc' : c'.isDigit = false)
    (h : ds ++ c :: rest = ds' ++ c' :: rest') : ds = ds' ∧ c = c' := by
  induction ds generalizing ds' with
  | nil =>
    cases ds' with
    | nil => exact ⟨rfl, (List.cons.inj h).1⟩
    | cons d ds' =>
      have hd := hds' d List.mem_cons_self
      rw [List.nil_append, List.cons_append] at h
      rw [← (List.cons.inj h).1, hc] at hd
      cases hd
  | cons d ds ih =>
    cases ds' with
    | nil =>
      have hd := hds d List.mem_cons_self
      rw [List.nil_append, List.cons_append] at h
      rw [(List.cons.inj h).1, hc'] at hd
      cases hd
    | cons d' ds' =>
      rw [List.cons_append, List.cons_append] at h
      obtain ⟨hhead, htail⟩ := List.cons.inj h
      obtain ⟨hsame, hnext⟩ := ih (fun c hc => hds c (List.mem_cons_of_mem d hc))
        (fun c hc => hds' c (List.mem_cons_of_mem d' hc)) htail
      exact ⟨by rw [hhead, hsame], hnext⟩

/-- Behind a given number of digits there is no separator, if there is none behind the digits at the
front of a text. -/
theorem fixedDigits?_expect? {ds : List Char} (hds : ∀ c ∈ ds, c.isDigit = true) {c sep : Char}
    (hc : c.isDigit = false) (hsep : sep.isDigit = false) (hne : ds = [] ∨ c ≠ sep)
    {count : Nat} (hcount : 0 < count) (low high : Nat) (rest : List Char) :
    ((fixedDigits? count low high (ds ++ c :: rest)).bind fun (_, rest) => expect? sep rest) =
      none := by
  cases hfixed : fixedDigits? count low high (ds ++ c :: rest) with
  | none => rfl
  | some found =>
    obtain ⟨n, rest'⟩ := found
    obtain ⟨ds', hlength, hds', hsplit⟩ := fixedDigits?_eq_some hfixed
    cases rest' with
    | nil => rfl
    | cons d rest' =>
      show (if sep = d then some rest' else none) = none
      refine if_neg fun hd => ?_
      subst hd
      obtain ⟨rfl, rfl⟩ := eq_of_digits_append hds hds' hc hsep hsplit
      rcases hne with rfl | hne
      · rw [List.length_nil] at hlength
        omega
      · exact hne rfl

/-- A text is not taken for a date or a time if there is no separator behind the digits at its
front. -/
theorem dateValue?_eq_none {ds : List Char} (hds : ∀ c ∈ ds, c.isDigit = true) {c : Char}
    {rest : List Char} (hc : c.isDigit = false) (hne : ds = [] ∨ c ≠ '-' ∧ c ≠ ':') :
    dateValue? (ds ++ c :: rest) = none := by
  have hdate : date? (ds ++ c :: rest) = none := by
    have hyear := fixedDigits?_expect? hds hc (show '-'.isDigit = false by decide)
      (hne.imp_right And.left) (show 0 < 4 by decide) 0 9999 rest
    unfold date?
    cases hfixed : fixedDigits? 4 0 9999 (ds ++ c :: rest) with
    | none => rfl
    | some found =>
      rw [hfixed] at hyear
      have hexpect : expect? '-' found.2 = none := hyear
      simp [hexpect]
  have htime : time? (ds ++ c :: rest) = none := by
    have hhour := fixedDigits?_expect? hds hc (show ':'.isDigit = false by decide)
      (hne.imp_right And.right) (show 0 < 2 by decide) 0 23 rest
    unfold time?
    cases hfixed : fixedDigits? 2 0 23 (ds ++ c :: rest) with
    | none => rfl
    | some found =>
      rw [hfixed] at hhour
      have hexpect : expect? ':' found.2 = none := hhour
      simp [hexpect]
  rw [dateValue?, dateTime?, hdate, htime]
  rfl

theorem dateValue?_cons {c : Char} (hc : c.isDigit = false) (rest : List Char) :
    dateValue? (c :: rest) = none :=
  @dateValue?_eq_none [] (by simp) c rest hc (Or.inl rfl)

/-! ## Fractions -/

theorem AfterValue.exists_cons {rest : List Char} (h : AfterValue rest) :
    ∃ c more, rest = c :: more ∧ c.isDigit = false ∧ c ≠ '_' ∧ c ≠ '.' ∧ c ≠ 'e' ∧ c ≠ 'E' ∧
      c ≠ '-' ∧ c ≠ ':' ∧ c ≠ 'x' ∧ c ≠ 'o' ∧ c ≠ 'b' := by
  cases h with
  | comma more => exact ⟨',', more, rfl, by decide⟩
  | bracket more => exact ⟨']', more, rfl, by decide⟩
  | lineBreak more => exact ⟨'\n', more, rfl, by decide⟩

/-- A sign, or none, before digits. -/
def signText (negative : Bool) : List Char := if negative then ['-'] else []

theorem sign_digits {ds : List Char} (hds : WholeDigits ds) (negative : Bool) (rest : List Char) :
    sign (signText negative ++ (ds ++ rest)) = (negative, ds ++ rest) := by
  cases negative with
  | true => rfl
  | false =>
    obtain ⟨d, ds, rfl⟩ := List.exists_cons_of_ne_nil hds.ne_nil
    have hd : d.isDigit = true := hds.isDigit d List.mem_cons_self
    have hplus : d ≠ '+' := ne_of_isDigit hd (by decide)
    have hminus : d ≠ '-' := ne_of_isDigit hd (by decide)
    simp [signText, sign, hplus, hminus]

/-- A number with a sign or without is not taken for a date. -/
theorem dateValue?_digits {ds : List Char} (hds : WholeDigits ds) (negative : Bool) {c : Char}
    (hc : c.isDigit = false) (hminus : c ≠ '-') (hcolon : c ≠ ':') (rest : List Char) :
    dateValue? (signText negative ++ (ds ++ c :: rest)) = none := by
  cases negative with
  | true => exact dateValue?_cons (by decide) _
  | false => exact dateValue?_eq_none hds.isDigit hc (Or.inr ⟨hminus, hcolon⟩)

/-- A number with digits is not taken for one without. -/
theorem specialFloat?_digits {ds : List Char} (hds : WholeDigits ds) (negative : Bool)
    (rest : List Char) : specialFloat? (signText negative ++ (ds ++ rest)) = none := by
  unfold specialFloat?
  rw [sign_digits hds]
  obtain ⟨d, ds, rfl⟩ := List.exists_cons_of_ne_nil hds.ne_nil
  have hd : d.isDigit = true := hds.isDigit d List.mem_cons_self
  have hi : d ≠ 'i' := ne_of_isDigit hd (by decide)
  have hn : d ≠ 'n' := ne_of_isDigit hd (by decide)
  simp [hi, hn]

/-- A number with a point is read as the double that its digits round to. -/
theorem float?_positions {v : ℚ} {whole fraction : List Char} (h : Positions v whole fraction)
    (hne : fraction ≠ []) (negative : Bool) {rest : List Char} (hrest : AfterValue rest)
    {x : Double} (hx : Double.ofDecimal negative (decimalValue (whole ++ fraction))
      (-(fraction.length : Int)) = x) (hfinite : x ≠ Double.infinity false) :
    float? (signText negative ++ (whole ++ '.' :: (fraction ++ rest))) = some (x, rest) := by
  obtain ⟨c, more, rfl, hc, hunderscore, -, he, hE, -⟩ := hrest.exists_cons
  have hwhole := wholeDigits?_append h.wholeDigits (show '.'.isDigit = false by decide)
    (show '.' ≠ '_' by decide) (fraction ++ c :: more)
  have hfraction := digits?_append h.isDigit hne hc hunderscore more
  unfold float?
  simp only [sign_digits h.wholeDigits, hwhole, hfraction, Option.bind_eq_bind, Option.bind_some,
    zero_sub, hx, if_neg hfinite]
  split
  · rename_i heq
    exact absurd (List.cons.inj heq).1 he
  · rename_i heq
    exact absurd (List.cons.inj heq).1 hE
  · rfl

/-- A written double that is a number is read back. -/
theorem numeric?_float {x : Double} (hx : x.isNaN = false) {rest : List Char}
    (hrest : AfterValue rest) :
    numeric? ((x.textIn doubleStyle).toList ++ rest) = some (.float x, rest) := by
  cases hvalue : x.value with
  | nan => simp [Double.isNaN, hvalue] at hx
  | infinite negative =>
    have htext : (x.textIn doubleStyle).toList = signText negative ++ ['i', 'n', 'f'] := by
      simp only [Double.textIn, hvalue]
      cases negative <;> rfl
    have hdate : dateValue? (signText negative ++ (['i', 'n', 'f'] ++ rest)) = none := by
      cases negative <;> exact dateValue?_cons (by decide) _
    have hspecial : specialFloat? (signText negative ++ (['i', 'n', 'f'] ++ rest)) =
        some (Double.infinity negative, rest) := by
      cases negative <;> rfl
    rw [htext, List.append_assoc, numeric?, hdate, hspecial,
      Double.eq_infinity_of_value hvalue]
  | finite negative m q =>
    obtain ⟨whole, fraction, hne, hpositions, htext⟩ :=
      Double.textIn_finite (show doubleStyle.fractionAlways = true from rfl) hvalue
    have hdecimal := Double.ofDecimal_positions hvalue hpositions
    have hfinite : x ≠ Double.infinity false := by
      rintro rfl
      have : (Double.infinity false).value = .infinite false := by decide +kernel
      rw [this] at hvalue
      cases hvalue
    have htext' : (x.textIn doubleStyle).toList ++ rest =
        signText negative ++ (whole ++ '.' :: (fraction ++ rest)) := by
      rw [htext, List.append_assoc, List.append_assoc]
      rfl
    rw [htext', numeric?, dateValue?_digits hpositions.wholeDigits negative (by decide) (by decide)
      (by decide), specialFloat?_digits hpositions.wholeDigits negative,
      float?_positions hpositions hne negative hrest hdecimal hfinite]

/-! ## Integers -/

theorem wholeDigits_decimalDigits (n : Nat) : WholeDigits (decimalDigits n) := by
  obtain ⟨hdigits, -, c, rest, hhead, hzero⟩ := decimalDigits_spec n
  refine ⟨hdigits, by rw [hhead]; exact List.cons_ne_nil _ _, fun hfirst => ?_⟩
  rw [hhead] at hfirst
  rw [hzero (Option.some.inj hfirst)]
  decide +kernel

theorem toList_integerText (n : Int) :
    (integerText n).toList = signText (decide (n < 0)) ++ decimalDigits n.natAbs := by
  unfold integerText decimalText
  by_cases hn : n < 0
  · simp [hn, signText]
  · simp [hn, signText]

/-- Whole digits without a point or an exponent behind them are no fraction. -/
theorem float?_wholeDigits {ds : List Char} (hds : WholeDigits ds) (negative : Bool)
    {rest : List Char} (hrest : AfterValue rest) :
    float? (signText negative ++ (ds ++ rest)) = none := by
  obtain ⟨c, more, rfl, hc, hunderscore, hpoint, he, hE, -⟩ := hrest.exists_cons
  unfold float?
  simp only [sign_digits hds, wholeDigits?_append hds hc hunderscore more, Option.bind_eq_bind,
    Option.bind_some]
  split
  · rename_i heq
    exact absurd (List.cons.inj heq).1 hpoint
  · simp [exponent?, he, hE]

/-- A zero in front stands alone, so that no letter of another base follows it. -/
theorem eq_of_leading_zero {ds : List Char} (hds : WholeDigits ds) {negative : Bool}
    {b c : Char} {rest more : List Char}
    (h : signText negative ++ (ds ++ c :: more) = '0' :: b :: rest) : b = c := by
  cases negative with
  | true => cases h
  | false =>
    have hzero : ds = ['0'] := by
      refine hds.zero_alone ?_
      obtain ⟨d, ds, rfl⟩ := List.exists_cons_of_ne_nil hds.ne_nil
      exact congrArg some (List.cons.inj h).1
    rw [hzero] at h
    exact (List.cons.inj (List.cons.inj h).2).1.symm

/-- Whole digits are read as the integer that they write, if it is within range. -/
theorem integer?_wholeDigits {ds : List Char} (hds : WholeDigits ds) {negative : Bool} {n : Int}
    (hvalue : (if negative then -(decimalValue ds : Int) else decimalValue ds) = n)
    (hn : inRange n = true) {rest : List Char} (hrest : AfterValue rest) :
    integer? (signText negative ++ (ds ++ rest)) = some (n, rest) := by
  obtain ⟨c, more, rfl, hc, hunderscore, -, -, -, -, -, hx, ho, hb⟩ := hrest.exists_cons
  unfold integer?
  simp only
  split
  · rename_i heq
    exact absurd (eq_of_leading_zero hds heq).symm hx
  · rename_i heq
    exact absurd (eq_of_leading_zero hds heq).symm ho
  · rename_i heq
    exact absurd (eq_of_leading_zero hds heq).symm hb
  · rw [sign_digits hds, wholeDigits?_append hds hc hunderscore more]
    simp only [Option.map_some, hvalue, Option.filter_some]
    exact if_pos hn

/-- A written integer within range is read back. -/
theorem numeric?_int {n : Int} (hn : inRange n = true) {rest : List Char}
    (hrest : AfterValue rest) :
    numeric? ((integerText n).toList ++ rest) = some (.int n, rest) := by
  have hds := wholeDigits_decimalDigits n.natAbs
  have hvalue : (if decide (n < 0) then -(decimalValue (decimalDigits n.natAbs) : Int)
      else decimalValue (decimalDigits n.natAbs)) = n := by
    rw [(decimalDigits_spec n.natAbs).2.1]
    by_cases hneg : n < 0
    · rw [if_pos (by simpa using hneg)]
      omega
    · rw [if_neg (by simpa using hneg)]
      omega
  have hfloat := float?_wholeDigits hds (decide (n < 0)) hrest
  have hinteger := integer?_wholeDigits hds hvalue hn hrest
  obtain ⟨c, more, rfl, hc, -, -, -, -, hminus, hcolon, -⟩ := hrest.exists_cons
  rw [toList_integerText, List.append_assoc, numeric?, dateValue?_digits hds _ hc hminus hcolon,
    specialFloat?_digits hds, hfloat, hinteger]
  rfl

end WindowSystem.Toml
