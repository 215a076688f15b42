/-
# TOML: written strings are read back

A string is written in one of four forms. Each form is read back where it is used: escapes stand for
the characters that they were written for, quotes at the end of a multi-line string are told from
those that close it, and a literal string holds only what stands for itself (`string?_literal`).
-/
import Mathlib.Data.List.Infix
import Mathlib.Tactic.IntervalCases
import WindowSystem.Proofs.Toml.Numbers

namespace WindowSystem.Toml

/-! ## Escapes -/

/-- The number of a control is read back from its digits. -/
theorem scalar?_hexNumber? : ∀ n < 128,
    (hexNumber? ['0', '0', (digitChar (n / 16)).toUpper, (digitChar (n % 16)).toUpper]).bind
      scalar? = some (Char.ofNat n) := by
  decide +kernel

/-- What is written for a character in a basic string: an escape with a letter or with a number, or
the character itself. -/
inductive Escaped (multiline : Bool) (c : Char) : List Char → Prop where
  | short (e : Char) (h : shortEscape? e = some c) : Escaped multiline c ['\\', e]
  | numbered (a b : Char) (h : (hexNumber? ['0', '0', a, b]).bind scalar? = some c) :
      Escaped multiline c ['\\', 'u', '0', '0', a, b]
  | plain (hplain : isPlain c = true) (hquote : c ≠ '"') (hbackslash : c ≠ '\\') :
      Escaped multiline c [c]
  | lineBreak (hmultiline : multiline = true) (hc : c = '\n') : Escaped multiline c [c]

theorem escaped_escapedChar (multiline : Bool) {c : Char} (hc : c ≠ '"') :
    Escaped multiline c (escapedChar multiline c) := by
  unfold escapedChar
  split
  · subst_vars
    exact .short 'b' rfl
  split
  · subst_vars
    exact .short 't' rfl
  split
  · subst_vars
    cases multiline with
    | true => exact .lineBreak rfl rfl
    | false => exact .short 'n' rfl
  split
  · subst_vars
    exact .short 'f' rfl
  split
  · subst_vars
    exact .short 'r' rfl
  split
  · subst_vars
    exact .short '\\' rfl
  split
  · have hread := scalar?_hexNumber? c.toNat (by omega)
    rw [Char.ofNat_toNat] at hread
    exact .numbered _ _ hread
  · rename_i hbackslash hcontrol
    refine .plain ?_ hc hbackslash
    unfold isPlain
    simp
    omega

/-- What is written for a character is read as the character in a string of one line. -/
theorem Escaped.basicBody? {c : Char} {text : List Char} (h : Escaped false c text)
    (rest : List Char) :
    basicBody? (text ++ rest) = (basicBody? rest).map fun (s, rest) => (c :: s, rest) := by
  cases h with
  | short e h =>
    have hu : e ≠ 'u' := by rintro rfl; cases h
    have hU : e ≠ 'U' := by rintro rfl; cases h
    simp [Toml.basicBody?, hu, hU, h]
  | numbered a b h => simp [Toml.basicBody?, h]
  | plain hplain hquote hbackslash => simp [Toml.basicBody?, hbackslash, hplain]
  | lineBreak hmultiline => cases hmultiline

/-! ## Strings of one line -/

theorem escapedBody_cons_of_ne {c : Char} (hc : c ≠ '"') (multiline : Bool) (allowed run : Nat)
    (cs : List Char) :
    escapedBody multiline allowed run (c :: cs) =
      escapedChar multiline c ++ escapedBody multiline allowed 0 cs := by
  rw [escapedBody, if_neg hc]

theorem escapedBody_cons_allowed {allowed run : Nat} (h : run < allowed) (multiline : Bool)
    (cs : List Char) :
    escapedBody multiline allowed run ('"' :: cs) =
      '"' :: escapedBody multiline allowed (run + 1) cs := by
  rw [escapedBody, if_pos rfl, if_pos h]

theorem escapedBody_cons_refused {allowed run : Nat} (h : ¬ run < allowed) (multiline : Bool)
    (cs : List Char) :
    escapedBody multiline allowed run ('"' :: cs) =
      ['\\', '"'] ++ escapedBody multiline allowed 0 cs := by
  rw [escapedBody, if_pos rfl, if_neg h]
  rfl

/-- An escaped quote is a quote. -/
theorem escaped_quote (multiline : Bool) : Escaped multiline '"' ['\\', '"'] := .short '"' rfl

/-- A basic string of one line is read up to its closing quote. -/
theorem basicBody?_escapedBody (cs rest : List Char) :
    basicBody? (escapedBody false 0 0 cs ++ '"' :: rest) = some (cs, rest) := by
  induction cs with
  | nil => rfl
  | cons c cs ih =>
    by_cases hc : c = '"'
    · subst hc
      rw [escapedBody_cons_refused (Nat.not_lt_zero 0), List.append_assoc,
        (escaped_quote false).basicBody?, ih]
      rfl
    · rw [escapedBody_cons_of_ne hc, List.append_assoc,
        (escaped_escapedChar false hc).basicBody?, ih]
      rfl

/-- A literal string of one line is read up to its closing quote. -/
theorem literalBody?_append {cs : List Char} (hplain : ∀ c ∈ cs, isPlain c = true)
    (hquote : '\'' ∉ cs) (rest : List Char) :
    literalBody? (cs ++ '\'' :: rest) = some (cs, rest) := by
  induction cs with
  | nil => rfl
  | cons c cs ih =>
    have hc : c ≠ '\'' := fun h => hquote (h ▸ List.mem_cons_self)
    have hrest := ih (fun c hc => hplain c (List.mem_cons_of_mem _ hc))
      fun h => hquote (List.mem_cons_of_mem c h)
    rw [List.cons_append, literalBody?.eq_def]
    simp [hplain c List.mem_cons_self, hrest]

/-! ## The end of a string of several lines -/

/-- Three quotes. -/
def delimiter (q : Char) : List Char := [q, q, q]

theorem closing?_eq_none {q : Char} {cs : List Char} (h : ¬ delimiter q <+: cs) :
    closing? q cs = none := by
  have hthree : ∀ (a b c : Char) (rest : List Char), cs = a :: b :: c :: rest →
      ¬(a = q ∧ b = q ∧ c = q) := by
    rintro a b c rest rfl ⟨rfl, rfl, rfl⟩
    exact h ⟨rest, rfl⟩
  unfold closing?
  split
  · exact if_neg (hthree _ _ _ _ rfl)
  · exact if_neg (hthree _ _ _ _ rfl)
  · exact if_neg (hthree _ _ _ _ rfl)
  · rfl

/-- Up to two quotes before the closing three belong to the string. -/
theorem closing?_replicate {q : Char} {k : Nat} (hk : k ≤ 2) {rest : List Char}
    (hrest : rest.head? ≠ some q) :
    closing? q (List.replicate k q ++ (delimiter q ++ rest)) = some (List.replicate k q, rest) := by
  have hhead : ∀ d more, rest = d :: more → d ≠ q := by
    rintro d more rfl rfl
    exact hrest rfl
  interval_cases k
  · rcases rest with _ | ⟨d, _ | ⟨e, more⟩⟩
    · simp [closing?, delimiter]
    · simp [closing?, delimiter, hhead d _ rfl]
    · simp [closing?, delimiter, hhead d _ rfl]
  · rcases rest with _ | ⟨d, more⟩
    · simp [closing?, delimiter]
    · simp [closing?, delimiter, hhead d _ rfl]
  · simp [closing?, delimiter]

/-! ## Basic strings of several lines -/

/-- A letter of an escape does not end the line. -/
theorem continuesLine_of_shortEscape? {e c : Char} (h : shortEscape? e = some c)
    (rest : List Char) : continuesLine (e :: rest) = false := by
  unfold shortEscape? at h
  split at h <;> first | rfl | cases h

/-- What does not start with three quotes is read character by character. -/
theorem multilineBasicBody?_cons {c : Char} {rest : List Char} (hbackslash : c ≠ '\\')
    (hc : isPlain c = true ∨ c = '\n') (h : ¬ delimiter '"' <+: c :: rest) :
    multilineBasicBody? false (c :: rest) =
      (multilineBasicBody? false rest).map fun (s, rest) => (c :: s, rest) := by
  have hreturn : c ≠ '\r' := by
    rintro rfl
    revert hc
    decide
  have hclosing := closing?_eq_none h
  rw [multilineBasicBody?.eq_def]
  simp [hbackslash, hreturn, hclosing]
  intro hnot hbreak
  rcases hc with hc | hc
  · rw [hc] at hnot
    cases hnot
  · exact absurd hc hbreak

theorem not_startsWith_delimiter_of_ne {q c : Char} (hc : c ≠ q) (rest : List Char) :
    ¬ delimiter q <+: c :: rest := by
  rintro ⟨more, hmore⟩
  exact hc (List.cons.inj hmore).1.symm

/-- What is written for a character is read as the character in a string of several lines. -/
theorem Escaped.multilineBasicBody? {c : Char} {text : List Char} (h : Escaped true c text)
    (rest : List Char) :
    multilineBasicBody? false (text ++ rest) =
      (multilineBasicBody? false rest).map fun (s, rest) => (c :: s, rest) := by
  cases h with
  | short e h =>
    have hu : e ≠ 'u' := by rintro rfl; cases h
    have hU : e ≠ 'U' := by rintro rfl; cases h
    simp [Toml.multilineBasicBody?, hu, hU, h, continuesLine_of_shortEscape? h]
  | numbered a b h => simp [Toml.multilineBasicBody?, h]
  | plain hplain hquote hbackslash =>
    exact multilineBasicBody?_cons hbackslash (Or.inl hplain)
      (not_startsWith_delimiter_of_ne hquote rest)
  | lineBreak hmultiline hc =>
    subst hc
    exact multilineBasicBody?_cons (by decide) (Or.inr rfl)
      (not_startsWith_delimiter_of_ne (by decide) rest)

/-- What stands for a character does not start with a quote. -/
theorem Escaped.exists_cons {multiline : Bool} {c : Char} {text : List Char}
    (h : Escaped multiline c text) : ∃ d rest, text = d :: rest ∧ d ≠ '"' := by
  cases h with
  | short e h => exact ⟨'\\', _, rfl, by decide⟩
  | numbered a b h => exact ⟨'\\', _, rfl, by decide⟩
  | plain hplain hquote hbackslash => exact ⟨c, [], rfl, hquote⟩
  | lineBreak hmultiline hc => exact ⟨c, [], rfl, by rw [hc]; decide⟩

/-- No quote comes next where one has to be escaped, or where there is another character. -/
theorem escapedBody_exists_cons {c : Char} {allowed run : Nat} (h : c ≠ '"' ∨ ¬ run < allowed)
    (multiline : Bool) (cs : List Char) :
    ∃ d rest, escapedBody multiline allowed run (c :: cs) = d :: rest ∧ d ≠ '"' := by
  by_cases hc : c = '"'
  · subst hc
    rw [escapedBody_cons_refused (h.resolve_left fun hne => hne rfl)]
    exact ⟨'\\', _, rfl, by decide⟩
  · rw [escapedBody_cons_of_ne hc]
    obtain ⟨d, rest, htext, hd⟩ := (escaped_escapedChar multiline hc).exists_cons
    rw [htext]
    exact ⟨d, _, rfl, hd⟩

/-- Whether only quotes are left, and no more than may follow each other. -/
def EndsInQuotes (run : Nat) (cs : List Char) : Prop :=
  ∃ k, cs = List.replicate k '"' ∧ run + k ≤ 2

theorem escapedBody_replicate {run k : Nat} (h : run + k ≤ 2) :
    escapedBody true 2 run (List.replicate k '"') = List.replicate k '"' := by
  induction k generalizing run with
  | zero => rfl
  | succ k ih =>
    rw [List.replicate_succ, escapedBody_cons_allowed (by omega), ih (by omega)]

/-- A quote starts no three in a row if other characters are left. -/
theorem not_startsWith_delimiter {run : Nat} (hrun : 1 ≤ run) {cs : List Char}
    (h : ¬ EndsInQuotes run cs) (hle : run ≤ 2) (rest : List Char) :
    ¬ delimiter '"' <+: '"' :: (escapedBody true 2 run cs ++ rest) := by
  have hsecond : ∀ {d : Char} {more : List Char}, d ≠ '"' →
      ¬ delimiter '"' <+: '"' :: (d :: more ++ rest) := by
    rintro d more hd ⟨tail, htail⟩
    exact hd (List.cons.inj (List.cons.inj htail).2).1.symm
  have hthird : ∀ {d : Char} {more : List Char}, d ≠ '"' →
      ¬ delimiter '"' <+: '"' :: ('"' :: (d :: more) ++ rest) := by
    rintro d more hd ⟨tail, htail⟩
    exact hd (List.cons.inj (List.cons.inj (List.cons.inj htail).2).2).1.symm
  cases cs with
  | nil => exact absurd ⟨0, rfl, by omega⟩ h
  | cons c cs =>
    by_cases hnext : c ≠ '"' ∨ ¬ run < 2
    · obtain ⟨d, more, htext, hd⟩ := escapedBody_exists_cons hnext true cs
      rw [htext]
      exact hsecond hd
    · -- a second quote, so that a third one is escaped
      obtain ⟨hc, hlt⟩ := not_or.mp hnext
      obtain rfl : c = '"' := not_not.mp hc
      have hone : run = 1 := by omega
      subst hone
      rw [escapedBody_cons_allowed (by decide)]
      cases cs with
      | nil => exact absurd ⟨1, rfl, by omega⟩ h
      | cons d cs =>
        obtain ⟨e, more, htext, he⟩ :=
          escapedBody_exists_cons (c := d) (Or.inr (Nat.lt_irrefl 2)) true cs
        rw [htext]
        exact hthird he

theorem multilineBasicBody?_of_closing? {rest : List Char} {done : List Char × List Char}
    (h : closing? '"' ('"' :: rest) = some done) :
    multilineBasicBody? false ('"' :: rest) = some done := by
  rw [multilineBasicBody?.eq_def]
  simp [h]

/-- A basic string of several lines is read up to the quotes that close it. By induction on the
string, where `run` quotes stand right before it: the quotes at its end are read together with those
that close it, and before them no three stand in a row. -/
theorem multilineBasicBody?_escapedBody (cs : List Char) {run : Nat} (hrun : run ≤ 2)
    {rest : List Char} (hrest : rest.head? ≠ some '"') :
    multilineBasicBody? false (escapedBody true 2 run cs ++ (delimiter '"' ++ rest)) =
      some (cs, rest) := by
  induction cs generalizing run with
  | nil => exact multilineBasicBody?_of_closing? (closing?_replicate (Nat.zero_le 2) hrest)
  | cons c cs ih =>
    by_cases hends : EndsInQuotes run (c :: cs)
    · -- the quotes that are left and the closing three are one run of at most five
      obtain ⟨k, hcs, hk⟩ := hends
      rw [hcs, escapedBody_replicate hk]
      have hclosing := closing?_replicate (show k ≤ 2 by omega) hrest
      cases k with
      | zero => exact multilineBasicBody?_of_closing? hclosing
      | succ k => exact multilineBasicBody?_of_closing? hclosing
    · by_cases hc : c = '"'
      · subst hc
        by_cases hlt : run < 2
        · -- the quote stands for itself, since the one after two of them is escaped
          have hrest : ¬ EndsInQuotes (run + 1) cs := by
            rintro ⟨k, rfl, hk⟩
            exact hends ⟨k + 1, rfl, by omega⟩
          rw [escapedBody_cons_allowed hlt, List.cons_append,
            multilineBasicBody?_cons (by decide) (Or.inl rfl)
              (not_startsWith_delimiter (by omega) hrest (by omega) _), ih (by omega)]
          rfl
        · rw [escapedBody_cons_refused hlt, List.append_assoc,
            (escaped_quote true).multilineBasicBody?, ih (Nat.zero_le 2)]
          rfl
      · rw [escapedBody_cons_of_ne hc, List.append_assoc,
          (escaped_escapedChar true hc).multilineBasicBody?, ih (Nat.zero_le 2)]
        rfl

/-! ## Literal strings of several lines -/

theorem multilineLiteralBody?_of_closing? {c : Char} {rest : List Char}
    {done : List Char × List Char} (hreturn : c ≠ '\r')
    (h : closing? '\'' (c :: rest) = some done) :
    multilineLiteralBody? (c :: rest) = some done := by
  rw [multilineLiteralBody?.eq_def]
  simp [hreturn, h]

theorem multilineLiteralBody?_cons {c : Char} {rest : List Char} (hreturn : c ≠ '\r')
    (hc : isPlain c = true ∨ c = '\n') (h : ¬ delimiter '\'' <+: c :: rest) :
    multilineLiteralBody? (c :: rest) =
      (multilineLiteralBody? rest).map fun (s, rest) => (c :: s, rest) := by
  have hclosing := closing?_eq_none h
  rw [multilineLiteralBody?.eq_def]
  simp [hreturn, hclosing]
  intro hnot hbreak
  rcases hc with hc | hc
  · rw [hc] at hnot
    cases hnot
  · exact absurd hc hbreak

/-- A literal string of several lines is read up to the quotes that close it. -/
theorem multilineLiteralBody?_append {cs : List Char}
    (hallowed : ∀ c ∈ cs, isPlain c = true ∨ c = '\n') (hquotes : ¬ delimiter '\'' <:+: cs)
    {rest : List Char} (hrest : rest.head? ≠ some '\'') :
    multilineLiteralBody? (cs ++ (delimiter '\'' ++ rest)) = some (cs, rest) := by
  induction cs with
  | nil =>
    exact multilineLiteralBody?_of_closing? (by decide)
      (closing?_replicate (Nat.zero_le 2) hrest)
  | cons c cs ih =>
    have hc := hallowed c List.mem_cons_self
    have hreturn : c ≠ '\r' := by
      rintro rfl
      revert hc
      decide
    by_cases hends : ∃ k ≤ 2, c :: cs = List.replicate k '\''
    · obtain ⟨k, hk, hcs⟩ := hends
      have hclosing := closing?_replicate hk hrest
      rw [← hcs] at hclosing
      exact multilineLiteralBody?_of_closing? hreturn hclosing
    · have hstart : ¬ delimiter '\'' <+: c :: (cs ++ (delimiter '\'' ++ rest)) := by
        rintro ⟨tail, htail⟩
        obtain ⟨hfirst, hsecond⟩ := List.cons.inj htail
        rcases cs with _ | ⟨d, cs⟩
        · exact hends ⟨1, by decide, by rw [← hfirst]; rfl⟩
        obtain ⟨hd, hthird⟩ := List.cons.inj hsecond
        rcases cs with _ | ⟨e, cs⟩
        · exact hends ⟨2, by decide, by rw [← hfirst, ← hd]; rfl⟩
        have he := (List.cons.inj hthird).1
        exact hquotes ⟨[], cs, by rw [← hfirst, ← hd, ← he]; rfl⟩
      rw [List.cons_append, multilineLiteralBody?_cons hreturn hc hstart,
        ih (fun c hc => hallowed c (List.mem_cons_of_mem _ hc))
          fun hwithin => hquotes (List.IsInfix.trans hwithin (List.suffix_cons c cs).isInfix)]
      rfl

/-! ## The form of a string -/

/-- One more character of a longest run. -/
def countRun (c : Char) : Nat × Nat → Char → Nat × Nat := fun (best, run) d =>
  if d = c then (max best (run + 1), run + 1) else (best, 0)

theorem longestRun_eq (c : Char) (cs : List Char) :
    longestRun c cs = (cs.foldl (countRun c) (0, 0)).1 := rfl

theorem le_foldl_countRun (c : Char) (cs : List Char) (s : Nat × Nat) :
    s.1 ≤ (cs.foldl (countRun c) s).1 := by
  induction cs generalizing s with
  | nil => exact Nat.le_refl _
  | cons d cs ih =>
    refine Nat.le_trans ?_ (ih (countRun c s d))
    by_cases hd : d = c
    · rw [countRun, if_pos hd]
      exact Nat.le_max_left _ _
    · rw [countRun, if_neg hd]

/-- A run that stands in a string is no longer than the longest. -/
theorem le_longestRun {c : Char} {k : Nat} {cs : List Char} (h : List.replicate k c <:+: cs) :
    k ≤ longestRun c cs := by
  -- the run that is being counted goes on, and the longest is never shorter than it
  have hrun : ∀ (k : Nat) (s : Nat × Nat), s.2 ≤ s.1 →
      s.2 + k ≤ ((List.replicate k c).foldl (countRun c) s).1 := by
    intro k
    induction k with
    | zero => exact fun s hs => hs
    | succ k ih =>
      intro s hs
      have hstep : countRun c s c = (max s.1 (s.2 + 1), s.2 + 1) := if_pos rfl
      have hle := ih (countRun c s c) (by rw [hstep]; exact Nat.le_max_right _ _)
      rw [List.replicate_succ, List.foldl_cons]
      rw [hstep] at hle ⊢
      show s.2 + (k + 1) ≤ _
      have hle' : s.2 + 1 + k ≤ _ := hle
      omega
  have hsorted : ∀ (cs : List Char) (s : Nat × Nat), s.2 ≤ s.1 →
      (cs.foldl (countRun c) s).2 ≤ (cs.foldl (countRun c) s).1 := by
    intro cs
    induction cs with
    | nil => exact fun s hs => hs
    | cons d cs ih =>
      intro s hs
      refine ih _ ?_
      by_cases hd : d = c
      · rw [countRun, if_pos hd]
        exact Nat.le_max_right _ _
      · rw [countRun, if_neg hd]
        exact Nat.zero_le _
  obtain ⟨before, after, rfl⟩ := h
  rw [longestRun_eq, List.foldl_append, List.foldl_append]
  have hstart := hsorted before (0, 0) (Nat.le_refl 0)
  have hle := hrun k _ hstart
  have hafter := le_foldl_countRun c after
    ((List.replicate k c).foldl (countRun c) (before.foldl (countRun c) (0, 0)))
  omega

/-- A character that needs no escape and breaks no line stands for itself. -/
theorem isPlain_of_not_needsEscape {c : Char} (hc : needsEscape c = false) (hbreak : c ≠ '\n') :
    isPlain c = true := by
  have hne : c.toNat ≠ 10 := fun h => hbreak (Char.toNat_inj.mp h)
  unfold needsEscape at hc
  unfold isPlain
  simp at hc ⊢
  by_cases htab : c = '\t'
  · exact Or.inl htab
  · refine Or.inr ⟨?_, hc.2⟩
    by_contra hlow
    exact hbreak (hc.1 (by omega) htab)

/-- A literal string of one line is chosen where nothing in it has to be escaped. -/
theorem of_formOf_literal {cs : List Char} (h : formOf cs = .literal) :
    (∀ c ∈ cs, isPlain c = true) ∧ '\'' ∉ cs ∧ cs ≠ [] := by
  have hne : cs ≠ [] := by
    rintro rfl
    cases h
  unfold formOf at h
  simp only at h
  split_ifs at h with hbasic hliteral
  simp only [Bool.and_eq_true, Bool.not_eq_true', List.any_eq_false, beq_iff_eq] at hliteral
  obtain ⟨⟨hcontrols, hsingles⟩, hbreak⟩ := hliteral
  refine ⟨fun c hc => ?_, fun hquote => ?_, hne⟩
  · refine isPlain_of_not_needsEscape (by simpa using hcontrols c hc) ?_
    rintro rfl
    simp [hc] at hbreak
  · have hle : 1 ≤ longestRun '\'' cs := le_longestRun ((List.singleton_infix_iff _ _).mpr hquote)
    omega

/-- A literal string of several lines is chosen where only line breaks do not stand for themselves,
and no three quotes stand in a row. -/
theorem of_formOf_multilineLiteral {cs : List Char} (h : formOf cs = .multilineLiteral) :
    (∀ c ∈ cs, isPlain c = true ∨ c = '\n') ∧ ¬ delimiter '\'' <:+: cs := by
  unfold formOf at h
  simp only at h
  split_ifs at h with hbasic hliteral hmultiline hform
  simp only [Bool.and_eq_true, Bool.not_eq_true', List.any_eq_false, decide_eq_true_eq] at hform
  obtain ⟨hcontrols, hsingles⟩ := hform
  refine ⟨fun c hc => ?_, fun hquotes => ?_⟩
  · by_cases hbreak : c = '\n'
    · exact Or.inr hbreak
    · exact Or.inl (isPlain_of_not_needsEscape (by simpa using hcontrols c hc) hbreak)
  · have hle : 3 ≤ longestRun '\'' cs := le_longestRun hquotes
    omega

/-! ## Strings in any form -/

/-- A line break after an opening delimiter is skipped, and it is written where the string could
otherwise lose its own. -/
theorem dropFirstBreak_opening {cs text : List Char} (h : '\n' ∈ cs ∨ lineBreak? text = none) :
    dropFirstBreak (opening cs ++ text) = text := by
  unfold opening dropFirstBreak
  by_cases hbreak : '\n' ∈ cs
  · simp [hbreak, lineBreak?]
  · simp [hbreak, h.resolve_left hbreak]

theorem lineBreak?_eq_none_of_ne {c : Char} (hbreak : c ≠ '\n') (hreturn : c ≠ '\r')
    (rest : List Char) : lineBreak? (c :: rest) = none := by
  simp [lineBreak?, hbreak, hreturn]

/-- What stands for a character other than a line break does not start with a line break. -/
theorem Escaped.lineBreak?_eq_none {multiline : Bool} {c : Char} {text : List Char}
    (h : Escaped multiline c text) (hc : c ≠ '\n') (rest : List Char) :
    lineBreak? (text ++ rest) = none := by
  cases h with
  | short e h => rfl
  | numbered a b h => rfl
  | plain hplain hquote hbackslash =>
    exact lineBreak?_eq_none_of_ne hc (by rintro rfl; revert hplain; decide) rest
  | lineBreak hmultiline hbreak => exact absurd hbreak hc

/-- What is written for a string that holds no line break does not start with one. -/
theorem lineBreak?_escapedBody {cs : List Char} (h : '\n' ∉ cs) (rest : List Char) :
    lineBreak? (escapedBody true 2 0 cs ++ (delimiter '"' ++ rest)) = none := by
  cases cs with
  | nil => rfl
  | cons c cs =>
    by_cases hc : c = '"'
    · rw [hc, escapedBody_cons_allowed (by decide)]
      rfl
    · rw [escapedBody_cons_of_ne hc, List.append_assoc]
      exact (escaped_escapedChar true hc).lineBreak?_eq_none (fun hbreak => h (by simp [hbreak])) _

/-- A basic string of one line, unless two more quotes follow its opening one. -/
theorem string?_of_basicBody? {body s rest : List Char} (hread : basicBody? body = some (s, rest))
    (h : ∀ more, body ≠ '"' :: '"' :: more) :
    string? ('"' :: body) = some (String.ofList s, rest) := by
  unfold string?
  simp [hread]

/-- A literal string of one line, unless two more quotes follow its opening one. -/
theorem string?_of_literalBody? {body s rest : List Char}
    (hread : literalBody? body = some (s, rest)) (h : ∀ more, body ≠ '\'' :: '\'' :: more) :
    string? ('\'' :: body) = some (String.ofList s, rest) := by
  unfold string?
  simp [hread]

/-- The body of a basic string of one line goes on with two quotes only where they do not belong to
it. -/
theorem escapedBody_ne_quotes (cs : List Char) {rest : List Char} (hrest : rest.head? ≠ some '"')
    (more : List Char) : escapedBody false 0 0 cs ++ '"' :: rest ≠ '"' :: '"' :: more := by
  cases cs with
  | nil =>
    rintro ⟨⟩
    exact hrest rfl
  | cons c cs =>
    obtain ⟨d, text, htext, hd⟩ :=
      escapedBody_exists_cons (c := c) (Or.inr (Nat.not_lt_zero 0)) false cs
    rw [htext]
    exact fun h => hd (List.cons.inj h).1

/-- A basic string of several lines is read back. -/
theorem string?_multilineBasic (cs : List Char) {rest : List Char} (hrest : rest.head? ≠ some '"') :
    string? (stringIn .multilineBasic cs ++ rest) = some (String.ofList cs, rest) := by
  have htext : stringIn .multilineBasic cs ++ rest = '"' :: '"' :: '"' ::
      (opening cs ++ (escapedBody true 2 0 cs ++ (delimiter '"' ++ rest))) := by
    simp [stringIn, delimiter]
  have hbreak : '\n' ∈ cs ∨
      lineBreak? (escapedBody true 2 0 cs ++ (delimiter '"' ++ rest)) = none := by
    by_cases hcs : '\n' ∈ cs
    · exact Or.inl hcs
    · exact Or.inr (lineBreak?_escapedBody hcs rest)
  rw [htext, string?]
  simp only [dropFirstBreak_opening hbreak,
    multilineBasicBody?_escapedBody cs (Nat.zero_le 2) hrest, Option.map_some]

/-- A literal string of several lines is read back where it can be written. -/
theorem string?_multilineLiteral {cs : List Char}
    (hallowed : ∀ c ∈ cs, isPlain c = true ∨ c = '\n') (hquotes : ¬ delimiter '\'' <:+: cs)
    {rest : List Char} (hrest : rest.head? ≠ some '\'') :
    string? (stringIn .multilineLiteral cs ++ rest) = some (String.ofList cs, rest) := by
  have htext : stringIn .multilineLiteral cs ++ rest =
      '\'' :: '\'' :: '\'' :: (opening cs ++ (cs ++ (delimiter '\'' ++ rest))) := by
    simp [stringIn, delimiter]
  have hbreak : '\n' ∈ cs ∨ lineBreak? (cs ++ (delimiter '\'' ++ rest)) = none := by
    by_cases hcs : '\n' ∈ cs
    · exact Or.inl hcs
    · cases cs with
      | nil => exact Or.inr rfl
      | cons c cs =>
        refine Or.inr (lineBreak?_eq_none_of_ne (fun h => hcs (by simp [h])) ?_ _)
        rintro rfl
        exact absurd (hallowed '\r' List.mem_cons_self) (by decide)
  rw [htext, string?]
  simp only [dropFirstBreak_opening hbreak, multilineLiteralBody?_append hallowed hquotes hrest,
    Option.map_some]

/-- A string is read back in whatever form it was written. -/
theorem string?_literal (s : String) {rest : List Char} (hrest : AfterValue rest) :
    string? (stringLiteral s ++ rest) = some (s, rest) := by
  have hdouble : rest.head? ≠ some '"' := by cases hrest <;> simp
  have hsingle : rest.head? ≠ some '\'' := by cases hrest <;> simp
  unfold stringLiteral
  obtain ⟨cs, rfl⟩ : ∃ cs, s = String.ofList cs := ⟨s.toList, String.ofList_toList.symm⟩
  rw [String.toList_ofList]
  cases hform : formOf cs with
  | basic =>
    have htext : stringIn .basic cs ++ rest = '"' :: (escapedBody false 0 0 cs ++ '"' :: rest) := by
      simp [stringIn]
    rw [htext]
    exact string?_of_basicBody? (basicBody?_escapedBody cs rest) (escapedBody_ne_quotes cs hdouble)
  | literal =>
    obtain ⟨hplain, hquote, hne⟩ := of_formOf_literal hform
    have htext : stringIn .literal cs ++ rest = '\'' :: (cs ++ '\'' :: rest) := by
      simp [stringIn]
    rw [htext]
    refine string?_of_literalBody? (literalBody?_append hplain hquote rest) fun more hmore => ?_
    obtain ⟨c, cs, rfl⟩ := List.exists_cons_of_ne_nil hne
    exact hquote (by rw [(List.cons.inj hmore).1]; exact List.mem_cons_self)
  | multilineBasic => exact string?_multilineBasic cs hdouble
  | multilineLiteral =>
    obtain ⟨hallowed, hquotes⟩ := of_formOf_multilineLiteral hform
    exact string?_multilineLiteral hallowed hquotes hsingle

end WindowSystem.Toml
