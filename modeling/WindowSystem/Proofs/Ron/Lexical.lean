/-
# RON: blanks, names and text

What lies between two signs is skipped, and what is written for a name or for a text is read back:
a name up to a character that ends it (`name?_nameText`), a text up to its closing quote
(`text?_quoted`). A name is not taken for a word of the notation (`word?_nameText`).
-/
import WindowSystem.Proofs.Ron.Numbers
import WindowSystem.Ron.Lexical

namespace WindowSystem.Ron

/-! ## Blanks -/

/-- Where a sign starts, neither a blank nor a comment is skipped. -/
def StartsSign (text : List Char) : Prop :=
  ∃ c rest, text = c :: rest ∧ isBlank c = false ∧ c ≠ '/'

/-- Blanks are skipped up to a sign. -/
theorem skip?_blanks {blanks text : List Char} (hblanks : ∀ c ∈ blanks, isBlank c = true)
    (htext : StartsSign text) : skip? (blanks ++ text) = some text := by
  obtain ⟨c, rest, rfl, hblank, hslash⟩ := htext
  have hdrop : (blanks ++ c :: rest).dropWhile isBlank = c :: rest := by
    rw [List.dropWhile_append_of_pos hblanks, List.dropWhile_cons_of_neg (by simp [hblank])]
  rw [skip?, hdrop]
  simp [hslash]

theorem skip?_sign {text : List Char} (h : StartsSign text) : skip? text = some text :=
  skip?_blanks (List.forall_mem_nil _) h

theorem startsSign_cons {c : Char} (hblank : isBlank c = false) (hslash : c ≠ '/')
    (rest : List Char) : StartsSign (c :: rest) :=
  ⟨c, rest, rfl, hblank, hslash⟩

theorem StartsSign.append {text : List Char} (h : StartsSign text) (rest : List Char) :
    StartsSign (text ++ rest) := by
  obtain ⟨c, more, rfl, hblank, hslash⟩ := h
  exact ⟨c, more ++ rest, rfl, hblank, hslash⟩

/-- The lines of a text are moved in by blanks. -/
theorem isBlank_indent (depth : Nat) : ∀ c ∈ indent depth, isBlank c = true := by
  intro c hc
  rw [List.eq_of_mem_replicate hc]
  rfl

/-! ## Names -/

/-- The texts that are names of the notation, raw or not. -/
def isName (s : String) : Bool := !s.toList.isEmpty && s.toList.all isRawNameChar

/-- What may follow a name: nothing that continues it, and no sign of a raw text or name. -/
def EndsName (rest : List Char) : Prop :=
  ∀ c ∈ rest.head?, isRawNameChar c = false ∧ c ≠ '"' ∧ c ≠ '#'

theorem isNameChar_of_isRawNameChar {c : Char} (h : isRawNameChar c = false) :
    isNameChar c = false := by
  cases hc : isNameChar c with
  | false => rfl
  | true => simp [isRawNameChar, hc] at h

theorem isNameChar_of_isNameStart {c : Char} (h : isNameStart c = true) : isNameChar c = true := by
  unfold isNameStart at h
  unfold isNameChar Char.isAlphanum
  rcases Bool.or_eq_true_iff.mp h with halpha | hunderscore
  · rw [halpha]
    rfl
  · rw [hunderscore]
    exact Bool.or_true _

theorem ne_of_isNameStart {c d : Char} (hc : isNameStart c = true) (hd : isNameStart d = false) :
    c ≠ d := by
  rintro rfl
  cases hc.symm.trans hd

/-- No name starts with a digit. -/
theorem isDigit_of_isNameStart {c : Char} (h : isNameStart c = true) : c.isDigit = false := by
  by_contra hdigit
  have hdigit : 48 ≤ c.toNat ∧ c.toNat ≤ 57 := by
    simpa [Char.isDigit, UInt32.le_iff_toNat_le] using hdigit
  rcases Bool.or_eq_true_iff.mp h with halpha | hunderscore
  · rcases Bool.or_eq_true_iff.mp halpha with hupper | hlower
    · have hletter : 65 ≤ c.toNat := (of_decide_eq_true hupper).1
      omega
    · have hletter : 97 ≤ c.toNat := of_decide_eq_true (Bool.and_eq_true_iff.mp hlower).1
      omega
  · obtain rfl : c = '_' := by simpa using hunderscore
    exact absurd hdigit (by decide)

/-- How a name is written: as it is if its characters allow it, with a mark otherwise. -/
theorem nameText_cases {s : String} (hs : isName s = true) :
    (∃ c cs, nameText s = c :: cs ∧ s.toList = c :: cs ∧ isNameStart c = true ∧
      ∀ d ∈ cs, isNameChar d = true) ∨
    (nameText s = 'r' :: '#' :: s.toList ∧ s.toList ≠ [] ∧
      ∀ d ∈ s.toList, isRawNameChar d = true) := by
  unfold isName at hs
  unfold nameText
  cases hchars : s.toList with
  | nil => simp [hchars] at hs
  | cons c cs =>
    by_cases hplain : (isNameStart c && cs.all isNameChar) = true
    · obtain ⟨hstart, hall⟩ := Bool.and_eq_true_iff.mp hplain
      refine Or.inl ⟨c, cs, ?_, rfl, hstart, List.all_eq_true.mp hall⟩
      simp only [hplain, if_true]
    · refine Or.inr ⟨?_, List.cons_ne_nil _ _, ?_⟩
      · simp only [hplain, if_false, Bool.false_eq_true]
      · rw [hchars] at hs
        exact List.all_eq_true.mp (Bool.and_eq_true_iff.mp hs).2

/-- A written name is read back. -/
theorem name?_nameText {s : String} (hs : isName s = true) {rest : List Char}
    (hrest : EndsName rest) : name? (nameText s ++ rest) = some (s, rest) := by
  have hback : String.ofList s.toList = s := String.ofList_toList
  rcases nameText_cases hs with ⟨c, cs, htext, hchars, hstart, hall⟩ | ⟨htext, hne, hall⟩
  · have hspan : (c :: cs ++ rest).span isNameChar = (c :: cs, rest) := by
      refine span_append ?_ fun d hd => isNameChar_of_isRawNameChar (hrest d hd).1
      exact List.forall_mem_cons.mpr ⟨isNameChar_of_isNameStart hstart, hall⟩
    -- what follows the first character is no sign of a raw text or name
    have hsecond : ∀ d ∈ (cs ++ rest).head?, d ≠ '"' ∧ d ≠ '#' := by
      intro d hd
      cases cs with
      | nil => exact (hrest d hd).2
      | cons e cs =>
        obtain rfl : e = d := by simpa using hd
        have hname := hall e List.mem_cons_self
        constructor <;> rintro rfl <;> exact absurd hname (by decide)
    have hend : ∀ d more, rest = d :: more → isRawNameChar d = false := by
      rintro d more rfl
      exact (hrest d rfl).1
    rw [htext]
    unfold name?
    split
    · rename_i heq
      have htail : cs ++ rest = '"' :: _ := (List.cons.inj heq).2
      exact absurd rfl (hsecond '"' (by rw [htail]; rfl)).1
    · rename_i heq
      have htail : cs ++ rest = '#' :: _ := (List.cons.inj heq).2
      exact absurd rfl (hsecond '#' (by rw [htail]; rfl)).2
    · rename_i d more _ _ heq
      obtain rfl : c = d := (List.cons.inj heq).1
      rw [if_pos hstart, hspan]
      cases rest with
      | nil => simp only [← hchars, hback]
      | cons e rest => simp only [hend e rest rfl, Bool.false_eq_true, if_false, ← hchars, hback]
    · rename_i heq
      cases heq
  · have hspan : (s.toList ++ rest).span isRawNameChar = (s.toList, rest) :=
      span_append hall fun d hd => (hrest d hd).1
    have hempty : s.toList.isEmpty = false := by simpa using hne
    rw [htext]
    unfold name?
    simp only [List.cons_append, hspan, hempty, Bool.false_eq_true, if_false, hback]

/-- A word ends where the characters of names end. -/
theorem takeWhile_of_word? {w : String} {cs rest : List Char}
    (hw : ∀ c ∈ w.toList, isNameChar c = true) (h : word? w cs = some rest) :
    cs.takeWhile isNameChar = w.toList := by
  unfold word? at h
  simp only at h
  split at h
  · rename_i hfront
    obtain ⟨tail, rfl⟩ := List.isPrefixOf_iff_prefix.mp hfront
    rw [List.drop_left] at h
    rw [List.takeWhile_append_of_pos hw]
    cases tail with
    | nil => simp
    | cons d tail =>
      have hd : isNameChar d = false := by
        cases hd : isNameChar d with
        | false => rfl
        | true => simp [hd] at h
      simp [hd]
  · cases h

/-- A name is not taken for another word. -/
theorem word?_nameText {s w : String} (hs : isName s = true) {rest : List Char}
    (hrest : EndsName rest) (hw : ∀ c ∈ w.toList, isNameChar c = true) (hne : w ≠ s)
    (hmark : w ≠ "r") : word? w (nameText s ++ rest) = none := by
  refine Option.eq_none_iff_forall_ne_some.mpr fun left hleft => ?_
  have hfront := takeWhile_of_word? hw hleft
  rcases nameText_cases hs with ⟨c, cs, htext, hchars, hstart, hall⟩ | ⟨htext, -, -⟩
  · have hstop : rest.takeWhile isNameChar = [] := by
      cases rest with
      | nil => rfl
      | cons d rest => simp [isNameChar_of_isRawNameChar (hrest d rfl).1]
    rw [htext, List.takeWhile_append_of_pos (List.forall_mem_cons.mpr
      ⟨isNameChar_of_isNameStart hstart, hall⟩), hstop, List.append_nil, ← hchars] at hfront
    exact hne (String.toList_inj.mp hfront).symm
  · rw [htext] at hfront
    exact hmark (String.toList_inj.mp hfront.symm)

/-- What a name starts with. -/
theorem nameText_exists_cons {s : String} (hs : isName s = true) :
    ∃ c cs, nameText s = c :: cs ∧ isNameStart c = true := by
  rcases nameText_cases hs with ⟨c, cs, htext, -, hstart, -⟩ | ⟨htext, -, -⟩
  · exact ⟨c, cs, htext, hstart⟩
  · exact ⟨'r', _, htext, by decide⟩

/-! ## Text -/

/-- The hexadecimal digits: each stands for its value, and none closes an escape. -/
theorem hexValue?_digitChar : ∀ d < 16,
    hexValue? (digitChar d) = some d ∧ digitChar d ≠ '\x7d' := by
  decide

/-- A number below a power of sixteen has no more digits than the power. -/
theorem length_digitsIn_le (k : Nat) : ∀ {n : Nat}, n < 16 ^ (k + 1) →
    (digitsIn 16 n).length ≤ k + 1 := by
  induction k with
  | zero =>
    intro n hn
    rw [digitsIn, dif_pos (Or.inl (by simpa using hn))]
    simp
  | succ k ih =>
    intro n hn
    rw [digitsIn]
    split
    · simp
    · have hdiv : n / 16 < 16 ^ (k + 1) := by
        rw [Nat.div_lt_iff_lt_mul (by decide), ← pow_succ]
        exact hn
      have := ih hdiv
      rw [List.length_append, List.length_singleton]
      omega

/-- A number has a first digit. -/
theorem digitsIn_exists_cons (n : Nat) : ∃ d < 16, ∃ ds, digitsIn 16 n = digitChar d :: ds := by
  induction n using Nat.strongRecOn with
  | ind n ih =>
    rw [digitsIn]
    by_cases hn : n < 16
    · rw [dif_pos (Or.inl hn)]
      exact ⟨n, hn, [], rfl⟩
    · rw [dif_neg (by omega)]
      obtain ⟨d, hd, ds, heq⟩ := ih (n / 16) (by omega)
      rw [heq]
      exact ⟨d, hd, _, rfl⟩

/-- Hexadecimal digits are read behind those that have been read before. -/
theorem bracedEscape?_digits (n : Nat) : ∀ {left : Nat} (before : Nat) (rest : List Char),
    (digitsIn 16 n).length ≤ left →
    bracedEscape? left before (digitsIn 16 n ++ rest) =
      bracedEscape? (left - (digitsIn 16 n).length)
        (before * 16 ^ (digitsIn 16 n).length + n) rest := by
  -- one digit that is left to read
  have hstep : ∀ {left d : Nat} (before : Nat) (rest : List Char), d < 16 →
      bracedEscape? (left + 1) before (digitChar d :: rest) =
        bracedEscape? left (before * 16 + d) rest := by
    intro left d before rest hd
    obtain ⟨hvalue, hbrace⟩ := hexValue?_digitChar d hd
    rw [bracedEscape?.eq_def]
    simp [hvalue]
  induction n using Nat.strongRecOn with
  | ind n ih =>
    intro left before rest hleft
    rw [digitsIn] at hleft ⊢
    by_cases hn : n < 16
    · rw [dif_pos (Or.inl hn)] at hleft ⊢
      obtain ⟨left, rfl⟩ : ∃ k, left = k + 1 := Nat.exists_eq_add_of_le' hleft
      rw [List.singleton_append, hstep _ _ hn]
      simp
    · rw [dif_neg (by omega)] at hleft ⊢
      rw [List.length_append, List.length_singleton] at hleft ⊢
      obtain ⟨k, hk⟩ : ∃ k, left - (digitsIn 16 (n / 16)).length = k + 1 :=
        Nat.exists_eq_add_of_le' (by omega)
      have hdigit : n % 16 < 16 := Nat.mod_lt _ (by decide)
      have hrest : left - ((digitsIn 16 (n / 16)).length + 1) = k := by omega
      rw [List.append_assoc, ih (n / 16) (by omega) before _ (by omega), hk,
        List.singleton_append, hstep _ _ hdigit, hrest]
      congr 1
      have hsplit := Nat.div_add_mod n 16
      rw [pow_succ, add_mul, mul_assoc]
      omega

/-- A character that is written by its number is read back. -/
theorem escape?_numbered (c : Char) (rest : List Char) :
    escape? ('u' :: '\x7b' :: (digitsIn 16 c.toNat ++ '\x7d' :: rest)) = some (c, rest) := by
  have hlength : (digitsIn 16 c.toNat).length ≤ 6 := by
    have hvalid : c.toNat < 0xd800 ∨ 0xdfff < c.toNat ∧ c.toNat < 0x110000 := c.valid
    exact length_digitsIn_le 5 (by omega)
  have hread := bracedEscape?_digits c.toNat 0 ('\x7d' :: rest) hlength
  have hclose : ∀ left, bracedEscape? left c.toNat ('\x7d' :: rest) = some (c, rest) := by
    intro left
    rw [bracedEscape?.eq_def]
    have hvalid : c.toNat.isValidChar := c.valid
    simp [hvalid, Char.ofNat_toNat]
  rw [Nat.zero_mul, Nat.zero_add, hclose] at hread
  -- the first digit is no closing brace, so the escape is not the empty one
  obtain ⟨d, hd, ds, heq⟩ := digitsIn_exists_cons c.toNat
  have hbrace := (hexValue?_digitChar d hd).2
  rw [heq] at hread ⊢
  rw [List.cons_append] at hread ⊢
  unfold escape?
  split
  · rename_i hcons
    cases (List.cons.inj hcons).1
  · rename_i hcons
    exact absurd (List.cons.inj (List.cons.inj (List.cons.inj hcons).2).2).1 hbrace
  · rename_i hcons
    rw [← (List.cons.inj (List.cons.inj hcons).2).2]
    exact hread
  · rename_i hbraced hcons
    exact (hbraced _ (List.cons.inj hcons).1.symm (List.cons.inj hcons).2.symm).elim
  · rename_i hcons
    cases hcons

/-- A character with a short escape is read back. -/
theorem escape?_short {c e : Char} (h : Text.shortEscape? c = some e) (rest : List Char) :
    escape? (e :: rest) = some (c, rest) := by
  unfold Text.shortEscape? at h
  split at h
  all_goals cases h
  all_goals rfl

/-- What is written for a character of a text is read as the character. -/
theorem textBody?_escaped (fuel : Nat) (done : List Char) (c : Char) (rest : List Char) :
    textBody? (fuel + 1) done (Text.escaped c ++ rest) = textBody? fuel (c :: done) rest := by
  unfold Text.escaped
  cases hshort : Text.shortEscape? c with
  | some e =>
    show (escape? (e :: rest)).bind _ = _
    rw [escape?_short hshort]
    rfl
  | none =>
    by_cases hspecial : (Text.isExtending c || !Text.isPrintable c) = true
    · simp only [hspecial, if_true, Text.numbered, List.append_assoc, List.cons_append,
        List.nil_append]
      show (escape? ('u' :: '\x7b' :: (digitsIn 16 c.toNat ++ '\x7d' :: rest))).bind _ = _
      rw [escape?_numbered]
      rfl
    · -- only characters without a short escape stand for themselves
      have hquote : c ≠ '"' := by rintro rfl; cases hshort
      have hbackslash : c ≠ '\\' := by rintro rfl; cases hshort
      simp only [hspecial]
      rw [textBody?.eq_def]
      simp

/-- A text is read up to its closing quote. -/
theorem textBody?_flatMap (cs : List Char) : ∀ {fuel : Nat} (done rest : List Char),
    cs.length < fuel →
    textBody? fuel done (cs.flatMap Text.escaped ++ '"' :: rest) =
      some (String.ofList (done.reverse ++ cs), rest) := by
  induction cs with
  | nil =>
    intro fuel done rest hfuel
    obtain ⟨fuel, rfl⟩ : ∃ k, fuel = k + 1 := Nat.exists_eq_add_of_le' hfuel
    rw [List.append_nil]
    rfl
  | cons c cs ih =>
    intro fuel done rest hfuel
    obtain ⟨fuel, rfl⟩ : ∃ k, fuel = k + 1 :=
      Nat.exists_eq_add_of_le' (Nat.lt_of_le_of_lt (Nat.zero_le _) hfuel)
    rw [List.flatMap_cons, List.append_assoc, textBody?_escaped,
      ih _ _ (Nat.lt_of_succ_lt_succ hfuel), List.reverse_cons, List.append_assoc]
    rfl

theorem escaped_ne_nil (c : Char) : Text.escaped c ≠ [] := by
  unfold Text.escaped
  split
  · simp
  · split
    · simp [Text.numbered]
    · simp

/-- A text is at least as long when it is written. -/
theorem length_le_flatMap_escaped (cs : List Char) :
    cs.length ≤ (cs.flatMap Text.escaped).length := by
  induction cs with
  | nil => exact Nat.zero_le _
  | cons c cs ih =>
    have hpos : 0 < (Text.escaped c).length := List.length_pos_iff.mpr (escaped_ne_nil c)
    rw [List.flatMap_cons, List.length_append, List.length_cons]
    omega

theorem toList_quoted (s : String) :
    (Text.quoted s).toList = '"' :: (s.toList.flatMap Text.escaped ++ ['"']) := by
  simp [Text.quoted]

/-- A written text is read back. -/
theorem text?_quoted (s : String) (rest : List Char) :
    text? ((Text.quoted s).toList ++ rest) = some (s, rest) := by
  have hlength := length_le_flatMap_escaped s.toList
  have hsplit : (Text.quoted s).toList ++ rest =
      '"' :: (s.toList.flatMap Text.escaped ++ '"' :: rest) := by
    rw [toList_quoted, List.cons_append, List.append_assoc]
    rfl
  rw [hsplit]
  show textBody? _ [] _ = _
  rw [textBody?_flatMap s.toList [] rest (by rw [List.length_append]; omega), List.reverse_nil,
    List.nil_append, String.ofList_toList]

end WindowSystem.Ron
