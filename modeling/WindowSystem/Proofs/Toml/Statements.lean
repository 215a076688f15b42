/-
# TOML: written lines are read back

Every line of a written document is empty or holds one statement: a header of one part, or a key
of one part that is given a value (`statements?_linesOf`).
-/
import WindowSystem.Proofs.Toml.Values

namespace WindowSystem.Toml

/-! ## Keys -/

/-- Where a statement starts, no blank, comment or line break is skipped, and no byte order mark. -/
def StartsLine (text : List Char) : Prop :=
  ∃ c rest, text = c :: rest ∧ isBlank c = false ∧ c ≠ '#' ∧ c ≠ '\n' ∧ c ≠ '\r' ∧ c ≠ '\ufeff'

theorem isKeyChar_ne {c d : Char} (hc : isKeyChar c = true) (hd : isKeyChar d = false) : c ≠ d := by
  rintro rfl
  rw [hc] at hd
  cases hd

/-- A key is written as it is, if it is not empty and needs no quotes, or else between quotes. -/
theorem keyText_cases (key : String) :
    (key.toList ≠ [] ∧ (∀ c ∈ key.toList, isKeyChar c = true) ∧ keyText key = key.toList) ∨
      keyText key = '"' :: (escapedBody false 0 0 key.toList ++ ['"']) := by
  by_cases hbare : (!key.toList.isEmpty && key.toList.all isBareKeyChar) = true
  · left
    have htext : keyText key = key.toList := if_pos hbare
    simp only [Bool.and_eq_true, Bool.not_eq_true', List.all_eq_true] at hbare
    exact ⟨fun h => by simp [h] at hbare, hbare.2, htext⟩
  · right
    exact if_neg hbare

/-- A key starts with a quote or with a character that needs none. -/
theorem keyText_exists_cons (key : String) :
    ∃ c rest, keyText key = c :: rest ∧ (c = '"' ∨ isKeyChar c = true) := by
  obtain ⟨hne, hbare, htext⟩ | htext := keyText_cases key
  · obtain ⟨c, rest, hcons⟩ := List.exists_cons_of_ne_nil hne
    rw [htext, hcons]
    exact ⟨c, rest, rfl, Or.inr (hbare c (by rw [hcons]; exact List.mem_cons_self))⟩
  · exact ⟨'"', _, htext, Or.inl rfl⟩

theorem startsLine_keyText (key : String) (rest : List Char) :
    StartsLine (keyText key ++ rest) := by
  obtain ⟨c, more, htext, hc⟩ := keyText_exists_cons key
  refine ⟨c, more ++ rest, by rw [htext]; rfl, ?_⟩
  obtain rfl | hc := hc
  · decide
  · have hne : ∀ {d : Char}, isKeyChar d = false → c ≠ d := fun hd => isKeyChar_ne hc hd
    refine ⟨?_, hne (by decide), hne (by decide), hne (by decide), hne (by decide)⟩
    simp [isBlank, hne (show isKeyChar ' ' = false by decide),
      hne (show isKeyChar '\t' = false by decide)]

/-- A written key is read up to a character that cannot belong to it. -/
theorem simpleKey?_keyText (key : String) {c : Char} (hc : isKeyChar c = false) (rest : List Char) :
    simpleKey? (keyText key ++ c :: rest) = some (key, c :: rest) := by
  obtain ⟨hne, hbare, htext⟩ | htext := keyText_cases key
  · have htake : (key.toList ++ c :: rest).takeWhile isKeyChar = key.toList := by
      rw [List.takeWhile_append_of_pos hbare]
      simp [hc]
    have hdrop : (key.toList ++ c :: rest).dropWhile isKeyChar = c :: rest := by
      rw [List.dropWhile_append_of_pos hbare]
      simp [hc]
    have hkey : String.ofList key.toList = key := String.ofList_toList
    rw [htext]
    generalize key.toList = cs at *
    obtain ⟨d, more, rfl⟩ := List.exists_cons_of_ne_nil hne
    have hd : isKeyChar d = true := hbare d List.mem_cons_self
    have hdouble : d ≠ '"' := isKeyChar_ne hd (by decide)
    have hsingle : d ≠ '\'' := isKeyChar_ne hd (by decide)
    rw [List.cons_append] at htake hdrop ⊢
    unfold simpleKey?
    simp [hdouble, hsingle, htake, hdrop, hkey]
  · -- between quotes, a key is a basic string
    have hbody := basicBody?_escapedBody key.toList (c :: rest)
    rw [htext, List.cons_append, List.append_assoc]
    show ((basicBody? (escapedBody false 0 0 key.toList ++ '"' :: c :: rest)).map _) = _
    rw [hbody]
    simp

/-- A key of one part is read up to a blank or a bracket that no dot follows. -/
theorem dottedKey?_keyText (key : String) {c : Char} (hc : isKeyChar c = false) (rest : List Char)
    (hdot : ∀ more, skipBlanks (c :: rest) ≠ '.' :: more) :
    dottedKey? (keyText key ++ c :: rest) = some ([key], c :: rest) := by
  show (simpleKey? (keyText key ++ c :: rest)).bind _ = _
  rw [simpleKey?_keyText key hc, Option.bind_some]
  dsimp only
  split
  · rename_i heq
    exact absurd heq (hdot _)
  · rfl

/-! ## Statements -/

/-- A line that holds a statement. -/
structure ReadsLine (line : List Char) (s : Statement) : Prop where
  reads : ∀ rest, statement? (line ++ '\n' :: rest) = some (s, '\n' :: rest)
  starts : StartsLine line

/-- What starts with one bracket is the header of a table. -/
theorem statement?_header {cs : List Char} (h : cs.head? ≠ some '[') {path : List String}
    {rest rest' : List Char} (hkey : dottedKey? (skipBlanks cs) = some (path, rest))
    (hbracket : skipBlanks rest = ']' :: rest') :
    statement? ('[' :: cs) = some (.header path, rest') := by
  have hne : ∀ more, cs ≠ '[' :: more := by
    rintro more rfl
    exact h rfl
  unfold statement?
  simp [hkey, hbracket]

/-- What does not start with a bracket is a key that is given a value. -/
theorem statement?_assignment {cs : List Char} (h : cs.head? ≠ some '[') {path : List String}
    {rest rest' more : List Char} {d : Datum} (hkey : dottedKey? cs = some (path, rest))
    (hequal : skipBlanks rest = '=' :: rest')
    (hvalue : value? ((skipBlanks rest').length + 1) depthLimit (skipBlanks rest') =
      some (d, more)) :
    statement? cs = some (.assignment path d, more) := by
  have hne : ∀ more, cs ≠ '[' :: more := by
    rintro more rfl
    exact h rfl
  unfold statement?
  simp [hne, hkey, hequal, hvalue]

theorem head?_keyText_ne (key : String) (rest : List Char) :
    (keyText key ++ rest).head? ≠ some '[' := by
  obtain ⟨c, more, htext, hc⟩ := keyText_exists_cons key
  rw [htext]
  rintro ⟨⟩
  obtain hc | hc := hc
  · cases hc
  · cases hc

theorem StartsLine.skipBlanks {text : List Char} (h : StartsLine text) (rest : List Char) :
    skipBlanks (text ++ rest) = text ++ rest := by
  obtain ⟨c, more, rfl, hblank, -⟩ := h
  simp [Toml.skipBlanks, hblank]

/-- The header of a table is read. -/
theorem readsLine_header (key : String) : ReadsLine (headerLine [key]) (.header [key]) := by
  have hline : headerLine [key] = '[' :: (keyText key ++ [']']) := by
    simp [headerLine, List.intercalate]
  refine ⟨fun rest => ?_, ⟨'[', _, hline, by decide⟩⟩
  have hread := dottedKey?_keyText key (show isKeyChar ']' = false by decide)
    ('\n' :: rest) fun more h => by cases h
  have hskip := (startsLine_keyText key (']' :: '\n' :: rest)).skipBlanks []
  rw [List.append_nil] at hskip
  rw [hline, List.cons_append, List.append_assoc]
  exact statement?_header (head?_keyText_ne key _) (by rw [← hread]; exact congrArg _ hskip) rfl

/-- A key that is given a value is read if the value is. -/
theorem readsLine_assignment (key : String) {d : Datum} {text : List Char}
    (hd : ReadsItem depthLimit d text) :
    ReadsLine (keyText key ++ " = ".toList ++ text) (.assignment [key] d) := by
  refine ⟨fun rest => ?_, ?_⟩
  · have hread := dottedKey?_keyText key (show isKeyChar ' ' = false by decide)
      ('=' :: ' ' :: (text ++ '\n' :: rest)) fun more h => by cases h
    have hskip : skipBlanks (' ' :: (text ++ '\n' :: rest)) = text ++ '\n' :: rest := by
      obtain ⟨c, more, rfl, hblank, -⟩ := hd.starts
      exact skipBlanks_replicate 1 hblank _
    have hlength : text.length < (text ++ '\n' :: rest).length + 1 := by
      rw [List.length_append]
      omega
    have hvalue := hd.reads hlength (.lineBreak rest)
    rw [List.append_assoc, List.append_assoc]
    exact statement?_assignment (head?_keyText_ne key _) hread rfl (by rw [hskip]; exact hvalue)
  · rw [List.append_assoc]
    exact startsLine_keyText key _

/-! ## Lines -/

/-- Lines that are empty or hold one statement each. -/
inductive LinesOf : List (List Char) → List Statement → Prop where
  | nil : LinesOf [] []
  | empty {lines : List (List Char)} {statements : List Statement}
      (h : LinesOf lines statements) : LinesOf ([] :: lines) statements
  | line {line : List Char} {s : Statement} {lines : List (List Char)}
      {statements : List Statement} (hline : ReadsLine line s) (h : LinesOf lines statements) :
      LinesOf (line :: lines) (s :: statements)

theorem LinesOf.append {lines lines' : List (List Char)} {statements statements' : List Statement}
    (h : LinesOf lines statements) (h' : LinesOf lines' statements') :
    LinesOf (lines ++ lines') (statements ++ statements') := by
  induction h with
  | nil => exact h'
  | empty h ih => exact .empty ih
  | line hline h ih => exact .line hline ih

theorem lineEnd?_eq_none {text : List Char} (h : StartsLine text) (rest : List Char) :
    lineEnd? (text ++ rest) = none := by
  obtain ⟨c, more, rfl, hblank, hcomment, hbreak, hreturn, -⟩ := h
  have hskip : skipBlanks (c :: more ++ rest) = c :: (more ++ rest) := by simp [skipBlanks, hblank]
  rw [lineEnd?, hskip]
  simp [skipComment, hcomment, lineBreak?_eq_none_of_ne hbreak hreturn]

theorem statements?_line {line : List Char} {s : Statement} (hline : ReadsLine line s) (fuel : Nat)
    (rest : List Char) :
    statements? (fuel + 1) (line ++ '\n' :: rest) = (statements? fuel rest).map (s :: ·) := by
  have hend := lineEnd?_eq_none hline.starts ('\n' :: rest)
  have hread := hline.reads rest
  obtain ⟨c, more, rfl, hblank, -⟩ := hline.starts
  have hskip : skipBlanks (c :: more ++ '\n' :: rest) = c :: more ++ '\n' :: rest := by
    simp [skipBlanks, hblank]
  have hbreak : lineEnd? ('\n' :: rest) = some rest := rfl
  rw [statements?, hskip]
  rw [List.cons_append] at hend hread ⊢
  simp [hend, hread, hbreak]

/-- The statements of lines are read in order. -/
theorem statements?_linesOf {lines : List (List Char)} {statements : List Statement}
    (h : LinesOf lines statements) {fuel : Nat} (hfuel : lines.length < fuel) :
    statements? fuel (lines.flatMap (· ++ ['\n'])) = some statements := by
  obtain ⟨fuel, rfl⟩ := Nat.exists_eq_succ_of_ne_zero (Nat.ne_zero_of_lt hfuel)
  induction h generalizing fuel with
  | nil => rfl
  | empty h ih =>
    rw [List.length_cons] at hfuel
    obtain ⟨fuel, rfl⟩ := Nat.exists_eq_succ_of_ne_zero (show fuel ≠ 0 by omega)
    exact ih fuel (by omega)
  | line hline h ih =>
    rw [List.length_cons] at hfuel
    obtain ⟨fuel, rfl⟩ := Nat.exists_eq_succ_of_ne_zero (show fuel ≠ 0 by omega)
    rw [List.flatMap_cons, List.append_assoc, List.singleton_append, statements?_line hline,
      ih fuel (by omega)]
    rfl

end WindowSystem.Toml
