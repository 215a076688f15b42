/-
# RON: written values are read back

What is written for a value is read as the value where a comma, a closing parenthesis or nothing
follows (`reads_of_faithful`). Items and fields stand on lines of their own, so that both are read
line by line: what is skipped before a line is the break of the line before and its indentation.
-/
import WindowSystem.Proofs.Ron.Lexical
import WindowSystem.Ron.Reader

namespace WindowSystem.Ron

/-- The words of the notation, which are no names. -/
def reservedWords : List String := ["true", "false", "None", "Some", "inf", "NaN"]

/-- The values that are read back, with as much room as they take up: numbers that were written for
numbers, names that are no words, and structures that have fields. -/
inductive Faithful : Nat → Term → Prop where
  | number (room : Nat) {literal : List Char} (h : IsLiteral literal) :
    Faithful room (.number literal)
  | infinity (room : Nat) : Faithful room (.number "inf".toList)
  | bool (room : Nat) (b : Bool) : Faithful room (.bool b)
  | text (room : Nat) (s : String) : Faithful room (.text s)
  | absent (room : Nat) : Faithful room .absent
  | present {room : Nat} {t : Term} (h : Faithful room t) : Faithful (room + 1) (.present t)
  | name (room : Nat) {s : String} (hs : isName s = true) (hword : s ∉ reservedWords) :
    Faithful room (.name s)
  | list {room : Nat} {items : List Term} (h : ∀ t ∈ items, Faithful room t) :
    Faithful (room + 2) (.list items)
  | struct {room : Nat} {fields : List (String × Term)} (hne : fields ≠ [])
    (hnames : ∀ field ∈ fields, isName field.1 = true)
    (h : ∀ field ∈ fields, Faithful room field.2) : Faithful (room + 2) (.struct none fields)

/-! ## Around a value -/

/-- What may follow a value: a comma, a closing parenthesis or nothing. -/
inductive AfterTerm : List Char → Prop where
  | comma (rest : List Char) : AfterTerm (',' :: rest)
  | close (rest : List Char) : AfterTerm (')' :: rest)
  | nothing : AfterTerm []

/-- Where a value starts, nothing is skipped, no list is closed and no attribute is opened. -/
def StartsTerm (text : List Char) : Prop :=
  ∃ c rest, text = c :: rest ∧ isBlank c = false ∧ c ≠ '/' ∧ c ≠ ']' ∧ c ≠ '#'

theorem StartsTerm.startsSign {text : List Char} (h : StartsTerm text) : StartsSign text := by
  obtain ⟨c, rest, rfl, hblank, hslash, -⟩ := h
  exact startsSign_cons hblank hslash rest

theorem startsTerm_of_startsNumber {text : List Char} (h : startsNumber text = true) :
    StartsTerm text := by
  cases text with
  | nil => cases h
  | cons c rest =>
    refine ⟨c, rest, rfl, ?_⟩
    have hsort : c.isDigit = true ∨ c = '+' ∨ c = '-' ∨ c = '.' := by
      simpa [startsNumber, or_assoc] using h
    rcases hsort with hdigit | rfl | rfl | rfl
    · have hne : ∀ {d : Char}, d.isDigit = false → c ≠ d := fun hd => Toml.ne_of_isDigit hdigit hd
      refine ⟨?_, hne (by decide), hne (by decide), hne (by decide)⟩
      simp [isBlank, hne (show ' '.isDigit = false by decide),
        hne (show '\t'.isDigit = false by decide), hne (show '\n'.isDigit = false by decide),
        hne (show '\r'.isDigit = false by decide)]
    · decide
    · decide
    · decide

theorem startsTerm_nameText {s : String} (hs : isName s = true) : StartsTerm (nameText s) := by
  obtain ⟨c, cs, htext, hstart⟩ := nameText_exists_cons hs
  have hne : ∀ {d : Char}, isNameStart d = false → c ≠ d := ne_of_isNameStart hstart
  refine ⟨c, cs, htext, ?_, hne (by decide), hne (by decide), hne (by decide)⟩
  simp [isBlank, hne (show isNameStart ' ' = false by decide),
    hne (show isNameStart '\t' = false by decide), hne (show isNameStart '\n' = false by decide),
    hne (show isNameStart '\r' = false by decide)]

theorem startsTerm_render {room : Nat} {t : Term} (h : Faithful room t) (depth : Nat) :
    StartsTerm (render depth t) := by
  cases h with
  | number _ h => exact startsTerm_of_startsNumber h.startsNumber
  | infinity => exact ⟨'i', _, rfl, by decide⟩
  | bool _ b =>
    cases b with
    | true => exact ⟨'t', _, rfl, by decide⟩
    | false => exact ⟨'f', _, rfl, by decide⟩
  | text _ s => exact ⟨'"', _, toList_quoted s, by decide⟩
  | absent => exact ⟨'N', _, rfl, by decide⟩
  | present => exact ⟨'S', _, rfl, by decide⟩
  | name _ hs => exact startsTerm_nameText hs
  | list =>
    rename_i items _
    cases items with
    | nil => exact ⟨'[', _, rfl, by decide⟩
    | cons => exact ⟨'[', _, rfl, by decide⟩
  | struct hne =>
    rename_i fields _ _
    cases fields with
    | nil => exact absurd rfl hne
    | cons => exact ⟨'(', _, rfl, by decide⟩

theorem AfterTerm.endsName {rest : List Char} (h : AfterTerm rest) : EndsName rest := by
  cases h with
  | comma => rintro c ⟨⟩; decide
  | close => rintro c ⟨⟩; decide
  | nothing => rintro c ⟨⟩

/-- Nothing is skipped behind a value. -/
theorem AfterTerm.skip?_eq {rest : List Char} (h : AfterTerm rest) : skip? rest = some rest := by
  cases h with
  | comma => rfl
  | close => rfl
  | nothing => rfl

/-! ## Lines -/

/-- Lines at a depth, each with a comma behind it. -/
def lines (depth : Nat) (ls : List (List Char)) : List Char :=
  ls.flatMap fun l => indent depth ++ (l ++ [',', '\n'])

theorem lines_cons (depth : Nat) (l : List Char) (ls : List (List Char)) (rest : List Char) :
    lines depth (l :: ls) ++ rest =
      indent depth ++ (l ++ ',' :: '\n' :: (lines depth ls ++ rest)) := by
  simp [lines]

theorem length_lines_cons (depth : Nat) (l : List Char) (ls : List (List Char)) :
    l.length + (lines depth ls).length + 2 ≤ (lines depth (l :: ls)).length := by
  simp only [lines, List.flatMap_cons, List.length_append, List.length_cons, List.length_nil]
  omega

theorem renderItems_eq (depth : Nat) (items : List Term) :
    renderItems depth items = lines depth (items.map (render depth)) := by
  induction items with
  | nil => rfl
  | cons t items ih =>
    show indent depth ++ render depth t ++ [',', '\n'] ++ renderItems depth items = _
    simp [ih, lines]

/-- The line of a field. -/
def fieldLine (depth : Nat) (field : String × Term) : List Char :=
  nameText field.1 ++ (':' :: ' ' :: render depth field.2)

theorem renderFields_eq (depth : Nat) (fields : List (String × Term)) :
    renderFields depth fields = lines depth (fields.map (fieldLine depth)) := by
  induction fields with
  | nil => rfl
  | cons field fields ih =>
    show indent depth ++ nameText field.1 ++ [':', ' '] ++ render depth field.2 ++ [',', '\n'] ++
      renderFields depth fields = _
    simp [ih, lines, fieldLine]

/-! ## The text of a value -/

section Render

variable (depth : Nat)

@[simp]
theorem render_number (literal : List Char) : render depth (.number literal) = literal := rfl

@[simp]
theorem render_bool (b : Bool) :
    render depth (.bool b) = (if b then "true" else "false").toList := rfl

@[simp]
theorem render_text (s : String) : render depth (.text s) = (Text.quoted s).toList := rfl

@[simp]
theorem render_absent : render depth .absent = "None".toList := rfl

@[simp]
theorem render_present (t : Term) :
    render depth (.present t) = "Some(".toList ++ render depth t ++ [')'] := rfl

@[simp]
theorem render_name (s : String) : render depth (.name s) = nameText s := rfl

/-- The items of a list stand on lines of their own. -/
theorem render_list {items : List Term} (hne : items ≠ []) :
    render depth (.list items) =
      '[' :: '\n' :: (lines (depth + 1) (items.map (render (depth + 1))) ++
        (indent depth ++ [']'])) := by
  obtain ⟨t, items, rfl⟩ := List.exists_cons_of_ne_nil hne
  show ['[', '\n'] ++ renderItems (depth + 1) (t :: items) ++ indent depth ++ [']'] = _
  rw [renderItems_eq]
  simp

/-- The fields of a structure stand on lines of their own. -/
theorem render_struct {fields : List (String × Term)} (hne : fields ≠ []) :
    render depth (.struct none fields) =
      '(' :: '\n' :: (lines (depth + 1) (fields.map (fieldLine (depth + 1))) ++
        (indent depth ++ [')'])) := by
  obtain ⟨field, fields, rfl⟩ := List.exists_cons_of_ne_nil hne
  show [] ++ ['(', '\n'] ++ renderFields (depth + 1) (field :: fields) ++ indent depth ++ [')'] = _
  rw [renderFields_eq]
  simp

end Render

/-! ## Breaks between lines -/

/-- Blanks, and a sign behind them. -/
def LeadsTo (text sign : List Char) : Prop :=
  StartsSign sign ∧ ∃ blanks, text = blanks ++ sign ∧ ∀ c ∈ blanks, isBlank c = true

theorem LeadsTo.skip?_eq {text sign : List Char} (h : LeadsTo text sign) :
    skip? text = some sign := by
  obtain ⟨hsign, blanks, rfl, hblanks⟩ := h
  exact skip?_blanks hblanks hsign

theorem LeadsTo.skip?_sign {text sign : List Char} (h : LeadsTo text sign) :
    skip? sign = some sign :=
  Ron.skip?_sign h.1

/-- A comma that ends a line leads to the sign that opens the next one. -/
theorem LeadsTo.comma?_eq {text sign : List Char} (h : LeadsTo text sign) :
    comma? (',' :: '\n' :: text) = some (true, sign) := by
  obtain ⟨hsign, blanks, rfl, hblanks⟩ := h
  have hskip : skip? (('\n' :: blanks) ++ sign) = some sign :=
    skip?_blanks (List.forall_mem_cons.mpr ⟨rfl, hblanks⟩) hsign
  have hcomma : skip? (',' :: '\n' :: (blanks ++ sign)) = some (',' :: '\n' :: (blanks ++ sign)) :=
    rfl
  rw [comma?, hcomma]
  show (skip? ('\n' :: (blanks ++ sign))).map _ = _
  rw [← List.cons_append, hskip]
  rfl

theorem leadsTo_indent (depth : Nat) {sign : List Char} (h : StartsSign sign) :
    LeadsTo (indent depth ++ sign) sign :=
  ⟨h, indent depth, rfl, isBlank_indent depth⟩

theorem LeadsTo.lineBreak {text sign : List Char} (h : LeadsTo text sign) :
    LeadsTo ('\n' :: text) sign := by
  obtain ⟨hsign, blanks, rfl, hblanks⟩ := h
  exact ⟨hsign, '\n' :: blanks, rfl, List.forall_mem_cons.mpr ⟨rfl, hblanks⟩⟩

/-- Lines, and a closing sign behind them, lead to the first line or to the closing sign. -/
theorem exists_leadsTo_lines (depth outer : Nat) {ls : List (List Char)}
    (hls : ∀ l ∈ ls, StartsSign l) {close : List Char} (hclose : StartsSign close) :
    ∃ sign, LeadsTo (lines depth ls ++ (indent outer ++ close)) sign := by
  cases ls with
  | nil => exact ⟨close, leadsTo_indent outer hclose⟩
  | cons l ls =>
    have hl : StartsSign l := hls l List.mem_cons_self
    rw [lines_cons]
    exact ⟨_, leadsTo_indent depth (hl.append _)⟩

/-- A reader that passes from line to line reads all lines up to the closing sign. By induction on
what stands on the lines. -/
theorem read_lines {α : Type} {line : α → List Char} {as : List α}
    (read : Nat → List α → Reader (List α))
    (hskip : ∀ {text sign}, LeadsTo text sign → ∀ fuel done,
      read fuel done text = read fuel done sign)
    (hline : ∀ a ∈ as, ∀ {fuel done more sign}, (line a).length ≤ fuel → LeadsTo more sign →
      read (fuel + 1) done (line a ++ ',' :: '\n' :: more) = read fuel (a :: done) sign)
    (hstarts : ∀ a ∈ as, StartsSign (line a)) {close rest : List Char} (hsign : StartsSign close)
    (hclose : ∀ fuel done, read (fuel + 1) done close = some (done.reverse, rest))
    {depth : Nat} (outer : Nat) {fuel : Nat} (hfuel : (lines depth (as.map line)).length < fuel)
    (done : List α) :
    read fuel done (lines depth (as.map line) ++ (indent outer ++ close)) =
      some (done.reverse ++ as, rest) := by
  obtain ⟨fuel, rfl⟩ := Nat.exists_eq_succ_of_ne_zero (Nat.ne_zero_of_lt hfuel)
  induction as generalizing fuel done with
  | nil =>
    rw [List.append_nil, ← hclose fuel done]
    exact hskip (leadsTo_indent outer hsign) _ _
  | cons a as ih =>
    -- the line takes one of the fuel, its characters pay for more than that
    rw [List.forall_mem_cons] at hline hstarts
    have hlength := length_lines_cons depth (line a) (as.map line)
    rw [List.map_cons] at hfuel ⊢
    obtain ⟨fuel, rfl⟩ := Nat.exists_eq_succ_of_ne_zero (show fuel ≠ 0 by omega)
    have hlines : ∀ l ∈ as.map line, StartsSign l := List.forall_mem_map.mpr hstarts.2
    obtain ⟨sign, hmore⟩ := exists_leadsTo_lines depth outer hlines hsign
    rw [lines_cons, hskip (leadsTo_indent depth (hstarts.1.append _)),
      hline.1 (by omega) hmore, ← hskip hmore, ih hline.2 hstarts.2 _ _ (by omega),
      List.reverse_cons, List.append_assoc]
    rfl

section Reading

variable {extensions : Extensions} {room : Nat}

/-- A value that is read from what is written for it, wherever it ends behind it. -/
def Reads (extensions : Extensions) (room : Nat) (t : Term) : Prop :=
  ∀ {depth fuel : Nat} {rest : List Char}, (render depth t).length ≤ fuel → AfterTerm rest →
    term? extensions fuel room (render depth t ++ rest) = some (t, rest)

/-! ## Lists -/

/-- What leads to the first item is skipped. -/
theorem items?_of_leadsTo {text sign : List Char} (h : LeadsTo text sign) (fuel : Nat)
    (close : Char) (done : List Term) :
    items? extensions fuel room close done text = items? extensions fuel room close done sign := by
  cases fuel with
  | zero => rw [items?, items?]
  | succ fuel => rw [items?, items?, h.skip?_eq, h.skip?_sign]

/-- An item on a line of its own is read before the others. -/
theorem items?_line {fuel depth : Nat} {t : Term} {more sign : List Char}
    (hstart : StartsTerm (render depth t))
    (hread : term? extensions fuel room (render depth t ++ ',' :: '\n' :: more) =
      some (t, ',' :: '\n' :: more)) (hmore : LeadsTo more sign) (done : List Term) :
    items? extensions (fuel + 1) (room + 1) ']' done
        (render depth t ++ ',' :: '\n' :: more) =
      items? extensions fuel (room + 1) ']' (t :: done) sign := by
  have hskip := skip?_sign (hstart.startsSign.append (',' :: '\n' :: more))
  obtain ⟨c, text, htext, -, -, hclose, -⟩ := hstart
  rw [htext, List.cons_append] at hread hskip ⊢
  rw [items?, hskip]
  simp only [if_neg hclose, hread, Option.bind_some, hmore.comma?_eq, if_true]

/-- The lines of a list are read up to the bracket behind them. -/
theorem items?_lines {items : List Term} (hitems : ∀ t ∈ items, Reads extensions room t)
    {depth : Nat} (hstarts : ∀ t ∈ items, StartsTerm (render depth t)) (outer : Nat) {fuel : Nat}
    (hfuel : (lines depth (items.map (render depth))).length < fuel) (rest : List Char) :
    items? extensions fuel (room + 1) ']' []
        (lines depth (items.map (render depth)) ++ (indent outer ++ ']' :: rest)) =
      some (items, rest) := by
  have hclose : StartsSign (']' :: rest) := startsSign_cons (by decide) (by decide) rest
  refine read_lines (fun fuel done text => items? extensions fuel (room + 1) ']' done text)
    (fun h fuel done => items?_of_leadsTo h fuel ']' done) ?_
    (fun t ht => (hstarts t ht).startsSign) hclose ?_ outer hfuel []
  · intro t ht fuel done more sign hlength hmore
    exact items?_line (hstarts t ht) (hitems t ht hlength (.comma _)) hmore done
  · intro fuel done
    show items? _ _ _ _ _ _ = _
    rw [items?, skip?_sign hclose]
    simp

/-! ## Structures -/

theorem fields?_of_leadsTo {text sign : List Char} (h : LeadsTo text sign) (fuel : Nat)
    (done : List (String × Term)) :
    fields? extensions fuel room done text = fields? extensions fuel room done sign := by
  cases fuel with
  | zero => rw [fields?, fields?]
  | succ fuel => rw [fields?, fields?, h.skip?_eq, h.skip?_sign]

theorem endsName_colon (rest : List Char) : EndsName (':' :: rest) := by
  rintro c ⟨⟩
  decide

theorem startsTerm_fieldLine {field : String × Term} (hname : isName field.1 = true)
    (depth : Nat) : StartsTerm (fieldLine depth field) := by
  obtain ⟨c, rest, htext, hc⟩ := startsTerm_nameText hname
  exact ⟨c, rest ++ (':' :: ' ' :: render depth field.2), by rw [fieldLine, htext]; rfl, hc⟩

theorem startsField_fieldLine {field : String × Term} (hname : isName field.1 = true)
    (depth : Nat) (rest : List Char) : startsField (fieldLine depth field ++ rest) = true := by
  have htext : fieldLine depth field ++ rest =
      nameText field.1 ++ (':' :: ' ' :: (render depth field.2 ++ rest)) := by
    simp [fieldLine]
  have hcolon : ∀ text, skip? (':' :: text) = some (':' :: text) :=
    fun text => skip?_sign (startsSign_cons (by decide) (by decide) text)
  rw [htext, startsField, name?_nameText hname (endsName_colon _)]
  simp only [hcolon]

/-- A field on a line of its own is read before the others. -/
theorem fields?_line {fuel depth : Nat} {field : String × Term} {more sign : List Char}
    (hname : isName field.1 = true) (hstart : StartsTerm (render depth field.2))
    (hread : term? extensions fuel room (render depth field.2 ++ ',' :: '\n' :: more) =
      some (field.2, ',' :: '\n' :: more)) (hmore : LeadsTo more sign)
    (done : List (String × Term)) :
    fields? extensions (fuel + 1) (room + 1) done
        (fieldLine depth field ++ ',' :: '\n' :: more) =
      fields? extensions fuel (room + 1) (field :: done) sign := by
  have hline := (startsTerm_fieldLine hname depth).startsSign
  have hskip := skip?_sign (hline.append (',' :: '\n' :: more))
  have hspace : ∀ c ∈ [' '], isBlank c = true := List.forall_mem_singleton.mpr (by decide)
  have hvalue : skip? (' ' :: (render depth field.2 ++ ',' :: '\n' :: more)) =
      some (render depth field.2 ++ ',' :: '\n' :: more) :=
    skip?_blanks hspace (hstart.startsSign.append _)
  have hcolon : ∀ rest, skip? (':' :: rest) = some (':' :: rest) :=
    fun rest => skip?_sign (startsSign_cons (by decide) (by decide) rest)
  have htext : fieldLine depth field ++ ',' :: '\n' :: more =
      nameText field.1 ++ (':' :: ' ' :: (render depth field.2 ++ ',' :: '\n' :: more)) := by
    simp [fieldLine]
  have hfield := name?_nameText hname
    (endsName_colon (' ' :: (render depth field.2 ++ ',' :: '\n' :: more)))
  obtain ⟨c, cs, hcs, hc⟩ := nameText_exists_cons hname
  have hclose : c ≠ ')' := ne_of_isNameStart hc (by decide)
  rw [htext] at hskip ⊢
  rw [hcs, List.cons_append] at hskip hfield ⊢
  rw [fields?, hskip]
  simp [hclose, hfield, hcolon, hvalue, hread, hmore.comma?_eq]

/-- The lines of a structure are read up to the parenthesis behind them. -/
theorem fields?_lines {fields : List (String × Term)}
    (hfields : ∀ field ∈ fields, Reads extensions room field.2)
    (hnames : ∀ field ∈ fields, isName field.1 = true) {depth : Nat}
    (hstarts : ∀ field ∈ fields, StartsTerm (render depth field.2)) (outer : Nat) {fuel : Nat}
    (hfuel : (lines depth (fields.map (fieldLine depth))).length < fuel) (rest : List Char) :
    fields? extensions fuel (room + 1) []
        (lines depth (fields.map (fieldLine depth)) ++ (indent outer ++ ')' :: rest)) =
      some (fields, rest) := by
  have hclose : StartsSign (')' :: rest) := startsSign_cons (by decide) (by decide) rest
  refine read_lines (fun fuel done text => fields? extensions fuel (room + 1) done text)
    (fun h fuel done => fields?_of_leadsTo h fuel done) ?_
    (fun field h => (startsTerm_fieldLine (hnames field h) depth).startsSign) hclose ?_ outer
    hfuel []
  · intro field h fuel done more sign hlength hmore
    have hvalue : (render depth field.2).length ≤ fuel := by
      rw [fieldLine, List.length_append, List.length_cons, List.length_cons] at hlength
      omega
    exact fields?_line (hnames field h) (hstarts field h) (hfields field h hvalue (.comma _))
      hmore done
  · intro fuel done
    show fields? _ _ _ _ _ = _
    rw [fields?, skip?_sign hclose]
    rfl

/-! ## Single values -/

/-- What starts like a number is read as a literal. -/
theorem term?_of_startsNumber {text : List Char} (h : startsNumber text = true) (fuel : Nat) :
    term? extensions (fuel + 1) room text =
      if isNumeric (text.span isNumberChar).1 then
        some (.number (text.span isNumberChar).1, (text.span isNumberChar).2)
      else none := by
  cases text with
  | nil => cases h
  | cons c rest =>
    have hne : ∀ {d : Char}, startsNumber [d] = false → c ≠ d := by
      rintro d hd rfl
      cases h.symm.trans hd
    have h1 : c ≠ '(' := hne (by decide)
    have h2 : c ≠ '[' := hne (by decide)
    have h3 : c ≠ '\x7b' := hne (by decide)
    have h4 : c ≠ '"' := hne (by decide)
    have h5 : c ≠ '\'' := hne (by decide)
    rw [term?]
    all_goals simp [h, h1, h2, h3, h4, h5]

theorem reads_number {literal : List Char} (h : IsLiteral literal) :
    Reads extensions room (.number literal) := by
  intro depth fuel rest hfuel hrest
  rw [render_number] at hfuel ⊢
  have hne : literal ≠ [] := by
    rintro rfl
    cases h.startsNumber
  obtain ⟨c, cs, rfl⟩ := List.exists_cons_of_ne_nil hne
  obtain ⟨fuel, rfl⟩ : ∃ k, fuel = k + 1 := Nat.exists_eq_add_of_le' (by
    rw [List.length_cons] at hfuel
    omega)
  have hspan : (c :: cs ++ rest).span isNumberChar = (c :: cs, rest) := by
    refine span_append h.isNumberChar ?_
    cases hrest with
    | comma => rintro d ⟨⟩; decide
    | close => rintro d ⟨⟩; decide
    | nothing => rintro d ⟨⟩
  have hstarts : startsNumber (c :: cs ++ rest) = true := h.startsNumber
  rw [term?_of_startsNumber hstarts, hspan, if_pos h.isNumeric]

/-- What starts like a name is read as a word of the notation or as a name. -/
theorem term?_of_isNameStart {c : Char} (h : isNameStart c = true) (cs : List Char) (fuel : Nat) :
    term? extensions (fuel + 1) room (c :: cs) =
      match word? "true" (c :: cs), word? "false" (c :: cs), word? "None" (c :: cs),
        word? "Some" (c :: cs) with
      | some rest, _, _, _ => some (.bool true, rest)
      | _, some rest, _, _ => some (.bool false, rest)
      | _, _, some rest, _ => some (.absent, rest)
      | _, _, _, some rest => present? extensions fuel room rest
      | _, _, _, _ =>
        match word? "inf" (c :: cs), word? "NaN" (c :: cs) with
        | some rest, _ => some (.number "inf".toList, rest)
        | _, some rest => some (.number "NaN".toList, rest)
        | _, _ =>
          match name? (c :: cs) with
          | some (name, rest) =>
            match skip? rest with
            | some ('(' :: inner) => body? extensions fuel room (some name) inner
            | some _ => some (.name name, rest)
            | none => none
          | none => (text? (c :: cs)).map fun (s, rest) => (.text s, rest) := by
  have hne : ∀ {d : Char}, isNameStart d = false → c ≠ d := ne_of_isNameStart h
  have hnumber : startsNumber (c :: cs) = false := by
    simp [startsNumber, isDigit_of_isNameStart h, hne (show isNameStart '+' = false by decide),
      hne (show isNameStart '-' = false by decide), hne (show isNameStart '.' = false by decide)]
  have h1 : c ≠ '(' := hne (by decide)
  have h2 : c ≠ '[' := hne (by decide)
  have h3 : c ≠ '\x7b' := hne (by decide)
  have h4 : c ≠ '"' := hne (by decide)
  have h5 : c ≠ '\'' := hne (by decide)
  rw [term?]
  · exact if_neg (by simp [hnumber])
  all_goals simp [h1, h2, h3, h4, h5]

theorem reads_infinity : Reads extensions room (.number "inf".toList) := by
  intro depth fuel rest hfuel hrest
  rw [render_number] at hfuel ⊢
  obtain ⟨fuel, rfl⟩ := Nat.exists_eq_succ_of_ne_zero (Nat.ne_zero_of_lt hfuel)
  show term? _ _ _ ('i' :: 'n' :: 'f' :: rest) = _
  rw [term?_of_isNameStart (by decide)]
  cases hrest <;> rfl

theorem reads_bool (b : Bool) : Reads extensions room (.bool b) := by
  intro depth fuel rest hfuel hrest
  rw [render_bool] at hfuel ⊢
  cases b with
  | true =>
    obtain ⟨fuel, rfl⟩ := Nat.exists_eq_succ_of_ne_zero (Nat.ne_zero_of_lt hfuel)
    show term? _ _ _ ('t' :: 'r' :: 'u' :: 'e' :: rest) = _
    rw [term?_of_isNameStart (by decide)]
    cases hrest <;> rfl
  | false =>
    obtain ⟨fuel, rfl⟩ := Nat.exists_eq_succ_of_ne_zero (Nat.ne_zero_of_lt hfuel)
    show term? _ _ _ ('f' :: 'a' :: 'l' :: 's' :: 'e' :: rest) = _
    rw [term?_of_isNameStart (by decide)]
    cases hrest <;> rfl

theorem reads_absent : Reads extensions room .absent := by
  intro depth fuel rest hfuel hrest
  rw [render_absent] at hfuel ⊢
  obtain ⟨fuel, rfl⟩ := Nat.exists_eq_succ_of_ne_zero (Nat.ne_zero_of_lt hfuel)
  show term? _ _ _ ('N' :: 'o' :: 'n' :: 'e' :: rest) = _
  rw [term?_of_isNameStart (by decide)]
  cases hrest <;> rfl

theorem reads_text (s : String) : Reads extensions room (.text s) := by
  intro depth fuel rest hfuel hrest
  have htext := text?_quoted s rest
  rw [render_text, toList_quoted] at hfuel ⊢
  rw [toList_quoted] at htext
  obtain ⟨fuel, rfl⟩ := Nat.exists_eq_succ_of_ne_zero (Nat.ne_zero_of_lt hfuel)
  rw [List.cons_append] at htext ⊢
  rw [term?, htext]
  rfl

/-- A name that is no word of the notation is read as a name. -/
theorem reads_name {s : String} (hs : isName s = true) (hword : s ∉ reservedWords) :
    Reads extensions room (.name s) := by
  intro depth fuel rest hfuel hrest
  have hnone : ∀ w ∈ reservedWords, word? w (nameText s ++ rest) = none := by
    intro w hw
    have hchars : ∀ w ∈ reservedWords, w.toList.all isNameChar = true ∧ w ≠ "r" := by decide
    obtain ⟨hall, hr⟩ := hchars w hw
    refine word?_nameText hs hrest.endsName (List.all_eq_true.mp hall) ?_ hr
    rintro rfl
    exact hword hw
  have hname := name?_nameText hs hrest.endsName
  obtain ⟨c, cs, htext, hstart⟩ := nameText_exists_cons hs
  rw [render_name, htext] at hfuel ⊢
  rw [htext] at hname hnone
  obtain ⟨fuel, rfl⟩ := Nat.exists_eq_succ_of_ne_zero (Nat.ne_zero_of_lt hfuel)
  simp only [reservedWords, List.forall_mem_cons] at hnone
  obtain ⟨h1, h2, h3, h4, h5, h6, -⟩ := hnone
  rw [List.cons_append] at h1 h2 h3 h4 h5 h6 hname ⊢
  rw [term?_of_isNameStart hstart, h1, h2, h3, h4, h5, h6]
  simp only [hname, hrest.skip?_eq]
  cases hrest <;> rfl

/-! ## Values in values -/

/-- A value under a mark is read if it is read by itself. -/
theorem reads_present {t : Term} (ht : Reads extensions room t)
    (hstart : ∀ depth, StartsTerm (render depth t)) :
    Reads extensions (room + 1) (.present t) := by
  intro depth fuel rest hfuel hrest
  have htext : render depth (.present t) ++ rest =
      'S' :: 'o' :: 'm' :: 'e' :: '(' :: (render depth t ++ ')' :: rest) := by
    simp
  have hlength : (render depth (.present t)).length = (render depth t).length + 6 := by
    simp
  rw [hlength] at hfuel
  obtain ⟨fuel, rfl⟩ : ∃ k, fuel = k + 2 := Nat.exists_eq_add_of_le' (by omega)
  have hskip := skip?_sign ((hstart depth).startsSign.append (')' :: rest))
  have hread : term? extensions fuel room (render depth t ++ ')' :: rest) =
      some (t, ')' :: rest) := ht (by omega) (.close rest)
  have hopen : ∀ text, skip? ('(' :: text) = some ('(' :: text) :=
    fun text => skip?_sign (startsSign_cons (by decide) (by decide) text)
  have hcomma : comma? (')' :: rest) = some (false, ')' :: rest) := rfl
  rw [htext, term?_of_isNameStart (by decide)]
  show present? _ _ _ ('(' :: (render depth t ++ ')' :: rest)) = _
  rw [present?, hopen]
  simp [hskip, hread, hcomma]

/-- A list is read if its items are. -/
theorem reads_list {items : List Term} (hitems : ∀ t ∈ items, Reads extensions room t)
    (hstarts : ∀ t ∈ items, ∀ depth, StartsTerm (render depth t)) :
    Reads extensions (room + 2) (.list items) := by
  intro depth fuel rest hfuel hrest
  rcases eq_or_ne items [] with rfl | hne
  · obtain ⟨fuel, rfl⟩ : ∃ k, fuel = k + 2 := Nat.exists_eq_add_of_le' hfuel
    have hskip : skip? (']' :: rest) = some (']' :: rest) := rfl
    show term? _ _ _ ('[' :: ']' :: rest) = _
    rw [term?, items?, hskip]
    rfl
  · rw [render_list depth hne] at hfuel ⊢
    simp only [List.length_cons, List.length_append] at hfuel
    obtain ⟨fuel, rfl⟩ : ∃ k, fuel = k + 1 := Nat.exists_eq_add_of_le' (by omega)
    have hclose : StartsSign (']' :: rest) := startsSign_cons (by decide) (by decide) rest
    have hlines : ∀ l ∈ items.map (render (depth + 1)), StartsSign l :=
      List.forall_mem_map.mpr fun u hu => (hstarts u hu (depth + 1)).startsSign
    obtain ⟨sign, hsign⟩ := exists_leadsTo_lines (depth + 1) depth hlines hclose
    have hread := items?_lines hitems (fun u hu => hstarts u hu (depth + 1)) depth
      (show (lines (depth + 1) (items.map (render (depth + 1)))).length < fuel by omega) rest
    -- the break before the first line is skipped like the indentation behind it
    rw [items?_of_leadsTo hsign, ← items?_of_leadsTo hsign.lineBreak] at hread
    simp only [List.cons_append, List.append_assoc, List.nil_append]
    rw [term?]
    simp [hread]

/-- A structure is read if it has fields and its fields are read. -/
theorem reads_struct {fields : List (String × Term)} (hne : fields ≠ [])
    (hnames : ∀ field ∈ fields, isName field.1 = true)
    (hfields : ∀ field ∈ fields, Reads extensions room field.2)
    (hstarts : ∀ field ∈ fields, ∀ depth, StartsTerm (render depth field.2)) :
    Reads extensions (room + 2) (.struct none fields) := by
  intro depth fuel rest hfuel hrest
  rw [render_struct depth hne] at hfuel ⊢
  simp only [List.length_cons, List.length_append] at hfuel
  obtain ⟨fuel, rfl⟩ : ∃ k, fuel = k + 2 := Nat.exists_eq_add_of_le' (by omega)
  have hread := fields?_lines hfields hnames (fun field h => hstarts field h (depth + 1)) depth
    (show (lines (depth + 1) (fields.map (fieldLine (depth + 1)))).length < fuel by omega) rest
  obtain ⟨field, others, rfl⟩ := List.exists_cons_of_ne_nil hne
  -- the first field tells the structure from values in order
  have hname := hnames field List.mem_cons_self
  have hline := leadsTo_indent (depth + 1)
    ((startsTerm_fieldLine hname (depth + 1)).startsSign.append (',' :: '\n' ::
      (lines (depth + 1) (others.map (fieldLine (depth + 1))) ++ (indent depth ++ ')' :: rest))))
  have hfirst := startsField_fieldLine hname (depth + 1) (',' :: '\n' ::
    (lines (depth + 1) (others.map (fieldLine (depth + 1))) ++ (indent depth ++ ')' :: rest)))
  rw [List.map_cons, lines_cons, fields?_of_leadsTo hline] at hread
  simp only [List.cons_append, List.append_assoc, List.nil_append, List.map_cons]
  rw [lines_cons, term?]
  · rw [body?, hline.lineBreak.skip?_eq]
    simp [hfirst, hread]
  · rintro text ⟨⟩

theorem reads_of_faithful {t : Term} (ht : Faithful room t) : Reads extensions room t := by
  induction ht with
  | number _ h => exact reads_number h
  | infinity => exact reads_infinity
  | bool _ b => exact reads_bool b
  | text _ s => exact reads_text s
  | absent => exact reads_absent
  | present h ih => exact reads_present ih (startsTerm_render h)
  | name _ hs hword => exact reads_name hs hword
  | list h ih => exact reads_list ih fun t ht => startsTerm_render (h t ht)
  | struct hne hnames h ih =>
    exact reads_struct hne hnames ih fun field hfield => startsTerm_render (h field hfield)

end Reading

/-! ## Whole texts -/

/-- The text that is written for a value is read as the value, without extensions. -/
theorem parse?_render {t : Term} (ht : Faithful levels t) :
    parse? (String.ofList (render 0 t)) = some ({}, t) := by
  have hstart := startsTerm_render ht 0
  have hskip := skip?_sign hstart.startsSign
  have hread : term? {} (2 * (render 0 t).length + 2) levels (render 0 t ++ []) = some (t, []) :=
    reads_of_faithful ht (by omega) .nothing
  have hend : skip? [] = some [] := rfl
  have hattributes : attributes? ((render 0 t).length + 1) {} (render 0 t) =
      some ({}, render 0 t) := by
    obtain ⟨c, rest, htext, -, -, -, hattribute⟩ := hstart
    rw [htext, attributes?]
    · rintro tail ⟨⟩
      exact hattribute rfl
  rw [List.append_nil] at hread
  rw [parse?, String.toList_ofList, hskip]
  simp [hattributes, hread, hend]

end WindowSystem.Ron
