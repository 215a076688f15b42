/-
# TOML: written values are read back

What is written for a value is read as the value where a comma, a bracket or a line break follows
(`value?_valueText`). A list may be laid out on one line or on many; both are lists of items in the
sense of `ItemsOf`, and it is from there that they are read.
-/
import WindowSystem.Proofs.Toml.Strings

namespace WindowSystem.Toml

/-- The values that a document gives back: no null, no record, no float that is not a number, and
lists in each other to a given depth only. -/
inductive Faithful : Nat → Datum → Prop where
  | bool (depth : Nat) (b : Bool) : Faithful depth (.bool b)
  | int (depth : Nat) (n : Int) : Faithful depth (.int n)
  | float (depth : Nat) {x : Double} (hx : x.isNaN = false) : Faithful depth (.float x)
  | text (depth : Nat) (s : String) : Faithful depth (.text s)
  | list {depth : Nat} {items : List Datum} (h : ∀ d ∈ items, Faithful depth d) :
      Faithful (depth + 1) (.list items)

/-! ## How a value starts -/

/-- The characters that a number starts with. -/
def startsNumber (c : Char) : Prop := c.isDigit = true ∨ c = '-' ∨ c = 'i'

/-- Where a value starts, no blank, comment or line break is skipped and no list is closed. -/
def StartsItem (text : List Char) : Prop :=
  ∃ c rest, text = c :: rest ∧ isBlank c = false ∧ c ≠ '#' ∧ c ≠ '\n' ∧ c ≠ '\r' ∧ c ≠ ']'

theorem startsNumber_digits {ds : List Char} (hds : WholeDigits ds) (negative : Bool)
    (rest : List Char) :
    ∃ c more, signText negative ++ (ds ++ rest) = c :: more ∧ startsNumber c := by
  cases negative with
  | true => exact ⟨'-', ds ++ rest, rfl, Or.inr (Or.inl rfl)⟩
  | false =>
    obtain ⟨d, ds, rfl⟩ := List.exists_cons_of_ne_nil hds.ne_nil
    exact ⟨d, ds ++ rest, rfl, Or.inl (hds.isDigit d List.mem_cons_self)⟩

theorem startsNumber_int (n : Int) :
    ∃ c more, (integerText n).toList = c :: more ∧ startsNumber c := by
  rw [toList_integerText]
  simpa using startsNumber_digits (wholeDigits_decimalDigits n.natAbs) (decide (n < 0)) []

theorem startsNumber_float {x : Double} (hx : x.isNaN = false) :
    ∃ c more, (x.textIn doubleStyle).toList = c :: more ∧ startsNumber c := by
  cases hvalue : x.value with
  | nan => simp [Double.isNaN, hvalue] at hx
  | infinite negative =>
    simp only [Double.textIn, hvalue]
    cases negative with
    | true => exact ⟨'-', _, rfl, Or.inr (Or.inl rfl)⟩
    | false => exact ⟨'i', _, rfl, Or.inr (Or.inr rfl)⟩
  | finite negative m q =>
    obtain ⟨whole, fraction, -, hpositions, htext⟩ :=
      Double.textIn_finite (show doubleStyle.fractionAlways = true from rfl) hvalue
    rw [htext]
    exact startsNumber_digits hpositions.wholeDigits negative _

theorem startsItem_of_startsNumber {text : List Char}
    (h : ∃ c rest, text = c :: rest ∧ startsNumber c) : StartsItem text := by
  obtain ⟨c, rest, rfl, hc⟩ := h
  refine ⟨c, rest, rfl, ?_⟩
  obtain hdigit | rfl | rfl := hc
  · have hne : ∀ {d : Char}, d.isDigit = false → c ≠ d := fun hd => ne_of_isDigit hdigit hd
    refine ⟨?_, hne (by decide), hne (by decide), hne (by decide), hne (by decide)⟩
    simp [isBlank, hne (show ' '.isDigit = false by decide),
      hne (show '\t'.isDigit = false by decide)]
  · decide
  · decide

/-- What starts like a number is read as a number. -/
theorem value?_of_startsNumber {text : List Char}
    (h : ∃ c rest, text = c :: rest ∧ startsNumber c) (fuel depth : Nat) (rest : List Char) :
    value? (fuel + 1) depth (text ++ rest) = numeric? (text ++ rest) := by
  obtain ⟨c, more, rfl, hc⟩ := h
  have hne : c ≠ '"' ∧ c ≠ '\'' ∧ c ≠ 't' ∧ c ≠ 'f' ∧ c ≠ '[' ∧ c ≠ '\x7b' := by
    obtain hdigit | rfl | rfl := hc
    · have hne : ∀ {d : Char}, d.isDigit = false → c ≠ d := fun hd => ne_of_isDigit hdigit hd
      exact ⟨hne (by decide), hne (by decide), hne (by decide), hne (by decide), hne (by decide),
        hne (by decide)⟩
    · decide
    · decide
  obtain ⟨h1, h2, h3, h4, h5, h6⟩ := hne
  rw [List.cons_append, value?]
  all_goals simp [h1, h2, h3, h4, h5, h6]

theorem startsItem_stringIn (form : StringForm) (cs : List Char) :
    StartsItem (stringIn form cs) := by
  cases form with
  | basic => exact ⟨'"', _, rfl, by decide⟩
  | literal => exact ⟨'\'', _, rfl, by decide⟩
  | multilineBasic => exact ⟨'"', _, rfl, by decide⟩
  | multilineLiteral => exact ⟨'\'', _, rfl, by decide⟩

theorem value?_stringIn (form : StringForm) (cs : List Char) (fuel depth : Nat) (rest : List Char) :
    value? (fuel + 1) depth (stringIn form cs ++ rest) =
      (string? (stringIn form cs ++ rest)).map fun (s, rest) => (.text s, rest) := by
  cases form <;> rfl

/-! ## The text of a list -/

/-- What holds of the items of a list and their texts holds of the texts written for the list. -/
theorem forall₂_itemTexts {layout : Layout} {R : Datum → List Char → Prop} {items : List Datum}
    (hR : ∀ d ∈ items, ∀ {text}, valueText layout d = some text → R d text)
    {texts : List (List Char)} (h : itemTexts layout items = some texts) :
    List.Forall₂ R items texts := by
  induction items generalizing texts with
  | nil =>
    cases h
    exact .nil
  | cons d items ih =>
    simp only [itemTexts, Option.bind_eq_bind, Option.bind_eq_some_iff, Option.some.injEq] at h
    obtain ⟨text, htext, texts, htexts, rfl⟩ := h
    exact .cons (hR d List.mem_cons_self htext)
      (ih (fun e he => hR e (List.mem_cons_of_mem _ he)) htexts)

/-- The text of a list is that of its items between brackets, in one of two layouts. -/
theorem valueText_list_eq_some {layout : Layout} {items : List Datum} {text : List Char}
    (h : valueText layout (.list items) = some text) :
    ∃ texts, itemTexts layout items = some texts ∧
      (text = '[' :: (texts.flatMap (fun t => "\n    ".toList ++ t ++ [',']) ++ ['\n', ']']) ∨
        text = '[' :: ((", ".toList).intercalate texts ++ [']'])) := by
  simp only [valueText, Option.bind_eq_bind, Option.bind_eq_some_iff] at h
  obtain ⟨texts, htexts, h⟩ := h
  refine ⟨texts, htexts, ?_⟩
  split at h
  · exact Or.inl (Option.some.inj h).symm
  · exact Or.inr (Option.some.inj h).symm

theorem itemTexts_isSome {layout : Layout} {items : List Datum}
    (h : ∀ d ∈ items, (valueText layout d).isSome = true) :
    (itemTexts layout items).isSome = true := by
  induction items with
  | nil => rfl
  | cons d items ih =>
    rw [List.forall_mem_cons] at h
    obtain ⟨text, htext⟩ := Option.isSome_iff_exists.mp h.1
    obtain ⟨texts, htexts⟩ := Option.isSome_iff_exists.mp (ih h.2)
    simp [itemTexts, htext, htexts]

/-- A list can be written if its items can be. -/
theorem valueText_list_isSome {layout : Layout} {items : List Datum}
    (h : ∀ d ∈ items, (valueText layout d).isSome = true) :
    (valueText layout (.list items)).isSome = true := by
  obtain ⟨texts, htexts⟩ := Option.isSome_iff_exists.mp (itemTexts_isSome h)
  simp only [valueText, htexts, Option.bind_eq_bind, Option.bind_some]
  split <;> rfl

theorem startsItem_valueText {layout : Layout} {depth : Nat} {d : Datum} (hd : Faithful depth d)
    {text : List Char} (h : valueText layout d = some text) : StartsItem text := by
  cases hd with
  | bool depth b =>
    cases h
    cases b with
    | true => exact ⟨'t', _, rfl, by decide⟩
    | false => exact ⟨'f', _, rfl, by decide⟩
  | int depth n =>
    obtain ⟨-, rfl⟩ : inRange n = true ∧ (integerText n).toList = text := by
      simpa [valueText] using h
    exact startsItem_of_startsNumber (startsNumber_int n)
  | float depth hx =>
    cases h
    exact startsItem_of_startsNumber (startsNumber_float hx)
  | text depth s =>
    cases h
    exact startsItem_stringIn _ _
  | list hitems =>
    obtain ⟨texts, -, rfl | rfl⟩ := valueText_list_eq_some h
    · exact ⟨'[', _, rfl, by decide⟩
    · exact ⟨'[', _, rfl, by decide⟩

/-- What may stand before an item or a closing bracket: blanks, after a line break or not. -/
inductive Gap : List Char → Prop where
  | blanks (n : Nat) : Gap (List.replicate n ' ')
  | line (n : Nat) : Gap ('\n' :: List.replicate n ' ')

/-- The text of some items up to the bracket that closes their list, and what follows it. -/
inductive ItemsOf (rest : List Char) : List (List Char) → List Char → Prop where
  | close {gap : List Char} (hgap : Gap gap) : ItemsOf rest [] (gap ++ ']' :: rest)
  | last {gap : List Char} (hgap : Gap gap) (text : List Char) :
      ItemsOf rest [text] (gap ++ (text ++ ']' :: rest))
  | item {gap : List Char} (hgap : Gap gap) (text : List Char) {texts : List (List Char)}
      {more : List Char} (hmore : ItemsOf rest texts more) :
      ItemsOf rest (text :: texts) (gap ++ (text ++ ',' :: more))

/-- Items with a line each. -/
theorem itemsOf_lines (texts : List (List Char)) (rest : List Char) :
    ItemsOf rest texts
      (texts.flatMap (fun t => "\n    ".toList ++ t ++ [',']) ++ '\n' :: ']' :: rest) := by
  induction texts with
  | nil => exact .close (.line 0)
  | cons text texts ih =>
    have hitem := ItemsOf.item (.line 4) text ih
    simpa [List.append_assoc] using hitem

/-- Items on one line, after the first. -/
theorem itemsOf_intercalate {gap : List Char} (hgap : Gap gap) (text : List Char)
    (texts : List (List Char)) (rest : List Char) :
    ItemsOf rest (text :: texts)
      (gap ++ ((", ".toList).intercalate (text :: texts) ++ ']' :: rest)) := by
  induction texts generalizing gap text with
  | nil => simpa [List.intercalate] using ItemsOf.last hgap text
  | cons next texts ih =>
    have hitem := ItemsOf.item hgap text (ih (.blanks 1) next)
    simpa [List.intercalate, List.append_assoc] using hitem

/-! ## Reading a list -/

theorem skipBlanks_replicate (n : Nat) {c : Char} (hc : isBlank c = false) (rest : List Char) :
    skipBlanks (List.replicate n ' ' ++ c :: rest) = c :: rest := by
  induction n with
  | zero => simp [skipBlanks, hc]
  | succ n ih => exact ih

/-- Nothing but blanks is skipped where no comment and no line break follows them. -/
theorem skipLines_replicate (fuel n : Nat) {c : Char} (hblank : isBlank c = false)
    (hcomment : c ≠ '#') (hbreak : c ≠ '\n') (hreturn : c ≠ '\r') (rest : List Char) :
    skipLines (fuel + 1) (List.replicate n ' ' ++ c :: rest) = c :: rest := by
  have hskip : skipComment (c :: rest) = c :: rest := by simp [skipComment, hcomment]
  rw [skipLines, skipBlanks_replicate n hblank, hskip, lineBreak?_eq_none_of_ne hbreak hreturn]

/-- Nothing is skipped at an item or at a closing bracket. -/
theorem skipToItem_gap {gap : List Char} (hgap : Gap gap) {c : Char} (hblank : isBlank c = false)
    (hcomment : c ≠ '#') (hbreak : c ≠ '\n') (hreturn : c ≠ '\r') (rest : List Char) :
    skipToItem (gap ++ c :: rest) = c :: rest := by
  cases hgap with
  | blanks n => simp [skipToItem, skipBlanks_replicate n hblank, hcomment, hbreak, hreturn]
  | line n =>
    have hlength : (List.replicate n ' ' ++ c :: rest).length = (n + rest.length) + 1 := by
      simp
      omega
    -- the fuel is the length of what is left, so one line break does not use it up
    have hstart : skipToItem ('\n' :: List.replicate n ' ' ++ c :: rest) =
        skipLines (List.replicate n ' ' ++ c :: rest).length (List.replicate n ' ' ++ c :: rest) :=
      rfl
    rw [hstart, hlength, skipLines_replicate _ n hblank hcomment hbreak hreturn]

theorem skipToItem_bracket {gap : List Char} (hgap : Gap gap) (rest : List Char) :
    skipToItem (gap ++ ']' :: rest) = ']' :: rest :=
  skipToItem_gap hgap (by decide) (by decide) (by decide) (by decide) rest

theorem StartsItem.skipToItem {text : List Char} (h : StartsItem text) {gap : List Char}
    (hgap : Gap gap) (rest : List Char) :
    skipToItem (gap ++ (text ++ rest)) = text ++ rest := by
  obtain ⟨c, more, rfl, hblank, hcomment, hbreak, hreturn, -⟩ := h
  exact skipToItem_gap hgap hblank hcomment hbreak hreturn _

/-- A text that is read as a value wherever the value ends behind it. -/
def Reads (depth : Nat) (d : Datum) (text : List Char) : Prop :=
  ∀ {fuel : Nat} {rest : List Char}, text.length < fuel → AfterValue rest →
    value? fuel depth (text ++ rest) = some (d, rest)

/-- A text that is read as an item of a list. -/
structure ReadsItem (depth : Nat) (d : Datum) (text : List Char) : Prop where
  reads : Reads depth d text
  starts : StartsItem text

section Item

variable {gap text : List Char} (hgap : Gap gap) (hstart : StartsItem text) {fuel depth : Nat}
  {d : Datum} (done : List Datum)

include hgap hstart

/-- An item with a comma behind it is read before the others. -/
theorem items?_comma {rest : List Char}
    (hread : value? fuel depth (text ++ ',' :: rest) = some (d, ',' :: rest)) :
    items? (fuel + 1) depth done (gap ++ (text ++ ',' :: rest)) =
      items? fuel depth (d :: done) rest := by
  have hskip := hstart.skipToItem hgap (',' :: rest)
  have hcomma : skipToItem (',' :: rest) = ',' :: rest := rfl
  obtain ⟨c, more, rfl, -, -, -, -, hc⟩ := hstart
  rw [List.cons_append] at hread hskip
  rw [items?, List.cons_append, hskip]
  simp [hc, hread, hcomma]

/-- An item with a bracket behind it is the last one. -/
theorem items?_bracket {rest : List Char}
    (hread : value? fuel depth (text ++ ']' :: rest) = some (d, ']' :: rest)) :
    items? (fuel + 1) depth done (gap ++ (text ++ ']' :: rest)) =
      some ((d :: done).reverse, rest) := by
  have hskip := hstart.skipToItem hgap (']' :: rest)
  have hbracket : skipToItem (']' :: rest) = ']' :: rest := rfl
  obtain ⟨c, more, rfl, -, -, -, -, hc⟩ := hstart
  rw [List.cons_append] at hread hskip
  rw [items?, List.cons_append, hskip]
  simp [hc, hread, hbracket]

end Item

/-- The items of a list are read one after the other. -/
theorem items?_itemsOf {depth : Nat} {texts : List (List Char)} {rest cs : List Char}
    (h : ItemsOf rest texts cs) {items : List Datum}
    (hitems : List.Forall₂ (ReadsItem depth) items texts) {fuel : Nat}
    (hlength : texts.length < fuel) (hfuel : ∀ text ∈ texts, text.length + texts.length < fuel)
    (done : List Datum) :
    items? fuel depth done cs = some (done.reverse ++ items, rest) := by
  obtain ⟨fuel, rfl⟩ := Nat.exists_eq_succ_of_ne_zero (Nat.ne_zero_of_lt hlength)
  induction h generalizing items fuel done with
  | close hgap =>
    cases hitems
    rw [items?, skipToItem_bracket hgap]
    simp
  | last hgap text =>
    obtain _ | ⟨hd, ⟨⟩⟩ := hitems
    have htext := hfuel text List.mem_cons_self
    rw [List.length_singleton] at htext
    rw [items?_bracket hgap hd.starts done (hd.reads (by omega) (.bracket rest)), List.reverse_cons]
  | item hgap text hmore ih =>
    obtain _ | ⟨hd, hitems⟩ := hitems
    have htext := hfuel text List.mem_cons_self
    rw [List.length_cons] at htext hlength
    obtain ⟨fuel, rfl⟩ := Nat.exists_eq_succ_of_ne_zero (show fuel ≠ 0 by omega)
    rw [items?_comma hgap hd.starts done (hd.reads (by omega) (.comma _)),
      ih hitems _ fuel (by omega), List.reverse_cons, List.append_assoc]
    · rfl
    · intro t ht
      have := hfuel t (List.mem_cons_of_mem _ ht)
      rw [List.length_cons] at this
      omega

/-- The items of a list, and each of them together with the others, are no longer than their
text. -/
theorem ItemsOf.length_le {rest cs : List Char} {texts : List (List Char)}
    (h : ItemsOf rest texts cs) : texts.length + rest.length < cs.length + 1 ∧
      ∀ text ∈ texts, text.length + texts.length + rest.length < cs.length + 1 := by
  induction h with
  | close hgap => simp; omega
  | last hgap text => simp; omega
  | item hgap text hmore ih =>
    obtain ⟨hlength, hitems⟩ := ih
    simp only [List.length_append, List.length_cons, List.mem_cons, forall_eq_or_imp]
    refine ⟨by omega, by omega, fun t ht => ?_⟩
    have := hitems t ht
    omega

/-! ## Values -/

/-- A list is read if its items are. -/
theorem reads_list {layout : Layout} {depth : Nat} {items : List Datum}
    (hitems : ∀ d ∈ items, ∀ {text}, valueText layout d = some text → ReadsItem depth d text)
    {text : List Char} (h : valueText layout (.list items) = some text) :
    Reads (depth + 1) (.list items) text := by
  intro fuel rest hfuel hrest
  obtain ⟨fuel, rfl⟩ := Nat.exists_eq_succ_of_ne_zero (Nat.ne_zero_of_lt hfuel)
  obtain ⟨texts, htexts, htext⟩ := valueText_list_eq_some h
  have hreads := forall₂_itemTexts hitems htexts
  -- the layouts differ in the gaps between the items only
  obtain ⟨body, rfl, hbody⟩ : ∃ body, text = '[' :: body ∧ ItemsOf rest texts (body ++ rest) := by
    obtain rfl | rfl := htext
    · refine ⟨_, rfl, ?_⟩
      simpa [List.append_assoc] using itemsOf_lines texts rest
    · refine ⟨_, rfl, ?_⟩
      cases texts with
      | nil => exact .close (.blanks 0)
      | cons text texts =>
        simpa [List.append_assoc] using itemsOf_intercalate (.blanks 0) text texts rest
  obtain ⟨hcount, hlength⟩ := hbody.length_le
  rw [List.length_append] at hcount hlength
  rw [List.length_cons] at hfuel
  have hread := items?_itemsOf hbody hreads (show texts.length < fuel by omega)
    (fun t ht => by have := hlength t ht; omega) []
  rw [List.cons_append, value?]
  simp [hread]

/-- What is written for a value is read as the value. By induction on how lists lie in each
other. -/
theorem value?_valueText {layout : Layout} {depth : Nat} {d : Datum} (hd : Faithful depth d)
    {text : List Char} (h : valueText layout d = some text) : Reads depth d text := by
  induction hd generalizing text with
  | list hitems ih =>
    exact reads_list (fun d hd _ h => ⟨ih d hd h, startsItem_valueText (hitems d hd) h⟩) h
  | bool depth b =>
    intro fuel rest hfuel hrest
    obtain ⟨fuel, rfl⟩ := Nat.exists_eq_succ_of_ne_zero (Nat.ne_zero_of_lt hfuel)
    cases h
    cases b <;> rfl
  | int depth n =>
    intro fuel rest hfuel hrest
    obtain ⟨fuel, rfl⟩ := Nat.exists_eq_succ_of_ne_zero (Nat.ne_zero_of_lt hfuel)
    obtain ⟨hn, rfl⟩ : inRange n = true ∧ (integerText n).toList = text := by
      simpa [valueText] using h
    rw [value?_of_startsNumber (startsNumber_int n), numeric?_int hn hrest]
  | float depth hx =>
    intro fuel rest hfuel hrest
    obtain ⟨fuel, rfl⟩ := Nat.exists_eq_succ_of_ne_zero (Nat.ne_zero_of_lt hfuel)
    cases h
    rw [value?_of_startsNumber (startsNumber_float hx), numeric?_float hx hrest]
  | text depth s =>
    intro fuel rest hfuel hrest
    obtain ⟨fuel, rfl⟩ := Nat.exists_eq_succ_of_ne_zero (Nat.ne_zero_of_lt hfuel)
    cases h
    rw [stringLiteral, value?_stringIn, ← stringLiteral, string?_literal s hrest]
    rfl

end WindowSystem.Toml
