/-
# Settings in TOML come back as they were saved

Settings are written as a document of plain values and one table of window options, of which the
absent ones are left out. Reading gives every field back, so that settings that TOML can say are
loaded as they were saved, and others are not saved at all (`save_then_load`).
-/
import WindowSystem.Proofs.Toml.Documents
import WindowSystem.Settings.File

namespace WindowSystem

open Toml

/-! ## Fields after reading -/

theorem Double.sameNumber_self {x : Double} (hx : x.isNaN = false) : x.sameNumber x = true := by
  unfold Double.sameNumber
  cases hvalue : x.value with
  | nan => simp [Double.isNaN, hvalue] at hx
  | infinite negative => simp
  | finite negative m q => cases m <;> simp

namespace Datum

theorem word?_nat {width n : Nat} (h : n < twoTo width) : (nat n).word? width = some n := by
  have hle : (n : Int) ≤ (twoTo width - 1 : Nat) := by omega
  rw [nat, word?, int?, if_pos ⟨Int.natCast_nonneg n, hle⟩]
  simp

theorem uint32?_nat (n : UInt32) : (nat n.toNat).uint32? = some n := by
  rw [uint32?, word?_nat n.toNat_lt]
  simp

theorem uint64?_nat (n : UInt64) : (nat n.toNat).uint64? = some n := by
  rw [uint64?, word?_nat n.toNat_lt]
  simp

/-- The numbers of a list are read back. -/
theorem listOf?_numbers (xs : List Double) :
    listOf? double? (WindowOptions.numbers xs) = some xs := by
  show (xs.map float).mapM double? = some xs
  induction xs with
  | nil => rfl
  | cons x xs ih =>
    rw [List.map_cons, List.mapM_cons, ih]
    rfl

/-- A name is read back where no other value of its vocabulary bears it. -/
theorem variant?_named {α : Type} [Vocabulary α] {a : α}
    (h : Vocabulary.ofName? (Vocabulary.name a) = some a) (isNothing : Datum → Bool) :
    variant? isNothing (named a) = some a := h

/-- A field of a record with distinct keys is found if it has not been left out. -/
theorem lookup_plainFields {fields : List (String × Datum)} (h : (fields.map Prod.fst).Nodup)
    {key : String} {d : Datum} (hmem : (key, d) ∈ fields) :
    lookup (plainFields fields) key = if isPlainValue d then some d else none := by
  have hsame : ∀ field ∈ plainFields fields, field.1 = key → field = (key, d) := by
    intro field hfield hkey
    exact List.inj_on_of_nodup_map h (List.mem_filter.mp hfield).1 hmem hkey
  cases hfind : (plainFields fields).find? fun field => field.1 == key with
  | none =>
    have hd : ¬ isPlainValue d = true := by
      intro hd
      rw [List.find?_eq_none] at hfind
      exact hfind (key, d) (List.mem_filter.mpr ⟨hmem, hd⟩) (by simp)
    rw [lookup, hfind, if_neg hd]
    rfl
  | some field =>
    have hfield := List.mem_of_find?_eq_some hfind
    have heq := hsame field hfield (by simpa using List.find?_some hfind)
    subst heq
    rw [lookup, hfind, if_pos (List.mem_filter.mp hfield).2]
    rfl

/-- An optional field of a record with distinct keys is read back, present or absent. -/
theorem optional?_plainFields {α : Type} {f : Datum → Option α} {g : α → Datum}
    (hread : ∀ a, f (g a) = some a) (hplain : ∀ a, isPlainValue (g a) = true)
    {fields : List (String × Datum)} (h : (fields.map Prod.fst).Nodup) {key : String} {v : Option α}
    (hmem : (key, ofOption g v) ∈ fields) :
    optional? f (plainFields fields) key = some v := by
  have hlookup := lookup_plainFields h hmem
  cases v with
  | none =>
    have hnone : lookup (plainFields fields) key = none := hlookup
    rw [optional?, hnone]
  | some a =>
    have hsome : lookup (plainFields fields) key = some (g a) := by
      rw [hlookup]
      exact if_pos (hplain a)
    have hnull : g a ≠ null := by
      intro hnull
      have := hplain a
      rw [hnull] at this
      cases this
    rw [optional?, hsome]
    simp [hread]

end Datum

/-- The natural numbers that TOML can say. -/
theorem inRange_natCast (n : Nat) : inRange n = true ↔ n ≤ 2 ^ 63 - 1 := by
  have hmin : Int64.minValue.toInt ≤ n := by
    have : Int64.minValue.toInt ≤ 0 := by decide
    omega
  have hmax : Int64.maxValue.toInt = 2 ^ 63 - 1 := by decide
  rw [inRange, Bool.and_eq_true, decide_eq_true_eq, decide_eq_true_eq, hmax]
  omega

/-! ## Window options -/

namespace WindowOptions

theorem nodup_fieldNames : fieldNames.Nodup := by
  decide +kernel

/-- Window options are read from the fields that are left when the absent ones are left out. -/
theorem ofFields?_plainFields (isNothing : Datum → Bool) (o : WindowOptions) :
    ofFields? isNothing (plainFields o.toFields) = some o := by
  have hdistinct : (o.toFields.map Prod.fst).Nodup := nodup_fieldNames
  have hlist : ∀ (key : String) (v : Option (List Double)),
      (key, Datum.ofOption numbers v) ∈ o.toFields →
      Datum.optional? (Datum.listOf? Datum.double?) (plainFields o.toFields) key = some v :=
    fun _ _ => Datum.optional?_plainFields Datum.listOf?_numbers (fun _ => rfl) hdistinct
  have hbool : ∀ (key : String) (v : Option Bool),
      (key, Datum.ofOption Datum.bool v) ∈ o.toFields →
      Datum.optional? Datum.bool? (plainFields o.toFields) key = some v :=
    fun _ _ => Datum.optional?_plainFields (f := Datum.bool?) (g := Datum.bool) (fun _ => rfl)
      (fun _ => rfl) hdistinct
  have hbuttons : Datum.optional? Datum.uint32? (plainFields o.toFields) "enabledButtons" =
      some o.enabledButtons :=
    Datum.optional?_plainFields Datum.uint32?_nat (fun _ => rfl) hdistinct (by simp [toFields])
  have htitle : Datum.optional? Datum.text? (plainFields o.toFields) "title" = some o.title :=
    Datum.optional?_plainFields (f := Datum.text?) (g := Datum.text) (fun _ => rfl) (fun _ => rfl)
      hdistinct (by simp [toFields])
  have hlevel : Datum.optional? (Datum.variant? isNothing) (plainFields o.toFields) "level" =
      some o.level :=
    Datum.optional?_plainFields (fun a => Datum.variant?_named (by cases a <;> rfl) isNothing)
      (fun _ => rfl) hdistinct (by simp [toFields])
  have htheme : Datum.optional? (Datum.variant? isNothing) (plainFields o.toFields) "theme" =
      some o.theme :=
    Datum.optional?_plainFields (fun a => Datum.variant?_named (by cases a <;> rfl) isNothing)
      (fun _ => rfl) hdistinct (by simp [toFields])
  unfold ofFields?
  simp only [hbuttons, htitle, hlevel, htheme,
    hlist "innerSize" o.innerSize (by simp [toFields]),
    hlist "minInnerSize" o.minInnerSize (by simp [toFields]),
    hlist "maxInnerSize" o.maxInnerSize (by simp [toFields]),
    hlist "position" o.position (by simp [toFields]),
    hlist "resizeIncrements" o.resizeIncrements (by simp [toFields]),
    hbool "resizable" o.resizable (by simp [toFields]),
    hbool "fullscreen" o.fullscreen (by simp [toFields]),
    hbool "maximized" o.maximized (by simp [toFields]),
    hbool "visible" o.visible (by simp [toFields]),
    hbool "transparent" o.transparent (by simp [toFields]),
    hbool "decorated" o.decorated (by simp [toFields]),
    hbool "alwaysOnTop" o.alwaysOnTop (by simp [toFields]),
    hbool "contentProtected" o.contentProtected (by simp [toFields]),
    hbool "active" o.active (by simp [toFields])]
  rfl

/-- The options that are lists of numbers. -/
def lists (o : WindowOptions) : List (Option (List Double)) :=
  [o.innerSize, o.minInnerSize, o.maxInnerSize, o.position, o.resizeIncrements]

/-- Whether every component of every list is a number. -/
def HasNumbersOnly (o : WindowOptions) : Prop :=
  ∀ xs, some xs ∈ o.lists → ∀ x ∈ xs, x.isNaN = false

/-- The values of the fields of window options. -/
inductive IsOption (o : WindowOptions) : Datum → Prop where
  | absent : IsOption o .null
  | numbers {xs : List Double} (h : some xs ∈ o.lists) : IsOption o (numbers xs)
  | bool (b : Bool) : IsOption o (.bool b)
  | bits (n : UInt32) : IsOption o (.nat n.toNat)
  | text (s : String) : IsOption o (.text s)

theorem isOption_ofOption {α : Type} {o : WindowOptions} {f : α → Datum} {v : Option α}
    (h : ∀ a, v = some a → IsOption o (f a)) : IsOption o (.ofOption f v) := by
  cases v with
  | none => exact .absent
  | some a => exact h a rfl

theorem isOption_toFields (o : WindowOptions) : ∀ field ∈ o.toFields, IsOption o field.2 := by
  have hlist : ∀ {v}, v ∈ o.lists → IsOption o (.ofOption WindowOptions.numbers v) :=
    fun hv => isOption_ofOption fun xs hxs => .numbers (hxs ▸ hv)
  have hbool : ∀ v, IsOption o (.ofOption .bool v) := fun _ => isOption_ofOption fun b _ => .bool b
  have hname : ∀ {α : Type} [Vocabulary α] (v : Option α), IsOption o (.ofOption .named v) :=
    fun _ => isOption_ofOption fun a _ => .text (Vocabulary.name a)
  have hbits := isOption_ofOption (o := o) (v := o.enabledButtons) fun n _ => .bits n
  have htext := isOption_ofOption (o := o) (v := o.title) fun s _ => .text s
  simp only [toFields, List.forall_mem_cons]
  exact ⟨hlist (by simp [lists]), hlist (by simp [lists]), hlist (by simp [lists]),
    hlist (by simp [lists]), hlist (by simp [lists]), hbool _, hbits, htext, hbool _, hbool _,
    hbool _, hbool _, hbool _, hbool _, hname _, hname _, hbool _, hbool _, by simp⟩

theorem IsOption.ne_record {o : WindowOptions} {d : Datum} (hd : IsOption o d)
    (inner : List (String × Datum)) : d ≠ .record inner := by
  rintro rfl
  cases hd

theorem IsOption.faithful {o : WindowOptions} (h : o.HasNumbersOnly) {d : Datum}
    (hd : IsOption o d) (hplain : isPlainValue d = true) : Faithful depthLimit d := by
  cases hd with
  | absent => cases hplain
  | numbers hxs =>
    refine @Faithful.list 78 _ fun d hd => ?_
    obtain ⟨x, hx, rfl⟩ := List.mem_map.mp hd
    exact .float 78 (h _ hxs x hx)
  | bool b => exact .bool _ b
  | bits n => exact .int _ n.toNat
  | text s => exact .text _ s

/-- The bits of the buttons are in the range of TOML integers, so that every option can be
written. -/
theorem IsOption.valueText_isSome {o : WindowOptions} {d : Datum} (hd : IsOption o d)
    (hplain : isPlainValue d = true) (layout : Layout) : (valueText layout d).isSome = true := by
  cases hd with
  | absent => cases hplain
  | numbers hxs =>
    refine valueText_list_isSome fun d hd => ?_
    obtain ⟨x, -, rfl⟩ := List.mem_map.mp hd
    rfl
  | bool b => rfl
  | bits n =>
    have hn : inRange n.toNat = true := by
      rw [inRange_natCast]
      have := n.toNat_lt
      omega
    simp [Datum.nat, valueText, hn]
  | text s => rfl

theorem tableFields_toFields (o : WindowOptions) : tableFields o.toFields = [] := by
  refine List.filterMap_eq_nil_iff.mpr fun field hfield => ?_
  split
  · rename_i inner hrecord
    exact absurd hrecord ((isOption_toFields o field hfield).ne_record inner)
  · rfl

/-- Window options are read back if every component of a list is a number. -/
theorem faithfulFields_toFields {o : WindowOptions} (h : o.HasNumbersOnly) :
    FaithfulFields o.toFields := by
  refine ⟨fun field hfield => ?_, nodup_fieldNames⟩
  obtain ⟨hmem, hplain⟩ := List.mem_filter.mp hfield
  exact (isOption_toFields o field hmem).faithful h hplain

end WindowOptions

/-! ## Settings -/

namespace Settings

theorem plainFields_toFields (s : Settings) :
    plainFields s.toFields =
      ("device_event_filter", .named s.deviceFilter) ::
        ("poll_interval_ms", .nat s.pollIntervalMs.toNat) ::
          (s.logFilter.map fun filter => ("log_filter", Datum.text filter)).toList := by
  obtain ⟨window, filter, pause, log⟩ := s
  cases log <;> rfl

theorem tableFields_toFields (s : Settings) :
    tableFields s.toFields = [("default_window", s.defaultWindow.toFields)] := by
  obtain ⟨window, filter, pause, log⟩ := s
  cases log <;> rfl

/-- The document of settings is read back if the lists of the window options hold numbers. -/
theorem faithfulDocument_toFields {s : Settings} (h : s.defaultWindow.HasNumbersOnly) :
    FaithfulDocument s.toFields := by
  have hdistinct : (s.toFields.map Prod.fst).Nodup := by
    show ["default_window", "device_event_filter", "poll_interval_ms", "log_filter"].Nodup
    decide
  refine ⟨⟨?_, hdistinct⟩, ?_⟩
  · rw [plainFields_toFields, List.forall_mem_cons, List.forall_mem_cons]
    refine ⟨.text _ _, .int _ _, fun field hfield => ?_⟩
    rw [Option.mem_toList, Option.map_eq_some_iff] at hfield
    obtain ⟨filter, -, rfl⟩ := hfield
    exact .text _ filter
  · rw [tableFields_toFields, List.forall_mem_singleton]
    exact ⟨WindowOptions.faithfulFields_toFields h, WindowOptions.tableFields_toFields _⟩

/-- Settings are read from the fields that their document gives back. -/
theorem ofFields?_readBack (s : Settings) :
    ofFields? Datum.isEmpty (readBack s.toFields) = some s := by
  have hread : readBack s.toFields = plainFields s.toFields ++
      [("default_window", .record (plainFields s.defaultWindow.toFields))] := by
    rw [readBack, tableFields_toFields]
    rfl
  have hwindow := WindowOptions.ofFields?_plainFields Datum.isEmpty s.defaultWindow
  have hpause := Datum.uint64?_nat s.pollIntervalMs
  have hfilter : Datum.variant? Datum.isEmpty (.named s.deviceFilter) = some s.deviceFilter :=
    Datum.variant?_named (by cases s.deviceFilter <;> rfl) _
  rw [hread, plainFields_toFields]
  -- the log filter is left out if it is absent; the other fields stand in every document
  obtain ⟨window, filter, pause, log⟩ := s
  cases log with
  | none =>
    simp [ofFields?, Datum.defaulted?, Datum.optional?, Datum.lookup, WindowOptions.ofDatum?,
      Datum.fieldsOf?, hwindow, hpause, hfilter]
  | some log =>
    simp [ofFields?, Datum.defaulted?, Datum.optional?, Datum.lookup, WindowOptions.ofDatum?,
      Datum.fieldsOf?, hwindow, hpause, hfilter, Datum.text?]

/-- TOML can say settings if it can say their pause. -/
theorem document?_toFields_isSome_iff (layout : Layout) (s : Settings) :
    (document? layout s.toFields).isSome = true ↔ s.pollIntervalMs.toNat ≤ 2 ^ 63 - 1 := by
  have hpause : (valueText layout (.nat s.pollIntervalMs.toNat)).isSome = true ↔
      s.pollIntervalMs.toNat ≤ 2 ^ 63 - 1 := by
    rw [← inRange_natCast, Datum.nat, valueText]
    split <;> simp_all
  have hlog : ∀ field ∈ (s.logFilter.map fun filter => ("log_filter", Datum.text filter)).toList,
      (valueText layout field.2).isSome = true := by
    intro field hfield
    rw [Option.mem_toList, Option.map_eq_some_iff] at hfield
    obtain ⟨filter, -, rfl⟩ := hfield
    rfl
  have hwindow : ∀ field ∈ plainFields s.defaultWindow.toFields,
      (valueText layout field.2).isSome = true := by
    intro field hfield
    obtain ⟨hmem, hplain⟩ := List.mem_filter.mp hfield
    exact (WindowOptions.isOption_toFields _ field hmem).valueText_isSome hplain layout
  rw [document?_isSome_iff, tableFields_toFields, plainFields_toFields]
  · rw [List.forall_mem_cons, List.forall_mem_cons, List.forall_mem_singleton, hpause]
    exact ⟨fun h => h.1.2.1, fun h => ⟨⟨rfl, h, hlog⟩, hwindow⟩⟩
  · rw [tableFields_toFields, List.forall_mem_singleton]
    exact WindowOptions.tableFields_toFields _

/-! ## Files -/

/-- Lists of numbers equal themselves. -/
theorem sameNumbers_self {v : Option (List Double)}
    (h : ∀ xs, v = some xs → ∀ x ∈ xs, x.isNaN = false) : sameNumbers v v = true := by
  cases v with
  | none => rfl
  | some xs =>
    have hxs := h xs rfl
    rw [sameNumbers, beq_self_eq_true, Bool.true_and]
    clear h
    induction xs with
    | nil => rfl
    | cons x xs ih =>
      rw [List.forall_mem_cons] at hxs
      rw [List.zip_cons_cons, List.all_cons, ih hxs.2, Bool.and_true]
      exact Double.sameNumber_self hxs.1

/-- Settings equal themselves if the lists of the window options hold numbers. -/
theorem sameAs_self {s : Settings} (h : s.defaultWindow.HasNumbersOnly) : s.sameAs s = true := by
  have hlist : ∀ v ∈ s.defaultWindow.lists, sameNumbers v v = true :=
    fun v hv => sameNumbers_self fun xs hxs => h xs (hxs ▸ hv)
  simp only [WindowOptions.lists, List.forall_mem_cons] at hlist
  obtain ⟨h1, h2, h3, h4, h5, -⟩ := hlist
  simp [sameAs, WindowOptions.sameAs, h1, h2, h3, h4, h5]

/-- The contents that a file has after settings have been saved in it: what was written, or what
was there before. -/
def contentsAfter (before : Option ByteArray) : Except SettingsError String → Option ByteArray
  | .ok text => some text.toUTF8
  | .error _ => before

theorem fromUTF8?_toUTF8 (text : String) : String.fromUTF8? text.toUTF8 = some text := by
  have h : text.toUTF8.IsValidUTF8 := text.isValidUTF8
  rw [String.fromUTF8?, dif_pos h]
  rfl

/-- What has been written in TOML is loaded. -/
theorem load_toUTF8 {s : Settings} (h : s.defaultWindow.HasNumbersOnly) {text : String}
    (htext : document? .pretty s.toFields = some text) {path : String}
    (hpath : FileFormat.ofPath path = .ok .toml) : load path (some text.toUTF8) = .ok s := by
  have hparse := parse?_document (faithfulDocument_toFields h) htext
  have hread := ofFields?_readBack s
  simp only [load, fromUTF8?_toUTF8, hpath, parse, hparse, Option.bind_some, hread]

/-- Settings that are saved in TOML are loaded as they were, whatever the lengths of their lists and
the characters of their texts, if their pause is in the range of TOML integers. Others are not
saved, and the file stays as it was. -/
theorem save_then_load {s : Settings} (h : s.defaultWindow.HasNumbersOnly) {path : String}
    (hpath : (FileFormat.fileName path.toList).bind FileFormat.extension = some "toml".toList)
    (before : Option ByteArray) :
    (s.pollIntervalMs.toNat ≤ 2 ^ 63 - 1 →
      (∃ text, s.save path true = .ok text) ∧
        load path (contentsAfter before (s.save path true)) = .ok s ∧ s.sameAs s = true) ∧
    (2 ^ 63 - 1 < s.pollIntervalMs.toNat →
      (∃ message, s.save path true = .error (.serialize message)) ∧
        contentsAfter before (s.save path true) = before) := by
  have hformat : FileFormat.ofPath path = .ok .toml := by
    rw [FileFormat.ofPath, hpath]
    rfl
  have hwritten := document?_toFields_isSome_iff .pretty s
  constructor
  · intro hpause
    obtain ⟨text, htext⟩ := Option.isSome_iff_exists.mp (hwritten.mpr hpause)
    have hsave : s.save path true = .ok text := by simp [save, hformat, render, htext]
    rw [hsave]
    exact ⟨⟨text, rfl⟩, load_toUTF8 h htext hformat, sameAs_self h⟩
  · intro hpause
    have hnone : document? .pretty s.toFields = none := by
      rw [← Option.not_isSome_iff_eq_none, hwritten]
      omega
    have hsave : s.save path true = .error (.serialize "out-of-range value for u64 type") := by
      simp [save, hformat, render, hnone]
    rw [hsave]
    exact ⟨⟨_, rfl⟩, rfl⟩

/-- A title with quotes of both kinds, a control character and line breaks comes back, and so do
lists with a negative zero, an infinity and the greatest double; a pause of `2 ^ 63` milliseconds is
not saved. -/
theorem save_then_load_odd_values :
    let odd : Settings :=
      { defaultWindow :=
          { innerSize := some [⟨0x8000000000000000⟩, ⟨0x7ff0000000000000⟩, ⟨0x7fefffffffffffff⟩]
            position := some []
            title := some "\r'''\n\"\"\"\"\\\x07"
            level := some .alwaysOnTop }
        logFilter := some "" }
    let endless : Settings := { pollIntervalMs := 0x8000000000000000 }
    let before : Option ByteArray := some "pause = 4\n".toUTF8
    load "a.d/settings.toml" (contentsAfter before (odd.save "a.d/settings.toml" true)) = .ok odd ∧
      (∃ message, endless.save ".toml.toml" true = .error (.serialize message)) ∧
      contentsAfter before (endless.save ".toml.toml" true) = before := by
  intro odd endless before
  have hodd : odd.defaultWindow.HasNumbersOnly := by
    intro xs hxs
    simp [odd, WindowOptions.lists] at hxs
    obtain rfl | rfl := hxs
    · decide +kernel
    · simp
  have hendless : endless.defaultWindow.HasNumbersOnly := by
    intro xs hxs
    simp [endless, WindowOptions.lists] at hxs
  exact ⟨((save_then_load hodd (by decide +kernel) before).1 (by simp [odd])).2.1,
    (save_then_load hendless (by decide +kernel) before).2 (by simp [endless])⟩

end Settings

end WindowSystem
