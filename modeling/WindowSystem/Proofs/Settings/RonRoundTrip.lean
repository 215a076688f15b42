/-
# Settings in RON come back as they were saved

Settings are written as a structure with every field, absent options among them. The text is read
back into the same structure, and every field of it is read as it was written, so that settings
whose lists hold numbers are always saved and always loaded as they were
(`save_in_ron_then_load`).
-/
import WindowSystem.Proofs.Ron.Values
import WindowSystem.Proofs.Settings.TomlRoundTrip

namespace WindowSystem

open Ron

/-! ## Reading single fields -/

namespace Ron.Term

theorem filter_key {fields : List (String × Term)} (h : (fields.map Prod.fst).Nodup) {key : String}
    {t : Term} (hmem : (key, t) ∈ fields) :
    (fields.filter fun field => field.1 == key) = [(key, t)] := by
  induction fields with
  | nil => cases hmem
  | cons field fields ih =>
    rw [List.map_cons, List.nodup_cons] at h
    rcases List.mem_cons.mp hmem with rfl | hmem
    · have hnone : (fields.filter fun field => field.1 == key) = [] := by
        rw [List.filter_eq_nil_iff]
        intro other hother hkey
        exact h.1 (List.mem_map.mpr ⟨other, hother, by simpa using hkey⟩)
      rw [List.filter_cons_of_pos (by simp), hnone]
    · have hne : field.1 ≠ key := by
        intro heq
        exact h.1 (List.mem_map.mpr ⟨(key, t), hmem, heq.symm⟩)
      rw [List.filter_cons_of_neg (by simpa using hne), ih h.2 hmem]

/-- A field of a structure with distinct names is read. -/
theorem field?_eq {α : Type} {fields : List (String × Term)} (h : (fields.map Prod.fst).Nodup)
    {key : String} {t : Term} (hmem : (key, t) ∈ fields) (f : Term → Option α) (default : α) :
    field? f default fields key = f t := by
  rw [field?, filter_key h hmem]

variable {extensions : Extensions}

/-- An optional value is read if what it holds is read. -/
theorem option?_ofOption {α : Type} {f : Term → Option α} {g : α → Term} {v : Option α}
    (h : ∀ a, v = some a → f (g a) = some a) :
    option? extensions f (Ron.ofOption g v) = some v := by
  cases v with
  | none => rfl
  | some a =>
    show (f (g a)).map some = some (some a)
    rw [h a rfl]
    rfl

theorem word?_ofNat {width n : Nat} (h : n < twoTo width) : (ofNat n).word? width = some n := by
  rw [ofNat, word?, natural?_decimalDigits]
  simp [h]

/-- Numbers of a list are read. -/
theorem listOf?_numbers {xs : List Double} (h : ∀ x ∈ xs, x.isNaN = false) :
    listOf? double? (.list (xs.map ofDouble)) = some xs := by
  show (xs.map ofDouble).mapM double? = some xs
  induction xs with
  | nil => rfl
  | cons x xs ih =>
    rw [List.forall_mem_cons] at h
    have hx : double? (ofDouble x) = some x := double?_textIn h.1
    rw [List.map_cons, List.mapM_cons, ih h.2, hx]
    rfl

end Ron.Term

/-! ## Window options -/

namespace WindowOptions

/-- The fields of the structure of window options. -/
def termFields (o : WindowOptions) : List (String × Term) :=
  (o.toTerm.fields? structName).getD []

theorem fields?_toTerm (o : WindowOptions) : o.toTerm.fields? structName = some o.termFields := rfl

theorem nodup_termFields (o : WindowOptions) : (o.termFields.map Prod.fst).Nodup :=
  nodup_fieldNames

/-- Window options are read from the structure that is written for them. -/
theorem ofTerm?_toTerm {o : WindowOptions} (h : o.HasNumbersOnly) (extensions : Extensions) :
    ofTerm? extensions o.toTerm = some o := by
  -- every field is found at its place
  have hread : ∀ {α : Type} {f : Term → Option α} {g : α → Term} {key : String} {v : Option α}
      (place : Nat), o.termFields[place]? = some (key, Ron.ofOption g v) →
      (∀ a, v = some a → f (g a) = some a) →
      Term.field? (Term.option? extensions f) none o.termFields key = some v := by
    intro α f g key v place hplace hvalue
    rw [Term.field?_eq o.nodup_termFields (List.mem_of_getElem? hplace),
      Term.option?_ofOption hvalue]
  have hlist : ∀ (place : Nat) (key : String) (v : Option (List Double)),
      o.termFields[place]? = some (key, Ron.ofOption (fun xs => .list (xs.map Ron.ofDouble)) v) →
      v ∈ o.lists →
      Term.field? (Term.option? extensions (Term.listOf? Term.double?)) none o.termFields key =
        some v :=
    fun place _ _ hplace hv =>
      hread place hplace fun xs hxs => Term.listOf?_numbers (h xs (hxs ▸ hv))
  have hbool : ∀ (place : Nat) (key : String) (v : Option Bool),
      o.termFields[place]? = some (key, Ron.ofOption .bool v) →
      Term.field? (Term.option? extensions Term.bool?) none o.termFields key = some v :=
    fun place _ _ hplace => hread place hplace fun _ _ => rfl
  have hbuttons : Term.field? (Term.option? extensions fun t => (t.word? 32).map UInt32.ofNat) none
      o.termFields "enabledButtons" = some o.enabledButtons := by
    refine hread (g := fun b => Ron.ofNat b.toNat) 6 rfl fun b _ => ?_
    rw [Term.word?_ofNat b.toNat_lt]
    simp
  have htitle : Term.field? (Term.option? extensions Term.text?) none o.termFields "title" =
      some o.title :=
    hread (g := .text) 7 rfl fun _ _ => rfl
  have hlevel : Term.field? (Term.option? extensions Term.named?) none o.termFields "level" =
      some o.level :=
    hread (g := nameTerm) 14 rfl fun a _ => by cases a <;> rfl
  have htheme : Term.field? (Term.option? extensions Term.named?) none o.termFields "theme" =
      some o.theme :=
    hread (g := nameTerm) 15 rfl fun a _ => by cases a <;> rfl
  unfold ofTerm?
  rw [fields?_toTerm, Option.bind_eq_bind, Option.bind_some]
  simp only [hbuttons, htitle, hlevel, htheme,
    hlist 0 "innerSize" o.innerSize rfl (by simp [lists]),
    hlist 1 "minInnerSize" o.minInnerSize rfl (by simp [lists]),
    hlist 2 "maxInnerSize" o.maxInnerSize rfl (by simp [lists]),
    hlist 3 "position" o.position rfl (by simp [lists]),
    hlist 4 "resizeIncrements" o.resizeIncrements rfl (by simp [lists]),
    hbool 5 "resizable" o.resizable rfl, hbool 8 "fullscreen" o.fullscreen rfl,
    hbool 9 "maximized" o.maximized rfl, hbool 10 "visible" o.visible rfl,
    hbool 11 "transparent" o.transparent rfl, hbool 12 "decorated" o.decorated rfl,
    hbool 13 "alwaysOnTop" o.alwaysOnTop rfl, hbool 16 "contentProtected" o.contentProtected rfl,
    hbool 17 "active" o.active rfl]
  rfl

/-! ### What is written -/

theorem isName_termFields (o : WindowOptions) :
    ∀ field ∈ o.termFields, isName field.1 = true := by
  have hnames : ∀ name ∈ fieldNames, isName name = true := by decide +kernel
  intro field hfield
  exact hnames field.1 (List.mem_map_of_mem hfield)

/-- An optional value is read back if what it holds is. -/
theorem faithful_ofOption {α : Type} {g : α → Term} {v : Option α} {room : Nat}
    (h : ∀ a, v = some a → Faithful room (g a)) : Faithful (room + 1) (Ron.ofOption g v) := by
  cases v with
  | none => exact .absent _
  | some a => exact .present (h a rfl)

theorem faithful_ofDouble {x : Double} (hx : x.isNaN = false) (room : Nat) :
    Faithful room (Ron.ofDouble x) := by
  rcases isLiteral_textIn hx with hliteral | hinfinity
  · exact .number _ hliteral
  · rw [Ron.ofDouble, hinfinity]
    exact .infinity _

/-- The fields of window options whose lists hold numbers are read back. -/
theorem faithful_termFields {o : WindowOptions} (h : o.HasNumbersOnly) (room : Nat) :
    ∀ field ∈ o.termFields, Faithful (room + 3) field.2 := by
  have hlist : ∀ {v}, v ∈ o.lists →
      Faithful (room + 3) (Ron.ofOption (fun xs => .list (xs.map Ron.ofDouble)) v) := by
    intro v hv
    refine faithful_ofOption fun xs hxs => .list fun t ht => ?_
    obtain ⟨x, hx, rfl⟩ := List.mem_map.mp ht
    exact faithful_ofDouble (h xs (hxs ▸ hv) x hx) room
  have hbool : ∀ v, Faithful (room + 3) (Ron.ofOption .bool v) :=
    fun _ => faithful_ofOption fun b _ => .bool _ b
  have hbits : Faithful (room + 3) (Ron.ofOption (fun b => Ron.ofNat b.toNat) o.enabledButtons) :=
    faithful_ofOption fun b _ => .number _ (isLiteral_decimalDigits b.toNat)
  have htext : Faithful (room + 3) (Ron.ofOption .text o.title) :=
    faithful_ofOption fun s _ => .text _ s
  have hlevel : Faithful (room + 3) (Ron.ofOption nameTerm o.level) :=
    faithful_ofOption fun a _ => .name _ (by cases a <;> decide) (by cases a <;> decide)
  have htheme : Faithful (room + 3) (Ron.ofOption nameTerm o.theme) :=
    faithful_ofOption fun a _ => .name _ (by cases a <;> decide) (by cases a <;> decide)
  show ∀ field ∈ (o.toTerm.fields? structName).getD [], Faithful (room + 3) field.2
  simp only [toTerm, Term.fields?, Option.all_none, if_true, Option.getD_some,
    List.forall_mem_cons]
  exact ⟨hlist (by simp [lists]), hlist (by simp [lists]), hlist (by simp [lists]),
    hlist (by simp [lists]), hlist (by simp [lists]), hbool _, hbits, htext, hbool _, hbool _,
    hbool _, hbool _, hbool _, hbool _, hlevel, htheme, hbool _, hbool _, by simp⟩

end WindowOptions

/-! ## Settings -/

namespace Settings

/-- Settings are read from the structure that is written for them. -/
theorem ofTerm?_toTerm {s : Settings} (h : s.defaultWindow.HasNumbersOnly)
    (extensions : Extensions) : ofTerm? extensions s.toTerm = some s := by
  have hwindow := WindowOptions.ofTerm?_toTerm h extensions
  have hpause : (Ron.ofNat s.pollIntervalMs.toNat).word? 64 = some s.pollIntervalMs.toNat :=
    Term.word?_ofNat s.pollIntervalMs.toNat_lt
  have hfilter : (WindowOptions.nameTerm s.deviceFilter).named? = some s.deviceFilter := by
    cases s.deviceFilter <;> rfl
  have hlog : Term.option? extensions Term.text? (Ron.ofOption .text s.logFilter) =
      some s.logFilter :=
    Term.option?_ofOption fun _ _ => rfl
  simp [ofTerm?, toTerm, Term.fields?, Term.field?, hwindow, hpause, hfilter, hlog]

/-- The structure of settings whose lists hold numbers is read back. -/
theorem faithful_toTerm {s : Settings} (h : s.defaultWindow.HasNumbersOnly) :
    Faithful levels s.toTerm := by
  -- a structure takes up two levels: the settings two, the window options in them two more
  have hwindow : Faithful 126 s.defaultWindow.toTerm := by
    exact @Faithful.struct 124 _ (List.cons_ne_nil _ _) s.defaultWindow.isName_termFields
      (WindowOptions.faithful_termFields h 121)
  have hfilter : Faithful 126 (WindowOptions.nameTerm s.deviceFilter) :=
    .name _ (by cases s.deviceFilter <;> decide) (by cases s.deviceFilter <;> decide)
  have hpause : Faithful 126 (Ron.ofNat s.pollIntervalMs.toNat) :=
    .number _ (isLiteral_decimalDigits _)
  have hlog : Faithful 126 (Ron.ofOption .text s.logFilter) :=
    WindowOptions.faithful_ofOption fun text _ => .text _ text
  refine @Faithful.struct 126 _ (List.cons_ne_nil _ _) ?_ ?_
  · simp only [List.forall_mem_cons]
    exact ⟨by decide, by decide, by decide, by decide, by simp⟩
  · simp only [List.forall_mem_cons]
    exact ⟨hwindow, hfilter, hpause, hlog, by simp⟩

/-- Settings that are saved in RON are loaded as they were, whatever the lengths of their lists,
the characters of their texts and their pause. -/
theorem save_in_ron_then_load {s : Settings} (h : s.defaultWindow.HasNumbersOnly) {path : String}
    (hpath : (FileFormat.fileName path.toList).bind FileFormat.extension = some "ron".toList)
    (before : Option ByteArray) :
    (∃ text, s.save path true = .ok text) ∧
      load path (contentsAfter before (s.save path true)) = .ok s ∧ s.sameAs s = true := by
  have hformat : FileFormat.ofPath path = .ok .ron := by
    rw [FileFormat.ofPath, hpath]
    rfl
  have hparse := parse?_render (faithful_toTerm h)
  have hread := ofTerm?_toTerm h {}
  have hsave : s.save path true = .ok (String.ofList (Ron.render 0 s.toTerm)) := by
    simp [save, hformat, render]
  have hload : load path (some (String.ofList (Ron.render 0 s.toTerm)).toUTF8) = .ok s := by
    simp only [load, fromUTF8?_toUTF8, hformat, parse, hparse, Option.bind_some, hread]
  rw [hsave]
  exact ⟨⟨_, rfl⟩, hload, sameAs_self h⟩

/-- A title with quotes, a mark that extends the character before it and a character beyond the
first plane comes back, and so do lists with both infinities and a negative zero, a level whose name
needs a mark, and the longest pause. -/
theorem save_in_ron_then_load_odd_values :
    let odd : Settings :=
      { defaultWindow :=
          { innerSize := some [⟨0x8000000000000000⟩, ⟨0x7ff0000000000000⟩, ⟨0xfff0000000000000⟩]
            position := some []
            title := some "\"'r#\u0301\u200b\\\x00), Some(None)"
            level := some .alwaysOnTop }
        pollIntervalMs := 0xffffffffffffffff
        logFilter := some "" }
    (∃ text, odd.save "a.d/settings.ron" true = .ok text) ∧
      load "a.d/settings.ron" (contentsAfter none (odd.save "a.d/settings.ron" true)) = .ok odd := by
  intro odd
  have hodd : odd.defaultWindow.HasNumbersOnly := by
    intro xs hxs
    simp [odd, WindowOptions.lists] at hxs
    obtain rfl | rfl := hxs
    · decide +kernel
    · simp
  have hload := save_in_ron_then_load hodd (show
    (FileFormat.fileName "a.d/settings.ron".toList).bind FileFormat.extension =
      some "ron".toList by decide +kernel) none
  exact ⟨hload.1, hload.2.1⟩

end Settings

end WindowSystem
