/-
# Options over defaults

Laying one record of options over another goes field by field, and so does checking, so that
attributes can be laid over each other as well. The two agree in every attribute but the stacking
level, which two fields ask for: a level that the defaults set wins over the older spelling in the
options above them. A window is created from the options of a script over the defaults of the
bridge; if they do not pass the check, nothing happens.
-/
import WindowSystem.Creation.Record
import WindowSystem.Proofs.Bridge.Agreement
import WindowSystem.Proofs.Creation.Validation

namespace WindowSystem

namespace WindowOptions

/-! ## Field by field -/

theorem isNull_ofOption {α : Type} {f : α → Datum} (hf : ∀ a, (f a).isNull = false)
    (value : Option α) : (Datum.ofOption f value).isNull = value.isNone := by
  cases value with
  | none => rfl
  | some a => exact hf a

/-- An optional value over a default, written as records are. -/
theorem ofOption_or {α : Type} {f : α → Datum} (hf : ∀ a, (f a).isNull = false)
    (own default : Option α) :
    Datum.ofOption f (own.or default) =
      if (Datum.ofOption f own).isNull then .ofOption f default else .ofOption f own := by
  rw [isNull_ofOption hf]
  cases own <;> rfl

/-- The fields of options over defaults: each is taken from the options if it is set there, and
from the defaults otherwise. -/
theorem toFields_orElse (o d : WindowOptions) :
    (o.orElse d).toFields = List.zipWith
      (fun own default => if own.2.isNull then default else own) o.toFields d.toFields := by
  have hpair (name : String) (own default : Datum) :
      (if own.isNull then (name, default) else (name, own)) =
        (name, if own.isNull then default else own) := by
    split <;> rfl
  simp only [toFields, orElse, List.zipWith_cons_cons, List.zipWith_nil_left, hpair,
    ofOption_or (f := numbers) fun _ => rfl, ofOption_or (f := Datum.bool) fun _ => rfl,
    ofOption_or (f := fun b : UInt32 => Datum.nat b.toNat) fun _ => rfl,
    ofOption_or (f := Datum.text) fun _ => rfl,
    ofOption_or (f := Datum.named (α := StackLevel)) fun _ => rfl,
    ofOption_or (f := Datum.named (α := Theme)) fun _ => rfl]

end WindowOptions

/-! ## Attributes over attributes -/

/-- Takes every attribute from `a` if it is set there, and from `b` otherwise. -/
def WindowAttributes.orElse (a b : WindowAttributes) : WindowAttributes where
  innerSize := a.innerSize.or b.innerSize
  minInnerSize := a.minInnerSize.or b.minInnerSize
  maxInnerSize := a.maxInnerSize.or b.maxInnerSize
  position := a.position.or b.position
  resizeIncrements := a.resizeIncrements.or b.resizeIncrements
  resizable := a.resizable.or b.resizable
  enabledButtons := a.enabledButtons.or b.enabledButtons
  title := a.title.or b.title
  fullscreen := a.fullscreen.or b.fullscreen
  maximized := a.maximized.or b.maximized
  visible := a.visible.or b.visible
  transparent := a.transparent.or b.transparent
  decorated := a.decorated.or b.decorated
  level := a.level.or b.level
  theme := a.theme.or b.theme
  contentProtected := a.contentProtected.or b.contentProtected
  active := a.active.or b.active

namespace WindowOptions

variable {o d : WindowOptions} {a b : WindowAttributes}

/-- What is read off two values is read off one over the other. -/
theorem map_or_congr {α β γ : Type} {f : α → γ} {g : β → γ} {x y : Option α} {s t : Option β}
    (hx : x.map f = s.map g) (hy : y.map f = t.map g) : (x.or y).map f = (s.or t).map g := by
  rw [Option.map_or, Option.map_or, hx, hy]

/-- Options over defaults describe the attributes over those of the defaults, with the level that
the two spellings give when they are merged each on its own. -/
theorem Describes.orElse (ha : o.Describes a) (hb : d.Describes b) :
    (o.orElse d).Describes { a.orElse b with level := (o.orElse d).stackLevel } where
  innerSize := map_or_congr ha.innerSize hb.innerSize
  minInnerSize := map_or_congr ha.minInnerSize hb.minInnerSize
  maxInnerSize := map_or_congr ha.maxInnerSize hb.maxInnerSize
  position := map_or_congr ha.position hb.position
  resizeIncrements := map_or_congr ha.resizeIncrements hb.resizeIncrements
  resizable := congrArg₂ Option.or ha.resizable hb.resizable
  enabledButtons := map_or_congr ha.enabledButtons hb.enabledButtons
  title := congrArg₂ Option.or ha.title hb.title
  fullscreen := congrArg₂ Option.or ha.fullscreen hb.fullscreen
  maximized := congrArg₂ Option.or ha.maximized hb.maximized
  visible := congrArg₂ Option.or ha.visible hb.visible
  transparent := congrArg₂ Option.or ha.transparent hb.transparent
  decorated := congrArg₂ Option.or ha.decorated hb.decorated
  level := rfl
  theme := congrArg₂ Option.or ha.theme hb.theme
  contentProtected := congrArg₂ Option.or ha.contentProtected hb.contentProtected
  active := congrArg₂ Option.or ha.active hb.active

/-- A level set in either record wins over the older spelling in both. -/
theorem stackLevel_orElse (o d : WindowOptions) :
    (o.orElse d).stackLevel = o.level.or (d.level.or (o.stackLevel.or d.stackLevel)) := by
  simp only [stackLevel, orElse]
  cases o.level <;> cases d.level <;> cases o.alwaysOnTop <;> simp

/-- The merged level is that of the options, or else that of the defaults, unless the options use
the older spelling and the defaults set another level. -/
theorem stackLevel_orElse_eq_iff :
    (o.orElse d).stackLevel = o.stackLevel.or d.stackLevel ↔
      ∀ onTop level, o.level = none → o.alwaysOnTop = some onTop → d.level = some level →
        level = .ofOnTop onTop := by
  simp only [stackLevel, orElse]
  cases o.level <;> cases d.level <;> cases o.alwaysOnTop <;> simp

/-- Checked options over checked defaults pass the check. The attributes are those of the options
over those of the defaults, but for the stacking level: one that the defaults set wins over the
older spelling in the options. So they differ exactly where the options use the older spelling
alone and the defaults set a level that it does not stand for. -/
theorem attributes_of_layers (ho : o.attributes? = .ok a) (hd : d.attributes? = .ok b) :
    (o.orElse d).attributes? =
        .ok { a.orElse b with level := o.level.or (d.level.or (a.level.or b.level)) } ∧
      ((o.orElse d).attributes? = .ok (a.orElse b) ↔
        ∀ onTop level, o.level = none → o.alwaysOnTop = some onTop → d.level = some level →
          level = .ofOnTop onTop) := by
  have ha := attributes?_eq_ok_iff.mp ho
  have hb := attributes?_eq_ok_iff.mp hd
  have hmerged : (o.orElse d).attributes? =
      .ok { a.orElse b with level := (o.orElse d).stackLevel } :=
    attributes?_eq_ok_iff.mpr (ha.orElse hb)
  have hlevels : o.stackLevel.or d.stackLevel = a.level.or b.level :=
    congrArg₂ Option.or ha.level hb.level
  constructor
  · rw [hmerged, stackLevel_orElse, hlevels]
  · rw [hmerged, Except.ok.injEq, ← stackLevel_orElse_eq_iff, hlevels]
    constructor
    · exact fun h => congrArg WindowAttributes.level h
    · intro h
      rw [h]
      rfl

/-- A title from the defaults, and the older spelling on both sides. -/
theorem attributes_of_layers_of_older_spellings :
    ({ alwaysOnTop := some true } : WindowOptions).attributes? =
        .ok { level := some .alwaysOnTop } ∧
      ({ title := some "Untitled", alwaysOnTop := some false } : WindowOptions).attributes? =
        .ok { title := some "Untitled", level := some .normal } ∧
      (({ alwaysOnTop := some true } : WindowOptions).orElse
          { title := some "Untitled", alwaysOnTop := some false }).attributes? =
        .ok { title := some "Untitled", level := some .alwaysOnTop } :=
  ⟨rfl, rfl, (attributes_of_layers (o := { alwaysOnTop := some true })
    (d := { title := some "Untitled", alwaysOnTop := some false }) rfl rfl).1⟩

/-- The older spelling in the options loses against a level in the defaults. -/
theorem default_level_over_older_spelling :
    ({ alwaysOnTop := some true } : WindowOptions).attributes? =
        .ok { level := some .alwaysOnTop } ∧
      ({ level := some .alwaysOnBottom } : WindowOptions).attributes? =
        .ok { level := some .alwaysOnBottom } ∧
      (({ alwaysOnTop := some true } : WindowOptions).orElse
          { level := some .alwaysOnBottom }).attributes? =
        .ok { level := some .alwaysOnBottom } ∧
      (({ alwaysOnTop := some true } : WindowOptions).orElse
          { level := some .alwaysOnBottom }).attributes? ≠
        .ok (WindowAttributes.orElse { level := some .alwaysOnTop }
          { level := some .alwaysOnBottom }) :=
  ⟨rfl, rfl, rfl, nofun⟩

end WindowOptions

/-! ## Creating windows -/

namespace Bridge

variable {N W G S : Type} [WindowManager N W] [GraphicsBackend G S]

/-- A window is created from options over the defaults of the bridge. That is refused, for what is
wrong with the first list field that offends, exactly if one offends; then nothing is called and
nothing changes. Otherwise the window manager is asked once, with the attributes that the merged
options describe. -/
theorem createWindow_checks_options (o : WindowOptions) (b : Bridge N G S) :
    let m := o.orElse b.defaultWindow
    let outcome := (createWindow o).run b
    m.toFields = List.zipWith (fun own default => if own.2.isNull then default else own)
        o.toFields b.defaultWindow.toFields ∧
      ((∃ e, outcome.answer = .error (.options e)) ↔
        ∃ f ∈ WindowOptions.listFields, f.Offends m) ∧
      (∀ e, outcome.answer = .error (.options e) →
        m.FirstFault e ∧ outcome.state = b ∧ outcome.journal = []) ∧
      ((∀ f ∈ WindowOptions.listFields, ¬ f.Offends m) →
        ∃ attributes answer rest, m.Describes attributes ∧
          Entry.calls outcome.journal = .create attributes answer :: rest ∧
          ∀ c ∈ rest, c.IsGraphics) := by
  intro m outcome
  have hrefused (e : OptionsError) :
      outcome.answer = .error (.options e) ↔ m.attributes? = .error e := by
    cases h : m.attributes? with
    | error found =>
      have houtcome : outcome = ⟨.error (.options found), b, []⟩ := run_createWindow_of_error h
      simp [houtcome]
    | ok attributes =>
      have hanswer : outcome.answer ≠ .error (.options e) := (run_createWindow_of_ok h).1 e
      simp [hanswer]
  refine ⟨WindowOptions.toFields_orElse o b.defaultWindow, ?_, fun e he => ?_, fun hnone => ?_⟩
  · simp only [hrefused, WindowOptions.attributes?_eq_error_iff]
    exact WindowOptions.exists_firstFault_iff
  · have hfault : m.attributes? = .error e := (hrefused e).mp he
    have houtcome : outcome = ⟨.error (.options e), b, []⟩ := run_createWindow_of_error hfault
    rw [houtcome]
    exact ⟨WindowOptions.attributes?_eq_error_iff.mp hfault, rfl, rfl⟩
  · cases h : m.attributes? with
    | error e =>
      obtain ⟨f, hf, hoffends⟩ :=
        WindowOptions.exists_firstFault_iff.mp ⟨e, WindowOptions.attributes?_eq_error_iff.mp h⟩
      exact absurd hoffends (hnone f hf)
    | ok attributes =>
      obtain ⟨rest, hcalls, hrest⟩ := (run_createWindow_of_ok h).2
      exact ⟨attributes, _, rest, WindowOptions.attributes?_eq_ok_iff.mp h, hcalls, hrest⟩

end Bridge

end WindowSystem
