/-
# The JSON form of an event identifies it

An event that JSON can write becomes one flat object with its kind under `type`: the tags made from
labels and the kinds listed for scripts are one table (`Event.tag_eq_kind`). Objects that are
equal as JSON values, whatever the order of their keys, come from equal events
(`Event.json_form_identifies`): the kind gives the shape of the event, and every value is found
under a key of its own.
-/
import WindowSystem.Event.Record
import WindowSystem.Proofs.Datum.Alike
import WindowSystem.Proofs.Event.Alike

namespace WindowSystem

/-! ## Names and kinds -/

namespace Vocabulary

variable {α : Type} [Vocabulary α]

/-- A number for a text, by which texts are compared at once. -/
def codeOf (s : String) : Nat := s.toList.foldl (fun n c => n * 2097152 + c.toNat) 1

/-- A vocabulary whose list is complete and whose names have different codes has no two values of
one name. -/
theorem name_injective_of (hall : ∀ a : α, a ∈ all)
    (hcodes : ((all : List α).map fun a => codeOf (name a)).Nodup) :
    Function.Injective (name : α → String) := by
  intro a b h
  exact List.inj_on_of_nodup_map hcodes (hall a) (hall b) (congrArg codeOf h)

end Vocabulary

/-- No two values of a vocabulary have the same name. -/
class Vocabulary.HasDistinctNames (α : Type) [Vocabulary α] : Prop where
  name_injective : Function.Injective (Vocabulary.name : α → String)

instance : Vocabulary.HasDistinctNames LifecycleEvent where
  name_injective :=
    Vocabulary.name_injective_of (by intro a; cases a <;> decide) (by decide +kernel)

instance : Vocabulary.HasDistinctNames ButtonState where
  name_injective :=
    Vocabulary.name_injective_of (by intro a; cases a <;> decide) (by decide +kernel)

instance : Vocabulary.HasDistinctNames TouchPhase where
  name_injective :=
    Vocabulary.name_injective_of (by intro a; cases a <;> decide) (by decide +kernel)

instance : Vocabulary.HasDistinctNames Theme where
  name_injective :=
    Vocabulary.name_injective_of (by intro a; cases a <;> decide) (by decide +kernel)

theorem KeyCode.mem_all (key : KeyCode) : key ∈ (Vocabulary.all : List KeyCode) := by
  have hplace : (Vocabulary.all : List KeyCode)[key.ctorIdx]? = some key := by
    cases key <;> rfl
  exact List.mem_of_getElem? hplace

instance : Vocabulary.HasDistinctNames KeyCode where
  name_injective := Vocabulary.name_injective_of KeyCode.mem_all (by decide +kernel)

theorem LifecycleEvent.tag_eq_name (e : LifecycleEvent) : e.tag = Vocabulary.name e := by
  cases e <;> decide +kernel

theorem WindowEvent.tag_eq_kind (e : WindowEvent) : e.tag = e.kind := by
  cases e <;> simp [tag, label, kebabCase, kind]

theorem DeviceEvent.tag_eq_kind (e : DeviceEvent) : e.tag = e.kind := by
  cases e <;> rfl

/-- The tag under which an event is written is the kind that scripts know it by. -/
theorem Event.tag_eq_kind {W : Type} (e : Event W) : e.tag = e.kind := by
  cases e with
  | lifecycle event => exact event.tag_eq_name
  | window _ event => exact event.tag_eq_kind
  | device _ event => exact event.tag_eq_kind

/-- The kinds of window events, in the order in which the events are listed. -/
def WindowEvent.kinds : List String :=
  ["close-requested", "redraw-requested", "window-resized", "window-moved", "window-focused",
   "window-occluded", "scale-factor-changed", "window-theme-changed", "cursor-entered",
   "cursor-left", "cursor-moved", "mouse-button", "mouse-wheel", "key-input", "char-input",
   "modifiers-changed", "ime-enabled", "ime-preedit", "ime-commit", "ime-disabled",
   "dropped-file", "hovered-file", "hovered-file-cancelled", "touch-input", "touchpad-pressure",
   "axis-input"]

/-- The kinds of device events, in the order in which the events are listed. -/
def DeviceEvent.kinds : List String :=
  ["device-added", "device-removed", "device-key", "device-button", "device-char", "device-axis",
   "device-scroll", "mouse-motion"]

/-- Window events of one kind were built in the same way. -/
theorem WindowEvent.ctorIdx_eq_of_kind {a b : WindowEvent} (h : a.kind = b.kind) :
    b.ctorIdx = a.ctorIdx := by
  have hplace : ∀ e : WindowEvent, kinds[e.ctorIdx]? = some e.kind := by
    intro e
    cases e <;> rfl
  have hlt : b.ctorIdx < kinds.length := (List.getElem?_eq_some_iff.mp (hplace b)).1
  have hdistinct : kinds.Nodup := by decide +kernel
  exact (List.getElem?_inj hlt hdistinct).mp (by rw [hplace, hplace, h])

/-- Device events of one kind were built in the same way. -/
theorem DeviceEvent.ctorIdx_eq_of_kind {a b : DeviceEvent} (h : a.kind = b.kind) :
    b.ctorIdx = a.ctorIdx := by
  have hplace : ∀ e : DeviceEvent, kinds[e.ctorIdx]? = some e.kind := by
    intro e
    cases e <;> rfl
  have hlt : b.ctorIdx < kinds.length := (List.getElem?_eq_some_iff.mp (hplace b)).1
  have hdistinct : kinds.Nodup := by decide +kernel
  exact (List.getElem?_inj hlt hdistinct).mp (by rw [hplace, hplace, h])

/-! ## What alike values say of events -/

namespace Datum.Alike

variable {R : Double → Double → Prop}

theorem named_eq {α : Type} [Vocabulary α] [Vocabulary.HasDistinctNames α] {a b : α}
    (h : Alike R (.named a) (.named b)) : a = b :=
  Vocabulary.HasDistinctNames.name_injective h.text_eq

theorem uint16_eq {m n : UInt16} (h : Alike R (.nat m.toNat) (.nat n.toNat)) : m = n :=
  UInt16.toNat_inj.mp h.nat_eq

theorem uint32_eq {m n : UInt32} (h : Alike R (.nat m.toNat) (.nat n.toNat)) : m = n :=
  UInt32.toNat_inj.mp h.nat_eq

theorem uint64_eq {m n : UInt64} (h : Alike R (.nat m.toNat) (.nat n.toNat)) : m = n :=
  UInt64.toNat_inj.mp h.nat_eq

theorem device_eq {d e : DeviceId} (h : Alike R d.toDatum e.toDatum) : d = e :=
  congrArg DeviceId.mk (uint32_eq h)

theorem point {a b : Point} (h : Alike R a.toPair b.toPair) : a.Alike R b := by
  obtain ⟨hx, hy⟩ := h.pair
  exact .mk hx.number hy.number

theorem pointRecord {a b : Point}
    (h : Alike R (.record [("x", .float a.x), ("y", .float a.y)])
      (.record [("x", .float b.x), ("y", .float b.y)])) : a.Alike R b :=
  .mk (h.field "x" rfl rfl).number (h.field "y" rfl rfl).number

theorem button_eq {a b : MouseButton} (h : Alike R a.toDatum b.toDatum) : a = b := by
  -- a button without a name is a number, all others are texts
  cases a with
  | other =>
    cases b with
    | other => rw [uint16_eq h]
    | _ => cases h
  | _ =>
    cases b with
    | other => cases h
    | _ => first
      | rfl
      | exact absurd h.text_eq (by decide)

theorem delta {a b : ScrollDelta} (h : Alike R a.toDatum b.toDatum) : a.Alike R b := by
  cases a with
  | lines =>
    cases b with
    | lines => exact .lines (h.field "x" rfl rfl).number (h.field "y" rfl rfl).number
    | pixels => exact absurd (h.field "type" rfl rfl).text_eq (by decide)
  | pixels =>
    cases b with
    | lines => exact absurd (h.field "type" rfl rfl).text_eq (by decide)
    | pixels => exact .pixels (h.field "x" rfl rfl).number (h.field "y" rfl rfl).number

theorem force {a b : TouchForce} (h : Alike R a.toDatum b.toDatum) : a.Alike R b := by
  cases a with
  | calibrated =>
    cases b with
    | calibrated =>
      have hangle := (h.field "altitudeAngle" rfl rfl).option (fun _ hnull => by cases hnull) number
      exact .calibrated (h.field "value" rfl rfl).number (h.field "maxValue" rfl rfl).number hangle
    | normalized => exact absurd (h.field "type" rfl rfl).text_eq (by decide)
  | normalized =>
    cases b with
    | calibrated => exact absurd (h.field "type" rfl rfl).text_eq (by decide)
    | normalized => exact .normalized (h.field "value" rfl rfl).number

theorem key_eq {a b : Option KeyCode} (h : Alike R (.ofOption .named a) (.ofOption .named b)) :
    a = b :=
  h.option_eq (fun _ hnull => by cases hnull) named_eq

theorem optionalForce {f g : Option TouchForce}
    (h : Alike R (.ofOption TouchForce.toDatum f) (.ofOption TouchForce.toDatum g)) :
    Option.Rel (TouchForce.Alike R) f g :=
  h.option (fun force hnull => by cases force <;> cases hnull) Alike.force

theorem range_eq {r s : Option (UInt64 × UInt64)}
    (h : Alike R (.ofOption (fun r => .list [.nat r.1.toNat, .nat r.2.toNat]) r)
      (.ofOption (fun r => .list [.nat r.1.toNat, .nat r.2.toNat]) s)) : r = s := by
  refine h.option_eq (fun _ hnull => by cases hnull) fun hpair => ?_
  obtain ⟨hstart, hend⟩ := hpair.pair
  exact Prod.ext hstart.uint64_eq hend.uint64_eq

end Datum.Alike

/-- Paths that could be written and are alike are equal. -/
theorem FilePath.eq_of_alike {R : Double → Double → Prop} {path path' : FilePath}
    {values values' : List (String × Datum)}
    (ha : (path.toDatum.map fun d => [("path", d)]) = .ok values)
    (hb : (path'.toDatum.map fun d => [("path", d)]) = .ok values')
    (h : Datum.Alike R (.record values) (.record values')) : path = path' := by
  cases path with
  | bytes => cases ha
  | text =>
    cases path' with
    | bytes => cases hb
    | text =>
      cases ha
      cases hb
      rw [(h.field "path" rfl rfl).text_eq]

theorem Modifiers.bits_injective : Function.Injective Modifiers.bits := by
  have hbits : ∀ s c a l s' c' a' l' : Bool,
      Modifiers.bits ⟨s, c, a, l⟩ = Modifiers.bits ⟨s', c', a', l'⟩ →
        s = s' ∧ c = c' ∧ a = a' ∧ l = l' := by
    decide
  intro m n h
  obtain ⟨hshift, hcontrol, halt, hlogo⟩ := hbits _ _ _ _ _ _ _ _ h
  cases m
  cases n
  congr

variable {R : Double → Double → Prop}

/-- Window events of one kind whose values are alike are equal up to their numbers. -/
theorem WindowEvent.alike_of_values {a b : WindowEvent} {values values' : List (String × Datum)}
    (ha : a.toFields = .ok values) (hb : b.toFields = .ok values') (hkind : a.kind = b.kind)
    (h : Datum.Alike R (.record values) (.record values')) : a.Alike R b := by
  have hindex := ctorIdx_eq_of_kind hkind
  -- the kind says how `b` was built, so only its values are left open
  cases a with
  | closeRequested => exact closeRequested.elim b hindex (.itself rfl)
  | redrawRequested => exact redrawRequested.elim b hindex (.itself rfl)
  | imeEnabled => exact imeEnabled.elim b hindex (.itself rfl)
  | imeDisabled => exact imeDisabled.elim b hindex (.itself rfl)
  | hoveredFileCancelled => exact hoveredFileCancelled.elim b hindex (.itself rfl)
  | resized size =>
    refine resized.elim b hindex (fun size' hb => ?_) hb
    cases ha
    cases hb
    obtain ⟨hwidth, hheight⟩ := (h.field "innerSize" rfl rfl).pair
    have hsize : size = size' := congrArg₂ Size.mk hwidth.uint32_eq hheight.uint32_eq
    rw [hsize]
    exact .itself (beq_self_eq_true _)
  | moved position =>
    refine moved.elim b hindex (fun position' hb => ?_) hb
    cases ha
    cases hb
    obtain ⟨hx, hy⟩ := (h.field "position" rfl rfl).pair
    have hposition : position = position' :=
      congrArg₂ Position.mk (Int32.toInt_inj.mp hx.int_eq) (Int32.toInt_inj.mp hy.int_eq)
    rw [hposition]
    exact .itself (beq_self_eq_true _)
  | focused =>
    refine focused.elim b hindex (fun _ hb => ?_) hb
    cases ha
    cases hb
    rw [(h.field "isFocused" rfl rfl).bool_eq]
    exact .itself (beq_self_eq_true _)
  | occluded =>
    refine occluded.elim b hindex (fun _ hb => ?_) hb
    cases ha
    cases hb
    rw [(h.field "isOccluded" rfl rfl).bool_eq]
    exact .itself (beq_self_eq_true _)
  | scaleFactorChanged =>
    refine scaleFactorChanged.elim b hindex (fun _ hb => ?_) hb
    cases ha
    cases hb
    exact .scaleFactorChanged (h.field "scaleFactor" rfl rfl).number
  | themeChanged =>
    refine themeChanged.elim b hindex (fun _ hb => ?_) hb
    cases ha
    cases hb
    rw [(h.field "theme" rfl rfl).named_eq]
    exact .itself (beq_self_eq_true _)
  | cursorEntered =>
    refine cursorEntered.elim b hindex (fun _ hb => ?_) hb
    cases ha
    cases hb
    rw [(h.field "deviceId" rfl rfl).device_eq]
    exact .itself (beq_self_eq_true _)
  | cursorLeft =>
    refine cursorLeft.elim b hindex (fun _ hb => ?_) hb
    cases ha
    cases hb
    rw [(h.field "deviceId" rfl rfl).device_eq]
    exact .itself (beq_self_eq_true _)
  | cursorMoved =>
    refine cursorMoved.elim b hindex (fun _ _ hb => ?_) hb
    cases ha
    cases hb
    rw [(h.field "deviceId" rfl rfl).device_eq]
    exact .cursorMoved (h.field "position" rfl rfl).point
  | mouseButton =>
    refine mouseButton.elim b hindex (fun _ _ _ hb => ?_) hb
    cases ha
    cases hb
    rw [(h.field "deviceId" rfl rfl).device_eq, (h.field "button" rfl rfl).button_eq,
      (h.field "state" rfl rfl).named_eq]
    exact .itself (beq_self_eq_true _)
  | mouseWheel =>
    refine mouseWheel.elim b hindex (fun _ _ _ hb => ?_) hb
    cases ha
    cases hb
    rw [(h.field "deviceId" rfl rfl).device_eq, (h.field "touchPhase" rfl rfl).named_eq]
    exact .mouseWheel (h.field "delta" rfl rfl).delta
  | keyInput =>
    refine keyInput.elim b hindex (fun _ _ _ _ _ hb => ?_) hb
    cases ha
    cases hb
    rw [(h.field "deviceId" rfl rfl).device_eq, (h.field "scanCode" rfl rfl).uint32_eq,
      (h.field "keyCode" rfl rfl).key_eq, (h.field "state" rfl rfl).named_eq,
      (h.field "isSynthetic" rfl rfl).bool_eq]
    exact .itself (beq_self_eq_true _)
  | charInput =>
    refine charInput.elim b hindex (fun _ hb => ?_) hb
    cases ha
    cases hb
    rw [(h.field "codePoint" rfl rfl).uint32_eq]
    exact .itself (beq_self_eq_true _)
  | modifiersChanged =>
    refine modifiersChanged.elim b hindex (fun _ hb => ?_) hb
    cases ha
    cases hb
    rw [Modifiers.bits_injective (h.field "modifiers" rfl rfl).uint32_eq]
    exact .itself (beq_self_eq_true _)
  | imePreedit =>
    refine imePreedit.elim b hindex (fun _ _ hb => ?_) hb
    cases ha
    cases hb
    rw [(h.field "string" rfl rfl).text_eq, (h.field "cursorRange" rfl rfl).range_eq]
    exact .itself (beq_self_eq_true _)
  | imeCommit =>
    refine imeCommit.elim b hindex (fun _ hb => ?_) hb
    cases ha
    cases hb
    rw [(h.field "string" rfl rfl).text_eq]
    exact .itself (beq_self_eq_true _)
  | droppedFile path =>
    refine droppedFile.elim b hindex (fun path' hb => ?_) hb
    rw [FilePath.eq_of_alike ha hb h]
    exact .itself (beq_self_eq_true _)
  | hoveredFile path =>
    refine hoveredFile.elim b hindex (fun path' hb => ?_) hb
    rw [FilePath.eq_of_alike ha hb h]
    exact .itself (beq_self_eq_true _)
  | touchInput =>
    refine touchInput.elim b hindex (fun _ _ _ _ _ hb => ?_) hb
    cases ha
    cases hb
    rw [(h.field "deviceId" rfl rfl).device_eq, (h.field "touchPhase" rfl rfl).named_eq,
      (h.field "fingerId" rfl rfl).uint64_eq]
    exact .touchInput (h.field "location" rfl rfl).point
      (h.field "touchForce" rfl rfl).optionalForce
  | touchpadPressure =>
    refine touchpadPressure.elim b hindex (fun _ _ _ hb => ?_) hb
    cases ha
    cases hb
    rw [(h.field "deviceId" rfl rfl).device_eq,
      Int64.toInt_inj.mp (h.field "clickLevel" rfl rfl).int_eq]
    exact .touchpadPressure (h.field "pressure" rfl rfl).number
  | axisInput =>
    refine axisInput.elim b hindex (fun _ _ _ hb => ?_) hb
    cases ha
    cases hb
    rw [(h.field "deviceId" rfl rfl).device_eq, (h.field "axisId" rfl rfl).uint32_eq]
    exact .axisInput (h.field "value" rfl rfl).number

/-- Device events of one kind whose values are alike are equal up to their numbers. -/
theorem DeviceEvent.alike_of_values {a b : DeviceEvent} (hkind : a.kind = b.kind)
    (h : Datum.Alike R (.record a.toFields) (.record b.toFields)) : a.Alike R b := by
  have hindex := ctorIdx_eq_of_kind hkind
  -- as with window events, only the values of `b` are left open
  cases a with
  | added => exact added.elim b hindex (.itself rfl)
  | removed => exact removed.elim b hindex (.itself rfl)
  | key =>
    refine key.elim b hindex (fun _ _ _ h => ?_) h
    rw [(h.field "scanCode" rfl rfl).uint32_eq, (h.field "keyCode" rfl rfl).key_eq,
      (h.field "state" rfl rfl).named_eq]
    exact .itself (beq_self_eq_true _)
  | button =>
    refine button.elim b hindex (fun _ _ h => ?_) h
    rw [(h.field "buttonId" rfl rfl).uint32_eq, (h.field "state" rfl rfl).named_eq]
    exact .itself (beq_self_eq_true _)
  | char =>
    refine char.elim b hindex (fun _ h => ?_) h
    rw [(h.field "codePoint" rfl rfl).uint32_eq]
    exact .itself (beq_self_eq_true _)
  | axis =>
    refine axis.elim b hindex (fun _ _ h => ?_) h
    rw [(h.field "axisId" rfl rfl).uint32_eq]
    exact .axis (h.field "value" rfl rfl).number
  | scroll =>
    refine scroll.elim b hindex (fun _ h => ?_) h
    exact .scroll (h.field "delta" rfl rfl).delta
  | mouseMotion =>
    refine mouseMotion.elim b hindex (fun _ h => ?_) h
    exact .mouseMotion (h.field "delta" rfl rfl).pointRecord

/-! ## The form of an event -/

namespace Datum

theorem jsonView_float {x : Double} (h : x.isFinite = true) : (float x).jsonView = float x := by
  rw [jsonView, if_pos h]

theorem jsonView_point {p : Point} (h : p.isFinite = true) : p.toPair.jsonView = p.toPair := by
  obtain ⟨hx, hy⟩ := Bool.and_eq_true_iff.mp h
  simp [Point.toPair, jsonView, jsonViewItems, hx, hy]

theorem jsonView_delta {delta : ScrollDelta} (h : delta.isFinite = true) :
    delta.toDatum.jsonView = delta.toDatum := by
  cases delta with
  | lines =>
    obtain ⟨hx, hy⟩ := Bool.and_eq_true_iff.mp h
    simp [ScrollDelta.toDatum, jsonView, jsonViewFields, Single.isFinite_toDouble hx,
      Single.isFinite_toDouble hy]
  | pixels =>
    obtain ⟨hx, hy⟩ := Bool.and_eq_true_iff.mp h
    simp [ScrollDelta.toDatum, jsonView, jsonViewFields, hx, hy]

theorem jsonView_force {force : Option TouchForce} (h : force.all TouchForce.isFinite = true) :
    (ofOption TouchForce.toDatum force).jsonView = ofOption TouchForce.toDatum force := by
  rcases force with _ | ⟨value, maxValue, _ | angle⟩ | value
  · rfl
  · have hscale : value.isFinite = true ∧ maxValue.isFinite = true := by
      simpa [TouchForce.isFinite] using h
    simp [ofOption, TouchForce.toDatum, jsonView, jsonViewFields, hscale.1, hscale.2]
  · have hscale : (value.isFinite = true ∧ maxValue.isFinite = true) ∧ angle.isFinite = true := by
      simpa [TouchForce.isFinite] using h
    simp [ofOption, TouchForce.toDatum, jsonView, jsonViewFields, hscale.1.1, hscale.1.2, hscale.2]
  · have hvalue : value.isFinite = true := h
    simp [ofOption, TouchForce.toDatum, jsonView, jsonViewFields, hvalue]

end Datum

open Datum (jsonViewFields lookup)

/-- The values of a writable window event can be written, and JSON keeps them as they are. -/
theorem WindowEvent.exists_values {e : WindowEvent} (h : e.isWritable = true) :
    ∃ values, e.toFields = .ok values ∧ jsonViewFields values = values := by
  cases e with
  | scaleFactorChanged => exact ⟨_, rfl, by rw [jsonViewFields, Datum.jsonView_float h]; rfl⟩
  | cursorMoved =>
    exact ⟨_, rfl, by rw [jsonViewFields, jsonViewFields, Datum.jsonView_point h]; rfl⟩
  | mouseWheel =>
    exact ⟨_, rfl, by rw [jsonViewFields, jsonViewFields, Datum.jsonView_delta h]; rfl⟩
  | touchInput =>
    obtain ⟨hlocation, hforce⟩ := Bool.and_eq_true_iff.mp h
    refine ⟨_, rfl, ?_⟩
    rw [jsonViewFields, jsonViewFields, jsonViewFields, jsonViewFields,
      Datum.jsonView_point hlocation, Datum.jsonView_force hforce]
    rfl
  | touchpadPressure =>
    refine ⟨_, rfl, ?_⟩
    rw [jsonViewFields, jsonViewFields, Datum.jsonView_float (Single.isFinite_toDouble h)]
    rfl
  | axisInput =>
    refine ⟨_, rfl, ?_⟩
    rw [jsonViewFields, jsonViewFields, jsonViewFields, Datum.jsonView_float h]
    rfl
  | droppedFile path =>
    cases path with
    | text => exact ⟨_, rfl, rfl⟩
    | bytes => cases h
  | hoveredFile path =>
    cases path with
    | text => exact ⟨_, rfl, rfl⟩
    | bytes => cases h
  | keyInput _ _ keyCode => cases keyCode <;> exact ⟨_, rfl, rfl⟩
  | imePreedit _ range => cases range <;> exact ⟨_, rfl, rfl⟩
  | mouseButton _ button => cases button <;> exact ⟨_, rfl, rfl⟩
  | _ => exact ⟨_, rfl, rfl⟩

/-- The values of a window event have keys of their own. -/
theorem WindowEvent.nodup_keys {e : WindowEvent} {values : List (String × Datum)}
    (h : e.toFields = .ok values) : ("window" :: "type" :: values.map Prod.fst).Nodup := by
  cases e with
  | droppedFile path =>
    cases path with
    | text => cases h; simp
    | bytes => cases h
  | hoveredFile path =>
    cases path with
    | text => cases h; simp
    | bytes => cases h
  | _ => cases h; simp

/-- Only the amount of scrolling and the pressure of a touch are records within a window event. -/
theorem WindowEvent.key_of_record {e : WindowEvent} {values inner : List (String × Datum)}
    {key : String} (h : e.toFields = .ok values) (hmem : (key, Datum.record inner) ∈ values) :
    key = "delta" ∨ key = "touchForce" := by
  cases e with
  | droppedFile path =>
    cases path with
    | text => cases h; simp at hmem
    | bytes => cases h
  | hoveredFile path =>
    cases path with
    | text => cases h; simp at hmem
    | bytes => cases h
  | mouseButton _ button =>
    cases h
    cases button <;> simp [Datum.nat, Datum.named, DeviceId.toDatum, MouseButton.toDatum] at hmem
  | mouseWheel =>
    cases h
    simp [Datum.nat, Datum.named, DeviceId.toDatum] at hmem
    exact Or.inl hmem.1
  | keyInput _ _ keyCode =>
    cases h
    cases keyCode <;> simp [Datum.nat, Datum.named, DeviceId.toDatum, Datum.ofOption] at hmem
  | imePreedit _ range =>
    cases h
    cases range <;> simp [Datum.ofOption] at hmem
  | touchInput =>
    cases h
    simp [Datum.nat, Datum.named, DeviceId.toDatum, Point.toPair] at hmem
    exact Or.inr hmem.1
  | _ => cases h; simp [Datum.nat, Datum.named, DeviceId.toDatum, Point.toPair] at hmem

/-- JSON keeps the values of a writable device event as they are. -/
theorem DeviceEvent.jsonView_values {e : DeviceEvent} (h : e.isWritable = true) :
    jsonViewFields e.toFields = e.toFields := by
  cases e with
  | axis => rw [toFields, jsonViewFields, jsonViewFields, Datum.jsonView_float h]; rfl
  | scroll => rw [toFields, jsonViewFields, Datum.jsonView_delta h]; rfl
  | mouseMotion delta =>
    obtain ⟨hx, hy⟩ := Bool.and_eq_true_iff.mp h
    simp [toFields, Datum.jsonView, jsonViewFields, hx, hy]
  | key _ keyCode => cases keyCode <;> rfl
  | _ => rfl

theorem DeviceEvent.nodup_keys (e : DeviceEvent) :
    ("window" :: "deviceId" :: "type" :: e.toFields.map Prod.fst).Nodup := by
  cases e <;> simp [toFields]

/-- What is written of an event: one flat object whose keys are distinct, with the kind and, for an
event of a window, the window. -/
structure Event.IsFlatForm (e : RawEvent) (fields : List (String × Datum)) : Prop where
  distinct : (fields.map Prod.fst).Nodup
  flat : ∀ key inner, (key, Datum.record inner) ∈ fields → key = "delta" ∨ key = "touchForce"
  type_eq : lookup fields "type" = some (.text e.kind)
  window_eq : lookup fields "window" = e.window?.map WindowId.toDatum

namespace Event

/-- A writable event is written, in a flat form that JSON keeps as it is. -/
theorem exists_form {e : RawEvent} (h : e.isWritable = true) :
    ∃ fields, e.toFields WindowId.toDatum = .ok fields ∧ jsonViewFields fields = fields ∧
      e.IsFlatForm fields := by
  cases e with
  | lifecycle event =>
    refine ⟨[("type", .text event.tag)], rfl, rfl, ⟨by simp, by simp, ?_, rfl⟩⟩
    rw [event.tag_eq_name]
    rfl
  | window w event =>
    obtain ⟨values, hvalues, hview⟩ := WindowEvent.exists_values h
    have hkeys := WindowEvent.nodup_keys hvalues
    refine ⟨("window", w.toDatum) :: ("type", .text event.kind) :: values, ?_, ?_, ?_⟩
    · rw [toFields, hvalues, tag_eq_kind]
      rfl
    · rw [jsonViewFields, jsonViewFields, hview]
      rfl
    · refine ⟨hkeys, ?_, by simp [kind], rfl⟩
      -- the window is a number and the kind a text, so a record is one of the values
      intro key inner hmem
      rcases List.mem_cons.mp hmem with heq | hmem
      · cases heq
      · rcases List.mem_cons.mp hmem with heq | hmem
        · cases heq
        · exact WindowEvent.key_of_record hvalues hmem
  | device d event =>
    have hkeys := event.nodup_keys
    refine ⟨_, rfl, ?_, ⟨(List.nodup_cons.mp hkeys).2, ?_, by simp [tag_eq_kind], ?_⟩⟩
    · rw [jsonViewFields, jsonViewFields, DeviceEvent.jsonView_values h]
      rfl
    · intro key inner hmem
      cases event with
      | key _ keyCode =>
        cases keyCode <;> simp [DeviceEvent.toFields, DeviceId.toDatum, Datum.nat, Datum.named,
          Datum.ofOption] at hmem
      | scroll =>
        simp [DeviceEvent.toFields, DeviceId.toDatum, Datum.nat] at hmem
        exact Or.inl hmem.1
      | mouseMotion =>
        simp [DeviceEvent.toFields, DeviceId.toDatum, Datum.nat] at hmem
        exact Or.inl hmem.1
      | _ => simp [DeviceEvent.toFields, DeviceId.toDatum, Datum.nat, Datum.named] at hmem
    · exact Datum.lookup_eq_none (List.nodup_cons.mp hkeys).1

/-- The values of a window event stand behind its window and its kind. -/
theorem values_of_window {w : WindowId} {e : WindowEvent} {fields : List (String × Datum)}
    (h : (window w e).toFields WindowId.toDatum = .ok fields) :
    ∃ values, e.toFields = .ok values ∧
      ("window", w.toDatum) :: ("type", .text e.kind) :: values = fields := by
  cases hvalues : e.toFields with
  | ok values =>
    rw [toFields, hvalues, tag_eq_kind] at h
    exact ⟨values, rfl, Except.ok.inj h⟩
  | error failure =>
    rw [toFields, hvalues] at h
    cases h

variable {R : Double → Double → Prop}

/-- Events whose forms are alike are equal up to their numbers. -/
theorem alike_of_form {a b : RawEvent} {fields fields' : List (String × Datum)}
    (ha : a.toFields WindowId.toDatum = .ok fields) (hb : b.toFields WindowId.toDatum = .ok fields')
    (hform : a.IsFlatForm fields) (hform' : b.IsFlatForm fields')
    (h : Datum.Alike R (.record fields) (.record fields')) : a.Alike R b := by
  have hkind : a.kind = b.kind := (h.field "type" hform.type_eq hform'.type_eq).text_eq
  -- the window tells the events of windows from the others, the device those of devices
  have hwindow : a.window?.isSome = b.window?.isSome := by
    have hsome := h.isSome_eq "window"
    rw [hform.window_eq, hform'.window_eq, Option.isSome_map, Option.isSome_map] at hsome
    exact hsome
  cases a with
  | lifecycle a =>
    cases b with
    | lifecycle b =>
      rw [Vocabulary.HasDistinctNames.name_injective hkind]
      exact .lifecycle b
    | window => cases hwindow
    | device =>
      cases ha
      cases hb
      exact absurd (h.isSome_eq "deviceId") (by simp)
  | window v a =>
    cases b with
    | lifecycle => cases hwindow
    | window w b =>
      obtain ⟨values, hvalues, rfl⟩ := values_of_window ha
      obtain ⟨values', hvalues', rfl⟩ := values_of_window hb
      have hreference : v = w :=
        congrArg WindowId.mk (h.field "window" hform.window_eq hform'.window_eq).uint64_eq
      -- the values of the event are what is left without the window and the kind
      obtain ⟨hfresh, hkeys⟩ := List.nodup_cons.mp (WindowEvent.nodup_keys hvalues)
      obtain ⟨hfresh', hkeys'⟩ := List.nodup_cons.mp (WindowEvent.nodup_keys hvalues')
      have hrest := (h.tail hfresh hfresh').tail (List.nodup_cons.mp hkeys).1
        (List.nodup_cons.mp hkeys').1
      rw [hreference]
      exact .window (WindowEvent.alike_of_values hvalues hvalues' hkind hrest)
    | device => cases hwindow
  | device d a =>
    cases b with
    | lifecycle =>
      cases ha
      cases hb
      exact absurd (h.isSome_eq "deviceId") (by simp)
    | window => cases hwindow
    | device e b =>
      cases ha
      cases hb
      have hreference : d = e := (h.field "deviceId" rfl rfl).device_eq
      obtain ⟨hfresh, hkeys⟩ := List.nodup_cons.mp (List.nodup_cons.mp a.nodup_keys).2
      obtain ⟨hfresh', hkeys'⟩ := List.nodup_cons.mp (List.nodup_cons.mp b.nodup_keys).2
      have hrest := (h.tail hfresh hfresh').tail (List.nodup_cons.mp hkeys).1
        (List.nodup_cons.mp hkeys').1
      rw [hreference]
      exact .device (DeviceEvent.alike_of_values hkind hrest)

/-- What JSON makes of a writable event. -/
theorem toJson_eq {e : RawEvent} {fields : List (String × Datum)}
    (h : e.toFields WindowId.toDatum = .ok fields) (hview : jsonViewFields fields = fields) :
    e.toJson WindowId.toDatum = .ok (.record fields) := by
  rw [toJson, h]
  exact congrArg (fun fields => Except.ok (Datum.record fields)) hview

/-- Every event with finite numbers and textual paths has a flat JSON object, and objects that are
equal come from equal events: up to the sign of zero where zeros of either sign are equal, and
exactly where they are not. -/
theorem json_form_identifies {a : RawEvent} (ha : a.isWritable = true) :
    ∃ fields, a.toJson WindowId.toDatum = .ok (.record fields) ∧ a.IsFlatForm fields ∧
      ∀ b : RawEvent, b.isWritable = true →
        ∀ d, b.toJson WindowId.toDatum = .ok d →
          (Datum.Alike Double.SameNumber (.record fields) d → a.sameAs b = true) ∧
          (Datum.Alike Eq (.record fields) d ↔ a = b) := by
  obtain ⟨fields, hfields, hview, hform⟩ := exists_form ha
  have hjson := toJson_eq hfields hview
  refine ⟨fields, hjson, hform, ?_⟩
  intro b hb d hd
  obtain ⟨fields', hfields', hview', hform'⟩ := exists_form hb
  have hrecord : d = .record fields' := Except.ok.inj (hd.symm.trans (toJson_eq hfields' hview'))
  subst hrecord
  refine ⟨fun halike => ?_, fun halike => ?_, fun heq => ?_⟩
  · exact sameAs_of_alike (alike_of_form hfields hfields' hform hform' halike)
  · exact eq_of_alike ha hb (alike_of_form hfields hfields' hform hform' halike)
  · subst heq
    rw [Except.ok.inj (hfields.symm.trans hfields')]
    exact Datum.alike_self _

/-- Scrolling by zero sideways and scrolling by minus zero sideways have two objects. -/
theorem json_form_tells_zeros_apart :
    let first : RawEvent := .window ⟨7⟩ (.mouseWheel ⟨0⟩ (.lines ⟨0⟩ ⟨0x3F800000⟩) .moved)
    let second : RawEvent := .window ⟨7⟩ (.mouseWheel ⟨0⟩ (.lines ⟨0x80000000⟩ ⟨0x3F800000⟩) .moved)
    ∃ fields d, first.toJson WindowId.toDatum = .ok (.record fields) ∧
      second.toJson WindowId.toDatum = .ok d ∧ ¬ Datum.Alike Eq (.record fields) d := by
  intro first second
  obtain ⟨fields, hjson, -, hall⟩ := json_form_identifies (a := first) (by decide)
  obtain ⟨fields', hjson', -⟩ := json_form_identifies (a := second) (by decide)
  refine ⟨fields, _, hjson, hjson', fun halike => ?_⟩
  exact absurd ((hall second (by decide) _ hjson').2.mp halike) (by decide)

end Event

end WindowSystem
