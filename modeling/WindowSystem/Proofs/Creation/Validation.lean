/-
# Checking window options

Options describe attributes when every list is two doubles whose integer parts are the components
of a size or a position, and everything else is carried over (`Describes`). A list field offends
when its list does not have two components, or has one that is not finite or whose integer part
does not fit. Options pass the check exactly if they describe attributes, which are then the
result; otherwise they are refused for what is wrong with the first field that offends
(`attributes?_eq_ok_iff`, `attributes?_eq_error_iff`).
-/
import WindowSystem.Creation.Attributes
import WindowSystem.Proofs.Number.Truncation

namespace WindowSystem

/-! ## Title bar buttons -/

namespace TitleButtons

theorem bits_injective : Function.Injective bits := by
  rintro ⟨a, b, c⟩ ⟨a', b', c'⟩ h
  revert a b c a' b' c'
  decide

/-- The three lowest bits of a word are the buttons. -/
theorem bits_ofBits (word : UInt32) : (ofBits word).bits = word &&& 7 := by
  have hlow : ∀ n < 8, (⟨n.testBit 0, n.testBit 1, n.testBit 2⟩ : TitleButtons).bits.toNat = n := by
    decide
  have hbit : ∀ i < 3, (word.toNat % 2 ^ 3).testBit i = word.toNat.testBit i := by
    intro i hi
    rw [Nat.testBit_mod_two_pow, decide_eq_true hi, Bool.true_and]
  have hbits := hlow (word.toNat % 2 ^ 3) (Nat.mod_lt _ (by decide))
  rw [hbit 0 (by decide), hbit 1 (by decide), hbit 2 (by decide)] at hbits
  have hmask : (word &&& 7).toNat = word.toNat % 2 ^ 3 := by
    rw [UInt32.toNat_and]
    exact Nat.and_two_pow_sub_one_eq_mod _ 3
  exact UInt32.toNat_inj.mp (hbits.trans hmask.symm)

/-- Reading bits keeps the three lowest. -/
theorem map_ofBits_eq_iff {word : Option UInt32} {buttons : Option TitleButtons} :
    word.map ofBits = buttons ↔ word.map (· &&& 7) = buttons.map bits := by
  have hbits : word.map (· &&& 7) = (word.map ofBits).map bits := by
    rw [Option.map_map]
    exact congrArg (word.map ·) (funext fun w => (bits_ofBits w).symm)
  rw [hbits]
  exact (Option.map_injective bits_injective).eq_iff.symm

end TitleButtons

/-! ## Components -/

/-- The width and the height of a size. -/
def Size.parts (s : Size) : List (Option ℤ) := [some s.width.toNat, some s.height.toNat]

/-- The coordinates of a position. -/
def Position.parts (p : Position) : List (Option ℤ) := [some p.x.toInt, some p.y.toInt]

namespace WindowOptions

/-! ## List fields -/

/-- A field of window options that holds a list: its name, the least and the greatest integer that
a component may be, and the field itself. -/
structure ListField where
  name : String
  low : Int
  high : Int
  list : WindowOptions → Option (List Double)

/-- A list of a width and a height. -/
def sizeField (name : String) (list : WindowOptions → Option (List Double)) : ListField :=
  ⟨name, 0, 4294967295, list⟩

/-- A list of two coordinates. -/
def positionField (name : String) (list : WindowOptions → Option (List Double)) : ListField :=
  ⟨name, -2147483648, 2147483647, list⟩

/-- The list fields in the order of the record. -/
def listFields : List ListField :=
  [sizeField "innerSize" innerSize,
   sizeField "minInnerSize" minInnerSize,
   sizeField "maxInnerSize" maxInnerSize,
   positionField "position" position,
   sizeField "resizeIncrements" resizeIncrements]

namespace ListField

/-- A component fits if it is finite and its integer part lies within the bounds. -/
def Fits (f : ListField) (x : Double) : Prop :=
  ∃ n, x.integerPart? = some n ∧ f.low ≤ n ∧ n ≤ f.high

/-- A field offends if its list does not have two components, or has one that does not fit. -/
def Offends (f : ListField) (o : WindowOptions) : Prop :=
  ∃ values, f.list o = some values ∧ (values.length ≠ 2 ∨ ∃ x ∈ values, ¬ f.Fits x)

/-- What is wrong with a list: first the number of its components, then its components from left
to right. -/
inductive Fault (f : ListField) : List Double → OptionsError → Prop
  | arity {values : List Double} (h : values.length ≠ 2) :
    Fault f values (.arity f.name values.length)
  | first {x y : Double} (hx : ¬ f.Fits x) : Fault f [x, y] (.outOfRange f.name 0 x)
  | second {x y : Double} (hx : f.Fits x) (hy : ¬ f.Fits y) :
    Fault f [x, y] (.outOfRange f.name 1 y)

end ListField

/-- What is wrong with the first field that offends. -/
def FirstFault (o : WindowOptions) (e : OptionsError) : Prop :=
  ∃ before f after values, listFields = before ++ f :: after ∧ (∀ g ∈ before, ¬ g.Offends o) ∧
    f.list o = some values ∧ f.Fault values e

/-! ## Checking one field -/

namespace ListField

variable {f : ListField} {o : WindowOptions} {values : List Double} {e : OptionsError}

theorem component_eq_ok_iff {i : Nat} {x : Double} {n : Int} :
    component f.name f.low f.high i x = .ok n ↔ x.integerPart? = some n ∧ f.low ≤ n ∧ n ≤ f.high := by
  rw [component, x.truncate_eq]
  cases x.integerPart? with
  | none => simp
  | some k =>
    by_cases hk : f.low ≤ k ∧ k ≤ f.high
    · simp only [if_pos hk, Except.ok.injEq, Option.some.injEq]
      constructor
      · rintro rfl
        exact ⟨rfl, hk⟩
      · exact And.left
    · simp only [if_neg hk, Option.some.injEq, reduceCtorEq, false_iff]
      rintro ⟨rfl, h⟩
      exact hk h

theorem component_eq_error_iff {i : Nat} {x : Double} :
    component f.name f.low f.high i x = .error e ↔ ¬ f.Fits x ∧ e = .outOfRange f.name i x := by
  cases h : component f.name f.low f.high i x with
  | ok n =>
    have hfits : f.Fits x := ⟨n, component_eq_ok_iff.mp h⟩
    simp [hfits]
  | error found =>
    have hfits : ¬ f.Fits x := by
      rintro ⟨n, hn⟩
      rw [component_eq_ok_iff.mpr hn] at h
      cases h
    have hfound : found = .outOfRange f.name i x := by
      rw [component] at h
      split at h
      · split at h
        · cases h
        · exact (Except.error.inj h).symm
      · exact (Except.error.inj h).symm
    simp [hfits, hfound, eq_comm]

theorem components_of_length_ne (h : values.length ≠ 2) :
    components f.name f.low f.high values = .error (.arity f.name values.length) := by
  rcases values with _ | ⟨x, _ | ⟨y, _ | ⟨z, rest⟩⟩⟩
  · rfl
  · rfl
  · exact absurd rfl h
  · rfl

theorem components_eq_ok_iff {m n : Int} :
    components f.name f.low f.high values = .ok (m, n) ↔
      values.map Double.integerPart? = [some m, some n] ∧ (f.low ≤ m ∧ m ≤ f.high) ∧
        f.low ≤ n ∧ n ≤ f.high := by
  by_cases hlength : values.length = 2
  · obtain ⟨x, y, rfl⟩ := List.length_eq_two.mp hlength
    have hboth : components f.name f.low f.high [x, y] = .ok (m, n) ↔
        component f.name f.low f.high 0 x = .ok m ∧ component f.name f.low f.high 1 y = .ok n := by
      rw [components]
      cases component f.name f.low f.high 0 x with
      | error e => exact ⟨nofun, nofun⟩
      | ok a =>
        cases component f.name f.low f.high 1 y with
        | error e => exact ⟨nofun, nofun⟩
        | ok b =>
          show Except.ok (a, b) = .ok (m, n) ↔ _
          simp
    rw [hboth, component_eq_ok_iff, component_eq_ok_iff]
    simp only [List.map_cons, List.map_nil, List.cons.injEq, and_true]
    tauto
  · rw [components_of_length_ne hlength]
    refine ⟨nofun, fun h => absurd ?_ hlength⟩
    rw [← List.length_map (f := Double.integerPart?), h.1]
    rfl

theorem components_eq_error_iff :
    components f.name f.low f.high values = .error e ↔ f.Fault values e := by
  by_cases hlength : values.length = 2
  · obtain ⟨x, y, rfl⟩ := List.length_eq_two.mp hlength
    have hfirst : components f.name f.low f.high [x, y] = .error e ↔
        component f.name f.low f.high 0 x = .error e ∨
          f.Fits x ∧ component f.name f.low f.high 1 y = .error e := by
      rw [components]
      cases hx : component f.name f.low f.high 0 x with
      | error found =>
        have hfits : ¬ f.Fits x := (component_eq_error_iff.mp hx).1
        show Except.error found = .error e ↔ _
        simp [hfits]
      | ok a =>
        have hfits : f.Fits x := ⟨a, component_eq_ok_iff.mp hx⟩
        cases component f.name f.low f.high 1 y with
        | error found =>
          show Except.error found = .error e ↔ _
          simp [hfits]
        | ok b => exact ⟨nofun, by simp⟩
    rw [hfirst, component_eq_error_iff, component_eq_error_iff]
    constructor
    · rintro (⟨hx, rfl⟩ | ⟨hx, hy, rfl⟩)
      · exact .first hx
      · exact .second hx hy
    · intro h
      cases h with
      | arity h => exact absurd rfl h
      | first hx => exact Or.inl ⟨hx, rfl⟩
      | second hx hy => exact Or.inr ⟨hx, hy, rfl⟩
  · rw [components_of_length_ne hlength, Except.error.injEq]
    constructor
    · rintro rfl
      exact .arity hlength
    · intro h
      cases h with
      | arity => rfl
      | first hx => exact absurd rfl hlength
      | second hx hy => exact absurd rfl hlength

/-- A list is faulty if it has the wrong length or a component that does not fit. -/
theorem exists_fault_iff :
    (∃ e, f.Fault values e) ↔ values.length ≠ 2 ∨ ∃ x ∈ values, ¬ f.Fits x := by
  constructor
  · rintro ⟨e, hfault⟩
    cases hfault with
    | arity h => exact Or.inl h
    | first hx => exact Or.inr ⟨_, by simp, hx⟩
    | second hx hy => exact Or.inr ⟨_, by simp, hy⟩
  · intro h
    by_cases hlength : values.length = 2
    · obtain ⟨x, y, rfl⟩ := List.length_eq_two.mp hlength
      by_cases hx : f.Fits x
      · refine ⟨_, .second hx fun hy => ?_⟩
        simp [hx, hy] at h
      · exact ⟨_, .first hx⟩
    · exact ⟨_, .arity hlength⟩

/-- The components of a field, if there is a list. -/
def check (f : ListField) (o : WindowOptions) : Except OptionsError (Option (Int × Int)) :=
  match f.list o with
  | none => .ok none
  | some values => (components f.name f.low f.high values).map some

theorem check_of_none (h : f.list o = none) : f.check o = .ok none := by rw [check, h]

theorem check_of_some (h : f.list o = some values) :
    f.check o = (components f.name f.low f.high values).map some := by rw [check, h]

/-- What is wrong with a field, if anything is. -/
def fault? (f : ListField) (o : WindowOptions) : Option OptionsError :=
  match f.check o with
  | .error e => some e
  | .ok _ => none

theorem fault?_eq_some_iff :
    f.fault? o = some e ↔ ∃ values, f.list o = some values ∧ f.Fault values e := by
  rw [fault?, check]
  cases f.list o with
  | none => simp
  | some values =>
    simp only [Option.some.injEq, exists_eq_left', ← components_eq_error_iff]
    cases components f.name f.low f.high values with
    | error found => simp [Except.map]
    | ok pair => simp [Except.map]

theorem fault?_eq_none_iff : f.fault? o = none ↔ ¬ f.Offends o := by
  have hsome : (f.fault? o).isSome ↔ f.Offends o := by
    simp only [Option.isSome_iff_exists, fault?_eq_some_iff, Offends, ← exists_fault_iff]
    tauto
  rw [← hsome, Bool.not_eq_true, Option.isSome_eq_false_iff, Option.isNone_iff_eq_none]

/-- Reads the components of a field as a value of some type. -/
def read {β : Type} (f : ListField) (make : Int × Int → β) (o : WindowOptions) :
    Except OptionsError (Option β) :=
  (f.check o).map (Option.map make)

/-- The first fault is that of the first field, or that of the others if the first field can be
read. -/
theorem read_bind_error_iff {β γ : Type} {make : Int × Int → β}
    {next : Option β → Except OptionsError γ} {rest : List ListField}
    (hnext : ∀ b, next b = .error e ↔ rest.findSome? (fault? · o) = some e) :
    f.read make o >>= next = .error e ↔ (f :: rest).findSome? (fault? · o) = some e := by
  rw [List.findSome?_cons, fault?, read]
  cases f.check o with
  | error found => exact ⟨fun h => congrArg some (Except.error.inj h), fun h => by cases h; rfl⟩
  | ok pair => exact hnext (pair.map make)

end ListField

/-! ## Sizes and positions -/

theorem bind_eq_ok_iff {ε α β : Type} {x : Except ε α} {f : α → Except ε β} {b : β} :
    x >>= f = .ok b ↔ ∃ a, x = .ok a ∧ f a = .ok b := by
  cases x with
  | error e => exact ⟨nofun, nofun⟩
  | ok a =>
    constructor
    · exact fun h => ⟨a, rfl, h⟩
    · rintro ⟨a', ha, h⟩
      cases ha
      exact h

/-- Values of a type stand for the pairs that fit a field: `make` gives the value of a pair, and
`parts` its components. -/
structure Packs {β : Type} (f : ListField) (make : Int × Int → β) (parts : β → List (Option ℤ)) :
    Prop where
  injective : Function.Injective parts
  parts_make : ∀ m n, f.low ≤ m ∧ m ≤ f.high → f.low ≤ n ∧ n ≤ f.high →
    parts (make (m, n)) = [some m, some n]
  within : ∀ b, ∃ m n, parts b = [some m, some n] ∧ (f.low ≤ m ∧ m ≤ f.high) ∧
    f.low ≤ n ∧ n ≤ f.high

/-- A field is read as the value whose components are the integer parts of its list. -/
theorem Packs.read_eq_ok_iff {β : Type} {f : ListField} {make : Int × Int → β}
    {parts : β → List (Option ℤ)} (h : Packs f make parts) {o : WindowOptions} {b : Option β} :
    f.read make o = .ok b ↔ (f.list o).map (List.map Double.integerPart?) = b.map parts := by
  rw [ListField.read]
  cases hlist : f.list o with
  | none =>
    rw [ListField.check_of_none hlist]
    cases b <;> simp [Except.map]
  | some values =>
    rw [ListField.check_of_some hlist, Option.map_some]
    constructor
    · cases hok : components f.name f.low f.high values with
      | error e => exact fun h => nomatch h
      | ok pair =>
        intro hb
        obtain ⟨hvalues, hm, hn⟩ := ListField.components_eq_ok_iff.mp hok
        rw [← Except.ok.inj hb, hvalues, Option.map_some, Option.map_some, h.parts_make _ _ hm hn]
    · intro hvalues
      cases b with
      | none => cases hvalues
      | some b =>
        obtain ⟨m, n, hparts, hm, hn⟩ := h.within b
        have hlist : values.map Double.integerPart? = [some m, some n] :=
          (Option.some.inj hvalues).trans hparts
        have hb : make (m, n) = b := h.injective ((h.parts_make m n hm hn).trans hparts.symm)
        rw [ListField.components_eq_ok_iff.mpr ⟨hlist, hm, hn⟩]
        exact congrArg (fun b => Except.ok (some b)) hb

variable {name : String} {field : WindowOptions → Option (List Double)}

theorem packs_size : Packs (sizeField name field)
    (fun pair => ⟨UInt32.ofNat pair.1.toNat, UInt32.ofNat pair.2.toNat⟩) Size.parts where
  injective := by
    rintro ⟨w, h⟩ ⟨w', h'⟩ heq
    simpa [Size.parts, UInt32.toNat_inj] using heq
  parts_make m n hm hn := by
    obtain ⟨⟨hm, hm'⟩, hn, hn'⟩ := And.intro hm hn
    simp only [sizeField] at hm hm' hn hn'
    simp only [Size.parts, UInt32.toNat_ofNat']
    rw [Nat.mod_eq_of_lt (by omega), Nat.mod_eq_of_lt (by omega), Int.toNat_of_nonneg hm,
      Int.toNat_of_nonneg hn]
  within size := by
    refine ⟨_, _, rfl, ?_⟩
    have hw := size.width.toNat_lt
    have hh := size.height.toNat_lt
    simp only [sizeField]
    omega

theorem packs_position : Packs (positionField name field)
    (fun pair => ⟨Int32.ofInt pair.1, Int32.ofInt pair.2⟩) Position.parts where
  injective := by
    rintro ⟨x, y⟩ ⟨x', y'⟩ heq
    simpa [Position.parts, Int32.toInt_inj] using heq
  parts_make m n hm hn := by
    simp only [positionField] at hm hn
    simp only [Position.parts]
    rw [Int32.toInt_ofInt_of_le (by omega) (by omega), Int32.toInt_ofInt_of_le (by omega) (by omega)]
  within position := by
    refine ⟨_, _, rfl, ?_⟩
    have hx := position.x.le_toInt
    have hx' := position.x.toInt_lt
    have hy := position.y.le_toInt
    have hy' := position.y.toInt_lt
    simp only [positionField]
    omega

theorem sizeOf_eq_read (field : WindowOptions → Option (List Double)) (o : WindowOptions) :
    sizeOf name (field o) = (sizeField name field).read
      (fun pair => ⟨UInt32.ofNat pair.1.toNat, UInt32.ofNat pair.2.toNat⟩) o := by
  rw [ListField.read]
  cases hlist : field o with
  | none => rw [ListField.check_of_none (f := sizeField name field) hlist]; rfl
  | some values =>
    rw [ListField.check_of_some (f := sizeField name field) hlist]
    show components name 0 4294967295 values >>= _ =
      ((components name 0 4294967295 values).map some).map _
    cases components name 0 4294967295 values <;> rfl

theorem positionOf_eq_read (field : WindowOptions → Option (List Double)) (o : WindowOptions) :
    positionOf name (field o) = (positionField name field).read
      (fun pair => ⟨Int32.ofInt pair.1, Int32.ofInt pair.2⟩) o := by
  rw [ListField.read]
  cases hlist : field o with
  | none => rw [ListField.check_of_none (f := positionField name field) hlist]; rfl
  | some values =>
    rw [ListField.check_of_some (f := positionField name field) hlist]
    show components name (-2147483648) 2147483647 values >>= _ =
      ((components name (-2147483648) 2147483647 values).map some).map _
    cases components name (-2147483648) 2147483647 values <;> rfl

/-- A list is read as the size whose components are its integer parts. -/
theorem sizeOf_eq_ok_iff {list : Option (List Double)} {size : Option Size} :
    sizeOf name list = .ok size ↔
      list.map (List.map Double.integerPart?) = size.map Size.parts := by
  rw [sizeOf_eq_read (fun _ => list) {}, packs_size.read_eq_ok_iff]
  rfl

/-- A list is read as the position whose components are its integer parts. -/
theorem positionOf_eq_ok_iff {list : Option (List Double)} {position : Option Position} :
    positionOf name list = .ok position ↔
      list.map (List.map Double.integerPart?) = position.map Position.parts := by
  rw [positionOf_eq_read (fun _ => list) {}, packs_position.read_eq_ok_iff]
  rfl

/-! ## The whole record -/

/-- What options say about a window, with exact integer parts. -/
structure Describes (o : WindowOptions) (a : WindowAttributes) : Prop where
  innerSize : o.innerSize.map (List.map Double.integerPart?) = a.innerSize.map Size.parts
  minInnerSize : o.minInnerSize.map (List.map Double.integerPart?) = a.minInnerSize.map Size.parts
  maxInnerSize : o.maxInnerSize.map (List.map Double.integerPart?) = a.maxInnerSize.map Size.parts
  position : o.position.map (List.map Double.integerPart?) = a.position.map Position.parts
  resizeIncrements :
    o.resizeIncrements.map (List.map Double.integerPart?) = a.resizeIncrements.map Size.parts
  resizable : o.resizable = a.resizable
  enabledButtons : o.enabledButtons.map (· &&& 7) = a.enabledButtons.map TitleButtons.bits
  title : o.title = a.title
  fullscreen : o.fullscreen = a.fullscreen
  maximized : o.maximized = a.maximized
  visible : o.visible = a.visible
  transparent : o.transparent = a.transparent
  decorated : o.decorated = a.decorated
  level : o.level.or
    (o.alwaysOnTop.map fun onTop => if onTop then .alwaysOnTop else .normal) = a.level
  theme : o.theme = a.theme
  contentProtected : o.contentProtected = a.contentProtected
  active : o.active = a.active

/-- Options pass the check exactly if they describe attributes. -/
theorem attributes?_eq_ok_iff {o : WindowOptions} {a : WindowAttributes} :
    o.attributes? = .ok a ↔ o.Describes a := by
  unfold attributes?
  simp only [bind_eq_ok_iff, sizeOf_eq_ok_iff, positionOf_eq_ok_iff]
  constructor
  · rintro ⟨_, hinner, _, hmin, _, hmax, _, hposition, _, hincrements, ha⟩
    cases ha
    exact ⟨hinner, hmin, hmax, hposition, hincrements, rfl, TitleButtons.map_ofBits_eq_iff.mp rfl,
      rfl, rfl, rfl, rfl, rfl, rfl, rfl, rfl, rfl, rfl⟩
  · intro h
    refine ⟨_, h.innerSize, _, h.minInnerSize, _, h.maxInnerSize, _, h.position, _,
      h.resizeIncrements, congrArg Except.ok ?_⟩
    rw [h.resizable, TitleButtons.map_ofBits_eq_iff.mpr h.enabledButtons, h.title, h.fullscreen,
      h.maximized, h.visible, h.transparent, h.decorated, h.theme, h.contentProtected, h.active,
      show o.stackLevel = a.level from h.level]

theorem firstFault_iff {o : WindowOptions} {e : OptionsError} :
    o.FirstFault e ↔ listFields.findSome? (·.fault? o) = some e := by
  simp only [List.findSome?_eq_some_iff, ListField.fault?_eq_some_iff,
    ListField.fault?_eq_none_iff, FirstFault]
  constructor
  · rintro ⟨before, f, after, values, hsplit, hbefore, hlist, hfault⟩
    exact ⟨before, f, after, hsplit, ⟨values, hlist, hfault⟩, hbefore⟩
  · rintro ⟨before, f, after, hsplit, ⟨values, hlist, hfault⟩, hbefore⟩
    exact ⟨before, f, after, values, hsplit, hbefore, hlist, hfault⟩

/-- There is a first fault exactly if some list field offends. -/
theorem exists_firstFault_iff {o : WindowOptions} :
    (∃ e, o.FirstFault e) ↔ ∃ f ∈ listFields, f.Offends o := by
  simp only [firstFault_iff, ← Option.isSome_iff_exists, List.findSome?_isSome_iff]
  refine exists_congr fun f => and_congr_right fun _ => ?_
  rw [← not_iff_not, ← ListField.fault?_eq_none_iff, Option.not_isSome_iff_eq_none]

/-- Options are refused for what is wrong with the first field that offends. -/
theorem attributes?_eq_error_iff {o : WindowOptions} {e : OptionsError} :
    o.attributes? = .error e ↔ o.FirstFault e := by
  rw [firstFault_iff]
  unfold attributes? listFields
  rw [sizeOf_eq_read innerSize, sizeOf_eq_read minInnerSize,
    sizeOf_eq_read maxInnerSize, positionOf_eq_read position,
    sizeOf_eq_read resizeIncrements]
  iterate 5 refine ListField.read_bind_error_iff fun _ => ?_
  exact ⟨nofun, nofun⟩

end WindowOptions

end WindowSystem
