/-
# TOML: written documents are read back

A document of plain values and tables of plain values is read as what was written, without the
fields that are null and with the tables behind the plain values (`parse?_document`). It can be
written whenever each of its values can be (`document?_isSome_iff`).
-/
import WindowSystem.Proofs.Toml.Statements

namespace WindowSystem.Toml

/-! ## What a document gives back -/

/-- Whether a value is written on the line of its key. -/
def isPlainValue : Datum → Bool
  | .null => false
  | .record _ => false
  | _ => true

/-- The fields that are written as keys with values. -/
def plainFields (fields : List (String × Datum)) : List (String × Datum) :=
  fields.filter fun field => isPlainValue field.2

/-- The fields that are written as tables. -/
def tableFields (fields : List (String × Datum)) : List (String × List (String × Datum)) :=
  fields.filterMap fun field =>
    match field.2 with
    | .record inner => some (field.1, inner)
    | _ => none

/-- The fields that are read where a record has been written: the plain ones, then the tables. -/
def readBack (fields : List (String × Datum)) : List (String × Datum) :=
  plainFields fields ++
    (tableFields fields).map fun (key, inner) => (key, .record (plainFields inner))

/-- A record whose keys are distinct and whose plain values are read back. -/
structure FaithfulFields (fields : List (String × Datum)) : Prop where
  faithful : ∀ field ∈ plainFields fields, Faithful depthLimit field.2
  distinct : (fields.map Prod.fst).Nodup

/-- A record that holds plain values and tables of plain values. -/
structure FaithfulDocument (fields : List (String × Datum)) : Prop extends
    FaithfulFields fields where
  tables : ∀ table ∈ tableFields fields, FaithfulFields table.2 ∧ tableFields table.2 = []

theorem plainFields_cons {d : Datum} (hd : isPlainValue d = true) (key : String)
    (fields : List (String × Datum)) :
    plainFields ((key, d) :: fields) = (key, d) :: plainFields fields :=
  List.filter_cons_of_pos hd

theorem tableFields_record (key : String) (inner fields : List (String × Datum)) :
    tableFields ((key, .record inner) :: fields) = (key, inner) :: tableFields fields := rfl

theorem tableFields_cons {d : Datum} (hd : ∀ inner, d ≠ .record inner) (key : String)
    (fields : List (String × Datum)) : tableFields ((key, d) :: fields) = tableFields fields := by
  cases d with
  | record inner => exact absurd rfl (hd inner)
  | _ => rfl

/-- Induction over fields by the way in which they are written. -/
@[elab_as_elim]
theorem fields_induction {motive : List (String × Datum) → Prop} (nil : motive [])
    (null : ∀ key fields, motive fields → motive ((key, .null) :: fields))
    (record : ∀ key inner fields, motive fields → motive ((key, .record inner) :: fields))
    (plain : ∀ key d fields, isPlainValue d = true → motive fields → motive ((key, d) :: fields))
    (fields : List (String × Datum)) : motive fields := by
  induction fields with
  | nil => exact nil
  | cons field fields ih =>
    obtain ⟨key, d⟩ := field
    cases d with
    | null => exact null key fields ih
    | record inner => exact record key inner fields ih
    | _ => exact plain key _ fields rfl ih

/-! ## Values on lines -/

/-- The statements that give keys values. -/
def assignments (fields : List (String × Datum)) : List Statement :=
  (plainFields fields).map fun (key, d) => .assignment [key] d

theorem valueLines_cons {d : Datum} (hd : isPlainValue d = true) (layout : Layout) (key : String)
    (fields : List (String × Datum)) :
    valueLines layout ((key, d) :: fields) =
      (valueText layout d).bind fun text =>
        (valueLines layout fields).bind fun lines =>
          some ((keyText key ++ " = ".toList ++ text) :: lines) := by
  rw [valueLines]
  · rfl
  · rintro rfl
    cases hd
  · rintro inner rfl
    cases hd

/-- The lines of plain values hold one assignment each. -/
theorem linesOf_valueLines {layout : Layout} {fields : List (String × Datum)}
    (h : ∀ field ∈ plainFields fields, Faithful depthLimit field.2) {lines : List (List Char)}
    (hlines : valueLines layout fields = some lines) : LinesOf lines (assignments fields) := by
  induction fields using fields_induction generalizing lines with
  | nil =>
    cases hlines
    exact .nil
  | null key fields ih => exact ih h hlines
  | record key inner fields ih => exact ih h hlines
  | plain key d fields hd ih =>
    rw [valueLines_cons hd] at hlines
    simp only [Option.bind_eq_some_iff, Option.some.injEq] at hlines
    obtain ⟨text, htext, lines, hlines, rfl⟩ := hlines
    rw [plainFields_cons hd] at h
    have hfaithful := h _ List.mem_cons_self
    have hitem : ReadsItem depthLimit d text :=
      ⟨value?_valueText hfaithful htext, startsItem_valueText hfaithful htext⟩
    rw [assignments, plainFields_cons hd, List.map_cons]
    exact .line (readsLine_assignment key hitem)
      (ih (fun f hf => h f (List.mem_cons_of_mem _ hf)) hlines)

/-- Plain values can be written on lines if each of them can be written. -/
theorem valueLines_isSome_iff (layout : Layout) (fields : List (String × Datum)) :
    (valueLines layout fields).isSome = true ↔
      ∀ field ∈ plainFields fields, (valueText layout field.2).isSome = true := by
  induction fields using fields_induction with
  | nil => simp [valueLines, plainFields]
  | null key fields ih => exact ih
  | record key inner fields ih => exact ih
  | plain key d fields hd ih =>
    rw [valueLines_cons hd, plainFields_cons hd, List.forall_mem_cons, ← ih]
    cases valueText layout d <;> cases valueLines layout fields <;> simp

/-! ## Tables -/

/-- The statements of a table: its header, and its values. -/
def tableStatements : String × List (String × Datum) → List Statement
  | (key, inner) => .header [key] :: assignments inner

theorem subtableLines_cons {d : Datum} (hd : ∀ inner, d ≠ .record inner) (layout : Layout)
    (path : List String) (key : String) (fields : List (String × Datum)) (started : Bool) :
    subtableLines layout path ((key, d) :: fields) started =
      subtableLines layout path fields started := by
  rw [subtableLines]
  rintro key inner ⟨⟩
  exact hd inner rfl

theorem isPlainValue_ne_record {d : Datum} (hd : isPlainValue d = true)
    (inner : List (String × Datum)) : d ≠ .record inner := by
  rintro rfl
  cases hd

theorem subtableLines_of_tableFields {fields : List (String × Datum)} (h : tableFields fields = [])
    (layout : Layout) (path : List String) (started : Bool) :
    subtableLines layout path fields started = some [] := by
  induction fields using fields_induction with
  | nil => rw [subtableLines]
  | null key fields ih =>
    rw [subtableLines_cons (by rintro inner ⟨⟩)]
    exact ih h
  | record key inner fields ih => cases h
  | plain key d fields hd ih =>
    rw [tableFields_cons (isPlainValue_ne_record hd)] at h
    rw [subtableLines_cons (isPlainValue_ne_record hd)]
    exact ih h

/-- A record that has neither values nor tables to write is null throughout. -/
theorem all_isNull {fields : List (String × Datum)} (hplain : plainFields fields = [])
    (htables : tableFields fields = []) : (fields.all fun field => field.2.isNull) = true := by
  induction fields using fields_induction with
  | nil => rfl
  | null key fields ih => exact ih hplain htables
  | record key inner fields ih => cases htables
  | plain key d fields hd ih =>
    rw [plainFields_cons hd] at hplain
    cases hplain

/-- The lines of a table of plain values hold its header and its assignments. -/
theorem linesOf_tableLines {layout : Layout} {key : String} {inner : List (String × Datum)}
    (h : FaithfulFields inner) (hinner : tableFields inner = []) {started : Bool}
    {lines : List (List Char)} (hlines : tableLines layout [key] inner started = some lines) :
    LinesOf lines (tableStatements (key, inner)) := by
  rw [tableLines] at hlines
  simp only [subtableLines_of_tableFields hinner, Option.bind_eq_bind, Option.bind_some,
    Option.bind_eq_some_iff, List.append_nil, Option.some.injEq] at hlines
  obtain ⟨values, hvalues, rfl⟩ := hlines
  have hassignments := linesOf_valueLines h.faithful hvalues
  -- the header is left out only where no line follows it and a table does
  have hshown : (!([key] : List String).isEmpty &&
      (inner.all (fun field => field.2.isNull) || !values.isEmpty)) = true := by
    cases values with
    | nil =>
      have hplain : plainFields inner = [] := by
        generalize hstatements : assignments inner = statements at hassignments
        cases hassignments
        exact List.map_eq_nil_iff.mp hstatements
      simp [all_isNull hplain hinner]
    | cons line values => simp
  have hheader : LinesOf [headerLine [key]] [.header [key]] := .line (readsLine_header key) .nil
  rw [if_pos hshown]
  cases started with
  | true => exact LinesOf.empty (hheader.append hassignments)
  | false => exact hheader.append hassignments

theorem linesOf_subtableLines {layout : Layout} {fields : List (String × Datum)}
    (h : ∀ table ∈ tableFields fields, FaithfulFields table.2 ∧ tableFields table.2 = [])
    {started : Bool} {lines : List (List Char)}
    (hlines : subtableLines layout [] fields started = some lines) :
    LinesOf lines ((tableFields fields).flatMap tableStatements) := by
  induction fields using fields_induction generalizing started lines with
  | nil =>
    rw [subtableLines] at hlines
    cases hlines
    exact .nil
  | null key fields ih =>
    rw [subtableLines_cons (by rintro inner ⟨⟩)] at hlines
    exact ih h hlines
  | record key inner fields ih =>
    rw [subtableLines] at hlines
    simp only [Option.bind_eq_bind, Option.bind_eq_some_iff, Option.some.injEq] at hlines
    obtain ⟨own, hown, more, hmore, rfl⟩ := hlines
    rw [tableFields_record, List.forall_mem_cons] at h
    rw [tableFields_record, List.flatMap_cons]
    exact (linesOf_tableLines h.1.1 h.1.2 hown).append (ih h.2 hmore)
  | plain key d fields hd ih =>
    rw [tableFields_cons (isPlainValue_ne_record hd)] at h ⊢
    rw [subtableLines_cons (isPlainValue_ne_record hd)] at hlines
    exact ih h hlines

/-- The statements of a document: its values, and its tables. -/
def documentStatements (fields : List (String × Datum)) : List Statement :=
  assignments fields ++ (tableFields fields).flatMap tableStatements

theorem linesOf_document {layout : Layout} {fields : List (String × Datum)}
    (h : FaithfulDocument fields) {lines : List (List Char)}
    (hlines : tableLines layout [] fields false = some lines) :
    LinesOf lines (documentStatements fields) := by
  rw [tableLines] at hlines
  simp only [Option.bind_eq_bind, Option.bind_eq_some_iff, Option.some.injEq] at hlines
  obtain ⟨values, hvalues, below, hbelow, rfl⟩ := hlines
  exact (linesOf_valueLines h.faithful hvalues).append (linesOf_subtableLines h.tables hbelow)

/-! ## Carrying statements out -/

/-- The entries that assignments make. -/
def valueEntries (fields : List (String × Datum)) : Entries :=
  (plainFields fields).map fun (key, d) => (key, .value d)

/-- The entries that tables make. -/
def tableEntries (tables : List (String × List (String × Datum))) : Entries :=
  tables.map fun (key, inner) => (key, .table .header (valueEntries inner))

section Entries

variable {entries : Entries} {key : String} (h : key ∉ entries.map Prod.fst)

include h

theorem find?_key_eq_none : entries.find? (fun e => e.1 == key) = none := by
  rw [List.find?_eq_none]
  intro e he hkey
  exact h (List.mem_map.mpr ⟨e, he, by simpa using hkey⟩)

theorem get?_eq_none : entries.get? key = none := by
  rw [Entries.get?, find?_key_eq_none h]
  rfl

/-- A new key comes last. -/
theorem put_eq_append (node : Node) : entries.put key node = entries ++ [(key, node)] := by
  have hany : ¬ entries.any (fun e => e.1 == key) = true := by
    rw [List.any_eq_true, ← List.find?_isSome, find?_key_eq_none h]
    simp
  exact if_neg hany

theorem get?_append_last (node : Node) :
    Entries.get? (entries ++ [(key, node)]) key = some node := by
  rw [Entries.get?, List.find?_append, find?_key_eq_none h]
  simp

/-- Only the last entry is replaced. -/
theorem put_append_last (node node' : Node) :
    Entries.put (entries ++ [(key, node)]) key node' = entries ++ [(key, node')] := by
  have hmap : entries.map (fun e => if e.1 == key then (key, node') else e) = entries := by
    rw [List.map_congr_left (g := id), List.map_id]
    intro e he
    have hne : e.1 ≠ key := fun hkey => h (List.mem_map.mpr ⟨e, he, hkey⟩)
    simp [hne]
  rw [Entries.put, if_pos (by simp), List.map_append, hmap]
  simp

end Entries

/-- A new key is given its value behind the others. -/
theorem assign_new {entries : Entries} {key : String} (h : key ∉ entries.map Prod.fst) (d : Datum) :
    assign d [key] entries = some (entries ++ [(key, .value d)]) := by
  rw [assign, get?_eq_none h]
  simp [put_eq_append h]

/-- A header leads to a place in a document: what is done along the header is done there. -/
def LeadsTo (path : List String) (place : Entries → Entries) : Prop :=
  ∀ f inner, alongHeader f path (place inner) = (f inner).map place

/-- Before the first header, the place is the whole document. -/
theorem leadsTo_document : LeadsTo [] id := by
  intro f inner
  rw [alongHeader, Option.map_id]
  rfl

/-- After the header of the last table, the place is that table. -/
theorem leadsTo_table {entries : Entries} {key : String} (h : key ∉ entries.map Prod.fst) :
    LeadsTo [key] fun inner => entries ++ [(key, .table .header inner)] := by
  intro f inner
  rw [alongHeader, get?_append_last h]
  simp only [alongHeader]
  congr 1
  funext inner
  exact put_append_last h _ _

/-- Assignments of new keys add their values at the place of the header in force. -/
theorem run_assignments {path : List String} {place : Entries → Entries}
    (hplace : LeadsTo path place) {fields : List (String × Datum)} {inner : Entries}
    (h : (inner.map Prod.fst ++ (plainFields fields).map Prod.fst).Nodup) :
    (assignments fields).foldlM Document.step ⟨place inner, path⟩ =
      some ⟨place (inner ++ valueEntries fields), path⟩ := by
  rw [assignments, valueEntries]
  generalize plainFields fields = plain at h ⊢
  induction plain generalizing inner with
  | nil => simp
  | cons field plain ih =>
    obtain ⟨key, d⟩ := field
    -- what has been assigned so far has other keys
    have hkey : key ∉ inner.map Prod.fst := fun hmem =>
      (List.nodup_append.mp h).2.2 key hmem key List.mem_cons_self rfl
    have hstep : Document.step ⟨place inner, path⟩ (.assignment [key] d) =
        some ⟨place (inner ++ [(key, .value d)]), path⟩ := by
      simp [Document.step, hplace _ inner, assign_new hkey]
    have hnodup : ((inner ++ [(key, Node.value d)]).map Prod.fst ++ plain.map Prod.fst).Nodup := by
      simpa using h
    rw [List.map_cons, List.foldlM_cons, hstep]
    simpa [List.append_assoc] using ih hnodup

/-- A header opens a new table, and its assignments fill it. -/
theorem run_tableStatements {entries : Entries} {key : String} {inner : List (String × Datum)}
    (hkey : key ∉ entries.map Prod.fst) (hinner : ((plainFields inner).map Prod.fst).Nodup)
    (current : List String) :
    (tableStatements (key, inner)).foldlM Document.step ⟨entries, current⟩ =
      some ⟨entries ++ [(key, .table .header (valueEntries inner))], [key]⟩ := by
  have hheader : Document.step ⟨entries, current⟩ (.header [key]) =
      some ⟨entries ++ [(key, .table .header [])], [key]⟩ := by
    simp [Document.step, alongHeader, openTable, get?_eq_none hkey, put_eq_append hkey]
  rw [tableStatements, List.foldlM_cons, hheader]
  exact run_assignments (leadsTo_table hkey) hinner

/-- Tables with new names are added in order. -/
theorem run_tables {tables : List (String × List (String × Datum))} {entries : Entries}
    (h : (entries.map Prod.fst ++ tables.map Prod.fst).Nodup)
    (hinner : ∀ table ∈ tables, ((plainFields table.2).map Prod.fst).Nodup)
    (current : List String) :
    ((tables.flatMap tableStatements).foldlM Document.step ⟨entries, current⟩).map Document.root =
      some (entries ++ tableEntries tables) := by
  induction tables generalizing entries current with
  | nil => simp [tableEntries]
  | cons table tables ih =>
    obtain ⟨key, inner⟩ := table
    rw [List.forall_mem_cons] at hinner
    have hkey : key ∉ entries.map Prod.fst := fun hmem =>
      (List.nodup_append.mp h).2.2 key hmem key List.mem_cons_self rfl
    rw [List.flatMap_cons, List.foldlM_append, run_tableStatements hkey hinner.1 current]
    simp only [Option.bind_eq_bind, Option.bind_some]
    rw [ih (by simpa using h) hinner.2]
    simp [tableEntries]

/-! ## Documents -/

theorem entriesToFields_append (a b : Entries) :
    entriesToFields (a ++ b) = entriesToFields a ++ entriesToFields b := by
  induction a with
  | nil => rfl
  | cons e a ih =>
    obtain ⟨key, node⟩ := e
    rw [List.cons_append, entriesToFields, entriesToFields, ih, List.cons_append]

theorem entriesToFields_valueEntries (fields : List (String × Datum)) :
    entriesToFields (valueEntries fields) = plainFields fields := by
  rw [valueEntries]
  induction plainFields fields with
  | nil => rfl
  | cons field fields ih => rw [List.map_cons, entriesToFields, ih, Node.toDatum]

theorem entriesToFields_tableEntries (tables : List (String × List (String × Datum))) :
    entriesToFields (tableEntries tables) =
      tables.map fun (key, inner) => (key, .record (plainFields inner)) := by
  rw [tableEntries]
  induction tables with
  | nil => rfl
  | cons table tables ih =>
    rw [List.map_cons, entriesToFields, ih, Node.toDatum, entriesToFields_valueEntries]
    rfl

theorem map_fst_tableFields_sublist (fields : List (String × Datum)) :
    List.Sublist ((tableFields fields).map Prod.fst) (fields.map Prod.fst) := by
  induction fields using fields_induction with
  | nil => exact .slnil
  | null key fields ih => exact .cons key ih
  | record key inner fields ih => exact .cons_cons key ih
  | plain key d fields hd ih =>
    rw [tableFields_cons (isPlainValue_ne_record hd)]
    exact .cons key ih

theorem mem_of_mem_tableFields {fields : List (String × Datum)}
    {table : String × List (String × Datum)} (h : table ∈ tableFields fields) :
    (table.1, .record table.2) ∈ fields := by
  induction fields using fields_induction with
  | nil => cases h
  | null key fields ih => exact List.mem_cons_of_mem _ (ih h)
  | record key inner fields ih =>
    rw [tableFields_record, List.mem_cons] at h
    obtain rfl | h := h
    · exact List.mem_cons_self
    · exact List.mem_cons_of_mem _ (ih h)
  | plain key d fields hd ih =>
    rw [tableFields_cons (isPlainValue_ne_record hd)] at h
    exact List.mem_cons_of_mem _ (ih h)

/-- The keys of the plain values and of the tables of a document are distinct. -/
theorem FaithfulFields.nodup_keys {fields : List (String × Datum)} (h : FaithfulFields fields) :
    ((plainFields fields).map Prod.fst ++ (tableFields fields).map Prod.fst).Nodup := by
  have hplain : List.Sublist ((plainFields fields).map Prod.fst) (fields.map Prod.fst) :=
    List.filter_sublist.map Prod.fst
  refine List.nodup_append.mpr ⟨hplain.nodup h.distinct,
    (map_fst_tableFields_sublist fields).nodup h.distinct, ?_⟩
  -- a field that was both would be a plain value and a record
  rintro key hkey name hname rfl
  obtain ⟨field, hfield, rfl⟩ := List.mem_map.mp hkey
  obtain ⟨table, htable, hsame⟩ := List.mem_map.mp hname
  obtain ⟨hmem, hvalue⟩ := List.mem_filter.mp hfield
  have heq := List.inj_on_of_nodup_map h.distinct hmem (mem_of_mem_tableFields htable) hsame.symm
  rw [heq] at hvalue
  cases hvalue

/-- The statements of a document make its plain values and its tables. -/
theorem run_documentStatements {fields : List (String × Datum)} (h : FaithfulDocument fields) :
    (Document.run (documentStatements fields)).map (fun doc => entriesToFields doc.root) =
      some (readBack fields) := by
  have hvalues : (assignments fields).foldlM Document.step {} = some ⟨valueEntries fields, []⟩ :=
    run_assignments leadsTo_document (List.nodup_append.mp h.nodup_keys).1
  have hkeys : (valueEntries fields).map Prod.fst = (plainFields fields).map Prod.fst := by
    rw [valueEntries, List.map_map]
    rfl
  have hnodup := h.nodup_keys
  rw [← hkeys] at hnodup
  have htables := run_tables hnodup
    (fun table ht => (List.nodup_append.mp (h.tables table ht).1.nodup_keys).1) []
  rw [Document.run, documentStatements, List.foldlM_append, hvalues]
  obtain ⟨doc, hdoc, hroot⟩ := Option.map_eq_some_iff.mp htables
  simp only [Option.bind_eq_bind, Option.bind_some, hdoc, Option.map_some, hroot,
    entriesToFields_append, entriesToFields_valueEntries, entriesToFields_tableEntries]
  rfl

theorem length_le_flatMap (lines : List (List Char)) :
    lines.length ≤ (lines.flatMap (· ++ ['\n'])).length := by
  induction lines with
  | nil => exact Nat.le_refl 0
  | cons line lines ih =>
    rw [List.flatMap_cons, List.length_append, List.length_append, List.length_singleton,
      List.length_cons]
    omega

/-- Lines do not start with a byte order mark. -/
theorem LinesOf.flatMap_ne {lines : List (List Char)} {statements : List Statement}
    (h : LinesOf lines statements) (rest : List Char) :
    lines.flatMap (· ++ ['\n']) ≠ '\ufeff' :: rest := by
  cases h with
  | nil => rintro ⟨⟩
  | empty h => rintro ⟨⟩
  | line hline h =>
    obtain ⟨c, more, rfl, -, -, -, -, hc⟩ := hline.starts
    exact fun heq => hc (List.cons.inj heq).1

/-- A written document is read as what it was written for, without the fields that are null and with
the tables behind the plain values. -/
theorem parse?_document {layout : Layout} {fields : List (String × Datum)}
    (h : FaithfulDocument fields) {text : String} (htext : document? layout fields = some text) :
    parse? text = some (readBack fields) := by
  obtain ⟨lines, hlines, rfl⟩ := Option.map_eq_some_iff.mp htext
  have hof := linesOf_document h hlines
  have hread := statements?_linesOf hof (Nat.lt_succ_of_le (length_le_flatMap lines))
  have hrun := run_documentStatements h
  have hmark := hof.flatMap_ne
  unfold parse?
  rw [String.toList_ofList]
  generalize lines.flatMap (· ++ ['\n']) = cs at hread hmark ⊢
  simp only [hread, Option.bind_some]
  exact hrun

/-- A table without tables of its own can be written if its values can be. -/
theorem tableLines_isSome_iff {inner : List (String × Datum)} (hinner : tableFields inner = [])
    (layout : Layout) (path : List String) (started : Bool) :
    (tableLines layout path inner started).isSome = true ↔
      ∀ field ∈ plainFields inner, (valueText layout field.2).isSome = true := by
  rw [← valueLines_isSome_iff, tableLines]
  simp only [subtableLines_of_tableFields hinner]
  cases valueLines layout inner <;> simp

theorem subtableLines_isSome_iff {fields : List (String × Datum)}
    (h : ∀ table ∈ tableFields fields, tableFields table.2 = []) (layout : Layout)
    (path : List String) (started : Bool) :
    (subtableLines layout path fields started).isSome = true ↔
      ∀ table ∈ tableFields fields, ∀ field ∈ plainFields table.2,
        (valueText layout field.2).isSome = true := by
  induction fields using fields_induction generalizing started with
  | nil => simp [subtableLines, tableFields]
  | null key fields ih =>
    rw [subtableLines_cons (by rintro inner ⟨⟩)]
    exact ih h started
  | record key inner fields ih =>
    rw [tableFields_record, List.forall_mem_cons] at h ⊢
    rw [← tableLines_isSome_iff h.1 layout (path ++ [key]) started, subtableLines]
    cases tableLines layout (path ++ [key]) inner started with
    | none => simp
    | some lines =>
      rw [← ih h.2 (started || !lines.isEmpty)]
      cases hmore : subtableLines layout path fields (started || !lines.isEmpty) <;> simp [hmore]
  | plain key d fields hd ih =>
    rw [tableFields_cons (isPlainValue_ne_record hd)] at h ⊢
    rw [subtableLines_cons (isPlainValue_ne_record hd)]
    exact ih h started

/-- A document can be written if all its values can be. -/
theorem document?_isSome_iff {fields : List (String × Datum)}
    (h : ∀ table ∈ tableFields fields, tableFields table.2 = []) (layout : Layout) :
    (document? layout fields).isSome = true ↔
      (∀ field ∈ plainFields fields, (valueText layout field.2).isSome = true) ∧
        ∀ table ∈ tableFields fields, ∀ field ∈ plainFields table.2,
          (valueText layout field.2).isSome = true := by
  rw [document?, Option.isSome_map, tableLines, ← valueLines_isSome_iff]
  cases valueLines layout fields with
  | none => simp
  | some values =>
    have hbelow := subtableLines_isSome_iff h layout [] !values.isEmpty
    simp only [List.isEmpty_nil, Bool.not_true, Bool.false_and, Bool.false_or,
      Option.bind_eq_bind, Option.bind_some, Option.isSome_some, true_and, ← hbelow]
    cases subtableLines layout [] fields !values.isEmpty <;> simp

end WindowSystem.Toml
