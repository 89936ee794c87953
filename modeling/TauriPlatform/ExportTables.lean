import TauriPlatform.ExportEngine
import TauriPlatform.LiveValue

/-!
# Exports as worksheets

`ExportEngine.toXlsx` makes an object of each record, and the `xlsx` package takes the header of
the worksheet from the keys of these objects.
-/

namespace TauriPlatform

/-! ## Worksheets -/

structure SheetTable where
  header : List String
  rows : List (List ExportValue)

/-- What is used of `xlsx` for an export. -/
structure SheetWriter where
  jsonToSheet : List (List (String × ExportValue)) → SheetTable
  write : (sheetName : String) → SheetTable → Except Raised (List UInt8)

namespace ExportEngine

open JsValue

/-- `rowObj[key] = value` on a plain object; a value which is no object is lost under
`__proto__`. -/
def assign (entries : List (String × ExportValue)) (key : String) (value : ExportValue) :
    List (String × ExportValue) :=
  if key = "__proto__" then entries else define entries key value

def sheetValue : ExportValue → ExportValue
  | .string value => .string (sanitizeSpreadsheetString value)
  | .undefined | .null => .string ""
  | value => value

section Engine

variable {Record : Type} (writer : SheetWriter) (records : List Record)
  (definition : ExportDefinition Record)

def rowObject (record : Record) : List (String × ExportValue) :=
  definition.columns.foldl (fun entries column =>
    assign entries (sanitizeSpreadsheetString column.header)
      (sheetValue (column.accessor record))) []

/-- The worksheet of `toXlsx`. -/
def exportWorksheet : Except Thrown SheetTable := do
  validateDefinition definition
  validateSheetName (definition.sheetName.getD "Export")
  return writer.jsonToSheet (records.map (rowObject definition))

def toXlsx : Except Raised (List UInt8) :=
  match exportWorksheet writer records definition with
  | .error thrown => .error thrown.raised
  | .ok worksheet => writer.write (definition.sheetName.getD "Export") worksheet

end Engine

/-! ## The header of a worksheet -/

def addKeys (header keys : List String) : List String :=
  keys.foldl (fun header key => if key ∈ header then header else header ++ [key]) header

def sheetHeader (objects : List (List (String × ExportValue))) : List String :=
  objects.foldl (fun header object => addKeys header (object.map Prod.fst)) []

/-- `json_to_sheet` takes its header from the keys of the objects in the order of enumeration. -/
structure HeaderFromKeys (writer : SheetWriter) : Prop where
  table : ∀ objects, writer.jsonToSheet objects =
    { header := sheetHeader objects
      rows := objects.map fun object =>
        (sheetHeader objects).map fun key => (object.lookup key).getD .undefined }

variable {keys : List String}

theorem addKeys_of_subset {header : List String} (hkeys : ∀ key ∈ keys, key ∈ header) :
    addKeys header keys = header := by
  induction keys with
  | nil => rfl
  | cons key keys ih =>
      rw [addKeys, List.foldl_cons, if_pos (hkeys key List.mem_cons_self)]
      exact ih fun other hother => hkeys other (List.mem_cons_of_mem _ hother)

theorem addKeys_of_nodup {header : List String} (hnodup : (header ++ keys).Nodup) :
    addKeys header keys = header ++ keys := by
  induction keys generalizing header with
  | nil => exact (List.append_nil header).symm
  | cons key keys ih =>
      have hnew : key ∉ header := by
        intro hmem
        exact (List.nodup_append'.mp hnodup).2.2 hmem List.mem_cons_self
      rw [← List.singleton_append, ← List.append_assoc] at hnodup
      have hrest := ih hnodup
      rw [List.append_assoc, List.singleton_append] at hrest
      rw [addKeys, List.foldl_cons, if_neg hnew]
      exact hrest

theorem sheetHeader_of_same {objects : List (List (String × ExportValue))}
    (hobjects : objects ≠ []) (hkeys : ∀ object ∈ objects, object.map Prod.fst = keys)
    (hnodup : keys.Nodup) : sheetHeader objects = keys := by
  obtain ⟨first, rest, rfl⟩ := List.exists_cons_of_ne_nil hobjects
  have hrest : ∀ others : List (List (String × ExportValue)),
      (∀ object ∈ others, object.map Prod.fst = keys) →
        others.foldl (fun header object => addKeys header (object.map Prod.fst)) keys = keys := by
    intro others hothers
    induction others with
    | nil => rfl
    | cons object others ih =>
        rw [List.foldl_cons, hothers object List.mem_cons_self,
          addKeys_of_subset fun _ hkey => hkey]
        exact ih fun other hother => hothers other (List.mem_cons_of_mem _ hother)
  rw [sheetHeader, List.foldl_cons, hkeys first List.mem_cons_self,
    addKeys_of_nodup (by simpa using hnodup), List.nil_append]
  exact hrest rest fun object hobject => hkeys object (List.mem_cons_of_mem _ hobject)

/-! ## The objects -/

section Objects

variable {α : Type} {entries : List (String × α)} {key : String} {value : α}

theorem define_of_last (hordered : OrderedKeys (entries ++ [(key, value)])) :
    define entries key value = entries ++ [(key, value)] := by
  rw [OrderedKeys, List.map_append, List.map_singleton, List.pairwise_append] at hordered
  obtain ⟨-, -, hlast⟩ := hordered
  have hprecedes : ∀ entry ∈ entries, Precedes entry.1 key := fun entry hentry =>
    hlast entry.1 (List.mem_map_of_mem hentry) key List.mem_cons_self
  have hnew : ¬ entries.any (fun entry => entry.1 == key) := by
    intro hany
    obtain ⟨entry, hentry, hkey⟩ := List.any_eq_true.mp hany
    exact (hprecedes entry hentry).1 (beq_iff_eq.mp hkey)
  unfold define
  rw [if_neg hnew]
  cases hindex : arrayIndex? key with
  | none => rfl
  | some index =>
      have hbelow : ∀ entry ∈ entries, (arrayIndex? entry.1).any (· < index) = true := by
        intro entry hentry
        obtain ⟨below, hfound, hless⟩ := (hprecedes entry hentry).2 index hindex
        rw [hfound]
        exact decide_eq_true hless
      dsimp only
      rw [List.takeWhile_eq_self_iff.mpr hbelow, List.dropWhile_eq_nil_iff.mpr hbelow]

theorem foldl_define_of_ordered (hordered : OrderedKeys entries) :
    entries.foldl (fun object entry => define object entry.1 entry.2) [] = entries := by
  induction entries using List.reverseRecOn with
  | nil => rfl
  | append_singleton entries last ih =>
      have hfront : OrderedKeys entries :=
        hordered.sublist ((List.sublist_append_left entries [last]).map Prod.fst)
      rw [List.foldl_append, ih hfront, List.foldl_cons, List.foldl_nil, define_of_last hordered]

theorem orderedKeys_foldl (start entries : List (String × α)) (hstart : OrderedKeys start) :
    OrderedKeys (entries.foldl (fun object entry => define object entry.1 entry.2) start) := by
  induction entries generalizing start with
  | nil => exact hstart
  | cons first rest ih => exact ih _ (hstart.define first.1 first.2)

theorem lookup_of_mem (hnodup : (entries.map Prod.fst).Nodup) (hmem : (key, value) ∈ entries) :
    entries.lookup key = some value := by
  induction entries with
  | nil => cases hmem
  | cons first rest ih =>
      rw [List.map_cons, List.nodup_cons] at hnodup
      rw [List.lookup_cons]
      rcases List.mem_cons.mp hmem with rfl | hlater
      · simp
      · have hother : key ≠ first.1 := by
          rintro rfl
          exact hnodup.1 (List.mem_map.mpr ⟨_, hlater, rfl⟩)
        rw [beq_false_of_ne hother]
        exact ih hnodup.2 hlater

end Objects

section Rows

variable {Record : Type} {records : List Record} {definition : ExportDefinition Record}

def exportHeaders (definition : ExportDefinition Record) : List String :=
  definition.columns.map fun column => sanitizeSpreadsheetString column.header

def rowFields (definition : ExportDefinition Record) (record : Record) :
    List (String × ExportValue) :=
  definition.columns.map fun column =>
    (sanitizeSpreadsheetString column.header, sheetValue (column.accessor record))

theorem keys_rowFields (definition : ExportDefinition Record) (record : Record) :
    (rowFields definition record).map Prod.fst = exportHeaders definition := by
  rw [rowFields, List.map_map]
  rfl

/-- Only the property `__proto__` is lost. -/
theorem rowObject_eq (definition : ExportDefinition Record) (record : Record) :
    rowObject definition record =
      ((rowFields definition record).filter fun field => field.1 ≠ "__proto__").foldl
        (fun object field => define object field.1 field.2) [] := by
  unfold rowObject rowFields
  generalize ([] : List (String × ExportValue)) = start
  induction definition.columns generalizing start with
  | nil => rfl
  | cons column columns ih =>
      rw [List.foldl_cons, List.map_cons, List.filter_cons, ih]
      by_cases hproto : sanitizeSpreadsheetString column.header = "__proto__"
      · simp [assign, hproto]
      · simp [assign, hproto]

theorem orderedKeys_rowObject (definition : ExportDefinition Record) (record : Record) :
    OrderedKeys (rowObject definition record) := by
  rw [rowObject_eq]
  exact orderedKeys_foldl [] _ .nil

theorem proto_not_mem_rowObject (definition : ExportDefinition Record) (record : Record) :
    "__proto__" ∉ (rowObject definition record).map Prod.fst := by
  rw [rowObject_eq]
  have hnone : ∀ fields start : List (String × ExportValue),
      (∀ field ∈ fields, field.1 ≠ "__proto__") → (∀ field ∈ start, field.1 ≠ "__proto__") →
        ∀ field ∈ fields.foldl (fun object field => define object field.1 field.2) start,
          field.1 ≠ "__proto__" := by
    intro fields
    induction fields with
    | nil => exact fun start _ hstart => hstart
    | cons first rest ih =>
        intro start hfields hstart
        refine ih _ (fun field hfield => hfields field (List.mem_cons_of_mem _ hfield)) ?_
        intro field hfield
        rcases mem_define hfield with rfl | hold
        · exact hfields first List.mem_cons_self
        · exact hstart field hold
  intro hmem
  obtain ⟨field, hfield, hkey⟩ := List.mem_map.mp hmem
  refine hnone _ [] (fun other hother => ?_) (fun _ hother => (nomatch hother)) field hfield hkey
  simpa using (List.mem_filter.mp hother).2

theorem keys_rowObject (definition : ExportDefinition Record) (first second : Record) :
    (rowObject definition first).map Prod.fst = (rowObject definition second).map Prod.fst := by
  have herased : ∀ (columns : List (ExportColumn Record))
      (left right : List (String × ExportValue)),
      left.map (fun field => (field.1, JsonValue.null)) =
        right.map (fun field => (field.1, JsonValue.null)) →
      (columns.foldl (fun entries column => assign entries
          (sanitizeSpreadsheetString column.header) (sheetValue (column.accessor first)))
            left).map (fun field => (field.1, JsonValue.null)) =
        (columns.foldl (fun entries column => assign entries
          (sanitizeSpreadsheetString column.header) (sheetValue (column.accessor second)))
            right).map fun field => (field.1, JsonValue.null) := by
    intro columns
    induction columns with
    | nil => exact fun _ _ hsame => hsame
    | cons column columns ih =>
        intro left right hsame
        apply ih
        dsimp only [assign]
        split_ifs
        · exact hsame
        · rw [map_define (fun _ => JsonValue.null), map_define (fun _ => JsonValue.null), hsame]
  have hkeys := congrArg (List.map Prod.fst) (herased definition.columns [] [] rfl)
  rw [List.map_map, List.map_map] at hkeys
  exact hkeys

theorem rowObject_of_ordered (hproto : "__proto__" ∉ exportHeaders definition)
    (hordered : (exportHeaders definition).Pairwise Precedes) (record : Record) :
    rowObject definition record = rowFields definition record := by
  have hall : (rowFields definition record).filter (fun field => field.1 ≠ "__proto__") =
      rowFields definition record := by
    rw [List.filter_eq_self]
    intro field hfield
    have hmem : field.1 ∈ exportHeaders definition := by
      rw [← keys_rowFields definition record]
      exact List.mem_map_of_mem hfield
    exact decide_eq_true fun heq => hproto (heq ▸ hmem)
  rw [rowObject_eq, hall]
  apply foldl_define_of_ordered
  rw [OrderedKeys, keys_rowFields]
  exact hordered

end Rows

/-! ## One table -/

def sheetText : ExportValue → String
  | .string value => value
  | .number value => value.text
  | .bigint value => toString value
  | .bool value => if value then "true" else "false"
  | .undefined | .null | .other _ => ""

/-- The text has the header of the worksheet as its first row, and the cells of the worksheet in
the others. -/
def SameTable (text : String) (worksheet : SheetTable) : Prop :=
  Rfc4180.decode text.toList =
    some (worksheet.header.map String.toList ::
      worksheet.rows.map fun row => row.map fun cell => (sheetText cell).toList)

/-- A string, a number or `null`. -/
def IsPlain : ExportValue → Prop
  | .string _ => True
  | .number _ => True
  | .null => True
  | _ => False

theorem cellText_of_plain {value : ExportValue} (hplain : IsPlain value) :
    cellText value = .ok (sheetText (sheetValue value)) := by
  cases value with
  | string value => rfl
  | number value => rfl
  | null => rfl
  | _ => cases hplain

section Agreement

variable {Record : Type} {writer : SheetWriter} {records : List Record}
  {definition : ExportDefinition Record}

theorem exportWorksheet_eq (hwriter : HeaderFromKeys writer)
    (hvalid : validateDefinition definition = .ok ())
    (hname : validateSheetName (definition.sheetName.getD "Export") = .ok ()) :
    exportWorksheet writer records definition =
      .ok { header := sheetHeader (records.map (rowObject definition))
            rows := (records.map (rowObject definition)).map fun object =>
              (sheetHeader (records.map (rowObject definition))).map fun key =>
                (object.lookup key).getD .undefined } := by
  rw [exportWorksheet, hvalid, hname]
  exact congrArg Except.ok (hwriter.table _)

theorem sheetHeader_records (record : Record) (rest : List Record)
    (definition : ExportDefinition Record) :
    sheetHeader ((record :: rest).map (rowObject definition)) =
      (rowObject definition record).map Prod.fst := by
  apply sheetHeader_of_same (List.cons_ne_nil _ _)
  · intro object hobject
    obtain ⟨other, -, rfl⟩ : ∃ other ∈ record :: rest, rowObject definition other = object :=
      List.mem_map.mp hobject
    exact keys_rowObject definition other record
  · exact (orderedKeys_rowObject definition record).nodup

theorem row_of_ordered (hproto : "__proto__" ∉ exportHeaders definition)
    (hordered : (exportHeaders definition).Pairwise Precedes) (record : Record) :
    ((exportHeaders definition).map fun key =>
      ((rowObject definition record).lookup key).getD .undefined) =
        definition.columns.map fun column => sheetValue (column.accessor record) := by
  have hnodup : ((rowFields definition record).map Prod.fst).Nodup := by
    rw [keys_rowFields]
    exact hordered.imp fun hprecedes => hprecedes.1
  rw [rowObject_of_ordered hproto hordered, exportHeaders, List.map_map]
  apply List.map_congr_left
  intro column hcolumn
  have hmem : (sanitizeSpreadsheetString column.header, sheetValue (column.accessor record)) ∈
      rowFields definition record := List.mem_map_of_mem hcolumn
  simp only [Function.comp_apply, lookup_of_mem hnodup hmem, Option.getD_some]

theorem row_of_holds {record : Record} {columns : List (ExportColumn Record)}
    {row : List (List Char)} (hplain : ∀ column ∈ columns, IsPlain (column.accessor record))
    (hrow : List.Forall₂ (Holds record) columns row) :
    row = columns.map fun column =>
      (sheetText (sheetValue (column.accessor record))).toList := by
  induction hrow with
  | nil => rfl
  | @cons column cell columns row hcell _ ih =>
      have htext := Except.ok.inj
        (hcell.symm.trans (cellText_of_plain (hplain column List.mem_cons_self)))
      rw [List.map_cons, ← htext, String.toList_ofList,
        ← ih fun other hother => hplain other (List.mem_cons_of_mem _ hother)]

theorem rows_of_holds {rows : List (List (List Char))}
    (hplain : ∀ record ∈ records, ∀ column ∈ definition.columns,
      IsPlain (column.accessor record))
    (hrows : List.Forall₂ (fun record row => List.Forall₂ (Holds record) definition.columns row)
      records rows) :
    rows = records.map fun record => definition.columns.map fun column =>
      (sheetText (sheetValue (column.accessor record))).toList := by
  induction hrows with
  | nil => rfl
  | @cons record row records rows hrow _ ih =>
      rw [List.map_cons, ← row_of_holds (hplain record List.mem_cons_self) hrow,
        ← ih fun other hother => hplain other (List.mem_cons_of_mem _ hother)]

theorem headerCells_eq (definition : ExportDefinition Record) :
    headerCells definition = (exportHeaders definition).map String.toList := by
  rw [exportHeaders, List.map_map]
  rfl

/-- Plain values are exported as one table exactly where there is a record, no header names the
prototype, and the headers are in the order in which JavaScript enumerates them. -/
theorem toCsv_agrees_iff (hwriter : HeaderFromKeys writer)
    (hvalid : validateDefinition definition = .ok ())
    (hname : validateSheetName (definition.sheetName.getD "Export") = .ok ())
    (hplain : ∀ record ∈ records, ∀ column ∈ definition.columns,
      IsPlain (column.accessor record)) :
    (∃ text worksheet, toCsv records definition = .ok text ∧
        exportWorksheet writer records definition = .ok worksheet ∧ SameTable text worksheet) ↔
      records ≠ [] ∧ "__proto__" ∉ exportHeaders definition ∧
        (exportHeaders definition).Pairwise Precedes := by
  have hworksheet := @exportWorksheet_eq Record writer records definition hwriter hvalid hname
  constructor
  · rintro ⟨text, worksheet, hcsv, hxlsx, hsame⟩
    obtain ⟨rows, hdecoded, -⟩ := decode_toCsv hcsv
    rw [hworksheet] at hxlsx
    rw [← Except.ok.inj hxlsx, SameTable, hdecoded, headerCells_eq] at hsame
    have hheader : exportHeaders definition = sheetHeader (records.map (rowObject definition)) :=
      List.map_injective_iff.mpr (fun _ _ => String.toList_injective)
        (List.cons.inj (Option.some.inj hsame)).1
    cases records with
    | nil =>
        exact absurd (List.map_eq_nil_iff.mp hheader) (columns_ne_nil hvalid)
    | cons record rest =>
        rw [sheetHeader_records] at hheader
        rw [hheader]
        exact ⟨List.cons_ne_nil _ _, proto_not_mem_rowObject definition record,
          orderedKeys_rowObject definition record⟩
  · rintro ⟨hrecords, hproto, hordered⟩
    obtain ⟨text, hcsv⟩ := toCsv_isOk hvalid fun record hrecord column hcolumn =>
      ⟨_, cellText_of_plain (hplain record hrecord column hcolumn)⟩
    obtain ⟨rows, hdecoded, hrows⟩ := decode_toCsv hcsv
    refine ⟨text, _, hcsv, hworksheet, ?_⟩
    have hheader : sheetHeader (records.map (rowObject definition)) = exportHeaders definition := by
      obtain ⟨record, rest, rfl⟩ := List.exists_cons_of_ne_nil hrecords
      rw [sheetHeader_records, rowObject_of_ordered hproto hordered, keys_rowFields]
    rw [SameTable, hdecoded, hheader, headerCells_eq, rows_of_holds hplain hrows]
    simp only [List.map_map, Function.comp_def]
    congr 2
    apply List.map_congr_left
    intro record _
    have hcells := congrArg (List.map fun cell => (sheetText cell).toList)
      (row_of_ordered hproto hordered record)
    rw [List.map_map, List.map_map] at hcells
    exact hcells.symm

end Agreement

/-! ## One column -/

def keyedWriter : SheetWriter where
  jsonToSheet objects :=
    { header := sheetHeader objects
      rows := objects.map fun object =>
        (sheetHeader objects).map fun key => (object.lookup key).getD .undefined }
  write _ _ := .ok []

theorem headerFromKeys_keyed : HeaderFromKeys keyedWriter :=
  ⟨fun _ => rfl⟩

theorem toCsv_agrees_iff_values :
    (∃ text worksheet, toCsv [ExportValue.string "=1+1", .null] valueColumn = .ok text ∧
        exportWorksheet keyedWriter [ExportValue.string "=1+1", .null] valueColumn =
          .ok worksheet ∧ SameTable text worksheet) ↔
      [ExportValue.string "=1+1", .null] ≠ [] ∧ "__proto__" ∉ exportHeaders valueColumn ∧
        (exportHeaders valueColumn).Pairwise Precedes := by
  refine toCsv_agrees_iff headerFromKeys_keyed (show validateDefinition valueColumn = .ok () by rfl)
    (show validateSheetName (valueColumn.sheetName.getD "Export") = .ok () by rfl) ?_
  intro record hrecord column hcolumn
  rw [List.mem_singleton.mp hcolumn]
  simp only [List.mem_cons, List.not_mem_nil, or_false] at hrecord
  rcases hrecord with rfl | rfl
  · trivial
  · trivial

/-- An empty list has its headers in the text only. -/
theorem empty_list_disagrees :
    ∃ text worksheet, toCsv [] valueColumn = .ok text ∧
      exportWorksheet keyedWriter [] valueColumn = .ok worksheet ∧ ¬ SameTable text worksheet := by
  refine ⟨_, _, rfl, rfl, ?_⟩
  unfold SameTable
  decide

end ExportEngine
end TauriPlatform
