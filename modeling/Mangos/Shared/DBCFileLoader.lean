import Mathlib.Algebra.Group.Nat.Defs
import Mathlib.Data.List.Basic
import Mangos.Framework.Digits
import Mangos.Framework.Layout

/-!
# Decoding DBC files

The loader walks a format five times: for the places of the fields on the disk, for the size of a record in
memory, and to fill in the fields, the holders of the strings and the strings.
-/

namespace Mangos

open Framework Function

/-- The characters that the loader supports, `xXsfibdn`; it asserts that there is no other. -/
inductive FieldFormat
  | na | naByte | string | float | int | byte | sort | ind
  deriving DecidableEq

def maxLocale : Nat := 12

/-- What is written into the table at once; the pointer of a string field is null or leads into the pool of
holders. A `float` is known by its bits. -/
inductive DataCell
  | word (value : Nat)
  | byte (value : Nat)
  | slot (holder : Option Nat)

def DataCell.size : DataCell → Nat
  | .word _ => 4
  | .byte _ => 1
  | .slot _ => 8

/-- The pointers `data` and `stringTable` are a block and a place in it. -/
structure DBCFileLoader where
  recordSize : Nat
  recordCount : Nat
  fieldCount : Nat
  stringSize : Nat
  fieldsOffset : List Nat
  data : List UInt8
  stringTable : Nat

/-- What `AutoProduceData`, `AutoProduceStringsArrayHolders` and `AutoProduceStrings` make: pointers into a block
are places in it, and a null pointer or `nullStr` is `none`. -/
structure DBCTables where
  records : Nat
  indexTable : Nat → Option Nat
  dataSize : Nat
  dataTable : Nat → Option DataCell
  holders : Nat → Option Nat
  stringPool : List UInt8

namespace DBCFileLoader

def readWord (bytes : List UInt8) : Option (Nat × List UInt8) :=
  if bytes.length < 4 then none else some (ofBytes (bytes.take 4), bytes.drop 4)

/-- The loop of `Load` over the format. -/
def fieldOffsets : List FieldFormat → Nat → List Nat
  | [], _ => []
  | c :: fmt, offset =>
    offset :: fieldOffsets fmt ((offset + if c = .byte ∨ c = .naByte then 1 else 4) % 2 ^ 32)

def load (file : List UInt8) (fmt : List FieldFormat) : Option DBCFileLoader := do
  let (header, file) ← readWord file
  if header ≠ 0x43424457 then none else
  let (recordCount, file) ← readWord file
  let (fieldCount, file) ← readWord file
  let (recordSize, file) ← readWord file
  let (stringSize, file) ← readWord file
  let size := (recordSize * recordCount + stringSize) % 2 ^ 32
  -- `fread` gives zero when there is nothing to read
  if size = 0 ∨ file.length < size then none else
  some ⟨recordSize, recordCount, fieldCount, stringSize, fieldOffsets (fmt.take fieldCount) 0, file.take size,
    recordSize * recordCount % 2 ^ 32⟩

variable (dbc : DBCFileLoader)

/-- Bytes of a field of `getRecord(y)`. -/
def getBytes (y field width : Nat) : Option Nat :=
  let offset := y * dbc.recordSize + dbc.fieldsOffset.getD field 0
  if field < dbc.fieldCount ∧ offset + width ≤ dbc.data.length then
    some (ofBytes ((dbc.data.drop offset).take width))
  else none

def getUInt (y field : Nat) : Option Nat := dbc.getBytes y field 4

def getUInt8 (y field : Nat) : Option Nat := dbc.getBytes y field 1

def getString (y field : Nat) : Option Nat :=
  (dbc.getUInt y field).bind fun stringOffset =>
    if stringOffset < dbc.stringSize then some stringOffset else none

def countField (x : Nat) (st : Nat × Option Nat) : FieldFormat → Nat × Option Nat
  | .float | .int => ((st.1 + 4) % 2 ^ 32, st.2)
  | .string => ((st.1 + 8) % 2 ^ 32, st.2)
  | .sort => (st.1, some x)
  | .ind => ((st.1 + 4) % 2 ^ 32, some x)
  | .byte => ((st.1 + 1) % 2 ^ 32, st.2)
  | .na | .naByte => st

def getFormatRecordSize (fmt : List FieldFormat) : Nat × Option Nat :=
  (List.range fmt.length).foldl (fun st x => fmt[x]?.elim st (countField x st)) (0, none)

def indexPos (fmt : List FieldFormat) : Option Nat := (getFormatRecordSize fmt).2

def getFormatStringsFields (fmt : List FieldFormat) : Nat := fmt.count .string

def writeCell (size : Nat) (cell : DataCell) (st : Nat × (Nat → Option DataCell)) :
    Option (Nat × (Nat → Option DataCell)) :=
  if st.1 + cell.size ≤ size then some ((st.1 + cell.size) % 2 ^ 32, update st.2 st.1 (some cell)) else none

def produceField (size y : Nat) (c : FieldFormat) (x : Nat) (st : Nat × (Nat → Option DataCell)) :
    Option (Nat × (Nat → Option DataCell)) :=
  match c with
  | .float | .ind | .int => (dbc.getUInt y x).bind fun value => writeCell size (.word value) st
  | .byte => (dbc.getUInt8 y x).bind fun value => writeCell size (.byte value) st
  | .string => writeCell size (.slot none) st
  | .na | .naByte | .sort => some st

def produceFields (fmt : List FieldFormat) (size y : Nat) (st : Nat × (Nat → Option DataCell)) :
    Option (Nat × (Nat → Option DataCell)) :=
  (List.range dbc.fieldCount).foldlM (fun st x => fmt[x]?.bind fun c => dbc.produceField size y c x st) st

def indexRecords (i : Option Nat) : Option Nat :=
  match i with
  | none => some dbc.recordCount
  | some i =>
    ((List.range dbc.recordCount).foldlM (fun maxi y => (dbc.getUInt y i).map (max maxi)) 0).map
      fun maxi => (maxi + 1) % 2 ^ 32

def produceRecord (fmt : List FieldFormat) (i : Option Nat) (records size y : Nat)
    (st : (Nat → Option Nat) × Nat × (Nat → Option DataCell)) :
    Option ((Nat → Option Nat) × Nat × (Nat → Option DataCell)) := do
  let entry ← i.elim (some y) (dbc.getUInt y)
  if records ≤ entry then none else
  let table ← dbc.produceFields fmt size y st.2
  some (update st.1 entry (some st.2.1), table)

def autoProduceData (fmt : List FieldFormat) :
    Option (Nat × (Nat → Option Nat) × Nat × (Nat → Option DataCell)) :=
  if fmt.length ≠ dbc.fieldCount then none
  else do
    let (recordsize, i) := getFormatRecordSize fmt
    let records ← dbc.indexRecords i
    let size := dbc.recordCount * recordsize % 2 ^ 32
    let (indexTable, _, dataTable) ←
      (List.range dbc.recordCount).foldlM (fun st y => dbc.produceRecord fmt i records size y st)
        (fun _ => none, 0, fun _ => none)
    some (records, indexTable, size, dataTable)

/-- A field of a record; `stringFieldNum` is the number of string fields before it. -/
def holdField (size stringFields y : Nat) (c : FieldFormat) (st : Nat × Nat × (Nat → Option DataCell)) :
    Option (Nat × Nat × (Nat → Option DataCell)) :=
  match c with
  | .float | .ind | .int => some (st.1, (st.2.1 + 4) % 2 ^ 32, st.2.2)
  | .byte => some (st.1, (st.2.1 + 1) % 2 ^ 32, st.2.2)
  | .string =>
    (writeCell size (.slot (some (stringFields * maxLocale * y + maxLocale * st.1))) st.2).map (st.1 + 1, ·)
  | .na | .naByte | .sort => some st

def holdFields (fmt : List FieldFormat) (size y : Nat) (st : Nat × (Nat → Option DataCell)) :
    Option (Nat × (Nat → Option DataCell)) :=
  ((List.range dbc.fieldCount).foldlM
    (fun st x => fmt[x]?.bind fun c => holdField size (getFormatStringsFields fmt) y c st) (0, st)).map (·.2)

/-- The table with the holders in the string fields; all holders are `nullStr` in each language. -/
def autoProduceStringsArrayHolders (fmt : List FieldFormat) (size : Nat) (dataTable : Nat → Option DataCell) :
    Option ((Nat → Option DataCell) × (Nat → Option Nat)) :=
  if fmt.length ≠ dbc.fieldCount then none
  else
    ((List.range dbc.recordCount).foldlM
      (fun st y => dbc.holdFields fmt size y st) (0, dataTable)).map fun st => (st.2, fun _ => none)

def holdersPoolSize (fmt : List FieldFormat) : Nat := getFormatStringsFields fmt * maxLocale * dbc.recordCount

def fillSlot (poolSize loc y x : Nat) (cell : Option DataCell) (holders : Nat → Option Nat) :
    Option (Nat → Option Nat) :=
  match cell with
  | some (.slot (some holder)) =>
    if poolSize ≤ holder + loc then none
    else if holders (holder + loc) = none then
      (dbc.getString y x).map fun st => update holders (holder + loc) (some st)
    else some holders
  | _ => none

def fillField (dataTable : Nat → Option DataCell) (poolSize loc y : Nat) (c : FieldFormat) (x : Nat)
    (st : Nat × (Nat → Option Nat)) : Option (Nat × (Nat → Option Nat)) :=
  match c with
  | .float | .ind | .int => some ((st.1 + 4) % 2 ^ 32, st.2)
  | .byte => some ((st.1 + 1) % 2 ^ 32, st.2)
  | .string => (dbc.fillSlot poolSize loc y x (dataTable st.1) st.2).map ((st.1 + 8) % 2 ^ 32, ·)
  | .na | .naByte | .sort => some st

def fillFields (fmt : List FieldFormat) (dataTable : Nat → Option DataCell) (poolSize loc y : Nat)
    (st : Nat × (Nat → Option Nat)) : Option (Nat × (Nat → Option Nat)) :=
  (List.range dbc.fieldCount).foldlM
    (fun st x => fmt[x]?.bind fun c => dbc.fillField dataTable poolSize loc y c x st) st

def autoProduceStrings (fmt : List FieldFormat) (loc : Nat) (dataTable : Nat → Option DataCell)
    (holders : Nat → Option Nat) : Option ((Nat → Option Nat) × List UInt8) :=
  if fmt.length ≠ dbc.fieldCount then none
  else if dbc.data.length < dbc.stringTable + dbc.stringSize then none
  else
    ((List.range dbc.recordCount).foldlM (fun st y =>
      dbc.fillFields fmt dataTable (dbc.holdersPoolSize fmt) loc y st)
      (0, holders)).map fun st => (st.2, (dbc.data.drop dbc.stringTable).take dbc.stringSize)

/-- The calls of `DBCStorage::Load`. -/
def produce (fmt : List FieldFormat) (loc : Nat) : Option DBCTables := do
  let (records, indexTable, dataSize, dataTable) ← dbc.autoProduceData fmt
  let (dataTable, holders) ← dbc.autoProduceStringsArrayHolders fmt dataSize dataTable
  let (holders, stringPool) ← dbc.autoProduceStrings fmt loc dataTable holders
  some ⟨records, indexTable, dataSize, dataTable, holders, stringPool⟩

def diskSize (c : FieldFormat) : Nat := if c = .byte ∨ c = .naByte then 1 else 4

def memSize : FieldFormat → Nat
  | .float | .int | .ind => 4
  | .string => 8
  | .byte => 1
  | .na | .naByte | .sort => 0

section File

variable (fmt : List FieldFormat) (body : List UInt8)

def fieldValue (y width x : Nat) : Nat :=
  ofBytes ((body.drop (y * dbc.recordSize + extent diskSize (fmt.take x))).take width)

def indexOf (y : Nat) : Nat := (indexPos fmt).elim y (dbc.fieldValue fmt body y 4)

def cellsOf (word byte : Nat) (slot : Option Nat) : FieldFormat → List DataCell
  | .float | .int | .ind => [.word word]
  | .string => [.slot slot]
  | .byte => [.byte byte]
  | .na | .naByte | .sort => []

def fieldCells (slot : Nat → Nat → Option Nat) (y x : Nat) : List DataCell :=
  fmt[x]?.elim [] (cellsOf (dbc.fieldValue fmt body y 4 x) (dbc.fieldValue fmt body y 1 x) (slot y x))

def holderOf (y x : Nat) : Option Nat :=
  some (getFormatStringsFields fmt * maxLocale * y + maxLocale * (fmt.take x).count .string)

abbrev noHolder (_ _ : Nat) : Option Nat := none

def tableOf (cells : List DataCell) : Nat → Option DataCell := putCells DataCell.size cells 0 fun _ => none

def fieldStrings (y x : Nat) : List Nat :=
  if fmt[x]? = some .string then [dbc.fieldValue fmt body y 4 x] else []

def holdersOf (loc : Nat) (strings : List Nat) (k : Nat) : Option Nat :=
  if k % maxLocale = loc then strings[k / maxLocale]? else none

def largestIndex (count : Nat) : Nat := ((List.range count).map (dbc.indexOf fmt body)).foldl max 0

def lastRecord (count index : Nat) : Option Nat :=
  ((List.range count).reverse.find? (dbc.indexOf fmt body · = index)).map (· * extent memSize fmt)

/-- The tables that hold what the records and strings of the file are. -/
def tables (loc : Nat) (stringPool : List UInt8) : DBCTables where
  records := (indexPos fmt).elim dbc.recordCount fun _ => dbc.largestIndex fmt body dbc.recordCount + 1
  indexTable := dbc.lastRecord fmt body dbc.recordCount
  dataSize := dbc.recordCount * extent memSize fmt
  dataTable := tableOf (gridBefore (dbc.fieldCells fmt body (holderOf fmt)) fmt.length dbc.recordCount 0)
  holders := holdersOf loc (gridBefore (dbc.fieldStrings fmt body) fmt.length dbc.recordCount 0)
  stringPool := stringPool

/-- The file is as its header says, and the header fits the format. -/
structure Matches : Prop where
  fieldCount : dbc.fieldCount = fmt.length
  recordSize : dbc.recordSize = extent diskSize fmt
  complete : dbc.recordSize * dbc.recordCount + dbc.stringSize ≤ body.length
  index : ∀ y < dbc.recordCount, ∀ i, indexPos fmt = some i → dbc.fieldValue fmt body y 4 i < 2 ^ 32 - 1
  strings : ∀ y < dbc.recordCount, ∀ x, fmt[x]? = some .string → dbc.fieldValue fmt body y 4 x < dbc.stringSize

/-- The records in memory take less than 4 GiB, and so do those on the disk with the strings, or the shorter block
that is allocated still has the fields that are read and the strings. -/
structure Fits : Prop where
  memory : dbc.recordCount * extent memSize fmt < 2 ^ 32
  fields : ∀ y < dbc.recordCount, ∀ x c, fmt[x]? = some c → 0 < memSize c ∨ indexPos fmt = some x →
    y * dbc.recordSize + extent diskSize (fmt.take x) + diskSize c ≤
      (dbc.recordSize * dbc.recordCount + dbc.stringSize) % 2 ^ 32
  strings : dbc.recordSize * dbc.recordCount % 2 ^ 32 + dbc.stringSize ≤
    (dbc.recordSize * dbc.recordCount + dbc.stringSize) % 2 ^ 32
  pool : (body.drop (dbc.recordSize * dbc.recordCount % 2 ^ 32)).take dbc.stringSize =
    (body.drop (dbc.recordSize * dbc.recordCount)).take dbc.stringSize

/-- What a loaded file has given to the loader. -/
structure Loaded : Prop where
  fieldCount : dbc.fieldCount = fmt.length
  offset : ∀ x < fmt.length, dbc.fieldsOffset.getD x 0 = extent diskSize (fmt.take x)
  data : dbc.data = body.take dbc.data.length

def Inside (y x width : Nat) : Prop :=
  y * dbc.recordSize + extent diskSize (fmt.take x) + width ≤ dbc.data.length

end File

section Proofs

variable {dbc : DBCFileLoader} {fmt : List FieldFormat} {body : List UInt8}

theorem extent_take {α : Type} {l : List α} {size : α → Nat} {x : Nat} {a : α} (hx : l[x]? = some a) :
    extent size (l.take (x + 1)) = extent size (l.take x) + size a := by
  simp [List.take_add_one, hx, extent]

theorem getBytes_eq (h : dbc.Loaded fmt body) {x : Nat} (hx : x < fmt.length) (y width : Nat)
    [Decidable (dbc.Inside fmt y x width)] :
    dbc.getBytes y x width = if dbc.Inside fmt y x width then some (dbc.fieldValue fmt body y width x) else none := by
  have hbytes : dbc.Inside fmt y x width →
      (dbc.data.drop (y * dbc.recordSize + extent diskSize (fmt.take x))).take width =
        (body.drop (y * dbc.recordSize + extent diskSize (fmt.take x))).take width := by
    intro hin
    rw [Inside] at hin
    rw [h.data, List.drop_take, List.take_take, min_eq_left (by omega)]
  rw [getBytes, h.offset x hx, h.fieldCount]
  by_cases hin : dbc.Inside fmt y x width
  · rw [if_pos hin, if_pos ⟨hx, hin⟩, hbytes hin]
    rfl
  · rw [if_neg hin, if_neg fun hand => hin hand.2]

theorem extent_cellsOf (word byte : Nat) (slot : Option Nat) (c : FieldFormat) :
    extent DataCell.size (cellsOf word byte slot c) = memSize c := by
  cases c <;> rfl

theorem extent_fieldCells {x : Nat} {c : FieldFormat} (hc : fmt[x]? = some c) (slot : Nat → Nat → Option Nat)
    (y : Nat) : extent DataCell.size (dbc.fieldCells fmt body slot y x) = memSize c := by
  rw [fieldCells, hc, Option.elim_some, extent_cellsOf]

theorem extent_row (slot : Nat → Nat → Option Nat) (y x : Nat) :
    extent DataCell.size ((List.range x).flatMap (dbc.fieldCells fmt body slot y)) = extent memSize (fmt.take x) := by
  induction x with
  | zero => simp [extent]
  | succ x ih =>
    rw [List.range_succ, List.flatMap_append, extent_append, ih, List.flatMap_singleton, fieldCells,
      List.take_add_one, extent_append]
    cases fmt[x]? with
    | none => rfl
    | some c => simp [extent_cellsOf, extent]

/-- Where the cells of a field begin. -/
theorem extent_gridBefore (slot : Nat → Nat → Option Nat) (y x : Nat) :
    extent DataCell.size (gridBefore (dbc.fieldCells fmt body slot) fmt.length y x) =
      y * extent memSize fmt + extent memSize (fmt.take x) := by
  rw [gridBefore, extent_append, extent_row]
  congr 1
  induction y with
  | zero => simp [extent]
  | succ y ih =>
    rw [List.range_succ, List.flatMap_append, extent_append, ih, List.flatMap_singleton, row, extent_row,
      List.take_length, Nat.succ_mul]

theorem countFields_eq (fmt : List FieldFormat) (n : Nat) :
    let st := (List.range n).foldl (fun st x => fmt[x]?.elim st (countField x st)) (0, none)
    st.1 = extent memSize (fmt.take n) % 2 ^ 32 ∧ ∀ i, st.2 = some i → fmt[i]? = some .sort ∨ fmt[i]? = some .ind := by
  induction n with
  | zero => simp [extent]
  | succ n ih =>
    obtain ⟨hsize, hindex⟩ := ih
    simp only [List.range_succ, List.foldl_append, List.foldl_cons, List.foldl_nil, List.take_add_one, extent_append]
    cases hc : fmt[n]? with
    | none => exact ⟨hsize, hindex⟩
    | some c =>
      simp only [Option.elim_some, Option.toList_some, extent]
      cases c with
      | sort => exact ⟨hsize, fun i hi => .inl (Option.some.inj hi ▸ hc)⟩
      | ind =>
        refine ⟨?_, fun i hi => .inr (Option.some.inj hi ▸ hc)⟩
        rw [countField, hsize, memSize, Nat.mod_add_mod]
      | float | int | string | byte | na | naByte =>
        refine ⟨?_, hindex⟩
        simp [countField, hsize, memSize]

theorem getFormatRecordSize_fst (fmt : List FieldFormat) :
    (getFormatRecordSize fmt).1 = extent memSize fmt % 2 ^ 32 := by
  have h := (countFields_eq fmt fmt.length).1
  rwa [List.take_length] at h

theorem indexPos_field {i : Nat} (h : indexPos fmt = some i) : ∃ c, fmt[i]? = some c ∧ diskSize c = 4 := by
  rcases (countFields_eq fmt fmt.length).2 i h with hc | hc
  · exact ⟨_, hc, rfl⟩
  · exact ⟨_, hc, rfl⟩

theorem writeCell_eq {size : Nat} (hsize : size < 2 ^ 32) {cells : List DataCell} {cell : DataCell}
    (hroom : extent DataCell.size cells + cell.size ≤ size) :
    writeCell size cell (extent DataCell.size cells, tableOf cells) =
      some (extent DataCell.size cells + cell.size, tableOf (cells ++ [cell])) := by
  rw [writeCell, if_pos hroom, Nat.mod_eq_of_lt (by omega), tableOf, tableOf, putCells_append, Nat.zero_add]
  rfl

theorem produceField_iff (h : dbc.Loaded fmt body) {x : Nat} {c : FieldFormat} (hc : fmt[x]? = some c) {size y : Nat}
    (hsize : size < 2 ^ 32) {cells : List DataCell} (hroom : extent DataCell.size cells + memSize c ≤ size)
    (st : Nat × (Nat → Option DataCell)) :
    dbc.produceField size y c x (extent DataCell.size cells, tableOf cells) = some st ↔
      (c ≠ .string → 0 < memSize c → dbc.Inside fmt y x (diskSize c)) ∧
      st = (extent DataCell.size cells + memSize c, tableOf (cells ++ dbc.fieldCells fmt body noHolder y x)) := by
  classical
  have hx : x < fmt.length := (List.getElem?_eq_some_iff.mp hc).1
  have hcells : dbc.fieldCells fmt body noHolder y x =
      cellsOf (dbc.fieldValue fmt body y 4 x) (dbc.fieldValue fmt body y 1 x) none c := by
    rw [fieldCells, hc, Option.elim_some]
  have hread (width : Nat) (make : Nat → DataCell) (hcell : ∀ value, (make value).size = memSize c) :
      ((dbc.getBytes y x width).bind fun value => writeCell size (make value)
        (extent DataCell.size cells, tableOf cells)) = some st ↔
      dbc.Inside fmt y x width ∧ st = (extent DataCell.size cells + memSize c, tableOf (cells ++ [make (dbc.fieldValue fmt body y width x)])) := by
    rw [getBytes_eq h hx]
    by_cases hin : dbc.Inside fmt y x width
    · rw [if_pos hin, Option.bind_some, writeCell_eq hsize (by rw [hcell]; exact hroom), hcell]
      simp [hin, eq_comm]
    · rw [if_neg hin]
      simp [hin]
  rw [hcells]
  cases c with
  | float | int | ind => simpa [produceField, getUInt, memSize, cellsOf, diskSize] using hread 4 .word fun _ => rfl
  | byte => simpa [produceField, getUInt8, memSize, cellsOf, diskSize] using hread 1 .byte fun _ => rfl
  | string =>
    have hwrite := @writeCell_eq size hsize cells (.slot none) hroom
    rw [produceField, hwrite]
    simp [cellsOf, memSize, DataCell.size, eq_comm]
  | na | naByte | sort => simp [produceField, memSize, cellsOf, eq_comm]

theorem extent_take_le {α : Type} (size : α → Nat) (l : List α) (x : Nat) : extent size (l.take x) ≤ extent size l := by
  conv_rhs => rw [← List.take_append_drop x l, extent_append]
  exact Nat.le_add_right _ _

variable (dbc fmt body) in
def written (slot : Nat → Nat → Option Nat) (y x : Nat) : Nat × (Nat → Option DataCell) :=
  let cells := gridBefore (dbc.fieldCells fmt body slot) fmt.length y x
  (extent DataCell.size cells, tableOf cells)

/-- The fields of a record fit. -/
theorem written_le {size y : Nat} (hroom : (y + 1) * extent memSize fmt ≤ size) {x : Nat} {c : FieldFormat}
    (hc : fmt[x]? = some c) (slot : Nat → Nat → Option Nat) : (dbc.written fmt body slot y x).1 + memSize c ≤ size := by
  have htake := extent_take_le memSize fmt (x + 1)
  rw [extent_take hc] at htake
  rw [Nat.succ_mul] at hroom
  rw [written, extent_gridBefore]
  omega

variable (dbc fmt) in
def RecordInside (y : Nat) : Prop :=
  (∀ i, indexPos fmt = some i → dbc.Inside fmt y i 4) ∧
    ∀ x < fmt.length, ∀ c, fmt[x]? = some c → c ≠ .string → 0 < memSize c → dbc.Inside fmt y x (diskSize c)

theorem produceFields_iff (h : dbc.Loaded fmt body) {size y : Nat} (hsize : size < 2 ^ 32)
    (hroom : (y + 1) * extent memSize fmt ≤ size) (st : Nat × (Nat → Option DataCell)) :
    dbc.produceFields fmt size y (dbc.written fmt body noHolder y 0) = some st ↔
      (∀ x < fmt.length, ∀ c, fmt[x]? = some c → c ≠ .string → 0 < memSize c → dbc.Inside fmt y x (diskSize c)) ∧
      st = dbc.written fmt body noHolder (y + 1) 0 := by
  have hend : dbc.written fmt body noHolder (y + 1) 0 = dbc.written fmt body noHolder y fmt.length := by
    rw [written, ← gridBefore_width, written]
  rw [produceFields, h.fieldCount, hend]
  apply foldlM_range_iff
  intro x hx st
  have hc := List.getElem?_eq_getElem hx
  have hnext : dbc.written fmt body noHolder y (x + 1) =
      ((dbc.written fmt body noHolder y x).1 + memSize fmt[x], tableOf (gridBefore (dbc.fieldCells fmt body noHolder) fmt.length y x ++
          dbc.fieldCells fmt body noHolder y x)) := by
    simp only [written, gridBefore_succ, extent_append, extent_fieldCells hc]
  rw [hc, Option.bind_some, hnext]
  simpa [written] using produceField_iff h hc hsize (written_le hroom hc _) st

theorem entry_iff (h : dbc.Loaded fmt body) (y entry : Nat) :
    (indexPos fmt).elim (some y) (dbc.getUInt y) = some entry ↔
      (∀ i, indexPos fmt = some i → dbc.Inside fmt y i 4) ∧ entry = dbc.indexOf fmt body y := by
  classical
  rw [indexOf]
  cases hi : indexPos fmt with
  | none => simp [eq_comm]
  | some i =>
    obtain ⟨c, hc, -⟩ := indexPos_field hi
    rw [Option.elim_some, Option.elim_some, getUInt, getBytes_eq h (List.getElem?_eq_some_iff.mp hc).1]
    by_cases hin : dbc.Inside fmt y i 4
    · simp [hin, eq_comm]
    · simp [hin]

theorem lastRecord_succ (y : Nat) :
    dbc.lastRecord fmt body (y + 1) = update (dbc.lastRecord fmt body y) (dbc.indexOf fmt body y)
      (some (y * extent memSize fmt)) := by
  funext index
  rw [lastRecord, List.range_succ, List.reverse_append, List.reverse_singleton, List.singleton_append, List.find?_cons]
  by_cases heq : dbc.indexOf fmt body y = index
  · rw [decide_eq_true heq, ← heq, update_self, Option.map_some]
  · rw [decide_eq_false heq, update_of_ne (Ne.symm heq), lastRecord]

theorem produceRecord_iff (h : dbc.Loaded fmt body) {size y records : Nat} (hsize : size < 2 ^ 32)
    (hroom : (y + 1) * extent memSize fmt ≤ size) (hrecords : dbc.indexOf fmt body y < records)
    (st : (Nat → Option Nat) × Nat × (Nat → Option DataCell)) : dbc.produceRecord fmt (indexPos fmt) records size y
        (dbc.lastRecord fmt body y, dbc.written fmt body noHolder y 0) = some st ↔ dbc.RecordInside fmt y ∧
        st = (dbc.lastRecord fmt body (y + 1), dbc.written fmt body noHolder (y + 1) 0) := by
  have hoffset : (dbc.written fmt body noHolder y 0).1 = y * extent memSize fmt := by
    rw [written, extent_gridBefore, List.take_zero, extent, Nat.add_zero]
  rw [produceRecord, Option.bind_eq_bind, Option.bind_eq_some_iff, RecordInside, lastRecord_succ]
  simp only [entry_iff h, Option.bind_eq_bind]
  constructor
  · rintro ⟨_, ⟨hindex, rfl⟩, hturn⟩
    rw [if_neg (by omega), Option.bind_eq_some_iff] at hturn
    obtain ⟨table, htable, hst⟩ := hturn
    obtain ⟨hfields, rfl⟩ := (produceFields_iff h hsize hroom table).mp htable
    rw [hoffset] at hst
    exact ⟨⟨hindex, hfields⟩, (Option.some.inj hst).symm⟩
  · rintro ⟨⟨hindex, hfields⟩, rfl⟩
    refine ⟨_, ⟨hindex, rfl⟩, ?_⟩
    rw [if_neg (by omega), (produceFields_iff h hsize hroom _).mpr ⟨hfields, rfl⟩, hoffset]
    rfl

theorem largestIndex_succ (n : Nat) :
    dbc.largestIndex fmt body (n + 1) = max (dbc.largestIndex fmt body n) (dbc.indexOf fmt body n) := by
  simp [largestIndex, List.range_succ]

theorem le_largestIndex {y n : Nat} (h : y < n) : dbc.indexOf fmt body y ≤ dbc.largestIndex fmt body n := by
  induction n with
  | zero => omega
  | succ n ih =>
    rw [largestIndex_succ]
    rcases Nat.lt_succ_iff_lt_or_eq.mp h with hlt | rfl
    · exact (ih hlt).trans (le_max_left _ _)
    · exact le_max_right _ _

theorem largestIndex_lt {bound n : Nat} (hbound : 0 < bound) (h : ∀ y < n, dbc.indexOf fmt body y < bound) :
    dbc.largestIndex fmt body n < bound := by
  induction n with
  | zero => exact hbound
  | succ n ih =>
    rw [largestIndex_succ]
    exact max_lt (ih fun y hy => h y (by omega)) (h n (by omega))

theorem indexRecords_iff (h : dbc.Loaded fmt body) (hm : dbc.Matches fmt body) (records : Nat) :
    dbc.indexRecords (indexPos fmt) = some records ↔
      (∀ y < dbc.recordCount, ∀ i, indexPos fmt = some i → dbc.Inside fmt y i 4) ∧
      records = (dbc.tables fmt body 0 []).records := by
  rw [tables]
  cases hi : indexPos fmt with
  | none => simp [indexRecords, eq_comm]
  | some i =>
    have hturn : ∀ y < dbc.recordCount, ∀ s, (dbc.getUInt y i).map (max (dbc.largestIndex fmt body y)) = some s ↔
        dbc.Inside fmt y i 4 ∧ s = dbc.largestIndex fmt body (y + 1) := by
      intro y _ s
      have hentry := entry_iff h y
      rw [hi] at hentry
      simp only [Option.elim_some, Option.some.injEq, forall_eq'] at hentry
      rw [Option.map_eq_some_iff, largestIndex_succ]
      simp only [hentry]
      constructor
      · rintro ⟨_, ⟨hin, rfl⟩, rfl⟩
        exact ⟨hin, rfl⟩
      · rintro ⟨hin, rfl⟩
        exact ⟨_, ⟨hin, rfl⟩, rfl⟩
    have hmax : dbc.largestIndex fmt body dbc.recordCount < 2 ^ 32 - 1 := by
      apply largestIndex_lt (by decide)
      intro y hy
      rw [indexOf, hi]
      exact hm.index y hy i hi
    have hloop := @foldlM_range_iff _ (fun maxi y => (dbc.getUInt y i).map (max maxi)) (dbc.Inside fmt · i 4)
      (dbc.largestIndex fmt body) dbc.recordCount hturn
    rw [indexRecords, Option.map_eq_some_iff]
    constructor
    · rintro ⟨maxi, hmaxi, rfl⟩
      obtain ⟨hin, rfl⟩ := (hloop maxi).mp hmaxi
      refine ⟨fun y hy j hj => Option.some.inj hj ▸ hin y hy, ?_⟩
      rw [Nat.mod_eq_of_lt (by omega), Option.elim_some]
    · rintro ⟨hin, rfl⟩
      refine ⟨_, (hloop _).mpr ⟨fun y hy => hin y hy i rfl, rfl⟩, ?_⟩
      rw [Nat.mod_eq_of_lt (by omega), Option.elim_some]

theorem indexOf_lt {y : Nat} (hy : y < dbc.recordCount) :
    dbc.indexOf fmt body y < (dbc.tables fmt body 0 []).records := by
  rw [tables]
  cases hi : indexPos fmt with
  | none =>
    rw [indexOf, hi]
    exact hy
  | some i => exact Nat.lt_succ_of_le (le_largestIndex hy)

/-- The first pass, when the table is as large as it is to be. -/
theorem autoProduceData_iff (h : dbc.Loaded fmt body) (hm : dbc.Matches fmt body)
    (hmemory : dbc.recordCount * extent memSize fmt < 2 ^ 32)
    (result : Nat × (Nat → Option Nat) × Nat × (Nat → Option DataCell)) :
    dbc.autoProduceData fmt = some result ↔ (∀ y < dbc.recordCount, dbc.RecordInside fmt y) ∧
      result = ((dbc.tables fmt body 0 []).records, dbc.lastRecord fmt body dbc.recordCount,
        dbc.recordCount * extent memSize fmt, (dbc.written fmt body noHolder dbc.recordCount 0).2) := by
  have hsize : dbc.recordCount * (getFormatRecordSize fmt).1 % 2 ^ 32 = dbc.recordCount * extent memSize fmt := by
    rw [getFormatRecordSize_fst, Nat.mul_mod_mod, Nat.mod_eq_of_lt hmemory]
  have hloop := @foldlM_range_iff _
    (fun st y => dbc.produceRecord fmt (indexPos fmt) (dbc.tables fmt body 0 []).records
      (dbc.recordCount * extent memSize fmt) y st) (dbc.RecordInside fmt)
    (fun y => (dbc.lastRecord fmt body y, dbc.written fmt body noHolder y 0)) dbc.recordCount
    fun y hy st => produceRecord_iff h hmemory (Nat.mul_le_mul_right _ hy) (indexOf_lt hy) st
  have hstart : (dbc.lastRecord fmt body 0, dbc.written fmt body noHolder 0 0) =
      (fun _ => none, 0, fun _ => none) := rfl
  rw [hstart] at hloop
  rw [autoProduceData, if_neg (not_not.mpr h.fieldCount.symm)]
  dsimp only
  rw [hsize, Option.bind_eq_bind, Option.bind_eq_some_iff]
  constructor
  · rintro ⟨records, hrecords, hrest⟩
    obtain ⟨-, rfl⟩ := (indexRecords_iff h hm records).mp hrecords
    obtain ⟨last, hlast, hresult⟩ := Option.bind_eq_some_iff.mp hrest
    obtain ⟨hin, rfl⟩ := (hloop last).mp hlast
    exact ⟨hin, (Option.some.inj hresult).symm⟩
  · rintro ⟨hin, rfl⟩
    refine ⟨_, (indexRecords_iff h hm _).mpr ⟨fun y hy => (hin y hy).1, rfl⟩, ?_⟩
    exact Option.bind_eq_some_iff.mpr ⟨_, (hloop _).mpr ⟨hin, rfl⟩, rfl⟩

variable (dbc fmt body) in
def holding (y x : Nat) : Nat × (Nat → Option DataCell) :=
  let cells := gridBefore (dbc.fieldCells fmt body (holderOf fmt)) fmt.length y x
  (extent DataCell.size cells, tableOf (cells ++ gridFrom (dbc.fieldCells fmt body noHolder) dbc.recordCount fmt.length y x))

variable (dbc fmt body) in
def holdingRows (y : Nat) : Nat × (Nat → Option DataCell) :=
  let cells := gridBefore (dbc.fieldCells fmt body (holderOf fmt)) fmt.length y 0
  (extent DataCell.size cells, tableOf (cells ++ rowsFrom (dbc.fieldCells fmt body noHolder) dbc.recordCount fmt.length y))

theorem DataCell.size_pos (cell : DataCell) : 0 < cell.size := by
  cases cell <;> exact Nat.zero_lt_succ _

theorem holdField_eq {size : Nat} (hsize : size < 2 ^ 32) {cells : List DataCell} {c : FieldFormat}
    (hroom : extent DataCell.size cells + memSize c ≤ size) (stringFields y num word byte : Nat)
    (rest : List DataCell) : holdField size stringFields y c (num, extent DataCell.size cells,
        tableOf (cells ++ (cellsOf word byte none c ++ rest))) =
      some (num + [c].count .string, extent DataCell.size cells + memSize c, tableOf (cells ++ (cellsOf word byte
          (some (stringFields * maxLocale * y + maxLocale * num)) c ++ rest))) := by
  have hmod : (extent DataCell.size cells + memSize c) % 2 ^ 32 = extent DataCell.size cells + memSize c :=
    Nat.mod_eq_of_lt (by omega)
  cases c with
  | string =>
    have hput := @update_putCells _ _ DataCell.size_pos cells (.slot none)
      (.slot (some (stringFields * maxLocale * y + maxLocale * num))) rfl rest 0 fun _ => none
    rw [Nat.zero_add] at hput
    have hwrite : writeCell size (.slot (some (stringFields * maxLocale * y + maxLocale * num)))
        (extent DataCell.size cells, tableOf (cells ++ .slot none :: rest)) =
        some ((extent DataCell.size cells + 8) % 2 ^ 32, tableOf (cells ++ .slot (some (stringFields * maxLocale * y + maxLocale * num)) :: rest)) := by
      rw [tableOf, tableOf, ← hput]
      exact if_pos hroom
    rw [← hmod]
    exact congrArg (Option.map (num + 1, ·)) hwrite
  | float | int | ind | byte =>
    rw [← hmod]
    rfl
  | na | naByte | sort => rfl

theorem holdFields_eq (h : dbc.Loaded fmt body) {size y : Nat} (hsize : size < 2 ^ 32) (hy : y < dbc.recordCount)
    (hroom : (y + 1) * extent memSize fmt ≤ size) :
    dbc.holdFields fmt size y (dbc.holdingRows fmt body y) = some (dbc.holdingRows fmt body (y + 1)) := by
  have hstart : dbc.holdingRows fmt body y = dbc.holding fmt body y 0 := by
    rw [holdingRows, holding, gridFrom_zero hy]
  have hend : dbc.holdingRows fmt body (y + 1) = dbc.holding fmt body y fmt.length := by
    rw [holdingRows, holding, gridFrom_width, ← gridBefore_width]
  have hloop := @foldlM_range_iff _
    (fun st x => fmt[x]?.bind fun c => holdField size (getFormatStringsFields fmt) y c st) (fun _ => True)
    (fun x => ((fmt.take x).count .string, dbc.holding fmt body y x)) fmt.length
    (by
      intro x hx st
      have hc := List.getElem?_eq_getElem hx
      have hstep := holdField_eq hsize (@written_le dbc fmt body _ _ hroom _ _ hc (holderOf fmt))
        (getFormatStringsFields fmt) y
        ((fmt.take x).count .string) (dbc.fieldValue fmt body y 4 x) (dbc.fieldValue fmt body y 1 x)
        (gridFrom (dbc.fieldCells fmt body noHolder) dbc.recordCount fmt.length y (x + 1))
      simp only [holding, gridBefore_succ, gridFrom_succ hx, extent_append, extent_fieldCells hc, List.append_assoc,
        List.take_add_one, List.count_append, hc, Option.toList_some]
      simp only [fieldCells, hc, Option.elim_some] at hstep ⊢
      rw [Option.bind_some, hstep]
      simp [holderOf, eq_comm])
  rw [holdFields, h.fieldCount, hstart, hend]
  exact Option.map_eq_some_iff.mpr ⟨_, (hloop _).mpr ⟨fun _ _ => trivial, rfl⟩, rfl⟩

/-- The second pass puts a holder into each string field. -/
theorem autoProduceStringsArrayHolders_eq (h : dbc.Loaded fmt body)
    (hmemory : dbc.recordCount * extent memSize fmt < 2 ^ 32) :
    dbc.autoProduceStringsArrayHolders fmt (dbc.recordCount * extent memSize fmt)
        (dbc.written fmt body noHolder dbc.recordCount 0).2 =
      some ((dbc.tables fmt body 0 []).dataTable, fun _ => none) := by
  have hloop := @foldlM_range_iff _
    (fun st y => dbc.holdFields fmt (dbc.recordCount * extent memSize fmt) y st) (fun _ => True)
    (dbc.holdingRows fmt body) dbc.recordCount
    (by
      intro y hy st
      rw [holdFields_eq h hmemory hy (Nat.mul_le_mul_right _ hy)]
      simp [eq_comm])
  have hstart : dbc.holdingRows fmt body 0 = (0, (dbc.written fmt body noHolder dbc.recordCount 0).2) := by
    simp [holdingRows, written, rowsFrom, gridBefore, List.range_eq_range', extent]
  have hend : (dbc.holdingRows fmt body dbc.recordCount).2 = (dbc.tables fmt body 0 []).dataTable := by
    simp [holdingRows, tables, rowsFrom]
  rw [autoProduceStringsArrayHolders, if_neg (not_not.mpr h.fieldCount.symm), ← hend, ← hstart]
  exact Option.map_eq_some_iff.mpr ⟨_, (hloop _).mpr ⟨fun _ _ => trivial, rfl⟩, rfl⟩

theorem length_gridBefore_fieldStrings (y x : Nat) : (gridBefore (dbc.fieldStrings fmt body) fmt.length y x).length =
      y * getFormatStringsFields fmt + (fmt.take x).count .string := by
  have hrow (y x : Nat) : ((List.range x).flatMap (dbc.fieldStrings fmt body y)).length =
      (fmt.take x).count .string := by
    induction x with
    | zero => rfl
    | succ x ih =>
      rw [List.range_succ, List.flatMap_append, List.length_append, ih, List.flatMap_singleton, List.take_add_one,
        List.count_append, fieldStrings]
      cases fmt[x]? with
      | none => rfl
      | some c => cases c <;> rfl
  rw [gridBefore, List.length_append, hrow]
  congr 1
  induction y with
  | zero => simp
  | succ y ih =>
    rw [List.range_succ, List.flatMap_append, List.length_append, ih, List.flatMap_singleton, row, hrow,
      List.take_length, Nat.succ_mul, getFormatStringsFields]

/-- One more string comes to the next holder. -/
theorem update_holdersOf {loc : Nat} (hloc : loc < maxLocale) (strings : List Nat) (st : Nat) :
    update (holdersOf loc strings) (maxLocale * strings.length + loc) (some st) = holdersOf loc (strings ++ [st]) := by
  simp only [maxLocale] at hloc
  funext k
  by_cases hk : k = maxLocale * strings.length + loc
  · rw [hk, update_self, holdersOf, if_pos (by simp only [maxLocale]; omega)]
    have hdiv : (maxLocale * strings.length + loc) / maxLocale = strings.length := by
      simp only [maxLocale]
      omega
    rw [hdiv, List.getElem?_concat_length]
  · rw [update_of_ne hk, holdersOf, holdersOf]
    by_cases hmod : k % maxLocale = loc
    · rw [if_pos hmod, if_pos hmod]
      have hne : k / maxLocale ≠ strings.length := by
        simp only [maxLocale] at hk hmod ⊢
        omega
      rcases Nat.lt_or_gt_of_ne hne with hlt | hgt
      · rw [List.getElem?_append_left hlt]
      · rw [List.getElem?_eq_none hgt.le, List.getElem?_eq_none]
        rw [List.length_append, List.length_singleton]
        omega
    · rw [if_neg hmod, if_neg hmod]

variable (dbc fmt body) in
def filling (loc y x : Nat) : Nat × (Nat → Option Nat) :=
  (extent DataCell.size (gridBefore (dbc.fieldCells fmt body (holderOf fmt)) fmt.length y x),
    holdersOf loc (gridBefore (dbc.fieldStrings fmt body) fmt.length y x))

theorem fillSlot_iff (h : dbc.Loaded fmt body) (hm : dbc.Matches fmt body) {loc : Nat} (hloc : loc < maxLocale)
    {y x : Nat} (hy : y < dbc.recordCount) (hc : fmt[x]? = some .string) (holders : Nat → Option Nat) :
    dbc.fillSlot (dbc.holdersPoolSize fmt) loc y x (some (.slot (holderOf fmt y x)))
        (dbc.filling fmt body loc y x).2 = some holders ↔
      dbc.Inside fmt y x 4 ∧ holders = (dbc.filling fmt body loc y (x + 1)).2 := by
  classical
  have hx : x < fmt.length := (List.getElem?_eq_some_iff.mp hc).1
  have hcount : (fmt.take x).count .string < getFormatStringsFields fmt := by
    have hle := (List.take_sublist (x + 1) fmt).count_le .string
    rw [List.take_add_one, hc, Option.toList_some, List.count_append, List.count_singleton_self] at hle
    exact hle
  have hlength := @length_gridBefore_fieldStrings dbc fmt body y x
  have hplace : getFormatStringsFields fmt * maxLocale * y + maxLocale * (fmt.take x).count .string =
      maxLocale * (gridBefore (dbc.fieldStrings fmt body) fmt.length y x).length := by
    rw [hlength]
    ring
  have hpool : maxLocale * (gridBefore (dbc.fieldStrings fmt body) fmt.length y x).length + loc <
      dbc.holdersPoolSize fmt := by
    have hrows : (y + 1) * getFormatStringsFields fmt ≤ dbc.recordCount * getFormatStringsFields fmt :=
      Nat.mul_le_mul_right _ hy
    have hcells : dbc.holdersPoolSize fmt = maxLocale * (dbc.recordCount * getFormatStringsFields fmt) := by
      rw [holdersPoolSize]
      ring
    rw [Nat.succ_mul] at hrows
    rw [hcells, hlength]
    simp only [maxLocale] at hloc ⊢
    omega
  have hempty : holdersOf loc (gridBefore (dbc.fieldStrings fmt body) fmt.length y x)
      (maxLocale * (gridBefore (dbc.fieldStrings fmt body) fmt.length y x).length + loc) = none := by
    have hdiv : (maxLocale * (gridBefore (dbc.fieldStrings fmt body) fmt.length y x).length + loc) / maxLocale =
        (gridBefore (dbc.fieldStrings fmt body) fmt.length y x).length := by
      simp only [maxLocale] at hloc ⊢
      omega
    rw [holdersOf, hdiv, List.getElem?_eq_none le_rfl, ite_self]
  have hstrings : dbc.fieldStrings fmt body y x = [dbc.fieldValue fmt body y 4 x] := if_pos hc
  rw [holderOf, fillSlot, hplace, filling, filling, if_neg (not_le.mpr hpool), if_pos hempty, getString, getUInt,
    getBytes_eq h hx, @gridBefore_succ _ (dbc.fieldStrings fmt body), hstrings, ← update_holdersOf hloc]
  by_cases hin : dbc.Inside fmt y x 4
  · rw [if_pos hin, Option.bind_some, if_pos (hm.strings y hy x hc)]
    simp [hin, eq_comm]
  · rw [if_neg hin]
    simp [hin]

theorem fillField_iff (h : dbc.Loaded fmt body) (hm : dbc.Matches fmt body)
    (hmemory : dbc.recordCount * extent memSize fmt < 2 ^ 32) {loc : Nat} (hloc : loc < maxLocale)
    {y x : Nat} (hy : y < dbc.recordCount) {c : FieldFormat} (hc : fmt[x]? = some c) (st : Nat × (Nat → Option Nat)) :
    dbc.fillField (dbc.tables fmt body 0 []).dataTable (dbc.holdersPoolSize fmt)
        loc y c x (dbc.filling fmt body loc y x) = some st ↔
      (c = .string → dbc.Inside fmt y x 4) ∧ st = dbc.filling fmt body loc y (x + 1) := by
  have hx : x < fmt.length := (List.getElem?_eq_some_iff.mp hc).1
  have hbound : (dbc.filling fmt body loc y x).1 + memSize c ≤ dbc.recordCount * extent memSize fmt :=
    written_le (Nat.mul_le_mul_right _ hy) hc (holderOf fmt)
  have hnext : (dbc.filling fmt body loc y (x + 1)).1 = ((dbc.filling fmt body loc y x).1 + memSize c) % 2 ^ 32 := by
    rw [Nat.mod_eq_of_lt (by omega)]
    simp only [filling, gridBefore_succ, extent_append, extent_fieldCells hc]
  have hstate : dbc.filling fmt body loc y (x + 1) =
      ((dbc.filling fmt body loc y (x + 1)).1, (dbc.filling fmt body loc y (x + 1)).2) := rfl
  by_cases hstring : c = .string
  · rw [hstring] at hc hnext ⊢
    have hcell : (dbc.tables fmt body 0 []).dataTable (dbc.filling fmt body loc y x).1 =
        some (.slot (holderOf fmt y x)) := by
      have hat := putCells_at DataCell.size_pos (gridBefore (dbc.fieldCells fmt body (holderOf fmt)) fmt.length y x)
        (.slot (holderOf fmt y x))
        (gridFrom (dbc.fieldCells fmt body (holderOf fmt)) dbc.recordCount fmt.length y (x + 1)) 0 fun _ => none
      have hone : dbc.fieldCells fmt body (holderOf fmt) y x = [.slot (holderOf fmt y x)] := by
        rw [fieldCells, hc]
        rfl
      rw [← List.singleton_append, ← hone, ← gridFrom_succ hx, gridBefore_append_gridFrom hy hx.le, Nat.zero_add] at hat
      exact hat
    rw [fillField, hcell, Option.map_eq_some_iff]
    simp only [fillSlot_iff h hm hloc hy hc]
    rw [hstate, hnext]
    simp [memSize, eq_comm]
  · have hsame : (dbc.filling fmt body loc y (x + 1)).2 = (dbc.filling fmt body loc y x).2 := by
      have hnone : dbc.fieldStrings fmt body y x = [] := by
        rw [fieldStrings, hc, if_neg fun heq => hstring (Option.some.inj heq)]
      rw [filling, @gridBefore_succ _ (dbc.fieldStrings fmt body), hnone, List.append_nil, filling]
    have hmod : (dbc.filling fmt body loc y x).1 % 2 ^ 32 = (dbc.filling fmt body loc y x).1 :=
      Nat.mod_eq_of_lt (by omega)
    rw [hstate, hnext, hsame]
    cases c with
    | string => exact absurd rfl hstring
    | float | int | ind | byte => simp [fillField, memSize, eq_comm]
    | na | naByte | sort =>
      rw [memSize, Nat.add_zero, hmod]
      simp [fillField, eq_comm]

/-- The third pass. -/
theorem autoProduceStrings_iff (h : dbc.Loaded fmt body) (hm : dbc.Matches fmt body)
    (hmemory : dbc.recordCount * extent memSize fmt < 2 ^ 32) {loc : Nat} (hloc : loc < maxLocale)
    (result : (Nat → Option Nat) × List UInt8) :
    dbc.autoProduceStrings fmt loc (dbc.tables fmt body 0 []).dataTable (fun _ => none) = some result ↔
      dbc.stringTable + dbc.stringSize ≤ dbc.data.length ∧
      (∀ y < dbc.recordCount, ∀ x < fmt.length, ∀ c, fmt[x]? = some c → c = .string → dbc.Inside fmt y x 4) ∧
      result = ((dbc.tables fmt body loc []).holders, (dbc.data.drop dbc.stringTable).take dbc.stringSize) := by
  have hfields : ∀ y < dbc.recordCount, ∀ st, dbc.fillFields fmt (dbc.tables fmt body 0 []).dataTable
      (dbc.holdersPoolSize fmt) loc y (dbc.filling fmt body loc y 0) = some st ↔
        (∀ x < fmt.length, ∀ c, fmt[x]? = some c → c = .string → dbc.Inside fmt y x 4) ∧
        st = dbc.filling fmt body loc (y + 1) 0 := by
    intro y hy st
    have hend : dbc.filling fmt body loc (y + 1) 0 = dbc.filling fmt body loc y fmt.length := by
      rw [filling, filling, gridBefore_width, gridBefore_width]
    rw [fillFields, h.fieldCount, hend]
    apply foldlM_range_iff
    intro x hx st
    have hc := List.getElem?_eq_getElem hx
    rw [hc, Option.bind_some]
    simpa using fillField_iff h hm hmemory hloc hy hc st
  have hloop := @foldlM_range_iff _
    (fun st y => dbc.fillFields fmt (dbc.tables fmt body 0 []).dataTable
      (dbc.holdersPoolSize fmt) loc y st)
    (fun y => ∀ x < fmt.length, ∀ c, fmt[x]? = some c → c = .string → dbc.Inside fmt y x 4)
    (dbc.filling fmt body loc · 0) dbc.recordCount hfields
  have hstart : dbc.filling fmt body loc 0 0 = (0, fun _ => none) := by
    have hnone : holdersOf loc [] = fun _ => none := funext fun k => ite_self none
    exact Prod.ext rfl hnone
  rw [hstart] at hloop
  rw [autoProduceStrings, if_neg (not_not.mpr h.fieldCount.symm)]
  by_cases hpool : dbc.stringTable + dbc.stringSize ≤ dbc.data.length
  · rw [if_neg (not_lt.mpr hpool), Option.map_eq_some_iff]
    constructor
    · rintro ⟨st, hst, rfl⟩
      obtain ⟨hin, rfl⟩ := (hloop st).mp hst
      exact ⟨hpool, hin, rfl⟩
    · rintro ⟨-, hin, rfl⟩
      exact ⟨_, (hloop _).mpr ⟨hin, rfl⟩, rfl⟩
  · rw [if_pos (not_le.mp hpool)]
    simp [hpool]

/-- The three passes, when the table is as large as it is to be. -/
theorem produce_iff (h : dbc.Loaded fmt body) (hm : dbc.Matches fmt body)
    (hmemory : dbc.recordCount * extent memSize fmt < 2 ^ 32) {loc : Nat} (hloc : loc < maxLocale)
    (tables : DBCTables) : dbc.produce fmt loc = some tables ↔ (∀ y < dbc.recordCount, dbc.RecordInside fmt y) ∧
      dbc.stringTable + dbc.stringSize ≤ dbc.data.length ∧
      (∀ y < dbc.recordCount, ∀ x < fmt.length, ∀ c, fmt[x]? = some c → c = .string → dbc.Inside fmt y x 4) ∧
      tables = dbc.tables fmt body loc ((dbc.data.drop dbc.stringTable).take dbc.stringSize) := by
  rw [produce, Option.bind_eq_bind, Option.bind_eq_some_iff]
  constructor
  · rintro ⟨data, hdata, hrest⟩
    obtain ⟨hrecords, rfl⟩ := (autoProduceData_iff h hm hmemory data).mp hdata
    dsimp only at hrest
    rw [autoProduceStringsArrayHolders_eq h hmemory, Option.bind_eq_bind, Option.bind_some] at hrest
    obtain ⟨strings, hstrings, htables⟩ := Option.bind_eq_some_iff.mp hrest
    obtain ⟨hpool, hin, rfl⟩ := (autoProduceStrings_iff h hm hmemory hloc strings).mp hstrings
    exact ⟨hrecords, hpool, hin, (Option.some.inj htables).symm⟩
  · rintro ⟨hrecords, hpool, hin, rfl⟩
    refine ⟨_, (autoProduceData_iff h hm hmemory _).mpr ⟨hrecords, rfl⟩, ?_⟩
    dsimp only
    rw [autoProduceStringsArrayHolders_eq h hmemory, Option.bind_eq_bind, Option.bind_some]
    exact Option.bind_eq_some_iff.mpr
      ⟨_, (autoProduceStrings_iff h hm hmemory hloc _).mpr ⟨hpool, hin, rfl⟩, rfl⟩

theorem produce_dataSize {loc : Nat} {tables : DBCTables} (h : dbc.produce fmt loc = some tables) :
    tables.dataSize < 2 ^ 32 := by
  rw [produce, Option.bind_eq_bind, Option.bind_eq_some_iff] at h
  obtain ⟨data, hdata, hrest⟩ := h
  obtain ⟨held, -, hrest⟩ := Option.bind_eq_some_iff.mp hrest
  obtain ⟨strings, -, htables⟩ := Option.bind_eq_some_iff.mp hrest
  rw [autoProduceData] at hdata
  split at hdata
  next => cases hdata
  next =>
    obtain ⟨records, -, hdata⟩ := Option.bind_eq_some_iff.mp hdata
    obtain ⟨last, -, hdata⟩ := Option.bind_eq_some_iff.mp hdata
    rw [← Option.some.inj htables, ← Option.some.inj hdata]
    exact Nat.mod_lt _ (by decide)

theorem fieldOffsets_getD {fmt : List FieldFormat} {start : Nat} (hsize : start + extent diskSize fmt < 2 ^ 32)
    {x : Nat} (hx : x < fmt.length) : (fieldOffsets fmt start).getD x 0 = start + extent diskSize (fmt.take x) := by
  induction fmt generalizing start x with
  | nil => simp at hx
  | cons c fmt ih =>
    rw [extent] at hsize
    have hnext : (start + if c = .byte ∨ c = .naByte then 1 else 4) % 2 ^ 32 = start + diskSize c :=
      Nat.mod_eq_of_lt (by rw [diskSize] at hsize; omega)
    rw [fieldOffsets, hnext]
    cases x with
    | zero => rfl
    | succ x =>
      rw [List.getD_cons_succ, ih (by omega) (Nat.lt_of_succ_lt_succ hx), List.take_succ_cons, extent, Nat.add_assoc]

theorem load_some {file : List UInt8} {fmt : List FieldFormat} {dbc : DBCFileLoader} (h : load file fmt = some dbc) :
    dbc.recordSize < 2 ^ 32 ∧ dbc.fieldsOffset = fieldOffsets (fmt.take dbc.fieldCount) 0 ∧
      dbc.data = (file.drop 20).take ((dbc.recordSize * dbc.recordCount + dbc.stringSize) % 2 ^ 32) ∧
      dbc.stringTable = dbc.recordSize * dbc.recordCount % 2 ^ 32 := by
  have hword {bytes rest : List UInt8} {n : Nat} (hread : readWord bytes = some (n, rest)) :
      n < 2 ^ 32 ∧ rest = bytes.drop 4 := by
    rw [readWord] at hread
    split at hread
    next => cases hread
    next hlong =>
      cases Option.some.inj hread
      have hlt := ofBytes_lt (bytes.take 4)
      rw [List.length_take, min_eq_left (by omega)] at hlt
      exact ⟨hlt, rfl⟩
  obtain ⟨⟨header, file₁⟩, hheader, h⟩ := Option.bind_eq_some_iff.mp h
  dsimp only at h
  split at h
  next => cases h
  obtain ⟨⟨recordCount, file₂⟩, hrecordCount, h⟩ := Option.bind_eq_some_iff.mp h
  obtain ⟨⟨fieldCount, file₃⟩, hfieldCount, h⟩ := Option.bind_eq_some_iff.mp h
  obtain ⟨⟨recordSize, file₄⟩, hrecordSize, h⟩ := Option.bind_eq_some_iff.mp h
  obtain ⟨⟨stringSize, file₅⟩, hstringSize, h⟩ := Option.bind_eq_some_iff.mp h
  have hrest : file₅ = file.drop 20 := by
    rw [(hword hstringSize).2, (hword hrecordSize).2, (hword hfieldCount).2, (hword hrecordCount).2, (hword hheader).2]
    simp
  dsimp only at h
  split at h
  next => cases h
  next =>
    rw [← Option.some.inj h, ← hrest]
    exact ⟨(hword hrecordSize).1, rfl, rfl, rfl⟩

theorem loaded_of_load {file : List UInt8} {fmt : List FieldFormat} {dbc : DBCFileLoader}
    (h : load file fmt = some dbc) (hm : dbc.Matches fmt (file.drop 20)) : dbc.Loaded fmt (file.drop 20) ∧
      dbc.data.length = (dbc.recordSize * dbc.recordCount + dbc.stringSize) % 2 ^ 32 := by
  obtain ⟨hsize, hoffsets, hdata, -⟩ := load_some h
  have hlength : dbc.data.length = (dbc.recordSize * dbc.recordCount + dbc.stringSize) % 2 ^ 32 := by
    rw [hdata, List.length_take, min_eq_left ((Nat.mod_le _ _).trans hm.complete)]
  refine ⟨⟨hm.fieldCount, fun x hx => ?_, ?_⟩, hlength⟩
  · rw [hm.recordSize] at hsize
    rw [hoffsets, hm.fieldCount, List.take_length, fieldOffsets_getD (by omega) hx, Nat.zero_add]
  · rw [hlength]
    exact hdata

/-- The tables hold what the file does exactly when the 32 bits of the sizes do not matter. -/
theorem produce_exact_iff {file : List UInt8} {fmt : List FieldFormat} {dbc : DBCFileLoader}
    (hload : load file fmt = some dbc) (hm : dbc.Matches fmt (file.drop 20)) {loc : Nat} (hloc : loc < maxLocale) :
    dbc.produce fmt loc = some (dbc.tables fmt (file.drop 20) loc
        (((file.drop 20).drop (dbc.recordSize * dbc.recordCount)).take dbc.stringSize)) ↔
      dbc.Fits fmt (file.drop 20) := by
  obtain ⟨hloaded, hlength⟩ := loaded_of_load hload hm
  obtain ⟨-, -, hdata, htable⟩ := load_some hload
  have hpool (h : dbc.stringTable + dbc.stringSize ≤ dbc.data.length) :
      (dbc.data.drop dbc.stringTable).take dbc.stringSize =
        ((file.drop 20).drop (dbc.recordSize * dbc.recordCount % 2 ^ 32)).take dbc.stringSize := by
    rw [hlength, htable] at h
    rw [hdata, htable, List.drop_take, List.take_take, min_eq_left (by omega)]
  constructor
  · intro h
    have hmemory := produce_dataSize h
    obtain ⟨hrecords, hstrings, hin, heq⟩ := (produce_iff hloaded hm hmemory hloc _).mp h
    refine ⟨hmemory, fun y hy x c hc hread => ?_, ?_, ?_⟩
    · rw [← hlength]
      have hx : x < fmt.length := (List.getElem?_eq_some_iff.mp hc).1
      by_cases hstring : c = .string
      · rw [hstring] at hc ⊢
        exact hin y hy x hx _ hc rfl
      · rcases hread with hmem | hi
        · exact (hrecords y hy).2 x hx c hc hstring hmem
        · obtain ⟨d, hd, hsize⟩ := indexPos_field hi
          rw [Option.some.inj (hc.symm.trans hd), hsize]
          exact (hrecords y hy).1 x hi
    · rw [hlength, htable] at hstrings
      exact hstrings
    · rw [hpool hstrings] at heq
      exact (congrArg DBCTables.stringPool heq).symm
  · intro h
    have hstrings : dbc.stringTable + dbc.stringSize ≤ dbc.data.length := by
      rw [hlength, htable]
      exact h.strings
    have hinside {y x : Nat} {c : FieldFormat} (hy : y < dbc.recordCount) (hc : fmt[x]? = some c)
        (hread : 0 < memSize c ∨ indexPos fmt = some x) : dbc.Inside fmt y x (diskSize c) := by
      rw [Inside, hlength]
      exact h.fields y hy x c hc hread
    refine (produce_iff hloaded hm h.memory hloc _).mpr ⟨fun y hy => ⟨fun i hi => ?_, ?_⟩, hstrings, ?_, ?_⟩
    · obtain ⟨c, hc, hsize⟩ := indexPos_field hi
      rw [← hsize]
      exact hinside hy hc (.inr hi)
    · exact fun x _ c hc _ hmem => hinside hy hc (.inl hmem)
    · rintro y hy x _ c hc rfl
      exact hinside hy hc (.inl (by decide))
    · rw [hpool hstrings, h.pool]

/-- A file with one record, whose index is 5 and whose string is `A`. -/
def oneRecord : List UInt8 :=
  [0x57, 0x44, 0x42, 0x43, 1, 0, 0, 0, 2, 0, 0, 0, 8, 0, 0, 0, 3, 0, 0, 0, 5, 0, 0, 0, 1, 0, 0, 0, 0, 0x41, 0]

def oneRecordLoaded : DBCFileLoader := ⟨8, 1, 2, 3, [0, 4], [5, 0, 0, 0, 1, 0, 0, 0, 0, 0x41, 0], 8⟩

theorem produce_exact_oneRecord :
    oneRecordLoaded.produce [.ind, .string] 0 = some (oneRecordLoaded.tables [.ind, .string] (oneRecord.drop 20) 0
        (((oneRecord.drop 20).drop (oneRecordLoaded.recordSize * oneRecordLoaded.recordCount)).take
          oneRecordLoaded.stringSize)) ↔ oneRecordLoaded.Fits [.ind, .string] (oneRecord.drop 20) := by
  apply produce_exact_iff
  · rfl
  · refine ⟨rfl, rfl, by decide, ?_, ?_⟩
    · intro y hy i hi
      obtain rfl := Nat.lt_one_iff.mp hy
      obtain rfl := Option.some.inj hi
      decide
    · intro y hy x hx
      obtain rfl := Nat.lt_one_iff.mp hy
      obtain rfl : x = 1 := by
        cases x with
        | zero => cases hx
        | succ x =>
          cases x with
          | zero => rfl
          | succ x => cases hx
      decide
  · decide

/-- A header for 2^29 records with a string each. -/
def manyStrings (body : List UInt8) : List UInt8 :=
  0x57 :: 0x44 :: 0x42 :: 0x43 :: 0 :: 0 :: 0 :: 0x20 :: 1 :: 0 :: 0 :: 0 :: 4 :: 0 :: 0 :: 0 :: 1 :: 0 :: 0 :: 0 :: body

def manyStringsLoaded (body : List UInt8) : DBCFileLoader := ⟨4, 2 ^ 29, 1, 1, [0], body, 2 ^ 31⟩

theorem readWord_cons (a b c d : UInt8) (rest : List UInt8) :
    readWord (a :: b :: c :: d :: rest) = some (ofBytes [a, b, c, d], rest) := by
  simp [readWord]

theorem ofBytes_replicate (n : Nat) : ofBytes (List.replicate n 0) = 0 := by
  induction n with
  | zero => rfl
  | succ n ih => rw [List.replicate_succ, ofBytes_cons, ih]; rfl

theorem load_words {fmt : List FieldFormat} {file file₁ file₂ file₃ file₄ body : List UInt8}
    {recordCount fieldCount recordSize stringSize : Nat} (hheader : readWord file = some (0x43424457, file₁))
    (hrecords : readWord file₁ = some (recordCount, file₂)) (hfields : readWord file₂ = some (fieldCount, file₃))
    (hsize : readWord file₃ = some (recordSize, file₄)) (hstrings : readWord file₄ = some (stringSize, body))
    (hfull : body.length = (recordSize * recordCount + stringSize) % 2 ^ 32) (hpos : 0 < body.length) :
    load file fmt = some ⟨recordSize, recordCount, fieldCount, stringSize, fieldOffsets (fmt.take fieldCount) 0, body,
      recordSize * recordCount % 2 ^ 32⟩ := by
  have hread : ¬((recordSize * recordCount + stringSize) % 2 ^ 32 = 0 ∨
      body.length < (recordSize * recordCount + stringSize) % 2 ^ 32) := by omega
  rw [load, hheader, Option.bind_eq_bind, Option.bind_some]
  dsimp only
  rw [if_neg (not_not.mpr rfl), hrecords, Option.bind_some]
  dsimp only
  rw [hfields, Option.bind_some]
  dsimp only
  rw [hsize, Option.bind_some]
  dsimp only
  rw [hstrings, Option.bind_some]
  dsimp only
  rw [if_neg hread, ← hfull, List.take_length]

theorem load_manyStrings {body : List UInt8} (h : body.length = 2 ^ 31 + 1) :
    load (manyStrings body) [.string] = some (manyStringsLoaded body) := by
  have hwords : ofBytes [0x57, 0x44, 0x42, 0x43] = 0x43424457 ∧ ofBytes [0, 0, 0, 0x20] = 2 ^ 29 ∧
      ofBytes [1, 0, 0, 0] = 1 ∧ ofBytes [4, 0, 0, 0] = 4 := by decide
  obtain ⟨hheader, hrecords, hone, hfour⟩ := hwords
  have hsize : (4 * 2 ^ 29 + 1) % 2 ^ 32 = 2 ^ 31 + 1 := by decide
  have htable : 2 ^ 31 = 4 * 2 ^ 29 % 2 ^ 32 := by decide
  have hpos : 0 < body.length := by omega
  rw [manyStringsLoaded, htable]
  exact load_words (hheader ▸ readWord_cons _ _ _ _ _) (hrecords ▸ readWord_cons _ _ _ _ _)
    (hone ▸ readWord_cons _ _ _ _ _) (hfour ▸ readWord_cons _ _ _ _ _) (hone ▸ readWord_cons _ _ _ _ _)
    (h.trans hsize.symm) hpos

/-- Every string is the first of the block. In memory the records take 2^32 bytes, for which nothing is allocated. -/
theorem manyStrings_overrun : ∃ body, load (manyStrings body) [.string] = some (manyStringsLoaded body) ∧
    (manyStringsLoaded body).Matches [.string] body ∧ (manyStringsLoaded body).produce [.string] 0 ≠
      some ((manyStringsLoaded body).tables [.string] body 0 ((body.drop (4 * 2 ^ 29)).take 1)) := by
  have hlength : (List.replicate (2 ^ 31 + 1) (0 : UInt8)).length = 2 ^ 31 + 1 := List.length_replicate
  have hzero (y x : Nat) :
      (manyStringsLoaded (List.replicate (2 ^ 31 + 1) 0)).fieldValue [.string] (List.replicate (2 ^ 31 + 1) 0) y 4 x =
        0 := by
    rw [fieldValue, List.drop_replicate, List.take_replicate, ofBytes_replicate]
  refine ⟨_, load_manyStrings hlength, ⟨rfl, rfl, hlength.ge, fun y _ i hi => ?_, fun y _ x _ => ?_⟩, fun h => ?_⟩
  · cases hi
  · rw [hzero]
    exact Nat.zero_lt_one
  · exact absurd (produce_dataSize h) (by decide)

end Proofs

end DBCFileLoader

end Mangos
