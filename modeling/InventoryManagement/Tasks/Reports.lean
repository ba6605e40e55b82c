import InventoryManagement.Csv
import InventoryManagement.Decimal.Text
import InventoryManagement.Json
import InventoryManagement.Transition
import InventoryManagement.Interleaving.Dialogue
import InventoryManagement.Services.Report
import InventoryManagement.Services.RequestConduct
import Mathlib.Logic.Function.Basic

/-! `app.tasks.reports`: Celery workers that export reports to CSV files beside the
requests that change the stock. -/

set_option autoImplicit false

namespace InventoryManagement

open Interleaving (Guard Reachable System)

inductive ReportKind where
  | INVENTORY_SUMMARY
  | VALUATION
deriving DecidableEq

def ReportKind.value : ReportKind → String
  | .INVENTORY_SUMMARY => "inventory_summary"
  | .VALUATION => "valuation"

/-- `ReportKind(report_kind)`; another text is a `ValueError`. -/
def ReportKind.ofValue (value : String) : Option ReportKind :=
  [ReportKind.INVENTORY_SUMMARY, ReportKind.VALUATION].find? (fun kind => kind.value = value)

/-- What an export reads of the settings and of its environment. `reportsStorageDir` is
the setting as `str(Path(...))` gives it, without a slash at its end or two in a row. The
database driver hands a sum of prices over as a `Decimal` of at most two decimals. -/
structure Exporter where
  settings : Settings := {}
  reportsStorageDir : String
  collation : String → String → Bool
  decimal : Int → Decimal.Numeral
  decimal_scale : ∀ value, (decimal value).scale ≤ 2
  decimal_units : ∀ value, (decimal value).units 2 = value

namespace Exporter

variable (exporter : Exporter)

def inventorySummaryPath (token : UUID) : String :=
  exporter.reportsStorageDir ++ "/inventory_summary_" ++ String.ofList token.hex ++ ".csv"

def valuationPath (token : UUID) : String :=
  exporter.reportsStorageDir ++ "/valuation_" ++ String.ofList token.hex ++ ".csv"

def filePath (kind : ReportKind) (token : UUID) : String :=
  match kind with
  | .INVENTORY_SUMMARY => exporter.inventorySummaryPath token
  | .VALUATION => exporter.valuationPath token

def inventorySummaryHeader : Csv.Row :=
  ["warehouse_id".toList, "warehouse_name".toList, "distinct_products".toList,
    "total_quantity".toList, "low_stock_count".toList, "out_of_stock_count".toList]

def inventorySummaryRow (row : WarehouseStockSummary) : Csv.Row :=
  [row.warehouseId.str.toList, row.warehouseName.toList, Json.integerText row.distinctProducts,
    Json.integerText row.totalQuantity, Json.integerText row.lowStockCount,
    Json.integerText row.outOfStockCount]

/-- The rows `_write_inventory_summary_csv` writes. -/
def inventorySummaryCsv (report : InventorySummaryReport) : List Csv.Row :=
  inventorySummaryHeader :: report.byWarehouse.map inventorySummaryRow

def valuationHeader : Csv.Row :=
  ["warehouse_id".toList, "warehouse_name".toList, "total_value".toList]

def valuationRow (row : WarehouseValuation) : Csv.Row :=
  [row.warehouseId.str.toList, row.warehouseName.toList, (exporter.decimal row.totalValue).text]

/-- The rows `_write_valuation_csv` writes. -/
def valuationCsv (report : InventoryValuationReport) : List Csv.Row :=
  valuationHeader :: report.byWarehouse.map exporter.valuationRow

/-- The branches of `_generate_report_csv`. -/
def csv (kind : ReportKind) (tables : Tables) : List Csv.Row :=
  match kind with
  | .INVENTORY_SUMMARY =>
      inventorySummaryCsv (generateInventorySummary exporter.settings exporter.collation tables)
  | .VALUATION => exporter.valuationCsv (generateValuationReport exporter.collation tables)

end Exporter

structure ExportResult where
  reportKind : String
  filePath : String

/-- Where a run of `generate_report_csv` is: its report may be computed, its file may be
open with some rows still to be written. A task that raises or whose worker dies is left. -/
inductive ExportPhase where
  | queued
  | computed (kind : ReportKind) (rows : List Csv.Row)
  | writing (kind : ReportKind) (rows : List Csv.Row)
  | returned (result : ExportResult)
  | left

/-- A task with its argument and the `uuid4` it draws for its file. -/
structure Export where
  reportKind : String
  token : UUID
  phase : ExportPhase := .queued

/-- What the files of the worker's disk hold. -/
abbrev Storage := String → Option (List Char)

def Storage.append (storage : Storage) (path : String) (text : List Char) : Storage :=
  Function.update storage path ((storage path).map (· ++ text))

namespace Export

/-- The next thing a task does: its query, opening its file, one row, or its end. -/
def step (exporter : Exporter) (tables : Tables) (storage : Storage) (task : Export) :
    Option (Export × Storage) :=
  match task.phase with
  | .queued =>
      match ReportKind.ofValue task.reportKind with
      | none => some ({ task with phase := .left }, storage)
      | some kind => some ({ task with phase := .computed kind (exporter.csv kind tables) }, storage)
  | .computed kind rows =>
      some ({ task with phase := .writing kind rows },
        Function.update storage (exporter.filePath kind task.token) (some []))
  | .writing kind (row :: rows) =>
      some ({ task with phase := .writing kind rows },
        storage.append (exporter.filePath kind task.token) (Csv.write [row]))
  | .writing kind [] =>
      some ({ task with
        phase := .returned ⟨kind.value, exporter.filePath kind task.token⟩ }, storage)
  | .returned _ | .left => none

/-- A worker that dies leaves its task, and a file as far as it was written. -/
def crash (task : Export) : Option Export :=
  match task.phase with
  | .returned _ | .left => none
  | _ => some { task with phase := .left }

end Export

/-- The application, the workers' exports, and their disk. -/
structure Office where
  application : Application
  exports : List Export
  storage : Storage

inductive OfficeAction where
  | serve (index : Nat) (answer : Answer)
  | advance (index : Nat)
  | crash (index : Nat)

namespace Office

def start (settings : Settings) (world : World) (requests : List Request) (exports : List Export)
    (storage : Storage) : Office where
  application := Application.start settings world requests
  exports := exports
  storage := storage

/-- One export has moved on. -/
def replace (office : Office) (index : Nat) (moved : Export) (storage : Storage) : Office where
  application := office.application
  exports := office.exports.set index moved
  storage := storage

def step (exporter : Exporter) (office : Office) : OfficeAction → Option Office
  | .serve index answer =>
      (office.application.step environment index answer).map
        (fun application => { office with application })
  | .advance index =>
      match office.exports[index]? with
      | none => none
      | some task =>
          (task.step exporter office.application.shared.tables office.storage).map
            (fun moved => office.replace index moved.1 moved.2)
  | .crash index =>
      match office.exports[index]? with
      | none => none
      | some task =>
          task.crash.map (fun left => office.replace index left office.storage)

end Office

/-! ## Where an export writes, and what -/

namespace Exporter

variable {exporter : Exporter} {kind other : ReportKind} {token another : UUID}

/-- Two exports write to one file only if they are of one kind and drew the same token. -/
theorem filePath_injective (same : exporter.filePath kind token = exporter.filePath other another) :
    kind = other ∧ token = another := by
  have summaries : ∀ left right : UUID,
      exporter.inventorySummaryPath left ≠ exporter.valuationPath right := by
    intro left right same
    have texts := congrArg String.toList same
    simp [inventorySummaryPath, valuationPath] at texts
  cases kind with
  | INVENTORY_SUMMARY =>
      cases other with
      | INVENTORY_SUMMARY =>
          have texts := congrArg String.toList same
          simp only [filePath, inventorySummaryPath, String.toList_append, String.toList_ofList,
            List.append_cancel_right_eq, List.append_cancel_left_eq] at texts
          exact ⟨rfl, UUID.hex_injective texts⟩
      | VALUATION => exact absurd same (summaries token another)
  | VALUATION =>
      cases other with
      | INVENTORY_SUMMARY => exact absurd same.symm (summaries another token)
      | VALUATION =>
          have texts := congrArg String.toList same
          simp only [filePath, valuationPath, String.toList_append, String.toList_ofList,
            List.append_cancel_right_eq, List.append_cancel_left_eq] at texts
          exact ⟨rfl, UUID.hex_injective texts⟩

theorem inventorySummaryRow_injective : Function.Injective inventorySummaryRow := by
  intro left right same
  simp only [inventorySummaryRow, List.cons.injEq, and_true] at same
  obtain ⟨id, name, products, quantity, low, out⟩ := same
  cases left
  cases right
  simp only [WarehouseStockSummary.mk.injEq]
  exact ⟨UUID.str_injective (String.toList_inj.mp id), String.toList_inj.mp name,
    Int.ofNat.inj (Json.integerText_injective products), Json.integerText_injective quantity,
    Int.ofNat.inj (Json.integerText_injective low), Int.ofNat.inj (Json.integerText_injective out)⟩

theorem valuationRow_injective (exporter : Exporter) : Function.Injective exporter.valuationRow := by
  intro left right same
  simp only [valuationRow, List.cons.injEq, and_true] at same
  obtain ⟨id, name, value⟩ := same
  have numeral : exporter.decimal left.totalValue = exporter.decimal right.totalValue := by
    rw [← Decimal.ofText_text (exporter.decimal left.totalValue), value, Decimal.ofText_text]
  have units := congrArg (Decimal.Numeral.units · 2) numeral
  simp only [exporter.decimal_units] at units
  cases left
  cases right
  simp only [WarehouseValuation.mk.injEq]
  exact ⟨UUID.str_injective (String.toList_inj.mp id), String.toList_inj.mp name, units⟩

def header : ReportKind → Csv.Row
  | .INVENTORY_SUMMARY => inventorySummaryHeader
  | .VALUATION => valuationHeader

/-- One record for each warehouse, with the figures of its stock. -/
def records (exporter : Exporter) (kind : ReportKind) (tables : Tables) : List Csv.Row :=
  match kind with
  | .INVENTORY_SUMMARY => tables.warehouses.map (fun warehouse =>
      inventorySummaryRow (tables.stockSummary exporter.settings warehouse))
  | .VALUATION => tables.warehouses.map (fun warehouse =>
      exporter.valuationRow (tables.stockValuation warehouse))

theorem csv_records {world : World} (valid : world.Valid) (exporter : Exporter) (kind : ReportKind) :
    ∃ rows, exporter.csv kind world.tables = header kind :: rows ∧
      rows.Perm (exporter.records kind world.tables) := by
  cases kind with
  | INVENTORY_SUMMARY =>
      have figures := (summary_byWarehouse exporter.settings valid exporter.collation).map
        inventorySummaryRow
      rw [List.map_map] at figures
      exact ⟨_, rfl, figures⟩
  | VALUATION =>
      have figures := (valuation_byWarehouse valid exporter.collation).map exporter.valuationRow
      rw [List.map_map] at figures
      exact ⟨_, rfl, figures⟩

end Exporter

/-! ## One export among others -/

namespace Export

variable {exporter : Exporter} {tables : Tables} {storage after : Storage} {task moved : Export}
variable {past later : Tables → Prop}

/-- How far an export is that computed its report of tables of the past. -/
def Sound (exporter : Exporter) (past : Tables → Prop) (storage : Storage) (task : Export) : Prop :=
  match task.phase with
  | .queued | .left => True
  | .computed kind rows => ReportKind.ofValue task.reportKind = some kind ∧
      ∃ tables, past tables ∧ rows = exporter.csv kind tables
  | .writing kind rows => ReportKind.ofValue task.reportKind = some kind ∧
      ∃ tables written, past tables ∧ written ++ rows = exporter.csv kind tables ∧
        storage (exporter.filePath kind task.token) = some (Csv.write written)
  | .returned result => ∃ kind tables, ReportKind.ofValue task.reportKind = some kind ∧
      past tables ∧ result = ⟨kind.value, exporter.filePath kind task.token⟩ ∧
      storage (exporter.filePath kind task.token) = some (Csv.write (exporter.csv kind tables))

/-- Neither a longer past nor what others write to their files matters. -/
theorem Sound.mono (sound : task.Sound exporter past storage)
    (longer : ∀ tables, past tables → later tables)
    (same : ∀ kind, after (exporter.filePath kind task.token) =
      storage (exporter.filePath kind task.token)) : task.Sound exporter later after := by
  unfold Sound at sound ⊢
  split
  · trivial
  · trivial
  next kind rows phase =>
    rw [phase] at sound
    obtain ⟨known, tables, read, computed⟩ := sound
    exact ⟨known, tables, longer tables read, computed⟩
  next kind rows phase =>
    rw [phase] at sound
    obtain ⟨known, tables, written, read, content, file⟩ := sound
    exact ⟨known, tables, written, longer tables read, content, (same kind).trans file⟩
  next result phase =>
    rw [phase] at sound
    obtain ⟨kind, tables, known, read, filed, file⟩ := sound
    exact ⟨kind, tables, known, longer tables read, filed, (same kind).trans file⟩

theorem step_label (stepped : task.step exporter tables storage = some (moved, after)) :
    moved.reportKind = task.reportKind ∧ moved.token = task.token := by
  unfold step at stepped
  split at stepped
  · split at stepped <;> cases stepped <;> exact ⟨rfl, rfl⟩
  · cases stepped
    exact ⟨rfl, rfl⟩
  · cases stepped
    exact ⟨rfl, rfl⟩
  · cases stepped
    exact ⟨rfl, rfl⟩
  · cases stepped
  · cases stepped

/-- A task touches no file but its own. -/
theorem step_storage (stepped : task.step exporter tables storage = some (moved, after))
    {path : String} (foreign : ∀ kind, path ≠ exporter.filePath kind task.token) :
    after path = storage path := by
  unfold step at stepped
  split at stepped
  · split at stepped <;> cases stepped <;> rfl
  · cases stepped
    exact Function.update_of_ne (foreign _) _ _
  · cases stepped
    exact Function.update_of_ne (foreign _) _ _
  · cases stepped
    rfl
  · cases stepped
  · cases stepped

theorem step_sound (sound : task.Sound exporter past storage) (present : past tables)
    (stepped : task.step exporter tables storage = some (moved, after)) :
    moved.Sound exporter past after := by
  unfold step at stepped
  unfold Sound at sound
  split at stepped
  next phase =>
    split at stepped
    next _ =>
      cases stepped
      trivial
    next kind known =>
      cases stepped
      exact ⟨known, tables, present, rfl⟩
  next kind rows phase =>
    cases stepped
    rw [phase] at sound
    obtain ⟨known, tables, read, computed⟩ := sound
    exact ⟨known, tables, [], read, computed, Function.update_self _ _ _⟩
  next kind row rows phase =>
    cases stepped
    rw [phase] at sound
    obtain ⟨known, tables, written, read, content, file⟩ := sound
    refine ⟨known, tables, written ++ [row], read, ?_, ?_⟩
    · rw [List.append_assoc]
      exact content
    · rw [Storage.append, file, Function.update_self, Option.map_some, Csv.write, Csv.write,
        Csv.write, List.flatMap_append]
  next kind phase =>
    cases stepped
    rw [phase] at sound
    obtain ⟨known, tables, written, read, content, file⟩ := sound
    rw [List.append_nil] at content
    exact ⟨kind, tables, known, read, rfl, content ▸ file⟩
  · cases stepped
  · cases stepped

theorem crash_eq (crashed : task.crash = some moved) : moved = { task with phase := .left } := by
  unfold crash at crashed
  split at crashed <;> cases crashed
  rfl

end Export

/-! ## All exports of a deployment -/

namespace Office

variable {exporter : Exporter} {started office after : Office}

/-- The committed tables of a moment of the run. -/
def Past (started office : Office) (tables : Tables) : Prop :=
  ∃ application, Reachable environment Guard.unrestricted started.application application ∧
    Reachable environment Guard.unrestricted application office.application ∧
    application.shared.tables = tables

def labels (office : Office) : List (String × UUID) :=
  office.exports.map (fun task => (task.reportKind, task.token))

structure Filed (exporter : Exporter) (started office : Office) : Prop where
  reached : Reachable environment Guard.unrestricted started.application office.application
  labels : office.labels = started.labels
  exports : ∀ task ∈ office.exports, task.Sound exporter (Past started office) office.storage
  others : ∀ path, (∀ task ∈ started.exports, ∀ kind, path ≠ exporter.filePath kind task.token) →
    office.storage path = started.storage path

theorem labels_set {task moved : Export} {index : Nat} (found : office.exports[index]? = some task)
    (same : (moved.reportKind, moved.token) = (task.reportKind, task.token)) :
    (office.exports.set index moved).map (fun task => (task.reportKind, task.token)) =
      office.labels := by
  apply List.ext_getElem?
  intro position
  rw [labels, List.getElem?_map, List.getElem?_map, List.getElem?_set]
  by_cases here : index = position
  · subst here
    obtain ⟨bound, _⟩ := List.getElem?_eq_some_iff.mp found
    rw [if_pos rfl, if_pos bound, found, Option.map_some, Option.map_some, same]
  · rw [if_neg here]

/-- Exports at different places have drawn different tokens. -/
theorem token_ne {index position : Nat} {task other : Export}
    (distinct : (office.labels.map Prod.snd).Nodup)
    (found : office.exports[index]? = some task) (foundToo : office.exports[position]? = some other)
    (apart : position ≠ index) : other.token ≠ task.token := by
  intro same
  obtain ⟨bound, _⟩ := List.getElem?_eq_some_iff.mp foundToo
  have inside : position < (office.labels.map Prod.snd).length := by
    rwa [labels, List.length_map, List.length_map]
  apply apart
  apply (List.getElem?_inj inside distinct).mp
  simp only [labels, List.map_map, List.getElem?_map, found, foundToo, Option.map_some]
  exact congrArg some same

theorem exports_set {exports : List Export} {index position : Nat} {moved other : Export}
    (found : (exports.set index moved)[position]? = some other) :
    other = moved ∨ (position ≠ index ∧ exports[position]? = some other) := by
  rw [List.getElem?_set] at found
  split at found
  · split at found
    · exact .inl (Option.some.inj found).symm
    · cases found
  next apart => exact .inr ⟨Ne.symm apart, found⟩

/-- A step of one export leaves the files of the others. -/
theorem Filed.advance {index : Nat} {task moved : Export} {storage : Storage}
    (filed : Filed exporter started office) (distinct : (started.labels.map Prod.snd).Nodup)
    (found : office.exports[index]? = some task)
    (stepped : task.step exporter office.application.shared.tables office.storage =
      some (moved, storage)) :
    Filed exporter started (office.replace index moved storage) := by
  have member := List.mem_of_getElem? found
  obtain ⟨kind, token⟩ := Export.step_label stepped
  have listed : (task.reportKind, task.token) ∈ started.labels :=
    filed.labels ▸ List.mem_map_of_mem member
  refine ⟨filed.reached, ?_, ?_, ?_⟩
  · rw [← filed.labels]
    exact labels_set found (by rw [kind, token])
  · intro other memberToo
    obtain ⟨position, foundToo⟩ := List.mem_iff_getElem?.mp memberToo
    rcases exports_set foundToo with rfl | ⟨apart, old⟩
    · exact Export.step_sound (filed.exports task member) ⟨_, filed.reached, .refl, rfl⟩ stepped
    · apply (filed.exports other (List.mem_of_getElem? old)).mono (fun _ => id)
      intro kind
      apply Export.step_storage stepped
      intro kindToo same
      exact token_ne (filed.labels ▸ distinct) found old apart
        (Exporter.filePath_injective same).2
  · intro path foreign
    rw [← filed.others path foreign]
    apply Export.step_storage stepped
    obtain ⟨origin, included, same⟩ := List.mem_map.mp listed
    rw [← (Prod.mk.inj same).2]
    exact foreign origin included

theorem Filed.crash {index : Nat} {task moved : Export} (filed : Filed exporter started office)
    (found : office.exports[index]? = some task) (crashed : task.crash = some moved) :
    Filed exporter started (office.replace index moved office.storage) := by
  have left := Export.crash_eq crashed
  refine ⟨filed.reached, ?_, ?_, filed.others⟩
  · rw [← filed.labels]
    exact labels_set found (by rw [left])
  · intro other member
    obtain ⟨position, foundToo⟩ := List.mem_iff_getElem?.mp member
    rcases exports_set foundToo with rfl | ⟨_, old⟩
    · rw [left]
      trivial
    · exact filed.exports other (List.mem_of_getElem? old)

theorem Filed.serve {index : Nat} {answer : Answer} {application : Application}
    (filed : Filed exporter started office)
    (stepped : office.application.step environment index answer = some application) :
    Filed exporter started { office with application } := by
  have permitted : office.application.allows Guard.unrestricted index answer :=
    fun _ _ _ _ _ => trivial
  refine ⟨.step filed.reached permitted stepped, filed.labels, ?_, filed.others⟩
  intro task member
  apply (filed.exports task member).mono _ (fun _ => rfl)
  rintro tables ⟨earlier, before, since, same⟩
  exact ⟨earlier, before, .step since permitted stepped, same⟩

theorem Filed.step {action : OfficeAction} (filed : Filed exporter started office)
    (distinct : (started.labels.map Prod.snd).Nodup)
    (stepped : office.step exporter action = some after) : Filed exporter started after := by
  cases action with
  | serve index answer =>
      obtain ⟨application, served, rfl⟩ := Option.map_eq_some_iff.mp stepped
      exact filed.serve served
  | advance index =>
      simp only [Office.step] at stepped
      split at stepped
      · cases stepped
      next task found =>
        obtain ⟨⟨moved, storage⟩, advanced, rfl⟩ := Option.map_eq_some_iff.mp stepped
        exact filed.advance distinct found advanced
  | crash index =>
      simp only [Office.step] at stepped
      split at stepped
      · cases stepped
      next task found =>
        obtain ⟨moved, crashed, rfl⟩ := Option.map_eq_some_iff.mp stepped
        exact filed.crash found crashed

theorem start_filed (settings : Settings) (world : World) (requests : List Request)
    {exports : List Export} (queued : ∀ task ∈ exports, task.phase = .queued) (storage : Storage) :
    Filed exporter (start settings world requests exports storage)
      (start settings world requests exports storage) := by
  refine ⟨.refl, rfl, ?_, fun _ _ => rfl⟩
  intro task member
  rw [Export.Sound, queued task member]
  trivial

theorem filed_of_run {actions : List OfficeAction} (filed : Filed exporter started started)
    (distinct : (started.labels.map Prod.snd).Nodup)
    (ran : Transition.run (step exporter) started actions = some office) :
    Filed exporter started office :=
  Transition.run_invariant (Filed exporter started)
    (fun _ _ _ _ holds stepped => holds.step distinct stepped) filed ran

/-! An export that is under way can always be finished. -/

theorem step_advance {index : Nat} {task moved : Export} {storage : Storage}
    (found : office.exports[index]? = some task)
    (stepped : task.step exporter office.application.shared.tables office.storage =
      some (moved, storage)) :
    office.step exporter (.advance index) = some (office.replace index moved storage) ∧
      (office.replace index moved storage).exports[index]? = some moved := by
  obtain ⟨bound, _⟩ := List.getElem?_eq_some_iff.mp found
  exact ⟨by simp only [Office.step, found, stepped, Option.map_some], List.getElem?_set_self bound⟩

/-- Some run from here on, in which no other export moves, ends with the task's return. -/
def CanReturn (exporter : Exporter) (office : Office) (index : Nat) (kind : ReportKind)
    (task : Export) : Prop :=
  ∃ actions final, Transition.run (step exporter) office actions = some final ∧
    final.exports[index]? = some { task with
      phase := .returned ⟨kind.value, exporter.filePath kind task.token⟩ } ∧
    ∀ position ≠ index, final.exports[position]? = office.exports[position]?

theorem CanReturn.of_step {index : Nat} {task moved : Export} {kind : ReportKind} {storage : Storage}
    (found : office.exports[index]? = some task)
    (stepped : task.step exporter office.application.shared.tables office.storage =
      some (moved, storage))
    (next : (office.replace index moved storage).CanReturn exporter index kind moved) :
    office.CanReturn exporter index kind task := by
  obtain ⟨actions, final, ran, returned, others⟩ := next
  obtain ⟨label, token⟩ := Export.step_label stepped
  refine ⟨.advance index :: actions, final,
    Transition.run_cons.mpr ⟨_, (step_advance found stepped).1, ran⟩, ?_, ?_⟩
  · rw [returned, label, token]
  · intro position apart
    rw [others position apart]
    exact List.getElem?_set_ne apart.symm

/-- The rows that are still to be written can be written, one after the other. -/
theorem writing_returns (exporter : Exporter) (office : Office) {index : Nat} {kind : ReportKind}
    (rows : List Csv.Row) (task : Export) (found : office.exports[index]? = some task)
    (phase : task.phase = .writing kind rows) : office.CanReturn exporter index kind task := by
  induction rows generalizing office task with
  | nil =>
      have last : task.step exporter office.application.shared.tables office.storage =
          some ({ task with phase := .returned ⟨kind.value, exporter.filePath kind task.token⟩ },
            office.storage) := by
        rw [Export.step, phase]
      obtain ⟨stepped, returned⟩ := step_advance found last
      exact ⟨[.advance index], _, Transition.run_cons.mpr ⟨_, stepped, rfl⟩, returned,
        fun position apart => List.getElem?_set_ne apart.symm⟩
  | cons row rows ih =>
      have next : task.step exporter office.application.shared.tables office.storage =
          some ({ task with phase := .writing kind rows }, office.storage.append
            (exporter.filePath kind task.token) (Csv.write [row])) := by
        rw [Export.step, phase]
      exact .of_step found next (ih _ _ (step_advance found next).2 rfl)

theorem computed_returns {index : Nat} {task : Export} {kind : ReportKind} {rows : List Csv.Row}
    (found : office.exports[index]? = some task) (phase : task.phase = .computed kind rows) :
    office.CanReturn exporter index kind task := by
  have next : task.step exporter office.application.shared.tables office.storage =
      some ({ task with phase := .writing kind rows },
        Function.update office.storage (exporter.filePath kind task.token) (some [])) := by
    rw [Export.step, phase]
  exact .of_step found next (writing_returns exporter _ rows _ (step_advance found next).2 rfl)

theorem queued_returns {index : Nat} {task : Export} {kind : ReportKind}
    (found : office.exports[index]? = some task) (phase : task.phase = .queued)
    (known : ReportKind.ofValue task.reportKind = some kind) :
    office.CanReturn exporter index kind task := by
  have next : task.step exporter office.application.shared.tables office.storage =
      some ({ task with
        phase := .computed kind (exporter.csv kind office.application.shared.tables) },
        office.storage) := by
    rw [Export.step, phase]
    simp only [known]
  exact .of_step found next (computed_returns (step_advance found next).2 rfl)

/-- An export that has neither returned nor been left can still return. -/
theorem Filed.can_return {index : Nat} {task : Export} {kind : ReportKind}
    (filed : Filed exporter started office) (found : office.exports[index]? = some task)
    (known : ReportKind.ofValue task.reportKind = some kind) (working : task.phase ≠ .left)
    (unfinished : ∀ result, task.phase ≠ .returned result) :
    office.CanReturn exporter index kind task := by
  have sound := filed.exports task (List.mem_of_getElem? found)
  rw [Export.Sound] at sound
  cases phase : task.phase with
  | queued => exact queued_returns found phase known
  | computed other rows =>
      rw [phase] at sound
      obtain rfl : kind = other := Option.some.inj (known.symm.trans sound.1)
      exact computed_returns found phase
  | writing other rows =>
      rw [phase] at sound
      obtain rfl : kind = other := Option.some.inj (known.symm.trans sound.1)
      exact writing_returns exporter office rows task found phase
  | returned result => exact absurd phase (unfinished result)
  | left => exact absurd phase working

end Office

/-- However exports and requests interleave, every export that has returned left a file that
is read back as its header and one record for each warehouse, with the figures of its stock
at one moment of the run; an export under way can return; and no other file is touched. -/
theorem exports_read_back (exporter : Exporter) (world : World) (valid : world.Valid)
    (requests : List Request) (exports : List Export) (storage : Storage)
    (queued : ∀ task ∈ exports, task.phase = .queued)
    (distinct : (exports.map (·.token)).Nodup) (actions : List OfficeAction) (office : Office)
    (ran : Transition.run (Office.step exporter)
      (Office.start exporter.settings world requests exports storage) actions = some office) :
    (∀ task ∈ office.exports, ∀ result, task.phase = .returned result →
      ∃ kind application text records, ReportKind.ofValue task.reportKind = some kind ∧
        result = ⟨kind.value, exporter.filePath kind task.token⟩ ∧
        Reachable environment Guard.unrestricted
          (Application.start exporter.settings world requests) application ∧
        Reachable environment Guard.unrestricted application office.application ∧
        office.storage result.filePath = some text ∧
        Csv.read text = some (Exporter.header kind :: records) ∧
        records.Perm (exporter.records kind application.shared.tables)) ∧
    (Function.Injective Exporter.inventorySummaryRow ∧
      Function.Injective exporter.valuationRow) ∧
    (∀ index task kind, office.exports[index]? = some task →
      ReportKind.ofValue task.reportKind = some kind → task.phase ≠ .left →
      (∀ result, task.phase ≠ .returned result) → office.CanReturn exporter index kind task) ∧
    ∀ path, (∀ task ∈ exports, ∀ kind, path ≠ exporter.filePath kind task.token) →
      office.storage path = storage path := by
  have tokens : ((Office.start exporter.settings world requests exports storage).labels.map
      Prod.snd).Nodup := by
    rw [Office.labels, List.map_map]
    exact distinct
  have filed := Office.filed_of_run
    (Office.start_filed exporter.settings world requests queued storage) tokens ran
  refine ⟨?_, ⟨Exporter.inventorySummaryRow_injective, exporter.valuationRow_injective⟩,
    fun _ _ _ found known => filed.can_return found known, filed.others⟩
  intro task member result phase
  have sound := filed.exports task member
  rw [Export.Sound, phase] at sound
  obtain ⟨kind, tables, known, ⟨application, before, since, rfl⟩, rfl, file⟩ := sound
  have validThere := ((Application.start_verified exporter.settings permits_unrestricted valid
    requests).reachable before).valid
  obtain ⟨records, content, figures⟩ := Exporter.csv_records validThere exporter kind
  refine ⟨kind, application, _, records, known, rfl, before, since, file, ?_, figures⟩
  rw [Csv.read_write, content]

namespace Sample

/-- The driver has no decimals for zero. -/
def numeric (value : Int) : Decimal.Numeral := if value = 0 then ⟨0, 0⟩ else ⟨value, 2⟩

theorem numeric_scale (value : Int) : (numeric value).scale ≤ 2 := by
  unfold numeric
  split
  · exact Nat.zero_le 2
  · exact Nat.le_refl 2

theorem numeric_units (value : Int) : (numeric value).units 2 = value := by
  unfold numeric
  split
  next zero => rw [zero, Decimal.Numeral.units, Int.zero_mul]
  next _ => rw [Decimal.Numeral.units, Nat.sub_self, pow_zero, Int.mul_one]

def exporter : Exporter where
  reportsStorageDir := "storage/reports"
  collation left right := decide (left ≤ right)
  decimal := numeric
  decimal_scale := numeric_scale
  decimal_units := numeric_units

def valuationExport : Export where
  reportKind := "valuation"
  token := ⟨7⟩

def summaryExport : Export where
  reportKind := "inventory_summary"
  token := ⟨8⟩

/-- Two exports, and goods that arrive in the meantime. -/
def office : Office :=
  Office.start {} stocked [.movement receive20 none] [valuationExport, summaryExport]
    (fun _ => none)

/-- The first export has read the tables before the request is served, and writes later. -/
def underway : List OfficeAction :=
  .advance 0 :: List.replicate 9 (.serve 0 {})

end Sample

/-- The two exports of one run, each in its file. -/
theorem exports_read_back_two : ∃ actions office,
    Transition.run (Office.step Sample.exporter) Sample.office actions = some office ∧
      (∃ application text records,
        Reachable environment Guard.unrestricted application office.application ∧
        office.storage "storage/reports/valuation_00000000000000000000000000000007.csv" =
          some text ∧
        Csv.read text = some (Exporter.valuationHeader :: records) ∧
        records.Perm (Sample.exporter.records .VALUATION application.shared.tables)) ∧
      (∃ application text records,
        Reachable environment Guard.unrestricted application office.application ∧
        office.storage "storage/reports/inventory_summary_00000000000000000000000000000008.csv" =
          some text ∧
        Csv.read text = some (Exporter.inventorySummaryHeader :: records) ∧
        records.Perm (Sample.exporter.records .INVENTORY_SUMMARY application.shared.tables)) ∧
      office.storage "storage/reports/other.csv" = none := by
  have queued : ∀ task ∈ [Sample.valuationExport, Sample.summaryExport], task.phase = .queued := by
    intro task member
    rcases List.mem_pair.mp member with rfl | rfl <;> rfl
  have distinct : ([Sample.valuationExport, Sample.summaryExport].map (·.token)).Nodup := by decide
  obtain ⟨started, begun, computed, waiting⟩ : ∃ started,
      Transition.run (Office.step Sample.exporter) Sample.office Sample.underway = some started ∧
        started.exports[0]? = some { Sample.valuationExport with
          phase := .computed .VALUATION
            (Sample.exporter.csv .VALUATION Sample.stocked.tables) } ∧
        started.exports[1]? = some Sample.summaryExport := ⟨_, rfl, rfl, rfl⟩
  obtain ⟨first, between, ranFirst, returnedFirst, others⟩ :
      started.CanReturn Sample.exporter 0 .VALUATION _ := Office.computed_returns computed rfl
  obtain ⟨second, office, ranSecond, returnedSecond, apart⟩ :
      between.CanReturn Sample.exporter 1 .INVENTORY_SUMMARY _ :=
    Office.queued_returns ((others 1 (by decide)).trans waiting) rfl rfl
  have ran := Transition.run_append.mpr
    ⟨between, Transition.run_append.mpr ⟨started, begun, ranFirst⟩, ranSecond⟩
  obtain ⟨read, _, _, untouched⟩ := exports_read_back Sample.exporter Sample.stocked
    Sample.stocked_valid [.movement Sample.receive20 none]
    [Sample.valuationExport, Sample.summaryExport] (fun _ => none) queued distinct _ office ran
  have returned := (apart 0 (by decide)).trans returnedFirst
  refine ⟨_, office, ran, ?_, ?_, untouched _ ?_⟩
  · obtain ⟨kind, application, text, records, known, _, _, since, file, content, figures⟩ :=
      read _ (List.mem_of_getElem? returned) _ rfl
    obtain rfl : ReportKind.VALUATION = kind := Option.some.inj known
    exact ⟨application, text, records, since, file, content, figures⟩
  · obtain ⟨kind, application, text, records, known, _, _, since, file, content, figures⟩ :=
      read _ (List.mem_of_getElem? returnedSecond) _ rfl
    obtain rfl : ReportKind.INVENTORY_SUMMARY = kind := Option.some.inj known
    exact ⟨application, text, records, since, file, content, figures⟩
  · intro task member kind
    rcases List.mem_pair.mp member with rfl | rfl <;> cases kind <;> decide

end InventoryManagement
