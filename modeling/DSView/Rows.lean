import DSView.Widget
import Mathlib.Data.List.ReduceOption

/-!
# The measure dock's rows

`MeasureDock` keeps one `row_list_item` per acquisition mode (`_mode_rows`): the distance rows,
the edge rows and the rows of the cursor panel.  A distance or edge row (`cursor_row_info`)
binds two marker numbers, `cursor1` and `cursor2`, where `-1` means unset, and an edge row also
a channel selector position `channelIndex`.  Its other fields are pointers to the widgets that
show it, which `get_mode_rows` clears for every mode but the active one.

The dock reads the view and the session through a few calls; their state is the `View`
record, which changes between the dock's slots in any way.
-/

namespace DSView

/-- A timeline marker (`pv::view::Cursor`): its address and its sample position. -/
structure Cursor where
  /-- The address of the marker object. -/
  id : Nat
  /-- `TimeMarker::_index`, the sample position. -/
  index : BitVec 64
deriving DecidableEq, Repr

/-- The channel types of `sr_channel_type` the session's signals carry. -/
inductive ChannelType
  | logic
  | dso
  | analog
deriving DecidableEq, Repr

/-- A signal of the session (`pv::view::Signal`). -/
structure Signal where
  /-- `signal_type()`. -/
  signalType : ChannelType
  /-- `enabled()`. -/
  enabled : Bool
  /-- `get_index()`, the logical channel id. -/
  index : Nat
deriving DecidableEq, Repr

/-- The device work mode: the three modes the dock keeps rows for, and any other mode code. -/
inductive WorkMode
  | logic
  | dso
  | analog
  | other (code : Int)
deriving DecidableEq, Repr

/-- What the dock reads from the view and the session. -/
structure View where
  /-- `View::get_cursorList()`, the active marker list in display order. -/
  cursorList : List Cursor
  /-- `View::cursors_shown()`. -/
  cursorsShown : Bool
  /-- `View::get_cm_delta`, the formatted time between the markers at two positions. -/
  getCmDelta : List Cursor → Int → Int → String
  /-- `View::get_cm_time`, the formatted time of the marker at a position. -/
  getCmTime : List Cursor → Int → String
  /-- `SigSession::get_signals()`. -/
  signals : List Signal
  /-- `LogicSignal::edges(end, start, rising, falling)`: the rising and falling edge counts,
  or `none` where the call returns `false`. -/
  edges : Signal → BitVec 64 → BitVec 64 → Option (BitVec 64 × BitVec 64)
  /-- `get_device()->get_work_mode()`. -/
  workMode : WorkMode

/-- Modelled from the spec: `View::get_cursor_samples` (view.cpp is not part of the sources)
returns the sample position of the marker at a 0-based position of the active list, and `0`
at a position that holds no marker. -/
def getCursorSamples (cursors : List Cursor) (position : Int) : BitVec 64 :=
  if 0 ≤ position then ((cursors.get? position.toNat).map Cursor.index).getD 0 else 0

/-- Modelled from the spec: `View::del_cursor` removes the marker and keeps the others in
order. -/
def viewDelCursor (cursors : List Cursor) (cursor : Cursor) : List Cursor :=
  cursors.filter fun other => other.id ≠ cursor.id

/-- A marker position the dock passed to the view, with the number of markers at that call. -/
structure ViewQuery where
  /-- The 0-based position passed to `get_cursor_samples`, `get_cm_delta` or `get_cm_time`. -/
  index : Int
  /-- `get_cursorList().size()` at that call. -/
  count : Nat
deriving DecidableEq, Repr

/-- A computation of the dock that calls the view: its result, and the marker positions it
passed to the view, in order. -/
structure Logged (α : Type) where
  /-- The result. -/
  result : α
  /-- The positions passed. -/
  queries : List ViewQuery

namespace Logged

/-- A result computed without calling the view. -/
def pure {α : Type} (a : α) : Logged α := ⟨a, []⟩

/-- Run `x`, then `f` on its result; the positions of both are passed in order. -/
def bind {α β : Type} (x : Logged α) (f : α → Logged β) : Logged β :=
  ⟨(f x.result).result, x.queries ++ (f x.result).queries⟩

instance : Monad Logged where
  pure := Logged.pure
  bind := Logged.bind

variable {α β : Type}

@[simp]
theorem pure_result (a : α) : (Pure.pure a : Logged α).result = a := rfl

@[simp]
theorem pure_queries (a : α) : (Pure.pure a : Logged α).queries = [] := rfl

@[simp]
theorem bind_result (x : Logged α) (f : α → Logged β) : (x >>= f).result = (f x.result).result :=
  rfl

@[simp]
theorem bind_queries (x : Logged α) (f : α → Logged β) :
    (x >>= f).queries = x.queries ++ (f x.result).queries := rfl

end Logged

namespace View

/-- The dock passes the marker position `position` to the view: the position is logged with the
current number of markers, and the call reads it from here. -/
def pass (v : View) (position : Int) : Logged Int := ⟨position, [⟨position, v.cursorList.length⟩]⟩

/-- `View::get_cursor_samples(position)`. -/
def callCursorSamples (v : View) (position : Int) : Logged (BitVec 64) := do
  let position ← v.pass position
  pure (getCursorSamples v.cursorList position)

/-- `View::get_cm_delta(position1, position2)`. -/
def callCmDelta (v : View) (position1 position2 : Int) : Logged String := do
  let position1 ← v.pass position1
  let position2 ← v.pass position2
  pure (v.getCmDelta v.cursorList position1 position2)

/-- `View::get_cm_time(position)`. -/
def callCmTime (v : View) (position : Int) : Logged String := do
  let position ← v.pass position
  pure (v.getCmTime v.cursorList position)

@[simp]
theorem callCursorSamples_result (v : View) (position : Int) :
    (v.callCursorSamples position).result = getCursorSamples v.cursorList position := rfl

@[simp]
theorem callCmDelta_result (v : View) (position1 position2 : Int) :
    (v.callCmDelta position1 position2).result = v.getCmDelta v.cursorList position1 position2 :=
  rfl
end View

/-- `cursor_row_info`: a distance row or an edge row. -/
structure CursorRowInfo where
  /-- Number of the start marker, `-1` when unset. -/
  cursor1 : Int
  /-- Number of the end marker, `-1` when unset. -/
  cursor2 : Int
  /-- Position of the chosen entry of the edge row's channel selector. -/
  channelIndex : Int
  /-- The channel selector of an edge row. -/
  box : Option Nat
  /-- The delete button. -/
  delBt : Option Nat
  /-- The start marker button. -/
  startBt : Option Nat
  /-- The end marker button. -/
  endBt : Option Nat
  /-- The result label. -/
  rLabel : Option Nat
deriving DecidableEq, Repr

/-- `cursor_opt_info`: a row of the cursor panel. -/
structure CursorOptInfo where
  /-- The delete button. -/
  delBt : Option Nat
  /-- The marker number button. -/
  gotoBt : Option Nat
  /-- The position label. -/
  infoLabel : Option Nat
  /-- The marker the row shows. -/
  cursor : Cursor
deriving DecidableEq, Repr

/-- `row_list_item`: the rows the dock keeps for one acquisition mode. -/
structure RowListItem where
  /-- `_dist_row_list`. -/
  distRowList : List CursorRowInfo
  /-- `_edge_row_list`. -/
  edgeRowList : List CursorRowInfo
  /-- `_opt_row_list`. -/
  optRowList : List CursorOptInfo
deriving DecidableEq, Repr

/-- The state of `MeasureDock`: the rows of the three modes and the widgets it created.  The
positions it passed to the view are recorded in `viewQueries`, which no code reads. -/
structure MeasureDock where
  /-- `_mode_rows`. -/
  modeRows : Fin 3 → RowListItem
  /-- The widgets, by address. -/
  widgets : Widgets
  /-- Every marker position passed to the view so far. -/
  viewQueries : List ViewQuery

namespace CursorRowInfo

/-- The row `add_dist_measure` and `add_edge_measure` append. -/
def unset : CursorRowInfo := ⟨-1, -1, 0, none, none, none, none, none⟩

/-- What `get_mode_rows` does to a row of another mode: every widget pointer is cleared. -/
def detach (row : CursorRowInfo) : CursorRowInfo :=
  { row with box := none, delBt := none, startBt := none, endBt := none, rLabel := none }

/-- The data of a row apart from its widgets. -/
def rowData (row : CursorRowInfo) : Int × Int × Int := (row.cursor1, row.cursor2, row.channelIndex)

/-- The widgets a row points to. -/
def handles (row : CursorRowInfo) : List Nat :=
  [row.delBt, row.startBt, row.endBt, row.rLabel, row.box].reduceOption

theorem handles_eq (row : CursorRowInfo) :
    row.handles = row.delBt.toList ++ row.startBt.toList ++ row.endBt.toList ++
      row.rLabel.toList ++ row.box.toList := by
  rcases row with ⟨_, _, _, box, delBt, startBt, endBt, rLabel⟩
  cases box <;> cases delBt <;> cases startBt <;> cases endBt <;> cases rLabel <;> rfl

@[simp]
theorem rowData_detach (row : CursorRowInfo) : row.detach.rowData = row.rowData := rfl

@[simp]
theorem detach_detach (row : CursorRowInfo) : row.detach.detach = row.detach := rfl

@[simp]
theorem handles_detach (row : CursorRowInfo) : row.detach.handles = [] := rfl

end CursorRowInfo

/-- The widgets a cursor panel row points to. -/
def CursorOptInfo.handles (row : CursorOptInfo) : List Nat :=
  [row.delBt, row.gotoBt, row.infoLabel].reduceOption

theorem CursorOptInfo.handles_eq (row : CursorOptInfo) :
    row.handles = row.delBt.toList ++ row.gotoBt.toList ++ row.infoLabel.toList := by
  rcases row with ⟨delBt, gotoBt, infoLabel, _⟩
  cases delBt <;> cases gotoBt <;> cases infoLabel <;> rfl

namespace RowListItem

/-- What `get_mode_rows` does to the rows of another mode: widget pointers are cleared and the
cursor panel rows are dropped. -/
def detach (rows : RowListItem) : RowListItem :=
  ⟨rows.distRowList.map CursorRowInfo.detach, rows.edgeRowList.map CursorRowInfo.detach, []⟩

/-- The widgets the rows of one mode point to. -/
def handles (rows : RowListItem) : List Nat :=
  rows.distRowList.flatMap CursorRowInfo.handles ++ rows.edgeRowList.flatMap CursorRowInfo.handles ++
    rows.optRowList.flatMap CursorOptInfo.handles

@[simp]
theorem detach_detach (rows : RowListItem) : rows.detach.detach = rows.detach := by
  simp [detach, Function.comp_def]

@[simp]
theorem handles_detach (rows : RowListItem) : rows.detach.handles = [] := by
  simp [detach, handles]

end RowListItem

/-- The slot `get_mode_rows` uses for a work mode. -/
def modeIndex : WorkMode → Fin 3
  | .logic => 0
  | .dso => 1
  | .analog => 2
  | .other _ => 0

namespace MeasureDock

/-- `get_mode_rows`: the rows of every mode but the active one are detached; the active
mode's slot is `modeIndex mode`. -/
def getModeRows (dock : MeasureDock) (mode : WorkMode) : MeasureDock :=
  { dock with
    modeRows := fun i => if i = modeIndex mode then dock.modeRows i else (dock.modeRows i).detach }

/-- Write back the rows of one slot. -/
def setRows (dock : MeasureDock) (slot : Fin 3) (rows : RowListItem) : MeasureDock :=
  { dock with modeRows := Function.update dock.modeRows slot rows }

@[simp]
theorem getModeRows_active (dock : MeasureDock) (mode : WorkMode) :
    (dock.getModeRows mode).modeRows (modeIndex mode) = dock.modeRows (modeIndex mode) := by
  simp [getModeRows]

theorem getModeRows_other (dock : MeasureDock) {mode : WorkMode} {slot : Fin 3}
    (other : slot ≠ modeIndex mode) :
    (dock.getModeRows mode).modeRows slot = (dock.modeRows slot).detach := by
  simp [getModeRows, other]

@[simp]
theorem getModeRows_widgets (dock : MeasureDock) (mode : WorkMode) :
    (dock.getModeRows mode).widgets = dock.widgets := rfl

@[simp]
theorem getModeRows_viewQueries (dock : MeasureDock) (mode : WorkMode) :
    (dock.getModeRows mode).viewQueries = dock.viewQueries := rfl

@[simp]
theorem getModeRows_getModeRows (dock : MeasureDock) (mode : WorkMode) :
    (dock.getModeRows mode).getModeRows mode = dock.getModeRows mode := by
  simp only [getModeRows, MeasureDock.mk.injEq, and_true, true_and]
  funext i
  split <;> simp_all

/-- `get_mode_rows` does not read the widgets. -/
theorem getModeRows_withWidgets (dock : MeasureDock) (widgets : Widgets) (mode : WorkMode) :
    ({ dock with widgets := widgets } : MeasureDock).getModeRows mode =
      { dock.getModeRows mode with widgets := widgets } := rfl

theorem setRows_withWidgets (dock : MeasureDock) (widgets : Widgets) (slot : Fin 3)
    (rows : RowListItem) :
    ({ dock with widgets := widgets } : MeasureDock).setRows slot rows =
      { dock.setRows slot rows with widgets := widgets } := rfl

@[simp]
theorem setRows_same (dock : MeasureDock) (slot : Fin 3) (rows : RowListItem) :
    (dock.setRows slot rows).modeRows slot = rows := by
  simp [setRows]

theorem setRows_other (dock : MeasureDock) {slot other : Fin 3} (rows : RowListItem)
    (differ : other ≠ slot) : (dock.setRows slot rows).modeRows other = dock.modeRows other := by
  simp [setRows, differ]

@[simp]
theorem setRows_widgets (dock : MeasureDock) (slot : Fin 3) (rows : RowListItem) :
    (dock.setRows slot rows).widgets = dock.widgets := rfl

@[simp]
theorem setRows_viewQueries (dock : MeasureDock) (slot : Fin 3) (rows : RowListItem) :
    (dock.setRows slot rows).viewQueries = dock.viewQueries := rfl

end MeasureDock

end DSView
