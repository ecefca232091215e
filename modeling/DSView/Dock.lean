import DSView.Update

/-!
# The dock as a state machine

Every slot of `MeasureDock` that touches its rows is one event: the buttons of the row panels,
the marker popup, the channel selectors, the view's notifications and `reload`.  Between any
two events the view and the session may change in any way: markers appear, move and vanish,
channels are enabled and disabled, and the device mode switches.  A step is `none` when the
event cannot happen (a popup entry that does not exist) or when the slot ends the program (a
failed assertion or a null dereference).

The constructor builds the panels and ends with `add_dist_measure`; the reachable states are
the states after it and after any sequence of steps.
-/

namespace DSView

/-- What `set_sel_cursor` does to the row that owns the start or end button `selBtn`: the
reference behind the button becomes the number `text` shows. -/
def CursorRowInfo.assign (selBtn : Nat) (text : String) (o : CursorRowInfo) : CursorRowInfo :=
  if o.startBt = some selBtn then { o with cursor1 := qToInt text }
  else if o.endBt = some selBtn then { o with cursor2 := qToInt text } else o

namespace MeasureDock

/-- `set_sel_cursor` for the start or end button `selBtn`, with the text of the chosen popup
entry; it fails its assertion when no active row owns `selBtn`. -/
def setSelCursor (v : View) (selBtn : Nat) (text : String) (dock : MeasureDock) :
    Option MeasureDock :=
  let dock := dock.getModeRows v.workMode
  let slot := modeIndex v.workMode
  let rows := dock.modeRows slot
  let owns := fun (o : CursorRowInfo) => o.startBt = some selBtn ∨ o.endBt = some selBtn
  let assign := CursorRowInfo.assign selBtn text
  let widgets := dock.widgets.setText selBtn text
  match modifyFirst owns assign rows.distRowList with
  | some distRows =>
    updateDist v { dock.setRows slot { rows with distRowList := distRows } with widgets := widgets }
  | none =>
    match modifyFirst owns assign rows.edgeRowList with
    | some edgeRows =>
      updateEdge v { dock.setRows slot { rows with edgeRowList := edgeRows } with widgets := widgets }
    | none => none

/-- `popup_all_coursors` opened from `selBtn`, then `set_sel_cursor` from the popup entry at
`index`, whose text is `index + 1`.  Without markers only a message box appears. -/
def selectCursor (v : View) (selBtn index : Nat) (dock : MeasureDock) : Option MeasureDock :=
  if v.cursorList = [] then some dock
  else if v.cursorList.length ≤ index then none
  else dock.setSelCursor v selBtn (qNumber (index + 1))

/-- `on_edge_channel_selected`, sent by the selector `box`. -/
def onEdgeChannelSelected (v : View) (box : Nat) (dock : MeasureDock) : Option MeasureDock :=
  let dock := dock.getModeRows v.workMode
  let slot := modeIndex v.workMode
  let rows := dock.modeRows slot
  let index := (dock.widgets.get box).currentIndex
  let edgeRows := (modifyFirst (·.box = some box) (fun o => { o with channelIndex := index })
    rows.edgeRowList).getD rows.edgeRowList
  (dock.setRows slot { rows with edgeRowList := edgeRows }).updateEdge v

/-- The user picks entry `position` of the selector `box`; `currentIndexChanged` fires only when
the entry was not current. -/
def selectChannel (v : View) (box position : Nat) (dock : MeasureDock) : Option MeasureDock :=
  let widget := dock.widgets.get box
  if widget.items.length ≤ position then none
  else if (position : Int) = widget.currentIndex then some dock
  else { dock with widgets := dock.widgets.modify box (·.setCurrentIndex position) }
    |>.onEdgeChannelSelected v box

/-- `cursor_update`. -/
def cursorUpdate (v : View) (dock : MeasureDock) : Option MeasureDock :=
  (dock.updateDist v >>= updateEdge v).map (buildCursorPannel v)

/-- The view after `del_cursor` clicked on the delete button `src`: `View::del_cursor` on the
marker of the cursor panel row of `src`, then `show_cursors(false)` when no marker is left. -/
def delCursorView (v : View) (src : Nat) (dock : MeasureDock) : View :=
  let rows := (dock.getModeRows v.workMode).modeRows (modeIndex v.workMode)
  let v := match rows.optRowList.find? (fun row => decide (row.delBt = some src)) with
    | some row => { v with cursorList := viewDelCursor v.cursorList row.cursor }
    | none => v
  if v.cursorList = [] then { v with cursorsShown := false } else v

/-- `del_cursor`, clicked on the delete button `src` of the cursor panel; it changes the view's
marker list. -/
def delCursor (v : View) (src : Nat) (dock : MeasureDock) : Option (View × MeasureDock) :=
  let v' := delCursorView v src dock
  ((dock.getModeRows v.workMode).cursorUpdate v').map fun dock => (v', dock)

/-- Deleting a marker does not change the device mode. -/
theorem delCursorView_workMode (v : View) (src : Nat) (dock : MeasureDock) :
    (delCursorView v src dock).workMode = v.workMode := by
  unfold delCursorView
  dsimp only
  split_ifs <;> split <;> rfl

/-- `cursor_moving`. -/
def cursorMoving (v : View) (dock : MeasureDock) : Option MeasureDock :=
  (if v.cursorsShown then dock.updateCursorInfo v else some dock) >>= updateDist v

/-- `reCalc`. -/
def reCalc (v : View) (dock : MeasureDock) : Option MeasureDock :=
  dock.updateDist v >>= updateEdge v >>= updateCursorInfo v

/-- `reload`. -/
def reload (v : View) (dock : MeasureDock) : Option MeasureDock :=
  ((dock.buildDistPannel v).buildEdgePannel v |>.buildCursorPannel v).reCalc v

/-- `reStyle`: the delete button of every active row gets its icon again, which dereferences it,
then `update_dist`. -/
def reStyle (v : View) (dock : MeasureDock) : Option MeasureDock :=
  let dock := dock.getModeRows v.workMode
  let rows := dock.modeRows (modeIndex v.workMode)
  if (∀ o ∈ rows.distRowList, o.delBt ≠ none) ∧ (∀ o ∈ rows.edgeRowList, o.delBt ≠ none) ∧
      (∀ o ∈ rows.optRowList, o.delBt ≠ none) then dock.updateDist v
  else none

/-- The dock before its constructor adds the first distance row. -/
def empty : MeasureDock :=
  ⟨fun _ => ⟨[], [], []⟩, ⟨fun _ => .ofText "", 0⟩, []⟩

end MeasureDock

/-- The events of the dock and of its surroundings. -/
inductive Event
  | addDistMeasure
  | delDistMeasure (src : Nat)
  | addEdgeMeasure
  | delEdgeMeasure (src : Nat)
  | selectCursor (selBtn index : Nat)
  | selectChannel (box position : Nat)
  | delCursor (src : Nat)
  | cursorUpdate
  | cursorMoving
  | reCalc
  | reload
  | reStyle
  /-- Markers, channels, the device mode or the view's formatting change. -/
  | changeView (view : View)

/-- The dock together with the view and session it reads. -/
structure System where
  /-- The view and the session. -/
  view : View
  /-- The dock. -/
  dock : MeasureDock

namespace System

/-- One event, with the row cap `Max_Measure_Limits` as `limit`. -/
def step (limit : Nat) : Event → System → Option System
  | .addDistMeasure, ⟨v, dock⟩ => some ⟨v, dock.addDistMeasure limit v⟩
  | .delDistMeasure src, ⟨v, dock⟩ => some ⟨v, dock.delDistMeasure v src⟩
  | .addEdgeMeasure, ⟨v, dock⟩ => some ⟨v, dock.addEdgeMeasure limit v⟩
  | .delEdgeMeasure src, ⟨v, dock⟩ => some ⟨v, dock.delEdgeMeasure v src⟩
  | .selectCursor selBtn index, ⟨v, dock⟩ => (dock.selectCursor v selBtn index).map (⟨v, ·⟩)
  | .selectChannel box position, ⟨v, dock⟩ => (dock.selectChannel v box position).map (⟨v, ·⟩)
  | .delCursor src, ⟨v, dock⟩ => (dock.delCursor v src).map fun (v, dock) => ⟨v, dock⟩
  | .cursorUpdate, ⟨v, dock⟩ => (dock.cursorUpdate v).map (⟨v, ·⟩)
  | .cursorMoving, ⟨v, dock⟩ => (dock.cursorMoving v).map (⟨v, ·⟩)
  | .reCalc, ⟨v, dock⟩ => (dock.reCalc v).map (⟨v, ·⟩)
  | .reload, ⟨v, dock⟩ => (dock.reload v).map (⟨v, ·⟩)
  | .reStyle, ⟨v, dock⟩ => (dock.reStyle v).map (⟨v, ·⟩)
  | .changeView view, ⟨_, dock⟩ => some ⟨view, dock⟩

/-- A sequence of events. -/
def run (limit : Nat) : List Event → System → Option System
  | [], s => some s
  | e :: events, s => step limit e s >>= run limit events

/-- The dock after its constructor, in the view `v`. -/
def init (limit : Nat) (v : View) : System := ⟨v, MeasureDock.empty.addDistMeasure limit v⟩

end System

/-- The states reachable from the constructor. -/
inductive Reachable (limit : Nat) : System → Prop
  | init (v : View) : Reachable limit (System.init limit v)
  | step {s s' : System} (e : Event) :
      Reachable limit s → System.step limit e s = some s' → Reachable limit s'

end DSView
