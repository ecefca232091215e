import DSView.Markers
import DSView.Recalc
import DSView.Abstract

/-!
# The dock refines the measurement lists

The data of the dock's rows, `MeasureDock.model`, is a state of the machine of
`DSView.Abstract`.  Every event changes it by steps of that machine in the mode active when the
event happens, with the marker count of the view the event leaves: a panel build or a pass over
the cursor panel changes no data, an add or a delete click appends or removes one row, a marker
or a channel choice changes one row, and the refresh passes clear the references above the count
in the rows up to the first one without a start button.  The rows of the other modes are only
detached, which keeps their data.

So the row data of every reachable state is reachable in the abstract machine, and the
abstract invariant holds of it.
-/

namespace DSView

open Relation

/-! ## Rows and measurements -/

/-- The stale-reference rule is the abstract clearing rule: `-1` lies below every count. -/
theorem checkRef_eq_clearAbove (count : Nat) (ref : Int) :
    checkRef count ref = Abstract.clearAbove count ref := by
  unfold checkRef Abstract.clearAbove IsStale
  split_ifs <;> omega

@[simp]
theorem CursorRowInfo.rowData_refresh (count : Nat) (row : CursorRowInfo) :
    (row.refresh count).rowData = Abstract.clear count row.rowData := by
  simp only [refresh, rowData, Abstract.clear, checkRef_eq_clearAbove]

/-- The refresh loop clears the references above the count in a prefix of the rows. -/
theorem refreshRows_data (count : Nat) (rows : List CursorRowInfo) :
    ∃ k, (refreshRows count rows).map CursorRowInfo.rowData =
      ((rows.map CursorRowInfo.rowData).take k).map (Abstract.clear count) ++
        (rows.map CursorRowInfo.rowData).drop k := by
  induction rows with
  | nil => exact ⟨0, rfl⟩
  | cons inf rest ih =>
    cases start : inf.startBt with
    | none => exact ⟨0, by simp [refreshRows, start]⟩
    | some _ =>
      obtain ⟨k, rest_eq⟩ := ih
      exact ⟨k + 1, by simp [refreshRows, start, rest_eq]⟩

section ListSteps

variable {limit count : Nat} {rows rows' : List CursorRowInfo}

theorem listStep_refreshRows (rows : List CursorRowInfo) :
    Abstract.ListStep limit count (rows.map CursorRowInfo.rowData)
      ((refreshRows count rows).map CursorRowInfo.rowData) := by
  obtain ⟨k, refreshed⟩ := refreshRows_data count rows
  rw [refreshed]
  exact .clear _ k

theorem listStep_eraseFirst {p : CursorRowInfo → Prop} [DecidablePred p]
    (h : eraseFirst p rows = some rows') :
    Abstract.ListStep limit count (rows.map CursorRowInfo.rowData) (rows'.map CursorRowInfo.rowData) := by
  obtain ⟨before, o, after, rfl, -, rfl⟩ := eraseFirst_eq_some h
  simp only [List.map_append, List.map_cons]
  exact .erase _ _ _

/-- `set_sel_cursor` from the popup entry at `index` binds one end of the row owning `selBtn` to
the marker `index + 1`. -/
theorem listStep_assign {selBtn index : Nat} (present : index < count)
    (h : modifyFirst (fun o => o.startBt = some selBtn ∨ o.endBt = some selBtn)
      (CursorRowInfo.assign selBtn (qNumber (index + 1))) rows = some rows') :
    Abstract.ListStep limit count (rows.map CursorRowInfo.rowData) (rows'.map CursorRowInfo.rowData) := by
  obtain ⟨before, o, after, rfl, owns, rfl⟩ := modifyFirst_eq_some h
  have first : (1 : Int) ≤ index + 1 := by omega
  have last : (index : Int) + 1 ≤ count := by omega
  simp only [List.map_append, List.map_cons, CursorRowInfo.assign_qNumber]
  split_ifs with start finish
  · exact .bindStart _ _ o.rowData first last
  · exact .bindEnd _ _ o.rowData first last
  · exact (owns.elim start finish).elim

theorem listStep_channel {box position : Nat}
    (h : modifyFirst (·.box = some box) (fun o => { o with channelIndex := (position : Int) }) rows =
      some rows') :
    Abstract.ListStep limit count (rows.map CursorRowInfo.rowData) (rows'.map CursorRowInfo.rowData) := by
  obtain ⟨before, o, after, rfl, -, rfl⟩ := modifyFirst_eq_some h
  simp only [List.map_append, List.map_cons]
  exact .channel _ _ o.rowData position

end ListSteps

/-! ## The model of a dock -/

namespace MeasureDock

/-- The state of the abstract machine a dock is in: the data of its rows. -/
def model (dock : MeasureDock) : Abstract.Rows := fun slot => (dock.modeRows slot).data

theorem model_empty : empty.model = Abstract.empty := rfl

variable {limit count : Nat} {mode : WorkMode} {slot : Fin 3} {v : View} {dock dock' : MeasureDock}

theorem model_eq_update (detaches : Detaches mode dock dock') :
    dock'.model =
      Function.update dock.model (modeIndex mode) (dock'.modeRows (modeIndex mode)).data := by
  funext other
  by_cases active : other = modeIndex mode
  · subst active
    rw [Function.update_same]
    rfl
  · rw [Function.update_noteq active]
    exact (congrArg RowListItem.data (detaches other active)).trans (RowListItem.data_detach _)

/-- Rows written back with their data change nothing. -/
theorem update_model_self {rows : RowListItem} (same : rows.data = (dock.modeRows slot).data) :
    Function.update dock.model slot rows.data = dock.model := by
  rw [same]
  exact Function.update_eq_self _ _

theorem model_eq_of_detaches (detaches : Detaches mode dock dock')
    (same : (dock'.modeRows (modeIndex mode)).data = (dock.modeRows (modeIndex mode)).data) :
    dock'.model = dock.model := by
  rw [model_eq_update detaches, update_model_self same]

@[simp]
theorem model_getModeRows (dock : MeasureDock) (mode : WorkMode) :
    (dock.getModeRows mode).model = dock.model :=
  model_eq_of_detaches (detaches_getModeRows dock mode) (by rw [getModeRows_active])

theorem model_setRows (dock : MeasureDock) (slot : Fin 3) (rows : RowListItem) :
    (dock.setRows slot rows).model = Function.update dock.model slot rows.data := by
  funext other
  by_cases same : other = slot
  · subst same
    rw [Function.update_same]
    exact congrArg RowListItem.data (setRows_same _ _ _)
  · rw [Function.update_noteq same]
    exact congrArg RowListItem.data (setRows_other _ _ same)

theorem model_setActive (dock : MeasureDock) (mode : WorkMode) (rows : RowListItem)
    (widgets : Widgets) :
    ({ (dock.getModeRows mode).setRows (modeIndex mode) rows with widgets := widgets } :
      MeasureDock).model = Function.update dock.model (modeIndex mode) rows.data := by
  rw [← model_getModeRows dock mode]
  exact model_setRows _ _ rows

/-- A step of the active distance list, the edge list kept, is a step of the machine. -/
theorem modelStep_dist {rows : RowListItem}
    (step : Abstract.ListStep limit count ((dock.modeRows slot).distRowList.map CursorRowInfo.rowData)
      (rows.distRowList.map CursorRowInfo.rowData))
    (edge : rows.edgeRowList = (dock.modeRows slot).edgeRowList) :
    Abstract.ModelStep limit slot count dock.model (Function.update dock.model slot rows.data) := by
  rw [show rows.data = (rows.distRowList.map CursorRowInfo.rowData, (dock.model slot).2) by
    rw [RowListItem.data, edge]; rfl]
  exact .dist step

/-- A step of the active edge list, the distance list kept, is a step of the machine. -/
theorem modelStep_edge {rows : RowListItem}
    (step : Abstract.ListStep limit count ((dock.modeRows slot).edgeRowList.map CursorRowInfo.rowData)
      (rows.edgeRowList.map CursorRowInfo.rowData))
    (dist : rows.distRowList = (dock.modeRows slot).distRowList) :
    Abstract.ModelStep limit slot count dock.model (Function.update dock.model slot rows.data) := by
  rw [show rows.data = ((dock.model slot).1, rows.edgeRowList.map CursorRowInfo.rowData) by
    rw [RowListItem.data, dist]; rfl]
  exact .edge step

/-! ## Each slot -/

theorem buildDistPannel_model (dock : MeasureDock) (v : View) :
    (dock.buildDistPannel v).model = dock.model :=
  model_eq_of_detaches (detaches_buildDistPannel dock v) (buildDistPannel_data dock v)

theorem buildEdgePannel_model (dock : MeasureDock) (v : View) :
    (dock.buildEdgePannel v).model = dock.model :=
  model_eq_of_detaches (detaches_buildEdgePannel dock v) (buildEdgePannel_data dock v)

theorem buildCursorPannel_model (dock : MeasureDock) (v : View) :
    (dock.buildCursorPannel v).model = dock.model :=
  model_eq_of_detaches (detaches_buildCursorPannel dock v) (by
    rw [RowListItem.data, (buildCursorPannel_rows v dock).1, (buildCursorPannel_rows v dock).2]
    rfl)

theorem updateCursorInfo_model (h : dock.updateCursorInfo v = some dock') : dock'.model = dock.model := by
  obtain ⟨-, rfl⟩ := updateCursorInfo_eq_some h
  exact model_getModeRows dock v.workMode

theorem updateDist_refines (h : dock.updateDist v = some dock') :
    Abstract.ModelStep limit (modeIndex v.workMode) v.cursorList.length dock.model dock'.model := by
  rw [model_eq_update (detaches_updateDist h), updateDist_rows h]
  exact modelStep_dist (listStep_refreshRows _) rfl

theorem updateEdge_refines (h : dock.updateEdge v = some dock') :
    Abstract.ModelStep limit (modeIndex v.workMode) v.cursorList.length dock.model dock'.model := by
  rw [model_eq_update (detaches_updateEdge h), updateEdge_rows h]
  exact modelStep_edge (listStep_refreshRows _) rfl

theorem addDistMeasure_refines (dock : MeasureDock) (v : View) :
    ReflTransGen (Abstract.ModelStep limit (modeIndex v.workMode) count) dock.model
      (dock.addDistMeasure limit v).model := by
  have data : ((dock.addDistMeasure limit v).modeRows (modeIndex v.workMode)).data = _ :=
    addDistMeasure_data dock v (modeIndex v.workMode)
  by_cases room : (dock.modeRows (modeIndex v.workMode)).distRowList.length < limit
  · rw [if_pos ⟨rfl, room⟩] at data
    rw [model_eq_update (detaches_addDistMeasure dock v), data]
    exact .single (.dist (.add (by simpa [model, RowListItem.data] using room)))
  · rw [if_neg fun both => room both.2] at data
    rw [model_eq_of_detaches (detaches_addDistMeasure dock v) data]

theorem addEdgeMeasure_refines (dock : MeasureDock) (v : View) :
    ReflTransGen (Abstract.ModelStep limit (modeIndex v.workMode) count) dock.model
      (dock.addEdgeMeasure limit v).model := by
  have data : ((dock.addEdgeMeasure limit v).modeRows (modeIndex v.workMode)).data = _ :=
    addEdgeMeasure_data dock v (modeIndex v.workMode)
  by_cases room : (dock.modeRows (modeIndex v.workMode)).edgeRowList.length < limit
  · rw [if_pos ⟨rfl, room⟩] at data
    rw [model_eq_update (detaches_addEdgeMeasure dock v), data]
    exact .single (.edge (.add (by simpa [model, RowListItem.data] using room)))
  · rw [if_neg fun both => room both.2] at data
    rw [model_eq_of_detaches (detaches_addEdgeMeasure dock v) data]

theorem delDistMeasure_refines (dock : MeasureDock) (v : View) (src : Nat) :
    ReflTransGen (Abstract.ModelStep limit (modeIndex v.workMode) count) dock.model
      (dock.delDistMeasure v src).model := by
  unfold delDistMeasure
  simp only [getModeRows_active]
  split
  · next erased =>
    rw [buildDistPannel_model, model_setRows, model_getModeRows]
    exact .single (modelStep_dist (listStep_eraseFirst erased) rfl)
  · rw [model_getModeRows]

theorem delEdgeMeasure_refines (dock : MeasureDock) (v : View) (src : Nat) :
    ReflTransGen (Abstract.ModelStep limit (modeIndex v.workMode) count) dock.model
      (dock.delEdgeMeasure v src).model := by
  unfold delEdgeMeasure
  simp only [getModeRows_active]
  split
  · next erased =>
    rw [buildEdgePannel_model, model_setRows, model_getModeRows]
    exact .single (modelStep_edge (listStep_eraseFirst erased) rfl)
  · rw [model_getModeRows]

/-- A marker choice binds one end of one row, then refreshes that row's list. -/
theorem selectCursor_refines {selBtn index : Nat} (h : dock.selectCursor v selBtn index = some dock') :
    ReflTransGen (Abstract.ModelStep limit (modeIndex v.workMode) v.cursorList.length) dock.model
      dock'.model := by
  unfold selectCursor setSelCursor at h
  simp only [getModeRows_active, getModeRows_widgets] at h
  split_ifs at h with noMarkers full
  · cases h
    exact .refl
  split at h
  · next found =>
    refine .head ?_ (.single (updateDist_refines h))
    rw [model_setActive]
    exact modelStep_dist (listStep_assign (by omega) found) rfl
  · split at h
    · next found =>
      refine .head ?_ (.single (updateEdge_refines h))
      rw [model_setActive]
      exact modelStep_edge (listStep_assign (by omega) found) rfl
    · cases h

/-- A channel choice sets the position of the row owning the selector, then refreshes the edge
rows. -/
theorem selectChannel_refines {box position : Nat} (h : dock.selectChannel v box position = some dock') :
    ReflTransGen (Abstract.ModelStep limit (modeIndex v.workMode) v.cursorList.length) dock.model
      dock'.model := by
  unfold selectChannel onEdgeChannelSelected at h
  simp only [getModeRows_withWidgets, setRows_withWidgets, getModeRows_active] at h
  split_ifs at h with full same
  · cases h
    exact .refl
  refine .tail ?_ (updateEdge_refines h)
  rw [model_setActive, Widgets.modify_get_self, Widget.setCurrentIndex, if_pos ⟨by omega, by omega⟩]
  cases found : modifyFirst (·.box = some box) (fun o => { o with channelIndex := (position : Int) })
      (dock.modeRows (modeIndex v.workMode)).edgeRowList with
  | none => rw [Option.getD_none, update_model_self rfl]
  | some edgeRows => exact .single (modelStep_edge (listStep_channel found) rfl)

theorem cursorUpdate_refines (h : dock.cursorUpdate v = some dock') :
    ReflTransGen (Abstract.ModelStep limit (modeIndex v.workMode) v.cursorList.length) dock.model
      dock'.model := by
  obtain ⟨updated, both, rfl⟩ := Option.map_eq_some'.mp h
  obtain ⟨dist, first, second⟩ := Option.bind_eq_some.mp both
  rw [buildCursorPannel_model]
  exact .tail (.single (updateDist_refines first)) (updateEdge_refines second)

theorem reCalc_refines (h : dock.reCalc v = some dock') :
    ReflTransGen (Abstract.ModelStep limit (modeIndex v.workMode) v.cursorList.length) dock.model
      dock'.model := by
  obtain ⟨dist, edge, first, second, third⟩ := reCalc_eq_some h
  rw [updateCursorInfo_model third]
  exact .tail (.single (updateDist_refines first)) (updateEdge_refines second)

theorem reload_refines (h : dock.reload v = some dock') :
    ReflTransGen (Abstract.ModelStep limit (modeIndex v.workMode) v.cursorList.length) dock.model
      dock'.model := by
  have steps : ReflTransGen (Abstract.ModelStep limit _ _) _ _ := reCalc_refines h
  rwa [buildCursorPannel_model, buildEdgePannel_model, buildDistPannel_model] at steps

theorem cursorMoving_refines (h : dock.cursorMoving v = some dock') :
    ReflTransGen (Abstract.ModelStep limit (modeIndex v.workMode) v.cursorList.length) dock.model
      dock'.model := by
  obtain ⟨info, first, second⟩ := Option.bind_eq_some.mp h
  have same : info.model = dock.model := by
    split at first
    · exact updateCursorInfo_model first
    · cases first
      rfl
  exact .single (same ▸ updateDist_refines second)

theorem reStyle_refines (h : dock.reStyle v = some dock') :
    ReflTransGen (Abstract.ModelStep limit (modeIndex v.workMode) v.cursorList.length) dock.model
      dock'.model := by
  unfold reStyle at h
  dsimp only at h
  split_ifs at h
  exact .single (model_getModeRows dock v.workMode ▸ updateDist_refines h)

/-- Deleting a marker refreshes the active rows against the marker count it leaves. -/
theorem delCursor_refines {src : Nat} {v' : View} (h : dock.delCursor v src = some (v', dock')) :
    ReflTransGen (Abstract.ModelStep limit (modeIndex v.workMode) v'.cursorList.length) dock.model
      dock'.model := by
  obtain ⟨updated, update, same⟩ := Option.map_eq_some'.mp h
  cases same
  have steps : ReflTransGen (Abstract.ModelStep limit _ _) _ _ := cursorUpdate_refines update
  rwa [model_getModeRows, delCursorView_workMode] at steps

end MeasureDock

/-! ## Every event, every run -/

/-- Every event changes the row data by steps of the abstract machine in the mode active when it
happens, with the marker count of the view it leaves. -/
theorem System.step_refines {limit : Nat} {e : Event} {s s' : System}
    (h : System.step limit e s = some s') :
    ReflTransGen (Abstract.ModelStep limit (modeIndex s.view.workMode) s'.view.cursorList.length)
      s.dock.model s'.dock.model := by
  obtain ⟨v, dock⟩ := s
  cases e <;> simp only [System.step, Option.some.injEq, Option.map_eq_some'] at h
  case addDistMeasure => subst h; exact MeasureDock.addDistMeasure_refines dock v
  case delDistMeasure src => subst h; exact MeasureDock.delDistMeasure_refines dock v src
  case addEdgeMeasure => subst h; exact MeasureDock.addEdgeMeasure_refines dock v
  case delEdgeMeasure src => subst h; exact MeasureDock.delEdgeMeasure_refines dock v src
  case selectCursor => obtain ⟨_, step, rfl⟩ := h; exact MeasureDock.selectCursor_refines step
  case selectChannel => obtain ⟨_, step, rfl⟩ := h; exact MeasureDock.selectChannel_refines step
  case delCursor => obtain ⟨_, step, rfl⟩ := h; exact MeasureDock.delCursor_refines step
  case cursorUpdate => obtain ⟨_, step, rfl⟩ := h; exact MeasureDock.cursorUpdate_refines step
  case cursorMoving => obtain ⟨_, step, rfl⟩ := h; exact MeasureDock.cursorMoving_refines step
  case reCalc => obtain ⟨_, step, rfl⟩ := h; exact MeasureDock.reCalc_refines step
  case reload => obtain ⟨_, step, rfl⟩ := h; exact MeasureDock.reload_refines step
  case reStyle => obtain ⟨_, step, rfl⟩ := h; exact MeasureDock.reStyle_refines step
  case changeView => subst h; exact .refl

/-- The row data of every reachable state is reachable in the abstract machine. -/
theorem Reachable.abstract {limit : Nat} {s : System} (reach : Reachable limit s) :
    Abstract.Reachable limit s.dock.model := by
  induction reach with
  | init v =>
    have add : ReflTransGen (Abstract.ModelStep limit (modeIndex v.workMode) 0)
        MeasureDock.empty.model _ := MeasureDock.addDistMeasure_refines MeasureDock.empty v
    exact (MeasureDock.model_empty ▸ Abstract.Reachable.empty).steps add
  | step _ _ h ih => exact ih.steps (System.step_refines h)

/-- The cap and the reference rule of every reachable state follow from the abstract machine. -/
theorem Reachable.rowsOk {limit : Nat} {s : System} (reach : Reachable limit s) :
    Abstract.RowsOk limit s.dock.model :=
  reach.abstract.rowsOk

/-- Every reachable state refines the abstract machine: its row data is reachable there from no
measurement, so it satisfies the abstract invariant (every list within the cap, every reference
unset or a marker number), and every event from it changes the row data by steps of the mode
active when the event happens, with the marker count of the view the event leaves. -/
theorem reachable_refines_abstract {limit : Nat} {s : System} (reach : Reachable limit s) :
    Abstract.Reachable limit s.dock.model ∧ Abstract.RowsOk limit s.dock.model ∧
      ∀ e s', System.step limit e s = some s' →
        ReflTransGen (Abstract.ModelStep limit (modeIndex s.view.workMode) s'.view.cursorList.length)
          s.dock.model s'.dock.model :=
  ⟨reach.abstract, reach.rowsOk, fun _ _ => System.step_refines⟩

theorem reachable_refines_abstract_bind :
    (System.boundRows.dock.model 0).1 = [(1, 2, 0), (-1, -1, 0)] ∧
    Abstract.Reachable 2 System.boundRows.dock.model ∧ Abstract.RowsOk 2 System.boundRows.dock.model ∧
    ∃ s', System.step 2 (.selectCursor 9 1) System.boundRows = some s' ∧
      (s'.dock.model 0).1 = [(1, 2, 0), (2, -1, 0)] ∧
      ReflTransGen (Abstract.ModelStep 2 0 2) System.boundRows.dock.model s'.dock.model := by
  have refines := reachable_refines_abstract (Reachable.after rfl : Reachable 2 System.boundRows)
  exact ⟨by decide, refines.1, refines.2.1, _, rfl, by decide, refines.2.2 (.selectCursor 9 1) _ rfl⟩

end DSView
