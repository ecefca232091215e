import DSView.Invariant
import DSView.Distance

/-!
# Mode isolation

Every slot of the dock starts with `get_mode_rows`, which clears the widget pointers of the rows
of every mode but the active one and drops their cursor panel rows, and then changes only the
active mode's rows.  So while the device stays in one mode, the rows of the other modes keep
their data: the same rows in the same order, bound to the same markers and channels.

The row data of a slot is what `RowListItem.data` keeps: the references and the selector
position of each distance and edge row, in order.
-/

namespace DSView

/-- The data of the rows of one mode, without their widgets. -/
def RowListItem.data (rows : RowListItem) : List (Int × Int × Int) × List (Int × Int × Int) :=
  (rows.distRowList.map CursorRowInfo.rowData, rows.edgeRowList.map CursorRowInfo.rowData)

@[simp]
theorem RowListItem.data_detach (rows : RowListItem) : rows.detach.data = rows.data := by
  simp [RowListItem.data, RowListItem.detach, Function.comp_def]

namespace MeasureDock

/-- What a slot does to the rows of every mode but the active one: they are detached. -/
def Detaches (mode : WorkMode) (dock dock' : MeasureDock) : Prop :=
  ∀ slot ≠ modeIndex mode, dock'.modeRows slot = (dock.modeRows slot).detach

variable {mode : WorkMode} {limit : Nat} {v : View} {dock dock' : MeasureDock}

theorem Detaches.trans {middle : MeasureDock} (first : Detaches mode dock middle)
    (second : Detaches mode middle dock') : Detaches mode dock dock' := fun slot other => by
  rw [second slot other, first slot other, RowListItem.detach_detach]

theorem detaches_getModeRows (dock : MeasureDock) (mode : WorkMode) :
    Detaches mode dock (dock.getModeRows mode) :=
  fun _ other => getModeRows_other _ other

theorem detaches_setActive (dock : MeasureDock) (mode : WorkMode) (rows : RowListItem)
    (widgets : Widgets) (queries : List ViewQuery) :
    Detaches mode dock { (dock.getModeRows mode).setRows (modeIndex mode) rows with
      widgets := widgets, viewQueries := queries } := fun _ other =>
  (setRows_other _ rows other).trans (getModeRows_other _ other)

theorem detaches_buildDistPannel (dock : MeasureDock) (v : View) :
    Detaches v.workMode dock (dock.buildDistPannel v) := by
  simp only [buildDistPannel, getModeRows_active, getModeRows_widgets]
  exact detaches_setActive _ _ _ _ _

theorem detaches_buildEdgePannel (dock : MeasureDock) (v : View) :
    Detaches v.workMode dock (dock.buildEdgePannel v) := by
  simp only [buildEdgePannel, getModeRows_active, getModeRows_widgets]
  exact detaches_setActive _ _ _ _ _

theorem detaches_buildCursorPannel (dock : MeasureDock) (v : View) :
    Detaches v.workMode dock (dock.buildCursorPannel v) := by
  simp only [buildCursorPannel, getModeRows_active, getModeRows_widgets, getModeRows_viewQueries]
  exact detaches_setActive _ _ _ _ _

theorem detaches_addDistMeasure (dock : MeasureDock) (v : View) :
    Detaches v.workMode dock (dock.addDistMeasure limit v) := by
  unfold addDistMeasure
  dsimp only
  split_ifs
  · exact (detaches_setActive dock _ _ dock.widgets _).trans (detaches_buildDistPannel _ v)
  · exact detaches_getModeRows _ _

theorem detaches_addEdgeMeasure (dock : MeasureDock) (v : View) :
    Detaches v.workMode dock (dock.addEdgeMeasure limit v) := by
  unfold addEdgeMeasure
  dsimp only
  split_ifs
  · exact (detaches_setActive dock _ _ dock.widgets _).trans (detaches_buildEdgePannel _ v)
  · exact detaches_getModeRows _ _

theorem detaches_delDistMeasure (dock : MeasureDock) (v : View) (src : Nat) :
    Detaches v.workMode dock (dock.delDistMeasure v src) := by
  unfold delDistMeasure
  dsimp only
  split
  · exact (detaches_setActive dock _ _ dock.widgets _).trans (detaches_buildDistPannel _ v)
  · exact detaches_getModeRows _ _

theorem detaches_delEdgeMeasure (dock : MeasureDock) (v : View) (src : Nat) :
    Detaches v.workMode dock (dock.delEdgeMeasure v src) := by
  unfold delEdgeMeasure
  dsimp only
  split
  · exact (detaches_setActive dock _ _ dock.widgets _).trans (detaches_buildEdgePannel _ v)
  · exact detaches_getModeRows _ _

theorem detaches_updateDist (h : dock.updateDist v = some dock') : Detaches v.workMode dock dock' := by
  obtain ⟨rows, writes, queries, -, rfl⟩ := updateDist_eq_some_iff.mp h
  exact detaches_setActive _ _ _ _ _

theorem detaches_updateEdge (h : dock.updateEdge v = some dock') : Detaches v.workMode dock dock' := by
  obtain ⟨rows, writes, queries, -, rfl⟩ := updateEdge_eq_some_iff.mp h
  exact detaches_setActive _ _ _ _ _

theorem detaches_updateCursorInfo (h : dock.updateCursorInfo v = some dock') :
    Detaches v.workMode dock dock' := by
  obtain ⟨-, rfl⟩ := updateCursorInfo_eq_some h
  exact detaches_getModeRows _ _

theorem detaches_setSelCursor {selBtn : Nat} {text : String}
    (h : dock.setSelCursor v selBtn text = some dock') : Detaches v.workMode dock dock' := by
  unfold setSelCursor at h
  dsimp only at h
  split at h
  · exact (detaches_setActive dock _ _ _ _).trans (detaches_updateDist h)
  · split at h
    · exact (detaches_setActive dock _ _ _ _).trans (detaches_updateEdge h)
    · cases h

theorem detaches_cursorUpdate (h : dock.cursorUpdate v = some dock') :
    Detaches v.workMode dock dock' := by
  obtain ⟨updated, both, rfl⟩ := Option.map_eq_some'.mp h
  obtain ⟨dist, first, second⟩ := Option.bind_eq_some.mp both
  exact ((detaches_updateDist first).trans (detaches_updateEdge second)).trans
    (detaches_buildCursorPannel _ v)

theorem detaches_reCalc (h : dock.reCalc v = some dock') : Detaches v.workMode dock dock' := by
  obtain ⟨edged, both, third⟩ := Option.bind_eq_some.mp h
  obtain ⟨dist, first, second⟩ := Option.bind_eq_some.mp both
  exact ((detaches_updateDist first).trans (detaches_updateEdge second)).trans
    (detaches_updateCursorInfo third)

theorem detaches_delCursor {src : Nat} {v' : View} (h : dock.delCursor v src = some (v', dock')) :
    Detaches v.workMode dock dock' := by
  obtain ⟨updated, update, same⟩ := Option.map_eq_some'.mp h
  cases same
  have detaches := detaches_cursorUpdate update
  rw [delCursorView_workMode] at detaches
  exact (detaches_getModeRows _ _).trans detaches

theorem detaches_cursorMoving (h : dock.cursorMoving v = some dock') :
    Detaches v.workMode dock dock' := by
  obtain ⟨info, first, second⟩ := Option.bind_eq_some.mp h
  split at first
  · exact (detaches_updateCursorInfo first).trans (detaches_updateDist second)
  · cases first
    exact detaches_updateDist second

theorem detaches_reload (h : dock.reload v = some dock') : Detaches v.workMode dock dock' :=
  (((detaches_buildDistPannel _ v).trans (detaches_buildEdgePannel _ v)).trans
    (detaches_buildCursorPannel _ v)).trans (detaches_reCalc h)

theorem detaches_reStyle (h : dock.reStyle v = some dock') : Detaches v.workMode dock dock' := by
  unfold reStyle at h
  dsimp only at h
  split_ifs at h
  exact (detaches_getModeRows _ _).trans (detaches_updateDist h)

/-- Without markers the popup only shows a message. -/
theorem detaches_selectCursor {selBtn index : Nat} (h : dock.selectCursor v selBtn index = some dock') :
    dock' = dock ∨ Detaches v.workMode dock dock' := by
  unfold selectCursor at h
  split_ifs at h
  · exact .inl (Option.some.inj h).symm
  · exact .inr (detaches_setSelCursor h)

/-- Picking the current entry of a selector fires no signal. -/
theorem detaches_selectChannel {box position : Nat} (h : dock.selectChannel v box position = some dock') :
    dock' = dock ∨ Detaches v.workMode dock dock' := by
  unfold selectChannel onEdgeChannelSelected at h
  dsimp only at h
  split_ifs at h
  · exact .inl (Option.some.inj h).symm
  · exact .inr ((detaches_setActive _ _ _ _ _).trans (detaches_updateEdge h))

end MeasureDock

/-! ## Runs in one mode -/

/-- The rows of every mode but `slot` are those of `dock`, or those detached. -/
def Frame (slot : Fin 3) (dock dock' : MeasureDock) : Prop :=
  ∀ other ≠ slot, dock'.modeRows other = dock.modeRows other ∨
    dock'.modeRows other = (dock.modeRows other).detach

namespace Frame

variable {slot : Fin 3} {dock middle dock' : MeasureDock}

theorem refl (slot : Fin 3) (dock : MeasureDock) : Frame slot dock dock :=
  fun _ _ => .inl rfl

theorem trans (first : Frame slot dock middle) (second : Frame slot middle dock') :
    Frame slot dock dock' := fun other differ => by
  rcases first other differ with same | detached <;> rcases second other differ with same' | detached'
  · exact .inl (same'.trans same)
  · exact .inr (by rw [detached', same])
  · exact .inr (same'.trans detached)
  · exact .inr (by rw [detached', detached, RowListItem.detach_detach])

theorem of_detaches {mode : WorkMode} (detaches : MeasureDock.Detaches mode dock dock') :
    Frame (modeIndex mode) dock dock' := fun other differ => .inr (detaches other differ)

theorem of_same_or_detaches {mode : WorkMode}
    (h : dock' = dock ∨ MeasureDock.Detaches mode dock dock') : Frame (modeIndex mode) dock dock' :=
  h.elim (fun same => same ▸ refl _ _) of_detaches

end Frame

/-- Two markers in the oscilloscope mode. -/
def View.twoMarkersDso : View := { View.twoMarkers with workMode := .dso }

/-- The oscilloscope mode's distance row bound to markers 1 and 2, then the device switched to
the logic mode. -/
def System.dsoBound : System :=
  System.after 2 View.twoMarkersDso [.selectCursor 1 0, .selectCursor 2 1, .changeView View.twoMarkers]

namespace System

variable {limit : Nat} {e : Event} {s s' : System}

/-- One event changes only the rows of the mode that is active when it happens. -/
theorem step_frame (h : step limit e s = some s') :
    Frame (modeIndex s.view.workMode) s.dock s'.dock := by
  obtain ⟨v, dock⟩ := s
  cases e <;> simp only [step, Option.some.injEq, Option.map_eq_some'] at h
  case addDistMeasure => exact h ▸ .of_detaches (MeasureDock.detaches_addDistMeasure dock v)
  case delDistMeasure src => exact h ▸ .of_detaches (MeasureDock.detaches_delDistMeasure dock v src)
  case addEdgeMeasure => exact h ▸ .of_detaches (MeasureDock.detaches_addEdgeMeasure dock v)
  case delEdgeMeasure src => exact h ▸ .of_detaches (MeasureDock.detaches_delEdgeMeasure dock v src)
  case selectCursor =>
    obtain ⟨_, step, rfl⟩ := h; exact .of_same_or_detaches (MeasureDock.detaches_selectCursor step)
  case selectChannel =>
    obtain ⟨_, step, rfl⟩ := h; exact .of_same_or_detaches (MeasureDock.detaches_selectChannel step)
  case delCursor => obtain ⟨_, step, rfl⟩ := h; exact .of_detaches (MeasureDock.detaches_delCursor step)
  case cursorUpdate =>
    obtain ⟨_, step, rfl⟩ := h; exact .of_detaches (MeasureDock.detaches_cursorUpdate step)
  case cursorMoving =>
    obtain ⟨_, step, rfl⟩ := h; exact .of_detaches (MeasureDock.detaches_cursorMoving step)
  case reCalc => obtain ⟨_, step, rfl⟩ := h; exact .of_detaches (MeasureDock.detaches_reCalc step)
  case reload => obtain ⟨_, step, rfl⟩ := h; exact .of_detaches (MeasureDock.detaches_reload step)
  case reStyle => obtain ⟨_, step, rfl⟩ := h; exact .of_detaches (MeasureDock.detaches_reStyle step)
  case changeView => exact h ▸ .refl _ _

/-- Only a change of the view changes the device mode. -/
theorem step_workMode (h : step limit e s = some s') :
    s'.view.workMode = s.view.workMode ∨ ∃ view, e = .changeView view ∧ s'.view = view := by
  obtain ⟨v, dock⟩ := s
  cases e <;> simp only [step, Option.some.injEq, Option.map_eq_some'] at h
  case changeView view => exact .inr ⟨view, rfl, h ▸ rfl⟩
  case delCursor =>
    obtain ⟨_, step, rfl⟩ := h
    obtain ⟨_, _, rfl⟩ := Option.map_eq_some'.mp step
    exact .inl (MeasureDock.delCursorView_workMode _ _ _)
  all_goals first
    | (subst h; exact .inl rfl)
    | (obtain ⟨_, _, rfl⟩ := h; exact .inl rfl)

/-- A run during which the device stays in the mode of `slot` changes only that mode's rows. -/
theorem run_frame {slot : Fin 3} :
    ∀ {events : List Event} {s s' : System}, modeIndex s.view.workMode = slot →
      (∀ view, Event.changeView view ∈ events → modeIndex view.workMode = slot) →
      run limit events s = some s' → Frame slot s.dock s'.dock
  | [], _, _, _, _, h => by
    cases h
    exact .refl _ _
  | e :: events, s, s', active, stays, h => by
    obtain ⟨mid, first, rest⟩ := Option.bind_eq_some.mp h
    have mode : modeIndex mid.view.workMode = slot := by
      rcases step_workMode first with same | ⟨view, rfl, new⟩
      · rw [same, active]
      · rw [new]
        exact stays view (List.mem_cons_self _ _)
    exact (active ▸ step_frame first).trans
      (run_frame mode (fun view mem => stays view (List.mem_cons_of_mem _ mem)) rest)

/-- While the device stays in the mode of `slot`, every other mode keeps the data of its rows;
its rows are only detached. -/
theorem run_keeps_other_slots {slot : Fin 3} {events : List Event}
    (active : modeIndex s.view.workMode = slot)
    (stays : ∀ view, Event.changeView view ∈ events → modeIndex view.workMode = slot)
    (h : run limit events s = some s') :
    ∀ other ≠ slot, (s'.dock.modeRows other).data = (s.dock.modeRows other).data ∧
      (s'.dock.modeRows other = s.dock.modeRows other ∨
        s'.dock.modeRows other = (s.dock.modeRows other).detach) := fun other differ => by
  have frame := run_frame active stays h other differ
  refine ⟨?_, frame⟩
  rcases frame with same | detached
  · rw [same]
  · rw [detached, RowListItem.data_detach]

theorem run_keeps_other_slots_dso :
    ∃ s', run 2 [.addDistMeasure, .addEdgeMeasure, .reload] dsoBound = some s' ∧
      (dsoBound.dock.modeRows 1).data = ([(1, 2, 0)], []) ∧
      (s'.dock.modeRows 1).data = (dsoBound.dock.modeRows 1).data ∧
      (s'.dock.modeRows 1 = dsoBound.dock.modeRows 1 ∨
        s'.dock.modeRows 1 = (dsoBound.dock.modeRows 1).detach) ∧
      s'.dock.modeRows 1 ≠ dsoBound.dock.modeRows 1 := by
  have kept := run_keeps_other_slots rfl (by simp)
    (show run 2 [.addDistMeasure, .addEdgeMeasure, .reload] dsoBound = some _ from rfl) 1 (by decide)
  exact ⟨_, rfl, by decide, kept.1, kept.2, by decide⟩

end System

/-! ## The row cap -/

namespace MeasureDock

variable {limit : Nat}

/-- A panel build keeps the data of the active rows. -/
theorem buildDistPannel_data (dock : MeasureDock) (v : View) :
    ((dock.buildDistPannel v).modeRows (modeIndex v.workMode)).data =
      (dock.modeRows (modeIndex v.workMode)).data := by
  simp [buildDistPannel, RowListItem.data, buildRows_rowData buildDistRow_rowData]

theorem buildEdgePannel_data (dock : MeasureDock) (v : View) :
    ((dock.buildEdgePannel v).modeRows (modeIndex v.workMode)).data =
      (dock.modeRows (modeIndex v.workMode)).data := by
  simp [buildEdgePannel, RowListItem.data, buildRows_rowData (buildEdgeRow_rowData v.signals)]

/-- `add_dist_measure` appends one unset row to the active distance rows when there is room, and
changes no row data otherwise. -/
theorem addDistMeasure_data (dock : MeasureDock) (v : View) (slot : Fin 3) :
    ((dock.addDistMeasure limit v).modeRows slot).data =
      if slot = modeIndex v.workMode ∧ (dock.modeRows slot).distRowList.length < limit then
        ((dock.modeRows slot).distRowList.map CursorRowInfo.rowData ++ [(-1, -1, 0)],
          (dock.modeRows slot).edgeRowList.map CursorRowInfo.rowData)
      else (dock.modeRows slot).data := by
  by_cases active : slot = modeIndex v.workMode
  · subst active
    unfold addDistMeasure
    dsimp only
    simp only [getModeRows_active, true_and]
    split_ifs
    · rw [buildDistPannel_data]
      simp [RowListItem.data, CursorRowInfo.rowData, CursorRowInfo.unset]
    · rw [getModeRows_active]
  · rw [detaches_addDistMeasure dock v slot active, RowListItem.data_detach,
      if_neg fun both => active both.1]

/-- `add_edge_measure` appends one unset row to the active edge rows when there is room, and
changes no row data otherwise. -/
theorem addEdgeMeasure_data (dock : MeasureDock) (v : View) (slot : Fin 3) :
    ((dock.addEdgeMeasure limit v).modeRows slot).data =
      if slot = modeIndex v.workMode ∧ (dock.modeRows slot).edgeRowList.length < limit then
        ((dock.modeRows slot).distRowList.map CursorRowInfo.rowData,
          (dock.modeRows slot).edgeRowList.map CursorRowInfo.rowData ++ [(-1, -1, 0)])
      else (dock.modeRows slot).data := by
  by_cases active : slot = modeIndex v.workMode
  · subst active
    unfold addEdgeMeasure
    dsimp only
    simp only [getModeRows_active, true_and]
    split_ifs
    · rw [buildEdgePannel_data]
      simp [RowListItem.data, CursorRowInfo.rowData, CursorRowInfo.unset]
    · rw [getModeRows_active]
  · rw [detaches_addEdgeMeasure dock v slot active, RowListItem.data_detach,
      if_neg fun both => active both.1]

end MeasureDock

/-- The constructor's distance row and a second one, the first bound to markers 1 and 2: as many
distance rows as the cap of 2, and no edge row. -/
def System.distAtCap : System :=
  System.after 2 View.twoMarkers [.addDistMeasure, .selectCursor 5 0, .selectCursor 6 1]

/-- In every reachable state each mode holds at most `limit` distance rows and `limit` edge
rows, and adding a row appends one unset row to the active mode's list when it holds fewer than
`limit`, and leaves the data of every mode's rows as it was otherwise. -/
theorem reachable_rows_capped {limit : Nat} {s : System} (reach : Reachable limit s) :
    (∀ slot, (s.dock.modeRows slot).distRowList.length ≤ limit ∧
      (s.dock.modeRows slot).edgeRowList.length ≤ limit) ∧
    (∀ slot, ((s.dock.addDistMeasure limit s.view).modeRows slot).data =
      if slot = modeIndex s.view.workMode ∧ (s.dock.modeRows slot).distRowList.length < limit then
        ((s.dock.modeRows slot).distRowList.map CursorRowInfo.rowData ++ [(-1, -1, 0)],
          (s.dock.modeRows slot).edgeRowList.map CursorRowInfo.rowData)
      else (s.dock.modeRows slot).data) ∧
    (∀ slot, ((s.dock.addEdgeMeasure limit s.view).modeRows slot).data =
      if slot = modeIndex s.view.workMode ∧ (s.dock.modeRows slot).edgeRowList.length < limit then
        ((s.dock.modeRows slot).distRowList.map CursorRowInfo.rowData,
          (s.dock.modeRows slot).edgeRowList.map CursorRowInfo.rowData ++ [(-1, -1, 0)])
      else (s.dock.modeRows slot).data) :=
  ⟨fun slot => ⟨(reach.inv.slots slot).dist.length, (reach.inv.slots slot).edge.length⟩,
    MeasureDock.addDistMeasure_data s.dock s.view, MeasureDock.addEdgeMeasure_data s.dock s.view⟩

theorem reachable_rows_capped_at_cap :
    (∀ slot, (System.distAtCap.dock.modeRows slot).distRowList.length ≤ 2 ∧
      (System.distAtCap.dock.modeRows slot).edgeRowList.length ≤ 2) ∧
    (System.distAtCap.dock.modeRows 0).data = ([(1, 2, 0), (-1, -1, 0)], []) ∧
    ((System.distAtCap.dock.addDistMeasure 2 System.distAtCap.view).modeRows 0).data =
      ([(1, 2, 0), (-1, -1, 0)], []) ∧
    ((System.distAtCap.dock.addEdgeMeasure 2 System.distAtCap.view).modeRows 0).data =
      ([(1, 2, 0), (-1, -1, 0)], [(-1, -1, 0)]) := by
  have capped := reachable_rows_capped (Reachable.after rfl : Reachable 2 System.distAtCap)
  exact ⟨capped.1, by decide, (capped.2.1 0).trans (by decide), (capped.2.2 0).trans (by decide)⟩

end DSView
