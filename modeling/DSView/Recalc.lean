import DSView.Frame
import DSView.Owner

/-!
# Recomputing twice

`reCalc` runs `update_dist`, `update_edge` and `update_cursor_info`.  None of them reads a text
it writes, and after a first run no reference is above the marker count any more, so a second
run in the same view clears nothing, scans the same channels and writes only texts the first run
wrote.  Since the rows of a mode point to distinct widgets, each of those texts is already in
place, and the second run changes nothing the dock shows.
-/

namespace DSView

namespace MeasureDock

/-- What the dock shows: the rows of every mode and the widgets.  The record of the positions
passed to the view is left out. -/
def shown (dock : MeasureDock) : (Fin 3 → RowListItem) × Widgets := (dock.modeRows, dock.widgets)

/-- Every mode but the active one is detached. -/
def Settled (mode : WorkMode) (dock : MeasureDock) : Prop :=
  ∀ slot ≠ modeIndex mode, (dock.modeRows slot).detach = dock.modeRows slot

variable {mode : WorkMode} {v : View} {dock dock' e : MeasureDock}

theorem Detaches.settled (detaches : Detaches mode dock dock') : Settled mode dock' :=
  fun slot other => by rw [detaches slot other, RowListItem.detach_detach]

theorem getModeRows_settled (settled : Settled mode e) : e.getModeRows mode = e := by
  have rows : (e.getModeRows mode).modeRows = e.modeRows := funext fun slot => by
    by_cases active : slot = modeIndex mode
    · subst active
      exact getModeRows_active e mode
    · rw [getModeRows_other _ active, settled slot active]
  exact congrArg (fun rows => ({ e with modeRows := rows } : MeasureDock)) rows

/-- On a settled dock, writing back the active rows changes no rows. -/
theorem setActive_settled (settled : Settled mode e) (widgets : Widgets) (queries : List ViewQuery) :
    { (e.getModeRows mode).setRows (modeIndex mode) (e.modeRows (modeIndex mode)) with
      widgets := widgets, viewQueries := queries } =
      { e with widgets := widgets, viewQueries := queries } := by
  rw [getModeRows_settled settled]
  simp [setRows]

/-! ## Each pass again -/

/-- A second `update_dist` over the rows the first one left writes only texts the first one
wrote. -/
theorem updateDist_again (h : dock.updateDist v = some dock') :
    ∃ writes queries, dock'.widgets = dock.widgets.apply writes ∧
      List.Sublist (writes.map Prod.fst)
        ((dock.modeRows (modeIndex v.workMode)).distRowList.flatMap CursorRowInfo.handles) ∧
      dock'.modeRows (modeIndex v.workMode) = { dock.modeRows (modeIndex v.workMode) with
        distRowList := (dock'.modeRows (modeIndex v.workMode)).distRowList } ∧
      ∀ e : MeasureDock, Settled v.workMode e →
        (e.modeRows (modeIndex v.workMode)).distRowList =
          (dock'.modeRows (modeIndex v.workMode)).distRowList →
        ∃ again, (∀ w ∈ again, w ∈ writes) ∧ e.updateDist v =
          some { e with widgets := e.widgets.apply again, viewQueries := e.viewQueries ++ queries } := by
  obtain ⟨rows, writes, queries, loop, rfl⟩ := updateDist_eq_some_iff.mp h
  refine ⟨writes, queries, rfl, loop.keys_sublist fun _ _ _ start step => updateDistRow_keys start step,
    by simp, fun e settled same => ?_⟩
  obtain ⟨again, loop', sub⟩ := loop.again fun _ _ _ step =>
    ⟨by rw [updateDistRow_row step]; rfl, updateDistRow_again step⟩
  simp only [setRows_same] at same
  refine ⟨again, sub, updateDist_eq_some_iff.mpr ⟨rows, again, queries, same ▸ loop', ?_⟩⟩
  rw [← same]
  exact (setActive_settled settled _ _).symm

/-- A second `update_edge` over the rows the first one left, with selectors showing the same
entries, writes only texts the first one wrote. -/
theorem updateEdge_again (h : dock.updateEdge v = some dock') :
    ∃ writes queries, dock'.widgets = dock.widgets.apply writes ∧
      List.Sublist (writes.map Prod.fst)
        ((dock.modeRows (modeIndex v.workMode)).edgeRowList.flatMap CursorRowInfo.handles) ∧
      dock'.modeRows (modeIndex v.workMode) = { dock.modeRows (modeIndex v.workMode) with
        edgeRowList := (dock'.modeRows (modeIndex v.workMode)).edgeRowList } ∧
      ∀ e : MeasureDock, Settled v.workMode e →
        (e.modeRows (modeIndex v.workMode)).edgeRowList =
          (dock'.modeRows (modeIndex v.workMode)).edgeRowList →
        (∀ box, (e.widgets.get box).currentText = (dock.widgets.get box).currentText) →
        ∃ again, (∀ w ∈ again, w ∈ writes) ∧ e.updateEdge v =
          some { e with widgets := e.widgets.apply again, viewQueries := e.viewQueries ++ queries } := by
  obtain ⟨rows, writes, queries, loop, rfl⟩ := updateEdge_eq_some_iff.mp h
  refine ⟨writes, queries, rfl, loop.keys_sublist fun _ _ _ start step => updateEdgeRow_keys start step,
    by simp, fun e settled same texts => ?_⟩
  obtain ⟨again, loop', sub⟩ := loop.again fun _ _ _ step =>
    ⟨by rw [updateEdgeRow_row step]; rfl, updateEdgeRow_again texts step⟩
  simp only [setRows_same] at same
  refine ⟨again, sub, updateEdge_eq_some_iff.mpr ⟨rows, again, queries, same ▸ loop', ?_⟩⟩
  rw [← same]
  exact (setActive_settled settled _ _).symm

/-- A second `update_cursor_info` over the same cursor panel writes the same texts. -/
theorem updateCursorInfo_again (h : dock.updateCursorInfo v = some dock') :
    ∃ writes queries, dock'.widgets = dock.widgets.apply writes ∧
      List.Sublist (writes.map Prod.fst)
        ((dock.modeRows (modeIndex v.workMode)).optRowList.flatMap CursorOptInfo.handles) ∧
      dock'.modeRows (modeIndex v.workMode) = dock.modeRows (modeIndex v.workMode) ∧
      ∀ e : MeasureDock, Settled v.workMode e →
        (e.modeRows (modeIndex v.workMode)).optRowList =
          (dock.modeRows (modeIndex v.workMode)).optRowList →
        e.updateCursorInfo v =
          some { e with widgets := e.widgets.apply writes, viewQueries := e.viewQueries ++ queries } := by
  obtain ⟨fits, rfl⟩ := updateCursorInfo_eq_some h
  refine ⟨(cursorInfoWrites v 0 (dock.modeRows (modeIndex v.workMode)).optRowList).1,
    (cursorInfoWrites v 0 (dock.modeRows (modeIndex v.workMode)).optRowList).2, rfl,
    cursorInfoWrites_keys _ _ _, getModeRows_active _ _, fun e settled same => ?_⟩
  unfold updateCursorInfo
  simp only [getModeRows_settled settled, same]
  split_ifs with empty count
  · simp only [empty, cursorInfoWrites, Widgets.apply, List.append_nil]
  · exact absurd (fits.resolve_left empty) count
  · rfl

/-! ## The whole of `reCalc` -/

variable {limit : Nat} {once : MeasureDock}

theorem reCalc_eq_some (h : dock.reCalc v = some once) :
    ∃ dist edge, dock.updateDist v = some dist ∧ dist.updateEdge v = some edge ∧
      edge.updateCursorInfo v = some once := by
  simp only [reCalc, Option.bind_eq_bind, Option.bind_eq_some] at h
  obtain ⟨edge, ⟨dist, first, second⟩, third⟩ := h
  exact ⟨dist, edge, first, second, third⟩

/-- After `reCalc`, a second `reCalc` in the same view shows the same rows and texts. -/
theorem reCalc_again (inv : Inv limit dock) (h : dock.reCalc v = some once) :
    (once.reCalc v).map shown = some once.shown := by
  have settled : Settled v.workMode once := (detaches_reCalc h).settled
  obtain ⟨dist, edge, first, second, third⟩ := reCalc_eq_some h
  obtain ⟨distWrites, distQueries, distWidgets, distKeys, distRows, distStable⟩ := updateDist_again first
  obtain ⟨edgeWrites, edgeQueries, edgeWidgets, edgeKeys, edgeRows, edgeStable⟩ := updateEdge_again second
  obtain ⟨infoWrites, infoQueries, infoWidgets, infoKeys, infoRows, infoStable⟩ := updateCursorInfo_again third
  rw [distRows] at edgeKeys
  rw [edgeRows, distRows] at infoKeys
  -- The three passes wrote to distinct widgets of the active slot.
  have keys : List.Sublist ((distWrites ++ edgeWrites ++ infoWrites).map Prod.fst)
      (dock.modeRows (modeIndex v.workMode)).handles := by
    simp only [List.map_append, RowListItem.handles]
    exact (distKeys.append edgeKeys).append infoKeys
  have distinct := keys.nodup (inv.slots (modeIndex v.workMode)).distinct
  have whole : once.widgets = dock.widgets.apply (distWrites ++ edgeWrites ++ infoWrites) := by
    rw [infoWidgets, edgeWidgets, distWidgets, Widgets.apply_append, Widgets.apply_append]
  -- The second run, pass by pass.
  obtain ⟨distAgain, distSub, distRun⟩ := distStable once settled (by rw [infoRows, edgeRows])
  obtain ⟨edgeAgain, edgeSub, edgeRun⟩ := edgeStable { once with
      widgets := once.widgets.apply distAgain, viewQueries := once.viewQueries ++ distQueries } settled
    (by rw [infoRows]) fun box => by
      simp only [Widgets.apply_currentText, infoWidgets, edgeWidgets]
  have infoRun := infoStable { once with
      widgets := (once.widgets.apply distAgain).apply edgeAgain,
      viewQueries := once.viewQueries ++ distQueries ++ edgeQueries } settled (by rw [infoRows])
  simp only [reCalc, distRun, edgeRun, infoRun, Option.bind_eq_bind, Option.some_bind,
    Option.map_some', shown]
  rw [whole, Widgets.apply_apply_of_subset distinct fun w mem => by simp [distSub w mem],
    Widgets.apply_apply_of_subset distinct fun w mem => by simp [edgeSub w mem],
    Widgets.apply_apply_of_subset distinct fun w mem => by simp [mem]]

end MeasureDock

/-- Two distance rows, the first bound to marker 3 while three markers existed; then the third
marker is gone. -/
def System.staleRef : System :=
  System.after 2 View.threeMarkers [.addDistMeasure, .selectCursor 5 2, .changeView View.twoMarkers]

/-- In every reachable state and for every view, running `reCalc` twice shows the same rows,
references and texts as running it once: the second run clears no reference and rewrites no
text. -/
theorem reachable_reCalc_twice {limit : Nat} {s : System} (reach : Reachable limit s) (v : View) :
    (s.dock.reCalc v >>= MeasureDock.reCalc v).map MeasureDock.shown =
      (s.dock.reCalc v).map MeasureDock.shown := by
  cases first : s.dock.reCalc v with
  | none => rfl
  | some once => exact MeasureDock.reCalc_again reach.inv first

theorem reachable_reCalc_twice_stale :
    (System.staleRef.dock.modeRows 0).distRowList.map CursorRowInfo.rowData =
      [(3, -1, 0), (-1, -1, 0)] ∧ (System.staleRef.dock.widgets.get 5).text = "3" ∧
    (System.staleRef.dock.reCalc View.twoMarkers).map
        (fun dock => ((dock.modeRows 0).distRowList.map CursorRowInfo.rowData, (dock.widgets.get 5).text)) =
      some ([(-1, -1, 0), (-1, -1, 0)], "") ∧
    (System.staleRef.dock.reCalc View.twoMarkers >>= MeasureDock.reCalc View.twoMarkers).map
        MeasureDock.shown = (System.staleRef.dock.reCalc View.twoMarkers).map MeasureDock.shown :=
  ⟨by decide, by decide, by decide,
    reachable_reCalc_twice (Reachable.after rfl : Reachable 2 System.staleRef) View.twoMarkers⟩

end DSView
