import DSView.Owner

/-!
# Deleting a marker

`del_cursor` removes the marker of the clicked cursor panel row from the view and runs
`cursor_update`, whose `update_dist` and `update_edge` clear only the references above the new
marker count.  A row keeps a reference by its number, so after the marker at position `k` of `N`
is removed a reference `c` reads position `c - 1` of the shorter list: below the removed number
that is the marker it read before, from the removed number on it is the marker after it, and only
the references to `N` are cleared.
-/

namespace DSView

namespace MeasureDock

variable {v v' : View} {dock dock' : MeasureDock}

/-- `build_cursor_pannel` changes no distance or edge row. -/
@[simp]
theorem buildCursorPannel_rows (v : View) (dock : MeasureDock) :
    ((dock.buildCursorPannel v).modeRows (modeIndex v.workMode)).distRowList =
        (dock.modeRows (modeIndex v.workMode)).distRowList ∧
      ((dock.buildCursorPannel v).modeRows (modeIndex v.workMode)).edgeRowList =
        (dock.modeRows (modeIndex v.workMode)).edgeRowList := by
  simp [buildCursorPannel, setRows_same]

/-- `cursor_update` refreshes the active distance and edge rows. -/
theorem cursorUpdate_rows (h : dock.cursorUpdate v = some dock') :
    (dock'.modeRows (modeIndex v.workMode)).distRowList =
        refreshRows v.cursorList.length (dock.modeRows (modeIndex v.workMode)).distRowList ∧
      (dock'.modeRows (modeIndex v.workMode)).edgeRowList =
        refreshRows v.cursorList.length (dock.modeRows (modeIndex v.workMode)).edgeRowList := by
  simp only [cursorUpdate, Option.map_eq_some', Option.bind_eq_bind, Option.bind_eq_some] at h
  obtain ⟨edge, ⟨dist, first, second⟩, rfl⟩ := h
  rw [(buildCursorPannel_rows v edge).1, (buildCursorPannel_rows v edge).2, updateEdge_rows second,
    updateDist_rows first]
  exact ⟨rfl, rfl⟩

/-- `del_cursor` refreshes the active distance and edge rows against the view it leaves. -/
theorem delCursor_rows {src : Nat} (h : dock.delCursor v src = some (v', dock')) :
    v'.workMode = v.workMode ∧
      (dock'.modeRows (modeIndex v.workMode)).distRowList =
        refreshRows v'.cursorList.length (dock.modeRows (modeIndex v.workMode)).distRowList ∧
      (dock'.modeRows (modeIndex v.workMode)).edgeRowList =
        refreshRows v'.cursorList.length (dock.modeRows (modeIndex v.workMode)).edgeRowList := by
  simp only [delCursor, Option.map_eq_some', Prod.mk.injEq] at h
  obtain ⟨dock'', update, rfl, rfl⟩ := h
  have mode := delCursorView_workMode v src dock
  refine ⟨mode, ?_⟩
  have rows := cursorUpdate_rows update
  rw [mode, getModeRows_active] at rows
  exact rows

end MeasureDock

/-- When marker `k` (counting from `0`) is removed, position `c - 1` of the shorter list holds
the marker that stood at `c - 1` when `c ≤ k`, and the one that stood at `c` otherwise. -/
theorem designates_eraseIdx (cursors : List Cursor) (k c : Nat) (positive : 0 < c) :
    (cursors.eraseIdx k)[c - 1]? = cursors[if c ≤ k then c - 1 else c]? := by
  rw [List.getElem?_eraseIdx]
  split_ifs <;> first | rfl | (congr 1; omega)

/-- When `del_cursor` removes the marker at position `k` of the `N` markers, the active distance
and edge rows are refreshed against `N - 1` markers: up to the first row without widgets, a
reference is cleared when it is above `N - 1` and keeps its number otherwise.  A kept reference
`c` then reads the marker that stood at position `c - 1` when `c ≤ k`, and the one after it
otherwise. -/
theorem delCursor_shifts_refs (v : View) (dock : MeasureDock) (src k : Nat) {v' : View}
    {dock' : MeasureDock} (h : dock.delCursor v src = some (v', dock'))
    (present : k < v.cursorList.length) (removed : v'.cursorList = v.cursorList.eraseIdx k) :
    (dock'.modeRows (modeIndex v.workMode)).distRowList =
        refreshRows (v.cursorList.length - 1) (dock.modeRows (modeIndex v.workMode)).distRowList ∧
      (dock'.modeRows (modeIndex v.workMode)).edgeRowList =
        refreshRows (v.cursorList.length - 1) (dock.modeRows (modeIndex v.workMode)).edgeRowList ∧
      ∀ c : Nat, 0 < c → v'.cursorList[c - 1]? = v.cursorList[if c ≤ k then c - 1 else c]? := by
  obtain ⟨-, dist, edge⟩ := MeasureDock.delCursor_rows h
  rw [removed, List.length_eraseIdx_of_lt present] at dist edge
  exact ⟨dist, edge, fun c positive => removed ▸ designates_eraseIdx _ k c positive⟩

/-- Two markers and one distance row bound to markers 1 and 2, with the cursor panel built;
the delete button of the first marker's panel row is widget 8. -/
theorem delCursor_shifts_refs_first :
    ∃ (s : System) (v' : View) (dock' : MeasureDock), Reachable 2 s ∧
      s.dock.delCursor s.view 8 = some (v', dock') ∧ v'.cursorList = s.view.cursorList.eraseIdx 0 ∧
      (dock'.modeRows (modeIndex s.view.workMode)).distRowList =
        refreshRows (s.view.cursorList.length - 1)
          (s.dock.modeRows (modeIndex s.view.workMode)).distRowList := by
  have reach := (Reachable.init View.twoMarkers).run (show System.run 2
    [.selectCursor 1 0, .selectCursor 2 1, .reload] (System.init 2 View.twoMarkers) = some _ from rfl)
  exact ⟨_, _, _, reach, rfl, rfl,
    And.left (delCursor_shifts_refs _ _ 8 0 (by exact rfl) (by decide) (by exact rfl))⟩

/-- Deleting the first of two markers from a row bound to markers 1 and 2 keeps the reference 1,
which now reads the second marker, and clears the reference 2 to the surviving marker. -/
theorem delCursor_keeps_removed_ref :
    ∃ s : System, Reachable 2 s ∧
      (s.dock.modeRows 0).distRowList.map CursorRowInfo.rowData = [(1, 2, 0)] ∧
      (s.dock.delCursor s.view 8).map (fun result =>
        (result.1.cursorList, (result.2.modeRows 0).distRowList.map CursorRowInfo.rowData)) =
          some ([⟨1, 5000⟩], [(1, -1, 0)]) :=
  ⟨_, (Reachable.init View.twoMarkers).run (show System.run 2
    [.selectCursor 1 0, .selectCursor 2 1, .reload] (System.init 2 View.twoMarkers) = some _ from rfl),
    by decide, by decide⟩

end DSView
