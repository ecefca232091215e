import DSView.Invariant
import DSView.Owner

/-!
# What the refresh passes may rely on

In every reachable state the references the rows keep are unset or marker numbers, and a row
with a start button has the widgets the refresh passes dereference.  So `update_dist` and
`update_edge` never dereference a null pointer, whatever the view looks like when they run, and
every marker position the dock has passed to the view named an existing marker: a reference
above the marker count is cleared before any position is computed from it.
-/

namespace DSView

variable {limit : Nat} {s : System}

/-- In every reachable state, stored references are `-1` or at least `1`, a row with a start
button has its end button, its label and, for an edge row, its selector, and every position the
dock passed to `get_cursor_samples`, `get_cm_delta` or `get_cm_time` was below the number of
markers at that call. -/
theorem reachable_refs_valid (reach : Reachable limit s) :
    (∀ slot, ∀ o ∈ (s.dock.modeRows slot).distRowList ++ (s.dock.modeRows slot).edgeRowList,
      RefValid o.cursor1 ∧ RefValid o.cursor2) ∧
    (∀ slot, ∀ o ∈ (s.dock.modeRows slot).distRowList,
      o.startBt ≠ none → o.endBt ≠ none ∧ o.rLabel ≠ none) ∧
    (∀ slot, ∀ o ∈ (s.dock.modeRows slot).edgeRowList,
      o.startBt ≠ none → o.endBt ≠ none ∧ o.rLabel ≠ none ∧ o.box ≠ none) ∧
    ∀ q ∈ s.dock.viewQueries, 0 ≤ q.index ∧ q.index < q.count := by
  have inv := reach.inv
  refine ⟨fun slot o mem => ?_, fun slot o mem built => ?_, fun slot o mem built => ?_, inv.queries⟩
  · rcases List.mem_append.mp mem with dist | edge
    · have row := ((inv.slots slot).dist.each o dist).1
      exact ⟨row.cursor1, row.cursor2⟩
    · have row := ((inv.slots slot).edge.each o edge).1
      exact ⟨row.cursor1, row.cursor2⟩
  · have widgets := ((inv.slots slot).dist.each o mem).1.built built
    exact ⟨widgets.2.1, widgets.2.2.1⟩
  · have widgets := ((inv.slots slot).edge.each o mem).1.built built
    exact ⟨widgets.2.1, widgets.2.2.1, widgets.2.2.2 rfl⟩

theorem reachable_refs_valid_bound :
    (System.boundRows.dock.modeRows 0).distRowList.map CursorRowInfo.rowData =
      [(1, 2, 0), (-1, -1, 0)] ∧
    (System.boundRows.dock.modeRows 0).edgeRowList.map CursorRowInfo.rowData = [(1, 2, 1)] ∧
    System.boundRows.dock.viewQueries.map ViewQuery.index = [0, 1, 0, 1, 1, 0, 1, 0] ∧
    (∀ slot, ∀ o ∈ (System.boundRows.dock.modeRows slot).distRowList ++
        (System.boundRows.dock.modeRows slot).edgeRowList,
      RefValid o.cursor1 ∧ RefValid o.cursor2) ∧
    (∀ slot, ∀ o ∈ (System.boundRows.dock.modeRows slot).distRowList,
      o.startBt ≠ none → o.endBt ≠ none ∧ o.rLabel ≠ none) ∧
    (∀ slot, ∀ o ∈ (System.boundRows.dock.modeRows slot).edgeRowList,
      o.startBt ≠ none → o.endBt ≠ none ∧ o.rLabel ≠ none ∧ o.box ≠ none) ∧
    ∀ q ∈ System.boundRows.dock.viewQueries, 0 ≤ q.index ∧ q.index < q.count :=
  ⟨by decide, by decide, by decide, reachable_refs_valid (Reachable.after rfl)⟩

/-! ## No null widget -/

section Succeeds

variable {v : View} {store : Widgets} {inf : CursorRowInfo} {startBt : Nat}

theorem updateRows_isSome {body : CursorRowInfo → Nat → Option RowUpdate} :
    ∀ {rows : List CursorRowInfo}, (∀ inf ∈ rows, ∀ startBt, inf.startBt = some startBt →
      (body inf startBt).isSome) → (updateRows body rows).isSome
  | [], _ => rfl
  | inf :: rest, each => by
    cases start : inf.startBt with
    | none => simp [updateRows, start]
    | some startBt =>
      obtain ⟨update, first⟩ := Option.isSome_iff_exists.mp
        (each inf (List.mem_cons_self _ _) startBt start)
      obtain ⟨more, later⟩ := Option.isSome_iff_exists.mp
        (updateRows_isSome fun o mem => each o (List.mem_cons_of_mem _ mem))
      simp [updateRows, start, first, later]

theorem scanSignals_isSome (box : Nat) (cursor1 cursor2 : Int) :
    ∀ signals : List Signal, (scanSignals v store (some box) cursor1 cursor2 signals).isSome
  | [] => rfl
  | s :: signals => by
    have rest := scanSignals_isSome box cursor1 cursor2 signals
    obtain ⟨result, scan⟩ := Option.isSome_iff_exists.mp rest
    simp only [scanSignals]
    split_ifs
    · simp only [Option.bind_eq_bind, Option.some_bind]
      split_ifs
      · split <;> simp [scan]
      · exact rest
    · exact rest

theorem updateDistRow_isSome (row : inf.Ok false) (start : inf.startBt = some startBt) :
    (updateDistRow v inf startBt).isSome := by
  obtain ⟨-, hasEnd, hasLabel, -⟩ := row.built (by simp [start])
  obtain ⟨endBt, hasEnd⟩ := Option.ne_none_iff_exists'.mp hasEnd
  obtain ⟨rLabel, hasLabel⟩ := Option.ne_none_iff_exists'.mp hasLabel
  rw [updateDistRow_eq hasEnd hasLabel]
  rfl

theorem updateEdgeRow_isSome (row : inf.Ok true) (start : inf.startBt = some startBt) :
    (updateEdgeRow v store inf startBt).isSome := by
  obtain ⟨-, hasEnd, hasLabel, hasBox⟩ := row.built (by simp [start])
  obtain ⟨endBt, hasEnd⟩ := Option.ne_none_iff_exists'.mp hasEnd
  obtain ⟨rLabel, hasLabel⟩ := Option.ne_none_iff_exists'.mp hasLabel
  obtain ⟨box, hasBox⟩ := Option.ne_none_iff_exists'.mp (hasBox rfl)
  have counts : (edgeCounts v store (inf.refresh v.cursorList.length)).isSome := by
    unfold edgeCounts
    split_ifs
    · have selector : (inf.refresh v.cursorList.length).box = some box := hasBox
      rw [selector]
      exact scanSignals_isSome box _ _ _
    · rfl
  obtain ⟨⟨result, queries⟩, scan⟩ := Option.isSome_iff_exists.mp counts
  simp [updateEdgeRow, staleClear_some, hasEnd, hasLabel, scan]

end Succeeds

section Dock

variable {dock : MeasureDock}

theorem Inv.updateDist_succeeds (inv : Inv limit dock) (v : View) :
    ∃ dock', dock.updateDist v = some dock' := by
  have ok := inv.slots (modeIndex v.workMode)
  obtain ⟨⟨rows, writes, queries⟩, loop⟩ := Option.isSome_iff_exists.mp
    (updateRows_isSome fun o mem _ start => updateDistRow_isSome (ok.dist.each o mem).1 start)
  exact ⟨_, updateDist_eq_some_iff.mpr ⟨rows, writes, queries, updateRows_eq_some_iff.mp loop, rfl⟩⟩

theorem Inv.updateEdge_succeeds (inv : Inv limit dock) (v : View) :
    ∃ dock', dock.updateEdge v = some dock' := by
  have ok := inv.slots (modeIndex v.workMode)
  obtain ⟨⟨rows, writes, queries⟩, loop⟩ := Option.isSome_iff_exists.mp
    (updateRows_isSome fun o mem _ start => updateEdgeRow_isSome (ok.edge.each o mem).1 start)
  exact ⟨_, updateEdge_eq_some_iff.mpr ⟨rows, writes, queries, updateRows_eq_some_iff.mp loop, rfl⟩⟩

theorem Inv.reCalc_eq_none_iff (inv : Inv limit dock) (v : View) :
    dock.reCalc v = none ↔ (dock.modeRows (modeIndex v.workMode)).optRowList ≠ [] ∧
      v.cursorList.length ≠ (dock.modeRows (modeIndex v.workMode)).optRowList.length := by
  obtain ⟨dist, first⟩ := inv.updateDist_succeeds v
  obtain ⟨edge, second⟩ := (inv.updateDist first).updateEdge_succeeds v
  have panel : (edge.modeRows (modeIndex v.workMode)).optRowList =
      (dock.modeRows (modeIndex v.workMode)).optRowList := by
    rw [updateEdge_rows second, updateDist_rows first]
  simp only [MeasureDock.reCalc, first, second, Option.bind_eq_bind, Option.some_bind,
    MeasureDock.updateCursorInfo, MeasureDock.getModeRows_active, panel]
  split_ifs <;> simp_all

theorem Inv.cursorUpdate_succeeds (inv : Inv limit dock) (v : View) :
    ∃ dock', dock.cursorUpdate v = some dock' := by
  obtain ⟨dist, first⟩ := inv.updateDist_succeeds v
  obtain ⟨edge, second⟩ := (inv.updateDist first).updateEdge_succeeds v
  exact ⟨edge.buildCursorPannel v, by simp [MeasureDock.cursorUpdate, first, second]⟩

/-- `build_cursor_pannel` lists every marker of the view. -/
theorem buildCursorPannel_length (dock : MeasureDock) (v : View) :
    ((dock.buildCursorPannel v).modeRows (modeIndex v.workMode)).optRowList.length =
      v.cursorList.length := by
  simp only [MeasureDock.buildCursorPannel, MeasureDock.setRows_same]
  rw [← List.length_map _ CursorOptInfo.cursor, buildCursorRows_cursors]

theorem Inv.reload_succeeds (inv : Inv limit dock) (v : View) :
    ∃ dock', dock.reload v = some dock' := by
  have built := ((inv.buildDistPannel v).buildEdgePannel v).buildCursorPannel v
  refine Option.ne_none_iff_exists'.mp fun failed => ?_
  exact ((built.reCalc_eq_none_iff v).mp failed).2 (buildCursorPannel_length _ v).symm

/-- From every reachable state, whatever the view, `update_dist` and then `update_edge` run to
the end without dereferencing a null widget pointer. -/
theorem reachable_updates_succeed (reach : Reachable limit s) (v : View) :
    ∃ dist edge, s.dock.updateDist v = some dist ∧ dist.updateEdge v = some edge := by
  obtain ⟨dist, first⟩ := reach.inv.updateDist_succeeds v
  obtain ⟨edge, second⟩ := (reach.inv.updateDist first).updateEdge_succeeds v
  exact ⟨dist, edge, first, second⟩

theorem reachable_updates_succeed_bound :
    (System.boundRows.dock.modeRows 0).edgeRowList.map CursorRowInfo.rowData = [(1, 2, 1)] ∧
    (System.boundRows.dock.modeRows 0).edgeRowList.map CursorRowInfo.box = [some 16] ∧
    (System.boundRows.dock.widgets.get 16).currentText = "1" ∧
    ∃ dist edge, System.boundRows.dock.updateDist View.channelZeroOff = some dist ∧
      dist.updateEdge View.channelZeroOff = some edge :=
  ⟨by decide, by decide, by decide,
    reachable_updates_succeed (Reachable.after rfl : Reachable 2 System.boundRows) View.channelZeroOff⟩

/-- The cursor panel built for three markers, then the third marker is gone. -/
def System.stalePanel : System :=
  System.after 2 View.threeMarkers [.cursorUpdate, .changeView View.twoMarkers]

/-- From every reachable state and whatever the view, `reload`, `cursor_update` and `del_cursor` run
to the end, and `reCalc` fails only by the assertion of `update_cursor_info`: when the active
mode's cursor panel has rows, but not one for each marker of the view. -/
theorem reachable_slots_complete (reach : Reachable limit s) (v : View) (src : Nat) :
    (∃ dock', s.dock.reload v = some dock') ∧ (∃ dock', s.dock.cursorUpdate v = some dock') ∧
    (∃ v' dock', s.dock.delCursor v src = some (v', dock')) ∧
    (s.dock.reCalc v = none ↔ (s.dock.modeRows (modeIndex v.workMode)).optRowList ≠ [] ∧
      v.cursorList.length ≠ (s.dock.modeRows (modeIndex v.workMode)).optRowList.length) := by
  have inv := reach.inv
  obtain ⟨dock', update⟩ := (inv.getModeRows v.workMode).cursorUpdate_succeeds
    (MeasureDock.delCursorView v src s.dock)
  refine ⟨inv.reload_succeeds v, inv.cursorUpdate_succeeds v,
    ⟨MeasureDock.delCursorView v src s.dock, dock', by simp [MeasureDock.delCursor, update]⟩,
    inv.reCalc_eq_none_iff v⟩

theorem reachable_slots_complete_stale_panel :
    (System.stalePanel.dock.modeRows 0).optRowList.length = 3 ∧
    System.stalePanel.dock.reCalc View.twoMarkers = none ∧
    (∃ dock', System.stalePanel.dock.reload View.twoMarkers = some dock') ∧
    (∃ dock', System.stalePanel.dock.cursorUpdate View.twoMarkers = some dock') ∧
    (∃ v' dock', System.stalePanel.dock.delCursor View.twoMarkers 4 = some (v', dock')) ∧
    (System.stalePanel.dock.reCalc View.twoMarkers = none ↔
      (System.stalePanel.dock.modeRows 0).optRowList ≠ [] ∧
        View.twoMarkers.cursorList.length ≠ (System.stalePanel.dock.modeRows 0).optRowList.length) := by
  have complete := reachable_slots_complete (Reachable.after rfl : Reachable 2 System.stalePanel)
    View.twoMarkers 4
  exact ⟨by decide, complete.2.2.2.mpr ⟨by decide, by decide⟩, complete.1, complete.2.1,
    complete.2.2.1, complete.2.2.2⟩

end Dock

end DSView
