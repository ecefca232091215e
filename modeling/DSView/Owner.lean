import DSView.Frame
import DSView.Distance

/-!
# The row behind a widget

`del_dist_measure`, `del_edge_measure`, `set_sel_cursor` and `on_edge_channel_selected` find
their row by comparing the sender with the widget pointers the rows keep, and act on the first
row that matches.  In every reachable state no widget is pointed to twice, so the first match is
the only one: a delete removes exactly the row of the clicked button and keeps the others in
order, and a marker or channel choice changes only the row that owns the button or the selector.
The refresh pass that `set_sel_cursor` and `on_edge_channel_selected` run next still clears every
reference of that list above the marker count, in whichever row it stands.
-/

namespace DSView

/-- When no two rows satisfy `p`, dropping the rows with `p` around one such row keeps all the
others. -/
theorem filter_not_of_unique {p : CursorRowInfo → Prop} [DecidablePred p]
    {before after : List CursorRowInfo} {o : CursorRowInfo}
    (unique : (before ++ o :: after).Pairwise fun a b => ¬(p a ∧ p b)) (holds : p o) :
    (before ++ o :: after).filter (fun row => decide ¬p row) = before ++ after := by
  rw [List.pairwise_append, List.pairwise_cons] at unique
  rw [List.filter_append, List.filter_cons_of_neg (by simpa using holds),
    List.filter_eq_self.mpr fun a mem => by
      simpa using fun pa => unique.2.2 a mem o (List.mem_cons_self _ _) ⟨pa, holds⟩,
    List.filter_eq_self.mpr fun b mem => by simpa using fun pb => unique.2.1.1 b mem ⟨holds, pb⟩]

namespace CursorRowInfo

/-- The popup entry at `index` shows `index + 1`, and that number is what the row takes. -/
theorem assign_qNumber (selBtn index : Nat) (o : CursorRowInfo) :
    o.assign selBtn (qNumber (index + 1)) =
      if o.startBt = some selBtn then { o with cursor1 := index + 1 }
      else if o.endBt = some selBtn then { o with cursor2 := index + 1 } else o := by
  simp only [assign, qToInt_qNumber]

end CursorRowInfo

namespace MeasureDock

variable {limit : Nat} {v : View} {dock dock' : MeasureDock}

/-! ## Deleting a row -/

/-- `del_dist_measure` drops the distance rows whose delete button is `src` and keeps the data of
every other row. -/
theorem delDistMeasure_data (ok : SlotOk limit dock.widgets (dock.modeRows (modeIndex v.workMode)))
    (src : Nat) :
    ((dock.delDistMeasure v src).modeRows (modeIndex v.workMode)).data =
      (((dock.modeRows (modeIndex v.workMode)).distRowList.filter
          fun o => decide ¬o.delBt = some src).map CursorRowInfo.rowData,
        (dock.modeRows (modeIndex v.workMode)).edgeRowList.map CursorRowInfo.rowData) := by
  have unique : (dock.modeRows (modeIndex v.workMode)).distRowList.Pairwise
      fun a b => ¬(a.delBt = some src ∧ b.delBt = some src) :=
    ok.unique_dist fun _ => CursorRowInfo.delBt_mem_handles
  unfold delDistMeasure
  simp only [getModeRows_active]
  split
  · next erased =>
    rw [buildDistPannel_data, setRows_same, eraseFirst_eq_filter unique erased]
    rfl
  · next absent =>
    rw [getModeRows_active, filter_of_eraseFirst_eq_none absent]
    rfl

/-- `del_edge_measure` drops the edge rows whose delete button is `src` and keeps the data of
every other row. -/
theorem delEdgeMeasure_data (ok : SlotOk limit dock.widgets (dock.modeRows (modeIndex v.workMode)))
    (src : Nat) :
    ((dock.delEdgeMeasure v src).modeRows (modeIndex v.workMode)).data =
      ((dock.modeRows (modeIndex v.workMode)).distRowList.map CursorRowInfo.rowData,
        ((dock.modeRows (modeIndex v.workMode)).edgeRowList.filter
          fun o => decide ¬o.delBt = some src).map CursorRowInfo.rowData) := by
  have unique : (dock.modeRows (modeIndex v.workMode)).edgeRowList.Pairwise
      fun a b => ¬(a.delBt = some src ∧ b.delBt = some src) :=
    ok.unique_edge fun _ => CursorRowInfo.delBt_mem_handles
  unfold delEdgeMeasure
  simp only [getModeRows_active]
  split
  · next erased =>
    rw [buildEdgePannel_data, setRows_same, eraseFirst_eq_filter unique erased]
    rfl
  · next absent =>
    rw [getModeRows_active, filter_of_eraseFirst_eq_none absent]
    rfl

/-! ## Choosing a marker or a channel -/

/-- `set_sel_cursor` gives the chosen number to the row owning `selBtn`, among the distance rows
if one owns it and among the edge rows otherwise, and then refreshes that list. -/
theorem setSelCursor_rows (ok : SlotOk limit dock.widgets (dock.modeRows (modeIndex v.workMode)))
    {selBtn : Nat} {text : String} (h : dock.setSelCursor v selBtn text = some dock') :
    dock'.modeRows (modeIndex v.workMode) =
      if ∃ o ∈ (dock.modeRows (modeIndex v.workMode)).distRowList,
          o.startBt = some selBtn ∨ o.endBt = some selBtn then
        { dock.modeRows (modeIndex v.workMode) with
          distRowList := refreshRows v.cursorList.length
            ((dock.modeRows (modeIndex v.workMode)).distRowList.map (CursorRowInfo.assign selBtn text)) }
      else
        { dock.modeRows (modeIndex v.workMode) with
          edgeRowList := refreshRows v.cursorList.length
            ((dock.modeRows (modeIndex v.workMode)).edgeRowList.map (CursorRowInfo.assign selBtn text)) } := by
  rw [setSelCursor_eq ok] at h
  split_ifs at h with found
  · rw [updateDist_rows h, if_pos found]
    simp [setRows_same]
  · rw [updateEdge_rows h, if_neg found]
    simp [setRows_same]

/-- Picking entry `position` of the selector `box`, when it is not the current entry, sets the
position of the edge row owning `box` and then refreshes the edge rows. -/
theorem selectChannel_rows (ok : SlotOk limit dock.widgets (dock.modeRows (modeIndex v.workMode)))
    {box position : Nat} (changed : (position : Int) ≠ (dock.widgets.get box).currentIndex)
    (h : dock.selectChannel v box position = some dock') :
    dock'.modeRows (modeIndex v.workMode) = { dock.modeRows (modeIndex v.workMode) with
      edgeRowList := refreshRows v.cursorList.length
        ((dock.modeRows (modeIndex v.workMode)).edgeRowList.map fun o =>
          if o.box = some box then { o with channelIndex := position } else o) } := by
  rw [selectChannel_eq ok, if_neg changed] at h
  split_ifs at h
  rw [updateEdge_rows h]
  simp [setRows_same]

end MeasureDock

/-- Two markers and the logic channels 0, 1 and 2, each of which reports its own id as its
rising-edge count. -/
def View.threeChannels : View :=
  { View.twoMarkers with
    signals := [⟨.logic, true, 0⟩, ⟨.logic, true, 1⟩, ⟨.logic, true, 2⟩]
    edges := fun s _ _ => some (BitVec.ofNat 64 s.index, 0) }

/-- The same, with channel 0 disabled. -/
def View.channelZeroOff : View :=
  { View.threeChannels with signals := [⟨.logic, false, 0⟩, ⟨.logic, true, 1⟩, ⟨.logic, true, 2⟩] }

/-- Two distance rows, the first bound to markers 1 and 2, and an edge row bound to markers 1
and 2 on entry 1 (channel 1) of its selector. -/
def System.boundRows : System :=
  System.after 2 View.threeChannels [.addDistMeasure, .selectCursor 5 0, .selectCursor 6 1,
    .addEdgeMeasure, .selectCursor 13 0, .selectCursor 14 1, .selectChannel 16 1]

/-- In every reachable state no widget is pointed to by two rows of a mode, so the slots behind
the row widgets act on exactly the row of the sender: a delete removes the row of the clicked
button and keeps the data of the others in order, `set_sel_cursor` gives the popup number to the
reference behind the clicked button, and a channel choice sets the position of the row owning the
selector.  Both then refresh the list they changed, which clears every reference of it above the
marker count. -/
theorem reachable_row_owner_unique {limit : Nat} {s : System} (reach : Reachable limit s) (v : View) :
    (∀ slot, (s.dock.modeRows slot).handles.Nodup) ∧
    (∀ src before o after, (s.dock.modeRows (modeIndex v.workMode)).distRowList = before ++ o :: after →
      o.delBt = some src →
      ((s.dock.delDistMeasure v src).modeRows (modeIndex v.workMode)).data =
        ((before ++ after).map CursorRowInfo.rowData,
          (s.dock.modeRows (modeIndex v.workMode)).edgeRowList.map CursorRowInfo.rowData)) ∧
    (∀ src before o after, (s.dock.modeRows (modeIndex v.workMode)).edgeRowList = before ++ o :: after →
      o.delBt = some src →
      ((s.dock.delEdgeMeasure v src).modeRows (modeIndex v.workMode)).data =
        ((s.dock.modeRows (modeIndex v.workMode)).distRowList.map CursorRowInfo.rowData,
          (before ++ after).map CursorRowInfo.rowData)) ∧
    (∀ (selBtn index : Nat) dock', s.dock.setSelCursor v selBtn (qNumber (index + 1)) = some dock' →
      dock'.modeRows (modeIndex v.workMode) =
        let pick := fun o : CursorRowInfo =>
          if o.startBt = some selBtn then { o with cursor1 := index + 1 }
          else if o.endBt = some selBtn then { o with cursor2 := index + 1 } else o
        if ∃ o ∈ (s.dock.modeRows (modeIndex v.workMode)).distRowList,
            o.startBt = some selBtn ∨ o.endBt = some selBtn then
          { s.dock.modeRows (modeIndex v.workMode) with
            distRowList := refreshRows v.cursorList.length
              ((s.dock.modeRows (modeIndex v.workMode)).distRowList.map pick) }
        else
          { s.dock.modeRows (modeIndex v.workMode) with
            edgeRowList := refreshRows v.cursorList.length
              ((s.dock.modeRows (modeIndex v.workMode)).edgeRowList.map pick) }) ∧
    (∀ (box position : Nat) dock', (position : Int) ≠ (s.dock.widgets.get box).currentIndex →
      s.dock.selectChannel v box position = some dock' →
      dock'.modeRows (modeIndex v.workMode) = { s.dock.modeRows (modeIndex v.workMode) with
        edgeRowList := refreshRows v.cursorList.length
          ((s.dock.modeRows (modeIndex v.workMode)).edgeRowList.map fun o =>
            if o.box = some box then { o with channelIndex := position } else o) }) := by
  have ok := reach.inv.slots (modeIndex v.workMode)
  have pick : ∀ selBtn index : Nat, CursorRowInfo.assign selBtn (qNumber (index + 1)) = _ :=
    fun selBtn index => funext (CursorRowInfo.assign_qNumber selBtn index)
  refine ⟨fun slot => (reach.inv.slots slot).distinct, fun src before o after split owner => ?_,
    fun src before o after split owner => ?_, fun selBtn index _ h => ?_,
    fun _ _ _ changed h => MeasureDock.selectChannel_rows ok changed h⟩
  · have unique : (before ++ o :: after).Pairwise
        fun a b => ¬(a.delBt = some src ∧ b.delBt = some src) :=
      split ▸ ok.unique_dist fun _ => CursorRowInfo.delBt_mem_handles
    rw [MeasureDock.delDistMeasure_data ok, split, filter_not_of_unique unique owner]
  · have unique : (before ++ o :: after).Pairwise
        fun a b => ¬(a.delBt = some src ∧ b.delBt = some src) :=
      split ▸ ok.unique_edge fun _ => CursorRowInfo.delBt_mem_handles
    rw [MeasureDock.delEdgeMeasure_data ok, split, filter_not_of_unique unique owner]
  · rw [MeasureDock.setSelCursor_rows ok h, pick]

theorem reachable_row_owner_unique_bound :
    (∀ slot, (System.boundRows.dock.modeRows slot).handles.Nodup) ∧
      ((System.boundRows.dock.delDistMeasure View.threeChannels 8).modeRows 0).data =
        ([(1, 2, 0)], [(1, 2, 1)]) ∧
      (∃ dock', System.boundRows.dock.setSelCursor View.threeChannels 10 (qNumber 1) = some dock' ∧
        (dock'.modeRows 0).distRowList.map CursorRowInfo.rowData = [(1, 2, 0), (-1, 1, 0)]) ∧
      ∃ dock', System.boundRows.dock.selectChannel View.threeChannels 16 2 = some dock' ∧
        (dock'.modeRows 0).edgeRowList.map CursorRowInfo.rowData = [(1, 2, 2)] := by
  have reach : Reachable 2 System.boundRows := Reachable.after rfl
  have unique := reachable_row_owner_unique reach View.threeChannels
  refine ⟨unique.1, (unique.2.1 8 [⟨1, 2, 0, none, some 4, some 5, some 6, some 7⟩]
    ⟨-1, -1, 0, none, some 8, some 9, some 10, some 11⟩ [] (by decide) rfl).trans (by decide),
    ⟨_, rfl, ?_⟩, ⟨_, rfl, ?_⟩⟩
  · have picked := congrArg (fun rows => rows.distRowList.map CursorRowInfo.rowData)
      (unique.2.2.2.1 10 0 _ rfl)
    exact picked.trans (by decide)
  · have chosen := congrArg (fun rows => rows.edgeRowList.map CursorRowInfo.rowData)
      (unique.2.2.2.2 16 2 _ (by decide) rfl)
    exact chosen.trans (by decide)

/-- Three markers, at samples 1000, 5000 and 9000. -/
def View.threeMarkers : View :=
  { View.twoMarkers with cursorList := View.twoMarkers.cursorList ++ [⟨2, 9000⟩] }

/-- Two distance rows, the first bound to marker 3 while three markers exist; after the third
marker is gone, choosing marker 1 for the second row also clears the first row's reference. -/
theorem setSelCursor_clears_other_reference :
    ∃ s : System, Reachable 2 s ∧
      (s.dock.modeRows 0).distRowList.map CursorRowInfo.rowData = [(3, -1, 0), (-1, -1, 0)] ∧
      (s.dock.setSelCursor s.view 9 (qNumber 1)).map
        (fun dock => (dock.modeRows 0).distRowList.map CursorRowInfo.rowData) =
          some [(-1, -1, 0), (1, -1, 0)] :=
  ⟨_, (Reachable.init View.threeMarkers).run
    (show System.run 2 [.addDistMeasure, .selectCursor 5 2, .changeView View.twoMarkers]
      (System.init 2 View.threeMarkers) = some _ from rfl), by decide, by decide⟩

end DSView
