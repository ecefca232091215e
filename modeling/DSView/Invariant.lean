import DSView.Dock
import DSView.Slot

/-!
# The dock's invariant

`Inv` says that the rows of every slot satisfy `SlotOk` and that every marker position the dock
has passed to the view named an existing marker.  The view is not part of it, so it holds
whatever the view does between two slots: markers appear, move and vanish, channels are enabled
and disabled, and the device mode switches.

Every slot of the dock keeps `Inv`, so every state reachable from the constructor satisfies it.
-/

namespace DSView

/-- The invariant of the dock, with the row cap `limit`. -/
structure Inv (limit : Nat) (dock : MeasureDock) : Prop where
  /-- The rows of every slot. -/
  slots : ∀ slot, SlotOk limit dock.widgets (dock.modeRows slot)
  /-- Every marker position passed to the view named an existing marker. -/
  queries : ∀ q ∈ dock.viewQueries, q.InRange

/-! ## The row behind a marker button -/

namespace CursorRowInfo

variable {selBtn : Nat} {text : String} {o : CursorRowInfo}

theorem owns_mem_handles (owns : o.startBt = some selBtn ∨ o.endBt = some selBtn) :
    selBtn ∈ o.handles := by
  rcases owns with owns | owns <;> simp [handles_eq, owns]

theorem assign_of_not_owns (other : ¬(o.startBt = some selBtn ∨ o.endBt = some selBtn)) :
    o.assign selBtn text = o := by
  rw [not_or] at other
  simp [assign, other.1, other.2]

@[simp]
theorem assign_startBt : (o.assign selBtn text).startBt = o.startBt := by
  unfold assign
  split_ifs <;> rfl

@[simp]
theorem handles_assign : (o.assign selBtn text).handles = o.handles := by
  unfold assign
  split_ifs <;> rfl

/-- Changing the row that owns `selBtn` is `assign` on every row. -/
theorem map_assign (rows : List CursorRowInfo) :
    (rows.map fun o =>
      if o.startBt = some selBtn ∨ o.endBt = some selBtn then o.assign selBtn text else o) =
      rows.map (assign selBtn text) :=
  List.map_congr_left fun o _ => by
    split_ifs with owns
    · rfl
    · exact (assign_of_not_owns owns).symm

end CursorRowInfo

/-- `set_sel_cursor` when no two rows of the active mode point to one widget: the owner of `selBtn`
among the distance rows, or else among the edge rows, takes the number, and that list's refresh
pass follows; without an owner the assertion fails. -/
theorem MeasureDock.setSelCursor_eq {limit : Nat} {v : View} {dock : MeasureDock} {selBtn : Nat}
    {text : String} (ok : SlotOk limit dock.widgets (dock.modeRows (modeIndex v.workMode))) :
    dock.setSelCursor v selBtn text =
      if ∃ o ∈ (dock.modeRows (modeIndex v.workMode)).distRowList,
          o.startBt = some selBtn ∨ o.endBt = some selBtn then
        updateDist v { (dock.getModeRows v.workMode).setRows (modeIndex v.workMode)
          { dock.modeRows (modeIndex v.workMode) with distRowList :=
            (dock.modeRows (modeIndex v.workMode)).distRowList.map (CursorRowInfo.assign selBtn text) } with
          widgets := dock.widgets.setText selBtn text }
      else if ∃ o ∈ (dock.modeRows (modeIndex v.workMode)).edgeRowList,
          o.startBt = some selBtn ∨ o.endBt = some selBtn then
        updateEdge v { (dock.getModeRows v.workMode).setRows (modeIndex v.workMode)
          { dock.modeRows (modeIndex v.workMode) with edgeRowList :=
            (dock.modeRows (modeIndex v.workMode)).edgeRowList.map (CursorRowInfo.assign selBtn text) } with
          widgets := dock.widgets.setText selBtn text }
      else none := by
  unfold MeasureDock.setSelCursor
  simp only [MeasureDock.getModeRows_active, MeasureDock.getModeRows_widgets]
  split
  · next found =>
    rw [modifyFirst_eq_map (ok.unique_dist fun _ => CursorRowInfo.owns_mem_handles) found,
      CursorRowInfo.map_assign,
      if_pos (modifyFirst_isSome_iff.mp (Option.isSome_iff_exists.mpr ⟨_, found⟩))]
  · next absent =>
    rw [if_neg (modifyFirst_eq_none_iff.mp absent)]
    split
    · next found =>
      rw [modifyFirst_eq_map (ok.unique_edge fun _ => CursorRowInfo.owns_mem_handles) found,
        CursorRowInfo.map_assign,
        if_pos (modifyFirst_isSome_iff.mp (Option.isSome_iff_exists.mpr ⟨_, found⟩))]
    · next absent' => rw [if_neg (modifyFirst_eq_none_iff.mp absent')]

/-- Picking entry `position` of the selector `box` when no two rows of the active mode point to
one widget: nothing happens for a missing or the current entry, and otherwise the edge row owning
`box` stores `position` and the edge rows are refreshed. -/
theorem MeasureDock.selectChannel_eq {limit : Nat} {v : View} {dock : MeasureDock} {box position : Nat}
    (ok : SlotOk limit dock.widgets (dock.modeRows (modeIndex v.workMode))) :
    dock.selectChannel v box position =
      if (dock.widgets.get box).items.length ≤ position then none
      else if (position : Int) = (dock.widgets.get box).currentIndex then some dock
      else updateEdge v { (dock.getModeRows v.workMode).setRows (modeIndex v.workMode)
          { dock.modeRows (modeIndex v.workMode) with edgeRowList :=
            (dock.modeRows (modeIndex v.workMode)).edgeRowList.map (fun o =>
              if o.box = some box then { o with channelIndex := position } else o) } with
          widgets := dock.widgets.modify box (·.setCurrentIndex position) } := by
  unfold MeasureDock.selectChannel MeasureDock.onEdgeChannelSelected
  simp only [MeasureDock.getModeRows_withWidgets, MeasureDock.setRows_withWidgets,
    MeasureDock.getModeRows_active]
  split_ifs with full same
  · rfl
  · rfl
  rw [Widgets.modify_get_self, Widget.setCurrentIndex, if_pos ⟨by omega, by omega⟩,
    modifyFirst_getD_eq_map (ok.unique_edge fun _ => CursorRowInfo.box_mem_handles)]

namespace Inv

variable {limit : Nat} {dock dock' : MeasureDock} {v : View}

theorem getModeRows (inv : Inv limit dock) (mode : WorkMode) :
    Inv limit (dock.getModeRows mode) where
  slots slot := by
    by_cases active : slot = modeIndex mode
    · subst active
      simpa using inv.slots (modeIndex mode)
    · rw [MeasureDock.getModeRows_other _ active]
      exact (inv.slots slot).detach _
  queries := inv.queries

/-- The active slot's rows replaced, and the rows of every other slot detached. -/
theorem setActive (inv : Inv limit dock) (mode : WorkMode) {rows : RowListItem}
    {widgets : Widgets} {queries : List ViewQuery} (slotOk : SlotOk limit widgets rows)
    (inRange : ∀ q ∈ queries, q.InRange) :
    Inv limit { (dock.getModeRows mode).setRows (modeIndex mode) rows with
      widgets := widgets, viewQueries := queries } where
  slots slot := by
    by_cases active : slot = modeIndex mode
    · subst active
      simpa using slotOk
    · show SlotOk limit widgets (((dock.getModeRows mode).setRows _ rows).modeRows slot)
      rw [MeasureDock.setRows_other _ _ active, MeasureDock.getModeRows_other _ active]
      exact (inv.slots slot).detach _
  queries := inRange

/-! ## Building the panels -/

theorem buildDistPannel (inv : Inv limit dock) (v : View) : Inv limit (dock.buildDistPannel v) := by
  simp only [MeasureDock.buildDistPannel, MeasureDock.getModeRows_active,
    MeasureDock.getModeRows_widgets]
  exact inv.setActive v.workMode (inv.slots _).buildDist inv.queries

theorem buildEdgePannel (inv : Inv limit dock) (v : View) : Inv limit (dock.buildEdgePannel v) := by
  simp only [MeasureDock.buildEdgePannel, MeasureDock.getModeRows_active,
    MeasureDock.getModeRows_widgets]
  exact inv.setActive v.workMode ((inv.slots _).buildEdge v.signals) inv.queries

theorem buildCursorPannel (inv : Inv limit dock) (v : View) :
    Inv limit (dock.buildCursorPannel v) := by
  simp only [MeasureDock.buildCursorPannel, MeasureDock.getModeRows_active,
    MeasureDock.getModeRows_widgets, MeasureDock.getModeRows_viewQueries]
  refine inv.setActive v.workMode ((inv.slots _).buildCursor v v.cursorList) fun q mem => ?_
  rcases List.mem_append.mp mem with old | new
  · exact inv.queries q old
  · have := buildCursorRows_queries v dock.widgets 0 v.cursorList q new
    exact ⟨by omega, by omega⟩

/-! ## Adding and deleting rows -/

theorem addDistMeasure (inv : Inv limit dock) (v : View) :
    Inv limit (dock.addDistMeasure limit v) := by
  have ok := inv.slots (modeIndex v.workMode)
  unfold MeasureDock.addDistMeasure
  simp only [MeasureDock.getModeRows_active]
  split_ifs with room
  · refine (inv.setActive v.workMode (ok.withDist (ok.dist.append_unset room) ?_)
      inv.queries).buildDistPannel v
    simp [CursorRowInfo.handles, CursorRowInfo.unset]
  · exact inv.getModeRows _

theorem addEdgeMeasure (inv : Inv limit dock) (v : View) :
    Inv limit (dock.addEdgeMeasure limit v) := by
  have ok := inv.slots (modeIndex v.workMode)
  unfold MeasureDock.addEdgeMeasure
  simp only [MeasureDock.getModeRows_active]
  split_ifs with room
  · refine (inv.setActive v.workMode (ok.withEdge (ok.edge.append_unset room) ?_)
      inv.queries).buildEdgePannel v
    simp [CursorRowInfo.handles, CursorRowInfo.unset]
  · exact inv.getModeRows _

theorem delDistMeasure (inv : Inv limit dock) (v : View) (src : Nat) :
    Inv limit (dock.delDistMeasure v src) := by
  have ok := inv.slots (modeIndex v.workMode)
  unfold MeasureDock.delDistMeasure
  simp only [MeasureDock.getModeRows_active]
  split
  · next erased =>
    have sub := eraseFirst_sublist erased
    exact (inv.setActive v.workMode (ok.withDist (ok.dist.sublist sub) (flatMap_handles_sublist sub))
      inv.queries).buildDistPannel v
  · exact inv.getModeRows _

theorem delEdgeMeasure (inv : Inv limit dock) (v : View) (src : Nat) :
    Inv limit (dock.delEdgeMeasure v src) := by
  have ok := inv.slots (modeIndex v.workMode)
  unfold MeasureDock.delEdgeMeasure
  simp only [MeasureDock.getModeRows_active]
  split
  · next erased =>
    have sub := eraseFirst_sublist erased
    exact (inv.setActive v.workMode (ok.withEdge (ok.edge.sublist sub) (flatMap_handles_sublist sub))
      inv.queries).buildEdgePannel v
  · exact inv.getModeRows _

/-! ## Refreshing the rows -/

theorem updateDist (inv : Inv limit dock) (h : dock.updateDist v = some dock') : Inv limit dock' := by
  obtain ⟨rows, writes, queries, loop, rfl⟩ := updateDist_eq_some_iff.mp h
  have ok := inv.slots (modeIndex v.workMode)
  obtain rfl := loop.rows_eq fun _ _ _ => updateDistRow_row
  refine inv.setActive v.workMode ((ok.withDist (ok.dist.refresh _) ?_).apply writes) fun q mem => ?_
  · rw [flatMap_handles_refreshRows]
  · rcases List.mem_append.mp mem with old | new
    · exact inv.queries q old
    · exact loop.queries_of (fun o mem => (ok.dist.each o mem).1)
        (fun _ _ _ row step => updateDistRow_queries row.cursor1 row.cursor2 step) q new

theorem updateEdge (inv : Inv limit dock) (h : dock.updateEdge v = some dock') : Inv limit dock' := by
  obtain ⟨rows, writes, queries, loop, rfl⟩ := updateEdge_eq_some_iff.mp h
  have ok := inv.slots (modeIndex v.workMode)
  obtain rfl := loop.rows_eq fun _ _ _ => updateEdgeRow_row
  refine inv.setActive v.workMode ((ok.withEdge (ok.edge.refresh _) ?_).apply writes) fun q mem => ?_
  · rw [flatMap_handles_refreshRows]
  · rcases List.mem_append.mp mem with old | new
    · exact inv.queries q old
    · exact loop.queries_of (fun o mem => (ok.edge.each o mem).1)
        (fun _ _ _ row step => updateEdgeRow_queries row.cursor1 row.cursor2 step) q new

theorem updateCursorInfo (inv : Inv limit dock) (h : dock.updateCursorInfo v = some dock') :
    Inv limit dock' := by
  obtain ⟨fits, rfl⟩ := updateCursorInfo_eq_some h
  refine ⟨fun slot => ((inv.getModeRows v.workMode).slots slot).apply _, fun q mem => ?_⟩
  rcases List.mem_append.mp mem with old | new
  · exact inv.queries q old
  · have := cursorInfoWrites_queries v 0 _ q new
    rcases fits with empty | fits
    · simp [empty, cursorInfoWrites] at new
    · exact ⟨by omega, by omega⟩

/-! ## Choosing markers and channels -/

/-- `set_sel_cursor` keeps the invariant when the popup text is a marker number. -/
theorem setSelCursor (inv : Inv limit dock) {selBtn : Nat} {text : String}
    (valid : RefValid (qToInt text)) (h : dock.setSelCursor v selBtn text = some dock') :
    Inv limit dock' := by
  have ok := inv.slots (modeIndex v.workMode)
  have assigned : ∀ {edge : Bool} {widgets : Widgets} (o : CursorRowInfo), o.Ok edge ∧ o.SelectorOk widgets →
      (o.assign selBtn text).Ok edge ∧ (o.assign selBtn text).SelectorOk widgets := by
    rintro edge widgets o ⟨row, selector⟩
    unfold CursorRowInfo.assign
    split_ifs
    · exact ⟨⟨valid, row.cursor2, row.channel, row.box, row.built⟩, selector⟩
    · exact ⟨⟨row.cursor1, valid, row.channel, row.box, row.built⟩, selector⟩
    · exact ⟨row, selector⟩
  rw [MeasureDock.setSelCursor_eq ok] at h
  split_ifs at h
  · exact updateDist (inv.setActive v.workMode ((ok.mapDist (fun o _ => assigned o)
      (fun _ => CursorRowInfo.assign_startBt) (fun _ => CursorRowInfo.handles_assign)).setText selBtn text)
      inv.queries) h
  · exact updateEdge (inv.setActive v.workMode ((ok.mapEdge (fun o _ => assigned o)
      (fun _ => CursorRowInfo.assign_startBt) (fun _ => CursorRowInfo.handles_assign) le_rfl).setText
      selBtn text) inv.queries) h

theorem selectCursor (inv : Inv limit dock) {selBtn index : Nat}
    (h : dock.selectCursor v selBtn index = some dock') : Inv limit dock' := by
  unfold MeasureDock.selectCursor at h
  split_ifs at h
  · cases h
    exact inv
  · refine inv.setSelCursor ?_ h
    rw [qToInt_qNumber]
    exact .inr (by omega)

theorem selectChannel (inv : Inv limit dock) {box position : Nat}
    (h : dock.selectChannel v box position = some dock') : Inv limit dock' := by
  have ok := inv.slots (modeIndex v.workMode)
  rw [MeasureDock.selectChannel_eq ok] at h
  split_ifs at h with full same
  · cases h
    exact inv
  have slotOk : SlotOk limit (dock.widgets.modify box (·.setCurrentIndex position))
      { dock.modeRows (modeIndex v.workMode) with
        edgeRowList := (dock.modeRows (modeIndex v.workMode)).edgeRowList.map fun o =>
          if o.box = some box then { o with channelIndex := position } else o } := by
    refine ok.mapEdge (fun o _ good => ?_) (fun o => ?_) (fun o => ?_) le_rfl
    · split_ifs with owner
      · refine ⟨⟨good.1.cursor1, good.1.cursor2, Int.natCast_nonneg position, good.1.box, good.1.built⟩,
          fun b has fits => ?_⟩
        cases owner.symm.trans has
        simp only [Widgets.modify_get_self, Widget.setCurrentIndex] at fits ⊢
        rw [if_pos ⟨Int.natCast_nonneg position, by omega⟩]
      · refine ⟨good.1, good.2.congr fun b has => ?_⟩
        rw [Widgets.modify_get_of_ne (show b ≠ box from fun same => owner (same ▸ has))]
        exact ⟨rfl, rfl⟩
    · split_ifs <;> rfl
    · split_ifs <;> rfl
  exact updateEdge (inv.setActive v.workMode slotOk inv.queries) h

/-! ## Markers -/

theorem cursorUpdate (inv : Inv limit dock) (h : dock.cursorUpdate v = some dock') :
    Inv limit dock' := by
  obtain ⟨updated, both, rfl⟩ := Option.map_eq_some'.mp h
  obtain ⟨dist, first, second⟩ := Option.bind_eq_some.mp both
  exact ((inv.updateDist first).updateEdge second).buildCursorPannel v

theorem delCursor (inv : Inv limit dock) {src : Nat} {result : View × MeasureDock}
    (h : dock.delCursor v src = some result) : Inv limit result.2 := by
  obtain ⟨updated, step, rfl⟩ := Option.map_eq_some'.mp h
  exact (inv.getModeRows _).cursorUpdate step

theorem cursorMoving (inv : Inv limit dock) (h : dock.cursorMoving v = some dock') :
    Inv limit dock' := by
  obtain ⟨info, first, second⟩ := Option.bind_eq_some.mp h
  split at first
  · exact (inv.updateCursorInfo first).updateDist second
  · cases first
    exact inv.updateDist second

theorem reCalc (inv : Inv limit dock) (h : dock.reCalc v = some dock') : Inv limit dock' := by
  obtain ⟨edged, both, third⟩ := Option.bind_eq_some.mp h
  obtain ⟨dist, first, second⟩ := Option.bind_eq_some.mp both
  exact ((inv.updateDist first).updateEdge second).updateCursorInfo third

theorem reload (inv : Inv limit dock) (h : dock.reload v = some dock') : Inv limit dock' :=
  (((inv.buildDistPannel v).buildEdgePannel v).buildCursorPannel v).reCalc h

theorem reStyle (inv : Inv limit dock) (h : dock.reStyle v = some dock') : Inv limit dock' := by
  unfold MeasureDock.reStyle at h
  dsimp only at h
  split_ifs at h
  exact (inv.getModeRows _).updateDist h

/-! ## Runs -/

theorem empty (limit : Nat) : Inv limit MeasureDock.empty :=
  ⟨fun _ => ⟨⟨by simp [MeasureDock.empty], by simp [MeasureDock.empty], by simp [MeasureDock.empty, BuiltFirst]⟩,
    ⟨by simp [MeasureDock.empty], by simp [MeasureDock.empty], by simp [MeasureDock.empty, BuiltFirst]⟩,
    by simp [MeasureDock.empty, RowListItem.handles], by simp [MeasureDock.empty, RowListItem.handles]⟩,
    by simp [MeasureDock.empty]⟩

/-- Every event keeps the invariant, whatever the view. -/
theorem step {s s' : System} {e : Event} (inv : Inv limit s.dock)
    (h : System.step limit e s = some s') : Inv limit s'.dock := by
  obtain ⟨v, dock⟩ := s
  cases e <;> simp only [System.step, Option.some.injEq, Option.map_eq_some'] at h
  case addDistMeasure => exact h ▸ inv.addDistMeasure v
  case delDistMeasure src => exact h ▸ inv.delDistMeasure v src
  case addEdgeMeasure => exact h ▸ inv.addEdgeMeasure v
  case delEdgeMeasure src => exact h ▸ inv.delEdgeMeasure v src
  case selectCursor => obtain ⟨_, step, rfl⟩ := h; exact inv.selectCursor step
  case selectChannel => obtain ⟨_, step, rfl⟩ := h; exact inv.selectChannel step
  case delCursor => obtain ⟨_, step, rfl⟩ := h; exact inv.delCursor step
  case cursorUpdate => obtain ⟨_, step, rfl⟩ := h; exact inv.cursorUpdate step
  case cursorMoving => obtain ⟨_, step, rfl⟩ := h; exact inv.cursorMoving step
  case reCalc => obtain ⟨_, step, rfl⟩ := h; exact inv.reCalc step
  case reload => obtain ⟨_, step, rfl⟩ := h; exact inv.reload step
  case reStyle => obtain ⟨_, step, rfl⟩ := h; exact inv.reStyle step
  case changeView => exact h ▸ inv

end Inv

/-- Every state reachable from the constructor satisfies the invariant. -/
theorem Reachable.inv {limit : Nat} {s : System} (reach : Reachable limit s) : Inv limit s.dock := by
  induction reach with
  | init v => exact (Inv.empty limit).addDistMeasure v
  | step _ _ h invariant => exact invariant.step h

/-- The states a run reaches from a reachable state are reachable. -/
theorem Reachable.run {limit : Nat} {s s' : System} (reach : Reachable limit s) :
    ∀ {events : List Event}, System.run limit events s = some s' → Reachable limit s'
  | [], h => by cases h; exact reach
  | e :: events, h => by
    obtain ⟨mid, first, rest⟩ := Option.bind_eq_some.mp h
    exact (Reachable.step e reach first).run rest

/-- The state the constructor in the view `v` and then `events` leave, or the constructor's state
when a step fails. -/
def System.after (limit : Nat) (v : View) (events : List Event) : System :=
  (System.run limit events (System.init limit v)).getD (System.init limit v)

/-- A run from the constructor in which no step fails ends in a reachable state. -/
theorem Reachable.after {limit : Nat} {v : View} {events : List Event}
    (ends : (System.run limit events (System.init limit v)).isSome) :
    Reachable limit (System.after limit v events) := by
  obtain ⟨s, h⟩ := Option.isSome_iff_exists.mp ends
  rw [System.after, h, Option.getD_some]
  exact (Reachable.init v).run h

end DSView
