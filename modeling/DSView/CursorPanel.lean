import DSView.Buttons
import DSView.Safety
import DSView.Markers
import Mathlib.Data.List.Perm.Basic

/-!
# The cursor panel

`build_cursor_pannel` lists the view's markers in the cursor panel of the active mode: the row at
position `k` gets a delete button, a marker button showing `k + 1` and a label showing the time
and sample index of marker `k`.  `update_cursor_info` writes the labels again, `goto_cursor` passes
the position of the clicked marker button's row to `View::set_cursor_middle`, and `del_cursor`
removes the marker of the clicked delete button's row.  Every other slot keeps the panel's rows
and writes to none of their widgets.

So in every reachable state every marker button shows its row's number.  Once `cursor_update`,
`reload` or `del_cursor` has rebuilt the panel, and as long as the view's markers do not change
behind the dock, the panel lists the view's markers with their times, `update_cursor_info` never
fails its assertion, and a delete button removes exactly the marker of its row.
-/

namespace DSView

/-- The text `build_cursor_pannel` and `update_cursor_info` give the label of the marker at
`position`: its time, a slash and its sample index. -/
def cursorInfoText (v : View) (position : Nat) : String :=
  v.getCmTime v.cursorList position ++ "/" ++ qNumber (getCursorSamples v.cursorList position).toNat

@[simp]
theorem cursorInfoCall_result (v : View) (position : Nat) :
    (cursorInfoCall v position).result = cursorInfoText v position := rfl

/-- The loop of `goto_cursor`: the position of the first cursor panel row whose marker button is
`src`, counting from `index`. -/
def gotoIndex (src index : Nat) : List CursorOptInfo → Option Nat
  | [] => none
  | row :: rows => if row.gotoBt = some src then some index else gotoIndex src (index + 1) rows

/-- `goto_cursor`, clicked on the marker button `src`: the dock after its `get_mode_rows`, and the
position it passes to `View::set_cursor_middle` when a row of the cursor panel owns `src`. -/
def MeasureDock.gotoCursor (v : View) (src : Nat) (dock : MeasureDock) : MeasureDock × Option Nat :=
  let dock := dock.getModeRows v.workMode
  (dock, gotoIndex src 0 (dock.modeRows (modeIndex v.workMode)).optRowList)

/-- `goto_cursor` finds the first row owning the button. -/
theorem gotoIndex_eq_some {src : Nat} :
    ∀ {index k : Nat} {rows : List CursorOptInfo}, gotoIndex src index rows = some k →
      index ≤ k ∧ ∃ row, rows[k - index]? = some row ∧ row.gotoBt = some src
  | _, _, [], h => nomatch h
  | index, k, row :: rows, h => by
    unfold gotoIndex at h
    split_ifs at h with owns
    · cases h
      exact ⟨le_rfl, row, by rw [Nat.sub_self, List.getElem?_cons_zero], owns⟩
    · obtain ⟨later, found⟩ := gotoIndex_eq_some h
      refine ⟨by omega, ?_⟩
      rw [show k - index = k - (index + 1) + 1 by omega, List.getElem?_cons_succ]
      exact found

/-- When no two elements satisfy `p`, `find?` returns the one that does. -/
theorem find?_eq_of_unique {α : Type} {p : α → Bool} :
    ∀ {l : List α} {x : α}, l.Pairwise (fun a b => ¬(p a ∧ p b)) → x ∈ l → p x → l.find? p = some x
  | [], _, _, mem, _ => absurd mem (List.not_mem_nil _)
  | a :: l, x, unique, mem, holds => by
    rw [List.pairwise_cons] at unique
    by_cases first : p a
    · rw [List.find?_cons_of_pos _ first]
      rcases List.mem_cons.mp mem with rfl | later
      · rfl
      · exact absurd ⟨first, holds⟩ (unique.1 x later)
    · rw [List.find?_cons_of_neg _ first]
      rcases List.mem_cons.mp mem with rfl | later
      · exact absurd holds first
      · exact find?_eq_of_unique unique.2 later holds

/-- With distinct marker ids, removing the marker at position `k` by its id removes position `k`. -/
theorem viewDelCursor_eq_eraseIdx :
    ∀ {cursors : List Cursor} {k : Nat} {cursor : Cursor}, (cursors.map Cursor.id).Nodup →
      cursors[k]? = some cursor → viewDelCursor cursors cursor = cursors.eraseIdx k
  | [], _, _, _, found => nomatch found
  | c :: cursors, 0, cursor, distinct, found => by
    rw [List.getElem?_cons_zero, Option.some.injEq] at found
    subst found
    rw [List.map_cons, List.nodup_cons] at distinct
    simp only [viewDelCursor, List.filter_cons, ne_eq, not_true_eq_false, decide_False,
      List.eraseIdx_cons_zero]
    exact List.filter_eq_self.mpr fun other mem => decide_eq_true fun same =>
      distinct.1 (same ▸ List.mem_map_of_mem Cursor.id mem)
  | c :: cursors, k + 1, cursor, distinct, found => by
    rw [List.getElem?_cons_succ] at found
    rw [List.map_cons, List.nodup_cons] at distinct
    have kept : c.id ≠ cursor.id := fun same =>
      distinct.1 (same ▸ List.mem_map_of_mem Cursor.id (List.getElem?_mem found))
    rw [List.eraseIdx_cons_succ, ← viewDelCursor_eq_eraseIdx distinct.2 found]
    simp [viewDelCursor, kept]

/-! ## What the panel shows -/

/-- The widget `field` of the cursor panel row at each position `k` shows `text k`. -/
def PanelShows (widgets : Widgets) (field : CursorOptInfo → Option Nat) (text : Nat → String)
    (rows : List CursorOptInfo) : Prop :=
  ∀ k row, rows[k]? = some row → ∀ b, field row = some b → (widgets.get b).text = text k

namespace CursorOptInfo

variable {row : CursorOptInfo} {b : Nat}

theorem gotoBt_mem_handles (has : row.gotoBt = some b) : b ∈ row.handles := by
  simp [handles_eq, has]

theorem infoLabel_mem_handles (has : row.infoLabel = some b) : b ∈ row.handles := by
  simp [handles_eq, has]

theorem delBt_mem_handles (has : row.delBt = some b) : b ∈ row.handles := by
  simp [handles_eq, has]

/-- No marker button of a panel whose widgets are distinct is also one of its labels. -/
theorem not_mem_labels {rows : List CursorOptInfo} (distinct : (rows.flatMap handles).Nodup)
    (mem : row ∈ rows) (has : row.gotoBt = some b) :
    b ∉ rows.flatMap fun row => row.infoLabel.toList := by
  have columns : handles =
      fun row => (row.delBt.toList ++ row.gotoBt.toList) ++ row.infoLabel.toList :=
    funext handles_eq
  rw [columns] at distinct
  have disjoint :=
    (List.nodup_append.mp ((List.flatMap_append_perm rows _ _).nodup_iff.mpr distinct)).2.2
  exact disjoint (List.mem_flatMap.mpr ⟨row, mem, by simp [has]⟩)

end CursorOptInfo

theorem PanelShows.nil (widgets : Widgets) (field : CursorOptInfo → Option Nat)
    (text : Nat → String) : PanelShows widgets field text [] := fun _ _ absent => nomatch absent

/-- Widgets that keep their texts keep showing them. -/
theorem PanelShows.congr {widgets widgets' : Widgets} {field : CursorOptInfo → Option Nat}
    {text : Nat → String} {rows : List CursorOptInfo} (shows : PanelShows widgets field text rows)
    (owned : ∀ row b, field row = some b → b ∈ row.handles)
    (same : ∀ h ∈ rows.flatMap CursorOptInfo.handles,
      (widgets'.get h).text = (widgets.get h).text) :
    PanelShows widgets' field text rows := fun k row found b has => by
  rw [same b (List.mem_flatMap.mpr ⟨row, List.getElem?_mem found, owned row b has⟩)]
  exact shows k row found b has

theorem PanelShows.cons {widgets : Widgets} {field : CursorOptInfo → Option Nat}
    {text text' : Nat → String} {row : CursorOptInfo} {rows : List CursorOptInfo}
    (first : ∀ b, field row = some b → (widgets.get b).text = text 0)
    (rest : PanelShows widgets field text' rows) (shift : ∀ k, text' k = text (k + 1)) :
    PanelShows widgets field text (row :: rows)
  | 0, _, found, b, has => by
    rw [List.getElem?_cons_zero, Option.some.injEq] at found
    subst found
    exact first b has
  | k + 1, row', found, b, has =>
    (rest k row' (by rwa [List.getElem?_cons_succ] at found) b has).trans (shift k)

/-- `build_cursor_pannel` numbers the marker buttons from `position + 1` and gives each label the
time and sample index of its marker. -/
theorem buildCursorRows_shows (v : View) (store : Widgets) (position : Nat)
    (cursors : List Cursor) :
    PanelShows (buildCursorRows v store position cursors).1 CursorOptInfo.gotoBt
        (fun k => qNumber (position + k + 1)) (buildCursorRows v store position cursors).2.1 ∧
      PanelShows (buildCursorRows v store position cursors).1 CursorOptInfo.infoLabel
        (fun k => cursorInfoText v (position + k))
        (buildCursorRows v store position cursors).2.1 := by
  induction cursors generalizing store position with
  | nil => exact ⟨.nil _ _ _, .nil _ _ _⟩
  | cons cursor cursors ih =>
    simp only [buildCursorRows]
    refine ⟨.cons ?_ (ih _ _).1 fun k => congrArg qNumber (by omega),
      .cons ?_ (ih _ _).2 fun k => congrArg (cursorInfoText v) (by omega)⟩ <;>
    · rintro b ⟨⟩
      rw [buildCursorRows_get_of_lt v
        (by simp only [Widgets.create_fst, Widgets.create_next]; omega) _ _]
      simp only [Widget.ofText, Widgets.create_fst, Widgets.create_next, Widgets.create_get,
        self_eq_add_right, one_ne_zero, ↓reduceIte, Nat.cast_zero, add_zero, cursorInfoCall_result]

/-- `update_cursor_info` writes to the label of the row at each position the time and sample
index of the marker at that position. -/
theorem cursorInfoWrites_mem (v : View) {b : Nat} :
    ∀ (position : Nat) {k : Nat} {rows : List CursorOptInfo} {row : CursorOptInfo},
      rows[k]? = some row → row.infoLabel = some b →
        (b, cursorInfoText v (position + k)) ∈ (cursorInfoWrites v position rows).1
  | _, _, [], _, found, _ => nomatch found
  | position, 0, row :: rows, _, found, has => by
    rw [List.getElem?_cons_zero, Option.some.injEq] at found
    subst found
    simp [cursorInfoWrites, has]
  | position, k + 1, row :: rows, _, found, has => by
    rw [List.getElem?_cons_succ] at found
    have later := cursorInfoWrites_mem v (position + 1) found has
    rw [show position + 1 + k = position + (k + 1) by omega] at later
    cases label : row.infoLabel <;> simp [cursorInfoWrites, label, later]

/-- `update_cursor_info` writes only to the labels of the panel. -/
theorem cursorInfoWrites_labels (v : View) (position : Nat) (rows : List CursorOptInfo) :
    (cursorInfoWrites v position rows).1.map Prod.fst ⊆
      rows.flatMap fun row => row.infoLabel.toList := by
  induction rows generalizing position with
  | nil => exact List.nil_subset _
  | cons row rows ih =>
    rw [List.flatMap_cons]
    cases label : row.infoLabel with
    | none =>
      simp only [cursorInfoWrites, label]
      exact (ih _).trans (List.subset_append_right _ _)
    | some l =>
      simp only [cursorInfoWrites, label, List.map_cons, Option.toList_some]
      exact List.cons_subset.mpr ⟨List.mem_append_left _ (List.mem_singleton_self l),
        (ih _).trans (List.subset_append_right _ _)⟩

/-! ## Slots that keep the panel -/

namespace MeasureDock

/-- A slot that keeps the cursor panel of `mode`: the same rows, and the same texts on their
widgets. -/
structure KeepsPanel (mode : WorkMode) (dock dock' : MeasureDock) : Prop where
  rows : (dock'.modeRows (modeIndex mode)).optRowList = (dock.modeRows (modeIndex mode)).optRowList
  texts : ∀ h ∈ (dock.modeRows (modeIndex mode)).optRowList.flatMap CursorOptInfo.handles,
    (dock'.widgets.get h).text = (dock.widgets.get h).text

variable {limit : Nat} {mode : WorkMode} {v : View} {dock middle dock' : MeasureDock}

theorem KeepsPanel.trans (first : KeepsPanel mode dock middle)
    (second : KeepsPanel mode middle dock') : KeepsPanel mode dock dock' :=
  ⟨second.rows.trans first.rows,
    fun h mem => (second.texts h (first.rows ▸ mem)).trans (first.texts h mem)⟩

theorem keepsPanel_getModeRows (dock : MeasureDock) (mode : WorkMode) :
    KeepsPanel mode dock (dock.getModeRows mode) :=
  ⟨by rw [getModeRows_active], fun _ _ => rfl⟩

/-- The active rows written back with the same cursor panel, in widgets that keep the texts of
its widgets. -/
theorem keepsPanel_setActive {rows : RowListItem} {widgets : Widgets} (queries : List ViewQuery)
    (panel : rows.optRowList = (dock.modeRows (modeIndex mode)).optRowList)
    (texts : ∀ h ∈ (dock.modeRows (modeIndex mode)).optRowList.flatMap CursorOptInfo.handles,
      (widgets.get h).text = (dock.widgets.get h).text) :
    KeepsPanel mode dock { (dock.getModeRows mode).setRows (modeIndex mode) rows with
      widgets := widgets, viewQueries := queries } :=
  ⟨by simpa using panel, texts⟩

theorem keepsPanel_setRows {rows : RowListItem}
    (panel : rows.optRowList = (dock.modeRows (modeIndex mode)).optRowList) :
    KeepsPanel mode dock ((dock.getModeRows mode).setRows (modeIndex mode) rows) :=
  ⟨by simpa using panel, fun _ _ => rfl⟩

/-- A pass of `setText` calls to widgets of distance and edge rows keeps the texts of the cursor
panel's widgets. -/
theorem apply_keeps_panel {rows : RowListItem} (distinct : rows.handles.Nodup) (store : Widgets)
    {writes : List (Nat × String)}
    (keys : writes.map Prod.fst ⊆ rows.distRowList.flatMap CursorRowInfo.handles ++
      rows.edgeRowList.flatMap CursorRowInfo.handles) :
    ∀ h ∈ rows.optRowList.flatMap CursorOptInfo.handles,
      ((store.apply writes).get h).text = (store.get h).text := fun _ mem => by
  rw [Widgets.apply_get_of_not_mem fun written =>
    RowListItem.disjoint_opt distinct (keys written) mem]

theorem keepsPanel_updateDist (distinct : (dock.modeRows (modeIndex v.workMode)).handles.Nodup)
    (h : dock.updateDist v = some dock') : KeepsPanel v.workMode dock dock' := by
  obtain ⟨rows, writes, queries, loop, rfl⟩ := updateDist_eq_some_iff.mp h
  have keys := loop.keys_sublist fun _ _ _ start step => updateDistRow_keys start step
  exact keepsPanel_setActive _ rfl
    (apply_keeps_panel distinct _ (keys.subset.trans (List.subset_append_left _ _)))

theorem keepsPanel_updateEdge (distinct : (dock.modeRows (modeIndex v.workMode)).handles.Nodup)
    (h : dock.updateEdge v = some dock') : KeepsPanel v.workMode dock dock' := by
  obtain ⟨rows, writes, queries, loop, rfl⟩ := updateEdge_eq_some_iff.mp h
  have keys := loop.keys_sublist fun _ _ _ start step => updateEdgeRow_keys start step
  exact keepsPanel_setActive _ rfl
    (apply_keeps_panel distinct _ (keys.subset.trans (List.subset_append_right _ _)))

theorem keepsPanel_buildDistPannel (v : View)
    (allocated : ∀ h ∈ (dock.modeRows (modeIndex v.workMode)).optRowList.flatMap CursorOptInfo.handles,
      h < dock.widgets.next) :
    KeepsPanel v.workMode dock (dock.buildDistPannel v) := by
  simp only [buildDistPannel, getModeRows_active, getModeRows_widgets]
  exact keepsPanel_setActive _ rfl fun h mem => congrArg Widget.text
    (buildRows_get_of_lt buildDistRow_next (fun _ o _ below => buildDistRow_get_of_lt below o)
      (allocated h mem) _)

theorem keepsPanel_buildEdgePannel (v : View)
    (allocated : ∀ h ∈ (dock.modeRows (modeIndex v.workMode)).optRowList.flatMap CursorOptInfo.handles,
      h < dock.widgets.next) :
    KeepsPanel v.workMode dock (dock.buildEdgePannel v) := by
  simp only [buildEdgePannel, getModeRows_active, getModeRows_widgets]
  exact keepsPanel_setActive _ rfl fun h mem => congrArg Widget.text
    (buildRows_get_of_lt (buildEdgeRow_next v.signals)
      (fun _ o _ below => buildEdgeRow_get_of_lt below v.signals o) (allocated h mem) _)

/-- A widget of a distance or edge row of the active mode is not one of the cursor panel's. -/
theorem not_mem_panel (ok : SlotOk limit dock.widgets (dock.modeRows (modeIndex mode)))
    {o : CursorRowInfo} {h : Nat}
    (mem : o ∈ (dock.modeRows (modeIndex mode)).distRowList ++
      (dock.modeRows (modeIndex mode)).edgeRowList) (has : h ∈ o.handles) :
    h ∉ (dock.modeRows (modeIndex mode)).optRowList.flatMap CursorOptInfo.handles :=
  RowListItem.disjoint_opt ok.distinct
    (List.flatMap_append _ _ _ ▸ List.mem_flatMap.mpr ⟨o, mem, has⟩)

section Slots

variable (inv : Inv limit dock)
include inv

theorem keepsPanel_setSelCursor {selBtn : Nat} {text : String}
    (h : dock.setSelCursor v selBtn text = some dock') : KeepsPanel v.workMode dock dock' := by
  have ok := inv.slots (modeIndex v.workMode)
  rw [setSelCursor_eq ok] at h
  have written : ∀ {o}, o ∈ (dock.modeRows (modeIndex v.workMode)).distRowList ++
      (dock.modeRows (modeIndex v.workMode)).edgeRowList →
      (o.startBt = some selBtn ∨ o.endBt = some selBtn) →
      ∀ h ∈ (dock.modeRows (modeIndex v.workMode)).optRowList.flatMap CursorOptInfo.handles,
        ((dock.widgets.setText selBtn text).get h).text = (dock.widgets.get h).text :=
    fun mem owns h panel => by
      rw [Widgets.setText_get_of_ne fun (same : h = selBtn) =>
        not_mem_panel ok mem (CursorRowInfo.owns_mem_handles owns) (same ▸ panel)]
  split_ifs at h with inDist inEdge
  · obtain ⟨o, mem, owns⟩ := inDist
    refine (keepsPanel_setActive dock.viewQueries ?_ (written (List.mem_append_left _ mem) owns)).trans
      (keepsPanel_updateDist ?_ h)
    · rfl
    simpa [RowListItem.handles, flatMap_handles_map fun _ => CursorRowInfo.handles_assign]
      using ok.distinct
  · obtain ⟨o, mem, owns⟩ := inEdge
    refine (keepsPanel_setActive dock.viewQueries ?_ (written (List.mem_append_right _ mem) owns)).trans
      (keepsPanel_updateEdge ?_ h)
    · rfl
    simpa [RowListItem.handles, flatMap_handles_map fun _ => CursorRowInfo.handles_assign]
      using ok.distinct

theorem keepsPanel_selectCursor {selBtn index : Nat}
    (h : dock.selectCursor v selBtn index = some dock') : KeepsPanel v.workMode dock dock' := by
  unfold selectCursor at h
  split_ifs at h
  · cases h
    exact ⟨rfl, fun _ _ => rfl⟩
  · exact keepsPanel_setSelCursor inv h

theorem keepsPanel_selectChannel {box position : Nat}
    (h : dock.selectChannel v box position = some dock') : KeepsPanel v.workMode dock dock' := by
  have ok := inv.slots (modeIndex v.workMode)
  rw [selectChannel_eq ok] at h
  split_ifs at h
  · cases h
    exact ⟨rfl, fun _ _ => rfl⟩
  have keeps : ∀ o : CursorRowInfo,
      (if o.box = some box then { o with channelIndex := (position : Int) } else o).handles =
        o.handles :=
    fun o => by split_ifs <;> rfl
  refine (keepsPanel_setActive dock.viewQueries ?_ fun _ _ =>
    Widgets.modify_setCurrentIndex_text _ _ _ _).trans
    (keepsPanel_updateEdge ?_ h)
  · rfl
  simpa [RowListItem.handles, flatMap_handles_map keeps] using ok.distinct

/-- The cursor panel's widgets were created before any panel build. -/
theorem panel_allocated (mode : WorkMode) :
    ∀ h ∈ (dock.modeRows (modeIndex mode)).optRowList.flatMap CursorOptInfo.handles,
      h < dock.widgets.next :=
  fun h mem => (inv.slots (modeIndex mode)).allocated h (by
    simp only [RowListItem.handles, List.mem_append]
    exact .inr mem)

theorem keepsPanel_addDistMeasure (v : View) :
    KeepsPanel v.workMode dock (dock.addDistMeasure limit v) := by
  unfold addDistMeasure
  simp only [getModeRows_active]
  split_ifs
  · refine (keepsPanel_setRows ?_).trans (keepsPanel_buildDistPannel v ?_)
    · rfl
    · rw [setRows_same]
      exact panel_allocated inv v.workMode
  · exact keepsPanel_getModeRows _ _

theorem keepsPanel_addEdgeMeasure (v : View) :
    KeepsPanel v.workMode dock (dock.addEdgeMeasure limit v) := by
  unfold addEdgeMeasure
  simp only [getModeRows_active]
  split_ifs
  · refine (keepsPanel_setRows ?_).trans (keepsPanel_buildEdgePannel v ?_)
    · rfl
    · rw [setRows_same]
      exact panel_allocated inv v.workMode
  · exact keepsPanel_getModeRows _ _

theorem keepsPanel_delDistMeasure (v : View) (src : Nat) :
    KeepsPanel v.workMode dock (dock.delDistMeasure v src) := by
  unfold delDistMeasure
  simp only [getModeRows_active]
  split
  · refine (keepsPanel_setRows ?_).trans (keepsPanel_buildDistPannel v ?_)
    · rfl
    · rw [setRows_same]
      exact panel_allocated inv v.workMode
  · exact keepsPanel_getModeRows _ _

theorem keepsPanel_delEdgeMeasure (v : View) (src : Nat) :
    KeepsPanel v.workMode dock (dock.delEdgeMeasure v src) := by
  unfold delEdgeMeasure
  simp only [getModeRows_active]
  split
  · refine (keepsPanel_setRows ?_).trans (keepsPanel_buildEdgePannel v ?_)
    · rfl
    · rw [setRows_same]
      exact panel_allocated inv v.workMode
  · exact keepsPanel_getModeRows _ _

theorem keepsPanel_reStyle (h : dock.reStyle v = some dock') :
    KeepsPanel v.workMode dock dock' := by
  unfold reStyle at h
  dsimp only at h
  split_ifs at h
  exact (keepsPanel_getModeRows _ _).trans
    (keepsPanel_updateDist ((inv.getModeRows _).slots _).distinct h)

end Slots

/-! ## The panel's invariants -/

/-- The marker buttons of the cursor panel in `slot` show their rows' numbers. -/
def NumbersShown (slot : Fin 3) (dock : MeasureDock) : Prop :=
  PanelShows dock.widgets CursorOptInfo.gotoBt (fun k => qNumber (k + 1))
    (dock.modeRows slot).optRowList

/-- The cursor panel of `mode` lists the markers of `v` in order, and its labels show their times
and sample indices. -/
def Tracks (mode : WorkMode) (v : View) (dock : MeasureDock) : Prop :=
  (dock.modeRows (modeIndex mode)).optRowList.map CursorOptInfo.cursor = v.cursorList ∧
    PanelShows dock.widgets CursorOptInfo.infoLabel (cursorInfoText v)
      (dock.modeRows (modeIndex mode)).optRowList

/-- What a slot does to the cursor panel of `mode` while the view goes from `v` to `v'`: the marker
buttons keep showing their rows' numbers, and a panel that tracks the markers of `v` tracks those
of `v'` afterwards. -/
structure PanelStep (mode : WorkMode) (v v' : View) (dock dock' : MeasureDock) : Prop where
  numbers : NumbersShown (modeIndex mode) dock → NumbersShown (modeIndex mode) dock'
  tracks : Tracks mode v dock → Tracks mode v' dock'

theorem PanelStep.trans {v'' : View} (first : PanelStep mode v v' dock middle)
    (second : PanelStep mode v' v'' middle dock') : PanelStep mode v v'' dock dock' :=
  ⟨second.numbers ∘ first.numbers, second.tracks ∘ first.tracks⟩

theorem KeepsPanel.panelStep (keeps : KeepsPanel mode dock dock') (v : View) :
    PanelStep mode v v dock dock' :=
  ⟨fun shows => by
    rw [NumbersShown, keeps.rows]
    exact shows.congr (fun _ _ => CursorOptInfo.gotoBt_mem_handles) keeps.texts,
  fun tracks => by
    rw [Tracks, keeps.rows]
    exact ⟨tracks.1, tracks.2.congr (fun _ _ => CursorOptInfo.infoLabel_mem_handles) keeps.texts⟩⟩

/-- `update_cursor_info` writes to no marker button, and gives every label the time of the
marker at its row's position. -/
theorem panelStep_updateCursorInfo (distinct : (dock.modeRows (modeIndex v.workMode)).handles.Nodup)
    (h : dock.updateCursorInfo v = some dock') : PanelStep v.workMode v v dock dock' := by
  obtain ⟨-, rfl⟩ := updateCursorInfo_eq_some h
  have panel := (List.nodup_append.mp distinct).2.1
  have keys := cursorInfoWrites_keys v 0 (dock.modeRows (modeIndex v.workMode)).optRowList
  refine ⟨fun shows k row found b has => ?_,
    fun tracks => ⟨by simpa using tracks.1, fun k row found b has => ?_⟩⟩
  · simp only [getModeRows_active] at found ⊢
    rw [Widgets.apply_get_of_not_mem fun written => CursorOptInfo.not_mem_labels panel
      (List.getElem?_mem found) has (cursorInfoWrites_labels v 0 _ written)]
    exact shows k row found b has
  · simp only [getModeRows_active] at found ⊢
    rw [Widgets.apply_text_of_mem (keys.nodup panel) (cursorInfoWrites_mem v 0 found has),
      Nat.zero_add]

/-- `build_cursor_pannel` lists the view's markers, numbers their buttons and shows their times. -/
theorem buildCursorPannel_tracks (v : View) (dock : MeasureDock) :
    NumbersShown (modeIndex v.workMode) (dock.buildCursorPannel v) ∧
      Tracks v.workMode v (dock.buildCursorPannel v) := by
  obtain ⟨numbers, labels⟩ := buildCursorRows_shows v dock.widgets 0 v.cursorList
  simp only [Nat.cast_zero, zero_add] at numbers labels
  simp only [NumbersShown, Tracks, buildCursorPannel, setRows_same, getModeRows_widgets,
    buildCursorRows_cursors]
  exact ⟨numbers, trivial, labels⟩

/-! ## The slots that rebuild or relabel the panel -/

/-- `cursor_update` rebuilds the panel for the view's markers. -/
theorem cursorUpdate_tracks (h : dock.cursorUpdate v = some dock') :
    NumbersShown (modeIndex v.workMode) dock' ∧ Tracks v.workMode v dock' := by
  obtain ⟨updated, -, rfl⟩ := Option.map_eq_some'.mp h
  exact buildCursorPannel_tracks v updated

/-- `del_cursor` rebuilds the panel for the markers the view keeps. -/
theorem delCursor_tracks {src : Nat} {v' : View} (h : dock.delCursor v src = some (v', dock')) :
    NumbersShown (modeIndex v.workMode) dock' ∧ Tracks v.workMode v' dock' := by
  obtain ⟨updated, update, same⟩ := Option.map_eq_some'.mp h
  cases same
  have tracks := cursorUpdate_tracks update
  rw [delCursorView_workMode] at tracks
  exact tracks

/-- `update_cursor_info` passes its assertion on a panel that lists the view's markers. -/
theorem updateCursorInfo_succeeds (tracks : Tracks v.workMode v dock) :
    ∃ dock', dock.updateCursorInfo v = some dock' := by
  unfold updateCursorInfo
  simp only [getModeRows_active]
  split_ifs with empty count
  · exact ⟨_, rfl⟩
  · exact absurd (by rw [← tracks.1, List.length_map]) count
  · exact ⟨_, rfl⟩

section Passes

variable (inv : Inv limit dock)
include inv

theorem panelStep_reCalc (h : dock.reCalc v = some dock') :
    PanelStep v.workMode v v dock dock' := by
  obtain ⟨dist, edge, first, second, third⟩ := reCalc_eq_some h
  have afterDist := inv.updateDist first
  exact (((keepsPanel_updateDist (inv.slots _).distinct first).trans
    (keepsPanel_updateEdge (afterDist.slots _).distinct second)).panelStep v).trans
      (panelStep_updateCursorInfo ((afterDist.updateEdge second).slots _).distinct third)

theorem panelStep_cursorMoving (h : dock.cursorMoving v = some dock') :
    PanelStep v.workMode v v dock dock' := by
  obtain ⟨info, first, second⟩ := Option.bind_eq_some.mp h
  split at first
  · exact (panelStep_updateCursorInfo (inv.slots _).distinct first).trans
      ((keepsPanel_updateDist ((inv.updateCursorInfo first).slots _).distinct second).panelStep v)
  · cases first
    exact (keepsPanel_updateDist (inv.slots _).distinct second).panelStep v

/-- `reload` rebuilds the panel for the view's markers before its `reCalc`. -/
theorem reload_tracks (h : dock.reload v = some dock') :
    NumbersShown (modeIndex v.workMode) dock' ∧ Tracks v.workMode v dock' := by
  have step := panelStep_reCalc (((inv.buildDistPannel v).buildEdgePannel v).buildCursorPannel v) h
  exact ⟨step.numbers (buildCursorPannel_tracks v _).1,
    step.tracks (buildCursorPannel_tracks v _).2⟩

theorem reCalc_succeeds (tracks : Tracks v.workMode v dock) :
    ∃ dock', dock.reCalc v = some dock' :=
  Option.ne_none_iff_exists'.mp fun failed =>
    ((inv.reCalc_eq_none_iff v).mp failed).2 (by rw [← tracks.1, List.length_map])

theorem cursorMoving_succeeds (tracks : Tracks v.workMode v dock) :
    ∃ dock', dock.cursorMoving v = some dock' := by
  unfold cursorMoving
  split_ifs
  · obtain ⟨info, first⟩ := updateCursorInfo_succeeds tracks
    rw [first]
    exact (inv.updateCursorInfo first).updateDist_succeeds v
  · exact inv.updateDist_succeeds v

end Passes

/-- A slot that detaches every other mode needs the marker buttons checked only in the active
one. -/
theorem numbersShown_of_detaches (detaches : Detaches mode dock dock')
    (active : NumbersShown (modeIndex mode) dock') : ∀ slot, NumbersShown slot dock' :=
  fun slot => by
  by_cases same : slot = modeIndex mode
  · exact same ▸ active
  · rw [NumbersShown, detaches slot same]
    exact PanelShows.nil _ _ _

end MeasureDock

/-! ## Runs -/

namespace System

variable {limit : Nat} {e : Event} {s s' : System}

/-- Every event but a change of the view keeps the device mode, detaches the other modes or
changes nothing, and steps the active mode's cursor panel. -/
theorem step_panelStep (inv : Inv limit s.dock) (h : step limit e s = some s')
    (noView : ∀ view, e ≠ .changeView view) :
    s'.view.workMode = s.view.workMode ∧
      (s'.dock = s.dock ∨ MeasureDock.Detaches s.view.workMode s.dock s'.dock) ∧
      MeasureDock.PanelStep s.view.workMode s.view s'.view s.dock s'.dock := by
  obtain ⟨v, dock⟩ := s
  cases e <;> simp only [step, Option.some.injEq, Option.map_eq_some'] at h
  case addDistMeasure =>
    subst h
    exact ⟨rfl, .inr (MeasureDock.detaches_addDistMeasure dock v),
      (MeasureDock.keepsPanel_addDistMeasure inv v).panelStep v⟩
  case delDistMeasure src =>
    subst h
    exact ⟨rfl, .inr (MeasureDock.detaches_delDistMeasure dock v src),
      (MeasureDock.keepsPanel_delDistMeasure inv v src).panelStep v⟩
  case addEdgeMeasure =>
    subst h
    exact ⟨rfl, .inr (MeasureDock.detaches_addEdgeMeasure dock v),
      (MeasureDock.keepsPanel_addEdgeMeasure inv v).panelStep v⟩
  case delEdgeMeasure src =>
    subst h
    exact ⟨rfl, .inr (MeasureDock.detaches_delEdgeMeasure dock v src),
      (MeasureDock.keepsPanel_delEdgeMeasure inv v src).panelStep v⟩
  case selectCursor =>
    obtain ⟨_, step, rfl⟩ := h
    exact ⟨rfl, MeasureDock.detaches_selectCursor step,
      (MeasureDock.keepsPanel_selectCursor inv step).panelStep v⟩
  case selectChannel =>
    obtain ⟨_, step, rfl⟩ := h
    exact ⟨rfl, MeasureDock.detaches_selectChannel step,
      (MeasureDock.keepsPanel_selectChannel inv step).panelStep v⟩
  case delCursor =>
    obtain ⟨_, step, rfl⟩ := h
    have rebuilt := MeasureDock.delCursor_tracks step
    exact ⟨(MeasureDock.delCursor_rows step).1, .inr (MeasureDock.detaches_delCursor step),
      fun _ => rebuilt.1, fun _ => rebuilt.2⟩
  case cursorUpdate =>
    obtain ⟨_, step, rfl⟩ := h
    have rebuilt := MeasureDock.cursorUpdate_tracks step
    exact ⟨rfl, .inr (MeasureDock.detaches_cursorUpdate step), fun _ => rebuilt.1,
      fun _ => rebuilt.2⟩
  case cursorMoving =>
    obtain ⟨_, step, rfl⟩ := h
    exact ⟨rfl, .inr (MeasureDock.detaches_cursorMoving step),
      MeasureDock.panelStep_cursorMoving inv step⟩
  case reCalc =>
    obtain ⟨_, step, rfl⟩ := h
    exact ⟨rfl, .inr (MeasureDock.detaches_reCalc step), MeasureDock.panelStep_reCalc inv step⟩
  case reload =>
    obtain ⟨_, step, rfl⟩ := h
    have rebuilt := MeasureDock.reload_tracks inv step
    exact ⟨rfl, .inr (MeasureDock.detaches_reload step), fun _ => rebuilt.1, fun _ => rebuilt.2⟩
  case reStyle =>
    obtain ⟨_, step, rfl⟩ := h
    exact ⟨rfl, .inr (MeasureDock.detaches_reStyle step),
      (MeasureDock.keepsPanel_reStyle inv step).panelStep v⟩
  case changeView view => exact absurd rfl (noView view)

/-- Every event keeps the marker buttons of every mode's cursor panel showing their rows'
numbers. -/
theorem step_numbersShown (inv : Inv limit s.dock)
    (shows : ∀ slot, MeasureDock.NumbersShown slot s.dock)
    (h : step limit e s = some s') : ∀ slot, MeasureDock.NumbersShown slot s'.dock := by
  by_cases changes : ∃ view, e = .changeView view
  · obtain ⟨view, rfl⟩ := changes
    cases h
    exact shows
  · obtain ⟨-, same | detaches, panel⟩ :=
      step_panelStep inv h fun view same => changes ⟨view, same⟩
    · exact same ▸ shows
    · exact MeasureDock.numbersShown_of_detaches detaches (panel.numbers (shows _))

/-- An event that does not change the view keeps a panel that tracks the view's markers
tracking them. -/
theorem step_tracks (inv : Inv limit s.dock) (h : step limit e s = some s')
    (noView : ∀ view, e ≠ .changeView view)
    (tracks : MeasureDock.Tracks s.view.workMode s.view s.dock) :
    MeasureDock.Tracks s'.view.workMode s'.view s'.dock := by
  obtain ⟨mode, -, panel⟩ := step_panelStep inv h noView
  rw [mode]
  exact panel.tracks tracks

/-- `cursor_update`, `reload` and `del_cursor` leave a panel that tracks the view's markers. -/
theorem step_rebuilds (inv : Inv limit s.dock) (h : step limit e s = some s')
    (rebuilds : e = .cursorUpdate ∨ e = .reload ∨ ∃ src, e = .delCursor src) :
    MeasureDock.Tracks s'.view.workMode s'.view s'.dock := by
  obtain ⟨mode, -, panel⟩ := step_panelStep inv h fun view same => by
    rcases rebuilds with rfl | rfl | ⟨src, rfl⟩ <;> cases same
  obtain ⟨v, dock⟩ := s
  rcases rebuilds with rfl | rfl | ⟨src, rfl⟩ <;> simp only [step, Option.map_eq_some'] at h <;>
    obtain ⟨_, step, rfl⟩ := h
  · exact (MeasureDock.cursorUpdate_tracks step).2
  · exact (MeasureDock.reload_tracks inv step).2
  · rw [mode]
    exact (MeasureDock.delCursor_tracks step).2

/-- A run from a reachable state that does not change the view keeps a panel that tracks the
view's markers tracking them. -/
theorem run_tracks :
    ∀ {events : List Event} {s s' : System}, Reachable limit s →
      (∀ e ∈ events, ∀ view, e ≠ .changeView view) →
      MeasureDock.Tracks s.view.workMode s.view s.dock → run limit events s = some s' →
        MeasureDock.Tracks s'.view.workMode s'.view s'.dock
  | [], _, _, _, _, tracks, h => by
    cases h
    exact tracks
  | e :: events, _, _, reach, noView, tracks, h => by
    obtain ⟨mid, first, rest⟩ := Option.bind_eq_some.mp h
    exact run_tracks (.step e reach first) (fun e' mem => noView e' (List.mem_cons_of_mem _ mem))
      (step_tracks reach.inv first (noView e (List.mem_cons_self _ _)) tracks) rest

end System

/-- In every reachable state the marker buttons of every mode's cursor panel show their rows'
numbers. -/
theorem Reachable.numbersShown {limit : Nat} {s : System} (reach : Reachable limit s) :
    ∀ slot, MeasureDock.NumbersShown slot s.dock := by
  induction reach with
  | init v =>
    exact MeasureDock.numbersShown_of_detaches (MeasureDock.detaches_addDistMeasure _ v)
      (((MeasureDock.keepsPanel_addDistMeasure (Inv.empty limit) v).panelStep v).numbers
        (.nil _ _ _))
  | step _ reach h shows => exact System.step_numbersShown reach.inv shows h

/-- In every reachable state the marker button of the cursor panel row at position `k`, in every
mode, shows `k + 1`; so `goto_cursor`, clicked on a marker button, passes to
`View::set_cursor_middle` the position of a row owning the button, one less than the number the
button shows. -/
theorem reachable_goto_cursor_numbered {limit : Nat} {s : System} (reach : Reachable limit s) :
    (∀ (slot : Fin 3) (k : Nat) (row : CursorOptInfo), (s.dock.modeRows slot).optRowList[k]? = some row →
      ∀ b, row.gotoBt = some b → (s.dock.widgets.get b).text = qNumber (k + 1)) ∧
    ∀ (v : View) (src k : Nat), (s.dock.gotoCursor v src).2 = some k →
      (s.dock.widgets.get src).text = qNumber (k + 1) ∧
        ∃ row, (s.dock.modeRows (modeIndex v.workMode)).optRowList[k]? = some row ∧ row.gotoBt = some src := by
  refine ⟨reach.numbersShown, fun v src k found => ?_⟩
  obtain ⟨-, row, found, owns⟩ := gotoIndex_eq_some found
  rw [Nat.sub_zero, MeasureDock.getModeRows_active] at found
  exact ⟨reach.numbersShown _ k row found src owns, row, found, owns⟩

/-- Three markers, the cursor panel built for them: the marker button of the second row is
widget 8, which shows 2, and `goto_cursor` on it passes position 1. -/
theorem reachable_goto_cursor_numbered_second :
    ∃ s : System, Reachable 2 s ∧ (s.dock.gotoCursor s.view 8).2 = some 1 ∧
      (s.dock.widgets.get 8).text = qNumber 2 := by
  have reach := (Reachable.init View.threeMarkers).run
    (show System.run 2 [.cursorUpdate] (System.init 2 View.threeMarkers) = some _ from rfl)
  exact ⟨_, reach, rfl, ((reachable_goto_cursor_numbered reach).2 View.threeMarkers 8 1 rfl).1⟩

/-- After `cursor_update`, `reload` or `del_cursor`, and until the view changes behind the dock,
the cursor panel of the active mode lists the view's markers in order, every label shows the time
and sample index of the marker at its row's position, and `reCalc` and `cursor_moving` run to the
end: the assertion of `update_cursor_info` that there is one row per marker holds. -/
theorem reachable_panel_tracks_markers {limit : Nat} {s s' : System} (reach : Reachable limit s)
    {first : Event} (rebuilds : first = .cursorUpdate ∨ first = .reload ∨ ∃ src, first = .delCursor src)
    {events : List Event} (noView : ∀ e ∈ events, ∀ view, e ≠ .changeView view)
    (h : System.run limit (first :: events) s = some s') :
    (s'.dock.modeRows (modeIndex s'.view.workMode)).optRowList.map CursorOptInfo.cursor = s'.view.cursorList ∧
      (∀ (k : Nat) (row : CursorOptInfo), (s'.dock.modeRows (modeIndex s'.view.workMode)).optRowList[k]? = some row →
        ∀ b, row.infoLabel = some b → (s'.dock.widgets.get b).text = cursorInfoText s'.view k) ∧
      (∃ dock', s'.dock.reCalc s'.view = some dock') ∧ ∃ dock', s'.dock.cursorMoving s'.view = some dock' := by
  obtain ⟨rebuilt, step, rest⟩ := Option.bind_eq_some.mp h
  have tracks := System.run_tracks (.step first reach step) noView
    (System.step_rebuilds reach.inv step rebuilds) rest
  have inv := ((Reachable.step first reach step).run rest).inv
  exact ⟨tracks.1, tracks.2, MeasureDock.reCalc_succeeds inv tracks,
    MeasureDock.cursorMoving_succeeds inv tracks⟩

/-- Three markers: after `cursor_update`, adding an edge row and moving a marker, `reCalc` still
runs to the end. -/
theorem reachable_panel_tracks_markers_three :
    ∃ s' : System, System.run 2 [.cursorUpdate, .addEdgeMeasure, .cursorMoving]
        (System.init 2 View.threeMarkers) = some s' ∧ ∃ dock', s'.dock.reCalc s'.view = some dock' := by
  have run := show System.run 2 [.cursorUpdate, .addEdgeMeasure, .cursorMoving]
    (System.init 2 View.threeMarkers) = some _ from rfl
  exact ⟨_, run,
    (reachable_panel_tracks_markers (.init View.threeMarkers) (.inl rfl) (by simp) run).2.2.1⟩

theorem MeasureDock.delCursorView_cursorList {v : View} {src : Nat} {dock : MeasureDock}
    {row : CursorOptInfo} (found : (dock.modeRows (modeIndex v.workMode)).optRowList.find?
      (fun row => decide (row.delBt = some src)) = some row) :
    (delCursorView v src dock).cursorList = viewDelCursor v.cursorList row.cursor := by
  unfold delCursorView
  simp only [getModeRows_active, found]
  split_ifs <;> rfl

/-- In a reachable state whose cursor panel lists the view's markers, all distinct, clicking the
delete button of the panel row at position `k` removes exactly marker `k` from the view and keeps
the others in order; `del_cursor` runs to the end and leaves a panel that lists the markers that
remain. -/
theorem reachable_del_cursor_removes_row {limit : Nat} {s : System} (reach : Reachable limit s)
    (listed : (s.dock.modeRows (modeIndex s.view.workMode)).optRowList.map CursorOptInfo.cursor =
      s.view.cursorList)
    (distinct : (s.view.cursorList.map Cursor.id).Nodup) {k src : Nat}
    (clicked : (s.dock.modeRows (modeIndex s.view.workMode)).optRowList[k]?.bind CursorOptInfo.delBt = some src) :
    ∃ v' dock', s.dock.delCursor s.view src = some (v', dock') ∧
      v'.cursorList = s.view.cursorList.eraseIdx k ∧
      (dock'.modeRows (modeIndex v'.workMode)).optRowList.map CursorOptInfo.cursor = v'.cursorList := by
  obtain ⟨row, found, owns⟩ := Option.bind_eq_some.mp clicked
  have panel := (List.nodup_append.mp (reach.inv.slots (modeIndex s.view.workMode)).distinct).2.1
  have first := find?_eq_of_unique ((List.nodup_flatMap.mp panel).2.imp fun disjoint both =>
      disjoint (CursorOptInfo.delBt_mem_handles (of_decide_eq_true both.1))
        (CursorOptInfo.delBt_mem_handles (of_decide_eq_true both.2)))
    (List.getElem?_mem found) (decide_eq_true owns)
  have marker : s.view.cursorList[k]? = some row.cursor := by
    rw [← listed, List.getElem?_map, found]
    rfl
  obtain ⟨dock', update⟩ := (reach.inv.getModeRows s.view.workMode).cursorUpdate_succeeds
    (MeasureDock.delCursorView s.view src s.dock)
  refine ⟨_, dock', by simp [MeasureDock.delCursor, update], ?_,
    (MeasureDock.cursorUpdate_tracks update).2.1⟩
  rw [MeasureDock.delCursorView_cursorList first, viewDelCursor_eq_eraseIdx distinct marker]

/-- Three markers, the cursor panel built for them: the delete button of the second row, widget
7, removes the second marker. -/
theorem reachable_del_cursor_removes_row_second :
    ∃ s : System, Reachable 2 s ∧ ∃ v' dock', s.dock.delCursor s.view 7 = some (v', dock') ∧
      v'.cursorList = s.view.cursorList.eraseIdx 1 ∧
      (dock'.modeRows (modeIndex v'.workMode)).optRowList.map CursorOptInfo.cursor = v'.cursorList := by
  have reach := (Reachable.init View.threeMarkers).run
    (show System.run 2 [.cursorUpdate] (System.init 2 View.threeMarkers) = some _ from rfl)
  exact ⟨_, reach, reachable_del_cursor_removes_row reach (by decide) (by decide) (by decide)⟩

end DSView
