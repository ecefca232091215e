import DSView.Owner
import DSView.Recalc

/-!
# What the marker buttons show

The start and end buttons of a distance or edge row show the number of the marker the row's
reference names, and nothing while it is unset: `build_dist_pannel` creates them empty and
`build_edge_pannel` with a space, both then write the number of a set reference,
`set_sel_cursor` writes the chosen number to the button it stores that number for, and the
refresh passes clear the button of every reference they clear.  Nothing else writes to a
button: the other writes of the passes go to labels, and no two rows of a mode point to one
widget.  So in every reachable state every button shows its reference.
-/

namespace DSView

/-- What a marker button shows for a reference: the marker number, or a blank while the
reference is unset. -/
def ShowsRef (text : String) (ref : Int) : Prop :=
  if ref = -1 then text = "" ∨ text = " " else text = qNumber ref

theorem showsRef_unset : ShowsRef "" (-1) := by
  rw [ShowsRef, if_pos rfl]
  exact .inl rfl

/-- A number written to a button is the reference it shows. -/
theorem showsRef_qNumber (index : Nat) : ShowsRef (qNumber (index + 1)) (index + 1) := by
  rw [ShowsRef, if_neg (by omega)]

/-- A button whose text and reference the pass leaves alone, or which it clears exactly when the
reference is stale, still shows its reference after the stale-reference rule. -/
theorem showsRef_apply {store : Widgets} {writes : List (Nat × String)} {button count : Nat}
    {ref : Int} (distinct : (writes.map Prod.fst).Nodup)
    (written : IsStale count ref → (button, "") ∈ writes)
    (only : ∀ text, (button, text) ∈ writes → IsStale count ref)
    (shows : ShowsRef (store.get button).text ref) :
    ShowsRef ((store.apply writes).get button).text (checkRef count ref) := by
  by_cases stale : IsStale count ref
  · rw [Widgets.apply_text_of_mem distinct (written stale), checkRef, if_pos stale]
    exact showsRef_unset
  · rw [Widgets.apply_get_of_not_mem fun keyed => ?_, checkRef_of_not_isStale stale]
    · exact shows
    · obtain ⟨⟨_, text⟩, found, rfl⟩ := List.mem_map.mp keyed
      exact stale (only text found)

namespace CursorRowInfo

/-- The start and end buttons of a row show its references. -/
def ButtonsShow (widgets : Widgets) (o : CursorRowInfo) : Prop :=
  (∀ b, o.startBt = some b → ShowsRef (widgets.get b).text o.cursor1) ∧
    ∀ b, o.endBt = some b → ShowsRef (widgets.get b).text o.cursor2

variable {widgets widgets' : Widgets} {o : CursorRowInfo}

theorem ButtonsShow.congr (shows : o.ButtonsShow widgets)
    (same : ∀ b, o.startBt = some b ∨ o.endBt = some b → (widgets'.get b).text = (widgets.get b).text) :
    o.ButtonsShow widgets' :=
  ⟨fun b start => by rw [same b (.inl start)]; exact shows.1 b start,
    fun b finish => by rw [same b (.inr finish)]; exact shows.2 b finish⟩

/-- Writes to other widgets leave a row's buttons as they were. -/
theorem ButtonsShow.apply (shows : o.ButtonsShow widgets) {writes : List (Nat × String)}
    (untouched : ∀ h ∈ o.handles, h ∉ writes.map Prod.fst) : o.ButtonsShow (widgets.apply writes) :=
  shows.congr fun b owns => by rw [Widgets.apply_get_of_not_mem (untouched b (owns_mem_handles owns))]

theorem start_ne_end (distinct : o.handles.Nodup) {start finish : Nat}
    (hasStart : o.startBt = some start) (hasEnd : o.endBt = some finish) : start ≠ finish := by
  rintro rfl
  simp [handles_eq, hasStart, hasEnd, List.nodup_append] at distinct

/-- A `setText` on a widget that is neither button of a row leaves the row's buttons alone. -/
theorem ButtonsShow.setText (shows : o.ButtonsShow widgets) {handle : Nat} {text : String}
    (other : ¬(o.startBt = some handle ∨ o.endBt = some handle)) :
    o.ButtonsShow (widgets.setText handle text) :=
  shows.congr fun b owns => by
    have differ : b ≠ handle := by
      rintro rfl
      exact other owns
    rw [Widgets.setText_text, if_neg differ]

/-- `set_sel_cursor` writes the chosen number to the button behind which it stores it. -/
theorem ButtonsShow.assign (shows : o.ButtonsShow widgets) (distinct : o.handles.Nodup)
    {selBtn index : Nat} :
    (o.assign selBtn (qNumber (index + 1))).ButtonsShow
      (widgets.setText selBtn (qNumber (index + 1))) := by
  rw [assign_qNumber]
  split_ifs with start finish
  · refine ⟨fun b hb => ?_, fun b hb => ?_⟩
    · cases start.symm.trans hb
      rw [Widgets.setText_text, if_pos rfl]
      exact showsRef_qNumber index
    · rw [Widgets.setText_text, if_neg (start_ne_end distinct start hb).symm]
      exact shows.2 b hb
  · refine ⟨fun b hb => ?_, fun b hb => ?_⟩
    · rw [Widgets.setText_text, if_neg (start_ne_end distinct hb finish)]
      exact shows.1 b hb
    · cases finish.symm.trans hb
      rw [Widgets.setText_text, if_pos rfl]
      exact showsRef_qNumber index
  · exact shows.setText fun owns => owns.elim start finish

theorem buttonsShow_detach (o : CursorRowInfo) (widgets : Widgets) : o.detach.ButtonsShow widgets :=
  ⟨fun _ absent => (nomatch absent), fun _ absent => (nomatch absent)⟩

theorem buttonsShow_unset (widgets : Widgets) : unset.ButtonsShow widgets :=
  ⟨fun _ absent => (nomatch absent), fun _ absent => (nomatch absent)⟩

end CursorRowInfo

/-! ## The refresh passes -/

section Refresh

variable {v : View} {store : Widgets} {inf : CursorRowInfo} {startBt count : Nat}

/-- One iteration of a refresh pass: each button is cleared exactly when its reference is
stale, and the label is the only other widget written. -/
theorem buttonsShow_refresh {clearEnd : List (Nat × String)} {rLabel : Nat} {text : String}
    (start : inf.startBt = some startBt) (label : inf.rLabel = some rLabel)
    (clearEnd_eq : staleClear count inf.cursor2 inf.endBt = some clearEnd)
    (distinct : inf.handles.Nodup) (shows : inf.ButtonsShow store) :
    (inf.refresh count).ButtonsShow (store.apply
      ((if IsStale count inf.cursor1 then [(startBt, "")] else []) ++ clearEnd ++ [(rLabel, text)])) := by
  rw [CursorRowInfo.handles_eq, start, label] at distinct
  have ne₁ : startBt ≠ rLabel := by rintro rfl; simp [List.nodup_append] at distinct
  have written₁ : IsStale count inf.cursor1 → (startBt, "") ∈
      (if IsStale count inf.cursor1 then [(startBt, "")] else []) ++ clearEnd ++ [(rLabel, text)] :=
    fun stale => List.mem_append_left _ (List.mem_append_left _ (by rw [if_pos stale]; simp))
  cases finish : inf.endBt with
  | none =>
    obtain rfl : clearEnd = [] := by
      rw [finish, staleClear] at clearEnd_eq
      split_ifs at clearEnd_eq
      · cases clearEnd_eq
      · exact (Option.some.inj clearEnd_eq).symm
    refine ⟨fun b hb => ?_, fun b hb => nomatch finish.symm.trans hb⟩
    cases start.symm.trans hb
    refine showsRef_apply ?_ written₁ (fun t mem => ?_) (shows.1 _ start)
    · split_ifs <;> simp [ne₁]
    · simp [ne₁] at mem
      exact mem.1
  | some endBt =>
    rw [finish, staleClear_some, Option.some.injEq] at clearEnd_eq
    subst clearEnd_eq
    have ne₂ : startBt ≠ endBt := by rintro rfl; simp [finish, List.nodup_append] at distinct
    have ne₃ : endBt ≠ rLabel := by rintro rfl; simp [finish, List.nodup_append] at distinct
    have keys : ((((if IsStale count inf.cursor1 then [(startBt, "")] else []) ++
        (if IsStale count inf.cursor2 then [(endBt, "")] else []) ++ [(rLabel, text)]).map
          Prod.fst)).Nodup := by
      split_ifs <;> simp [ne₁, ne₂, ne₃]
    refine ⟨fun b hb => ?_, fun b hb => ?_⟩
    · cases start.symm.trans hb
      refine showsRef_apply keys written₁ (fun t mem => ?_) (shows.1 _ start)
      simp [ne₁, ne₂] at mem
      exact mem.1
    · cases finish.symm.trans hb
      refine showsRef_apply keys (fun stale => List.mem_append_left _ (List.mem_append_right _
        (by rw [if_pos stale]; simp))) (fun t mem => ?_) (shows.2 _ finish)
      simp [ne₂.symm, ne₃] at mem
      exact mem.1

theorem updateDistRow_buttonsShow {update : RowUpdate} (start : inf.startBt = some startBt)
    (distinct : inf.handles.Nodup) (h : updateDistRow v inf startBt = some update)
    (shows : inf.ButtonsShow store) : update.1.ButtonsShow (store.apply update.2.1) := by
  obtain ⟨endBt, rLabel, hasEnd, hasLabel, rfl⟩ := updateDistRow_eq_some h
  exact buttonsShow_refresh start hasLabel (by rw [hasEnd, staleClear_some]) distinct shows

theorem updateEdgeRow_buttonsShow {update : RowUpdate} {store' : Widgets} (start : inf.startBt = some startBt)
    (distinct : inf.handles.Nodup) (h : updateEdgeRow v store' inf startBt = some update)
    (shows : inf.ButtonsShow store) : update.1.ButtonsShow (store.apply update.2.1) := by
  obtain ⟨clearEnd, counts, queries, rLabel, hasClear, -, hasLabel, rfl⟩ := updateEdgeRow_eq_some h
  exact buttonsShow_refresh start hasLabel hasClear distinct shows

end Refresh

/-! ## Building the panels -/

/-- A new button shows the reference of a set marker and the text it was created with
otherwise. -/
theorem showsRef_build {blank : String} (isBlank : blank = "" ∨ blank = " ") (ref : Int) :
    ShowsRef (if ref = -1 then blank else qNumber ref) ref := by
  unfold ShowsRef
  split_ifs
  · exact isBlank
  · rfl

theorem buttonsShow_buildDistRow (store : Widgets) (o : CursorRowInfo) :
    (buildDistRow store o).2.ButtonsShow (buildDistRow store o).1 := by
  rw [buildDistRow_snd]
  refine ⟨fun b start => ?_, fun b finish => ?_⟩
  · cases start
    rcases o with ⟨_, _, _, _, _, _, _, _ | _⟩ <;>
      simp only [buildDistRow, Widget.ofText, Widgets.create_fst, Widgets.create_next,
        Widgets.create_get, apply_ite (fun s : Widgets => (s.get (store.next + 1)).text),
        Widgets.setText_text, add_left_inj, self_eq_add_right, OfNat.ofNat_ne_zero, ↓reduceIte,
        one_ne_zero, ite_self, ne_eq, ite_not] <;>
      exact showsRef_build (.inl rfl) _
  · cases finish
    rcases o with ⟨_, _, _, _, _, _, _, _ | _⟩ <;>
      simp only [buildDistRow, Widget.ofText, Widgets.create_fst, Widgets.create_next,
        Widgets.create_get, apply_ite (fun s : Widgets => (s.get (store.next + 2)).text),
        Widgets.setText_text, add_right_inj, self_eq_add_right, OfNat.ofNat_ne_one, ↓reduceIte,
        one_ne_zero, ite_self, ne_eq, ite_not] <;>
      exact showsRef_build (.inl rfl) _

theorem buttonsShow_buildEdgeRow (signals : List Signal) (store : Widgets) (o : CursorRowInfo) :
    (buildEdgeRow signals store o).2.ButtonsShow (buildEdgeRow signals store o).1 := by
  rw [buildEdgeRow_snd]
  refine ⟨fun b start => ?_, fun b finish => ?_⟩
  · cases start
    rcases o with ⟨_, _, _, _, _, _, _, _ | _⟩ <;>
      simp only [buildEdgeRow, Widget.ofText, Widgets.create_fst, Widgets.create_next,
        Widgets.create_get, apply_ite (fun s : Widgets => (s.get (store.next + 1)).text),
        Widgets.modify_setCurrentIndex_text, Widgets.setText_text, add_left_inj, self_eq_add_right,
        OfNat.ofNat_ne_zero, ↓reduceIte, one_ne_zero, ite_self, ne_eq, ite_not] <;>
      exact showsRef_build (.inr rfl) _
  · cases finish
    rcases o with ⟨_, _, _, _, _, _, _, _ | _⟩ <;>
      simp only [buildEdgeRow, Widget.ofText, Widgets.create_fst, Widgets.create_next,
        Widgets.create_get, apply_ite (fun s : Widgets => (s.get (store.next + 2)).text),
        Widgets.modify_setCurrentIndex_text, Widgets.setText_text, add_left_inj, add_right_inj,
        self_eq_add_right, OfNat.ofNat_ne_zero, OfNat.ofNat_ne_one, ↓reduceIte, one_ne_zero, ite_self,
        ne_eq, ite_not] <;>
      exact showsRef_build (.inr rfl) _

/-! ## The loop -/

section Loop

variable {body : CursorRowInfo → Nat → Option RowUpdate} {rows rows' : List CursorRowInfo}
  {writes : List (Nat × String)} {queries : List ViewQuery}

/-- A loop whose iterations write only to their row's widgets and keep their row's buttons
showing its references keeps the buttons of every row showing their references. -/
theorem UpdatesRows.buttonsShow
    (keys : ∀ inf startBt update, inf.startBt = some startBt → body inf startBt = some update →
      List.Sublist (update.2.1.map Prod.fst) inf.handles)
    (each : ∀ inf startBt update (store : Widgets), inf.startBt = some startBt →
      inf.handles.Nodup → body inf startBt = some update → inf.ButtonsShow store →
      update.1.ButtonsShow (store.apply update.2.1) ∧ update.1.handles = inf.handles)
    (h : UpdatesRows body rows rows' writes queries) :
    ∀ {store : Widgets}, (rows.flatMap CursorRowInfo.handles).Nodup →
      (∀ o ∈ rows, o.ButtonsShow store) → ∀ o ∈ rows', o.ButtonsShow (store.apply writes) := by
  induction h with
  | nil => exact fun _ _ o mem => absurd mem (List.not_mem_nil o)
  | stop _ => exact fun _ shows => shows
  | cons start first rest ih =>
    intro store distinct shows o mem
    rw [List.flatMap_cons, List.nodup_append] at distinct
    obtain ⟨own, others, disjoint⟩ := distinct
    have later := (rest.keys_sublist keys).subset
    obtain ⟨row, same⟩ := each _ _ _ store start own first (shows _ (List.mem_cons_self _ _))
    rw [Widgets.apply_append]
    rcases List.mem_cons.mp mem with rfl | mem
    · exact row.apply fun h has written => disjoint (same ▸ has) (later written)
    · refine ih others (fun o' mem' => (shows o' (List.mem_cons_of_mem _ mem')).apply
        fun h has written => ?_) o mem
      exact disjoint ((keys _ _ _ start first).subset written) (List.mem_flatMap.mpr ⟨o', mem', has⟩)

end Loop

/-! ## The rows of a mode -/

namespace RowListItem

/-- The buttons of every distance and edge row of a mode show their references. -/
def ButtonsShow (widgets : Widgets) (rows : RowListItem) : Prop :=
  ∀ o ∈ rows.distRowList ++ rows.edgeRowList, o.ButtonsShow widgets

variable {rows : RowListItem}

theorem buttonsShow_detach (rows : RowListItem) (widgets : Widgets) : rows.detach.ButtonsShow widgets := by
  intro o mem
  simp only [detach, List.mem_append, List.mem_map] at mem
  rcases mem with ⟨o, -, rfl⟩ | ⟨o, -, rfl⟩ <;> exact CursorRowInfo.buttonsShow_detach o widgets

theorem nodup_dist (distinct : rows.handles.Nodup) :
    (rows.distRowList.flatMap CursorRowInfo.handles).Nodup :=
  (List.nodup_append.mp (List.nodup_append.mp distinct).1).1

theorem nodup_edge (distinct : rows.handles.Nodup) :
    (rows.edgeRowList.flatMap CursorRowInfo.handles).Nodup :=
  (List.nodup_append.mp (List.nodup_append.mp distinct).1).2.1

theorem disjoint_dist_edge (distinct : rows.handles.Nodup) :
    List.Disjoint (rows.distRowList.flatMap CursorRowInfo.handles)
      (rows.edgeRowList.flatMap CursorRowInfo.handles) :=
  (List.nodup_append.mp (List.nodup_append.mp distinct).1).2.2

theorem disjoint_opt (distinct : rows.handles.Nodup) :
    List.Disjoint (rows.distRowList.flatMap CursorRowInfo.handles ++
      rows.edgeRowList.flatMap CursorRowInfo.handles) (rows.optRowList.flatMap CursorOptInfo.handles) :=
  (List.nodup_append.mp distinct).2.2

theorem nodup_of_mem {o : CursorRowInfo} (distinct : rows.handles.Nodup)
    (mem : o ∈ rows.distRowList ++ rows.edgeRowList) : o.handles.Nodup := by
  have rowsDistinct := (List.nodup_append.mp distinct).1
  rw [← List.flatMap_append] at rowsDistinct
  exact (List.nodup_flatMap.mp rowsDistinct).1 o mem

theorem mem_handles_of_mem {o : CursorRowInfo} {handle : Nat}
    (mem : o ∈ rows.distRowList ++ rows.edgeRowList) (has : handle ∈ o.handles) :
    handle ∈ rows.handles :=
  (List.mem_append.mp mem).elim (mem_handles_of_dist · has) (mem_handles_of_edge · has)

end RowListItem

namespace MeasureDock

/-- The buttons of every distance and edge row of every mode show their references. -/
def ButtonsShow (dock : MeasureDock) : Prop :=
  ∀ slot, (dock.modeRows slot).ButtonsShow dock.widgets

variable {limit : Nat} {mode : WorkMode} {v : View} {dock dock' : MeasureDock}

/-- A slot that detaches every other mode needs its buttons checked only in the active one. -/
theorem ButtonsShow.of_detaches (detaches : Detaches mode dock dock')
    (active : (dock'.modeRows (modeIndex mode)).ButtonsShow dock'.widgets) : dock'.ButtonsShow :=
  fun slot => by
    by_cases same : slot = modeIndex mode
    · subst same
      exact active
    · rw [detaches slot same]
      exact RowListItem.buttonsShow_detach _ _

theorem updateDist_buttonsShow (distinct : (dock.modeRows (modeIndex v.workMode)).handles.Nodup)
    (shows : dock.ButtonsShow) (h : dock.updateDist v = some dock') : dock'.ButtonsShow := by
  obtain ⟨rows, writes, queries, loop, rfl⟩ := updateDist_eq_some_iff.mp h
  have keys := loop.keys_sublist fun _ _ _ start step => updateDistRow_keys start step
  refine .of_detaches (detaches_setActive dock v.workMode _ _ _) fun o mem => ?_
  simp only [setRows_same, List.mem_append] at mem
  rcases mem with dist | edge
  · refine loop.buttonsShow (fun _ _ _ start step => updateDistRow_keys start step)
      (fun _ _ _ _ start own step row => ⟨updateDistRow_buttonsShow start own step row, ?_⟩)
      (RowListItem.nodup_dist distinct) (fun o mem => shows _ o (List.mem_append_left _ mem)) o dist
    rw [updateDistRow_row step]
    rfl
  · exact (shows _ o (List.mem_append_right _ edge)).apply fun h has written =>
      RowListItem.disjoint_dist_edge distinct (keys.subset written) (List.mem_flatMap.mpr ⟨o, edge, has⟩)

theorem updateEdge_buttonsShow (distinct : (dock.modeRows (modeIndex v.workMode)).handles.Nodup)
    (shows : dock.ButtonsShow) (h : dock.updateEdge v = some dock') : dock'.ButtonsShow := by
  obtain ⟨rows, writes, queries, loop, rfl⟩ := updateEdge_eq_some_iff.mp h
  have keys := loop.keys_sublist fun _ _ _ start step => updateEdgeRow_keys start step
  refine .of_detaches (detaches_setActive dock v.workMode _ _ _) fun o mem => ?_
  simp only [setRows_same, List.mem_append] at mem
  rcases mem with dist | edge
  · exact (shows _ o (List.mem_append_left _ dist)).apply fun h has written =>
      RowListItem.disjoint_dist_edge distinct (List.mem_flatMap.mpr ⟨o, dist, has⟩) (keys.subset written)
  · refine loop.buttonsShow (fun _ _ _ start step => updateEdgeRow_keys start step)
      (fun _ _ _ _ start own step row => ⟨updateEdgeRow_buttonsShow start own step row, ?_⟩)
      (RowListItem.nodup_edge distinct) (fun o mem => shows _ o (List.mem_append_right _ mem)) o edge
    rw [updateEdgeRow_row step]
    rfl

theorem updateCursorInfo_buttonsShow (distinct : (dock.modeRows (modeIndex v.workMode)).handles.Nodup)
    (shows : dock.ButtonsShow) (h : dock.updateCursorInfo v = some dock') : dock'.ButtonsShow := by
  obtain ⟨-, rfl⟩ := updateCursorInfo_eq_some h
  have keys := cursorInfoWrites_keys v 0 (dock.modeRows (modeIndex v.workMode)).optRowList
  refine .of_detaches (detaches_getModeRows dock v.workMode) fun o mem => ?_
  simp only [getModeRows_active] at mem
  exact (shows _ o mem).apply fun h has written => RowListItem.disjoint_opt distinct
    (List.flatMap_append _ _ _ ▸ List.mem_flatMap.mpr ⟨o, mem, has⟩) (keys.subset written)

theorem buildDistPannel_buttonsShow (v : View)
    (allocated : ∀ h ∈ (dock.modeRows (modeIndex v.workMode)).edgeRowList.flatMap CursorRowInfo.handles,
      h < dock.widgets.next)
    (shows : dock.ButtonsShow) : (dock.buildDistPannel v).ButtonsShow := by
  have get : ∀ store o handle, handle < store.next →
      (buildDistRow store o).1.get handle = store.get handle :=
    fun _ o _ below => buildDistRow_get_of_lt below o
  refine .of_detaches (detaches_buildDistPannel dock v) fun o mem => ?_
  simp only [buildDistPannel, getModeRows_active, getModeRows_widgets, setRows_same,
    List.mem_append] at mem ⊢
  rcases mem with built | edge
  · obtain ⟨o, -, before, rfl, kept⟩ := mem_buildRows buildDistRow_next get built
    refine (buttonsShow_buildDistRow before o).congr fun b owns => congrArg Widget.text (kept b ?_)
    rw [buildDistRow_snd] at owns
    rw [buildDistRow_next]
    rcases owns with owns | owns <;> (cases owns; omega)
  · exact (shows _ o (List.mem_append_right _ edge)).congr fun b owns => congrArg Widget.text
      (buildRows_get_of_lt buildDistRow_next get
        (allocated b (List.mem_flatMap.mpr ⟨o, edge, CursorRowInfo.owns_mem_handles owns⟩)) _)

theorem buildEdgePannel_buttonsShow (v : View)
    (allocated : ∀ h ∈ (dock.modeRows (modeIndex v.workMode)).distRowList.flatMap CursorRowInfo.handles,
      h < dock.widgets.next)
    (shows : dock.ButtonsShow) : (dock.buildEdgePannel v).ButtonsShow := by
  have get : ∀ store o handle, handle < store.next →
      (buildEdgeRow v.signals store o).1.get handle = store.get handle :=
    fun _ o _ below => buildEdgeRow_get_of_lt below v.signals o
  refine .of_detaches (detaches_buildEdgePannel dock v) fun o mem => ?_
  simp only [buildEdgePannel, getModeRows_active, getModeRows_widgets, setRows_same,
    List.mem_append] at mem ⊢
  rcases mem with dist | built
  · exact (shows _ o (List.mem_append_left _ dist)).congr fun b owns => congrArg Widget.text
      (buildRows_get_of_lt (buildEdgeRow_next v.signals) get
        (allocated b (List.mem_flatMap.mpr ⟨o, dist, CursorRowInfo.owns_mem_handles owns⟩)) _)
  · obtain ⟨o, -, before, rfl, kept⟩ := mem_buildRows (buildEdgeRow_next v.signals) get built
    refine (buttonsShow_buildEdgeRow v.signals before o).congr fun b owns =>
      congrArg Widget.text (kept b ?_)
    rw [buildEdgeRow_snd] at owns
    rw [buildEdgeRow_next]
    rcases owns with owns | owns <;> (cases owns; omega)

theorem buildCursorPannel_buttonsShow (v : View)
    (allocated : ∀ h ∈ (dock.modeRows (modeIndex v.workMode)).handles, h < dock.widgets.next)
    (shows : dock.ButtonsShow) : (dock.buildCursorPannel v).ButtonsShow := by
  refine .of_detaches (detaches_buildCursorPannel dock v) fun o mem => ?_
  simp only [buildCursorPannel, getModeRows_active, getModeRows_widgets, setRows_same] at mem ⊢
  exact (shows _ o mem).congr fun b owns => congrArg Widget.text (buildCursorRows_get_of_lt v
    (allocated b (RowListItem.mem_handles_of_mem mem (CursorRowInfo.owns_mem_handles owns))) 0 _)

theorem getModeRows_buttonsShow (shows : dock.ButtonsShow) (mode : WorkMode) :
    (dock.getModeRows mode).ButtonsShow :=
  .of_detaches (detaches_getModeRows dock mode) (by simpa using shows (modeIndex mode))

/-- The active rows replaced by some of their rows and unset ones, the widgets kept. -/
theorem ButtonsShow.setActive (shows : dock.ButtonsShow) {rows : RowListItem}
    (kept : ∀ o ∈ rows.distRowList ++ rows.edgeRowList,
      o ∈ (dock.modeRows (modeIndex mode)).distRowList ++ (dock.modeRows (modeIndex mode)).edgeRowList ∨
        o = CursorRowInfo.unset) :
    ((dock.getModeRows mode).setRows (modeIndex mode) rows).ButtonsShow :=
  .of_detaches (detaches_setActive dock mode rows dock.widgets dock.viewQueries) fun o mem => by
    simp only [setRows_same] at mem
    rcases kept o mem with old | rfl
    · exact shows _ o old
    · exact CursorRowInfo.buttonsShow_unset _

/-! ## Each slot -/

section Slots

variable (inv : Inv limit dock) (shows : dock.ButtonsShow)
include inv shows

theorem addDistMeasure_buttonsShow (v : View) : (dock.addDistMeasure limit v).ButtonsShow := by
  have ok := inv.slots (modeIndex v.workMode)
  unfold addDistMeasure
  simp only [getModeRows_active]
  split_ifs
  · refine buildDistPannel_buttonsShow v (fun h mem => ?_) (shows.setActive fun o mem => ?_)
    · simp only [setRows_same, setRows_widgets, getModeRows_widgets] at mem ⊢
      exact ok.allocated h (by simp only [RowListItem.handles, List.mem_append]; exact .inl (.inr mem))
    · simp only [List.mem_append, List.mem_singleton] at mem ⊢
      tauto
  · exact getModeRows_buttonsShow shows _

theorem addEdgeMeasure_buttonsShow (v : View) : (dock.addEdgeMeasure limit v).ButtonsShow := by
  have ok := inv.slots (modeIndex v.workMode)
  unfold addEdgeMeasure
  simp only [getModeRows_active]
  split_ifs
  · refine buildEdgePannel_buttonsShow v (fun h mem => ?_) (shows.setActive fun o mem => ?_)
    · simp only [setRows_same, setRows_widgets, getModeRows_widgets] at mem ⊢
      exact ok.allocated h (by simp only [RowListItem.handles, List.mem_append]; exact .inl (.inl mem))
    · simp only [List.mem_append, List.mem_singleton] at mem ⊢
      tauto
  · exact getModeRows_buttonsShow shows _

theorem delDistMeasure_buttonsShow (v : View) (src : Nat) :
    (dock.delDistMeasure v src).ButtonsShow := by
  have ok := inv.slots (modeIndex v.workMode)
  unfold delDistMeasure
  simp only [getModeRows_active]
  split
  · next erased =>
    refine buildDistPannel_buttonsShow v (fun h mem => ?_) (shows.setActive fun o mem => ?_)
    · simp only [setRows_same, setRows_widgets, getModeRows_widgets] at mem ⊢
      exact ok.allocated h (by simp only [RowListItem.handles, List.mem_append]; exact .inl (.inr mem))
    · rcases List.mem_append.mp mem with dist | edge
      · exact .inl (List.mem_append_left _ ((eraseFirst_sublist erased).subset dist))
      · exact .inl (List.mem_append_right _ edge)
  · exact getModeRows_buttonsShow shows _

theorem delEdgeMeasure_buttonsShow (v : View) (src : Nat) :
    (dock.delEdgeMeasure v src).ButtonsShow := by
  have ok := inv.slots (modeIndex v.workMode)
  unfold delEdgeMeasure
  simp only [getModeRows_active]
  split
  · next erased =>
    refine buildEdgePannel_buttonsShow v (fun h mem => ?_) (shows.setActive fun o mem => ?_)
    · simp only [setRows_same, setRows_widgets, getModeRows_widgets] at mem ⊢
      exact ok.allocated h (by simp only [RowListItem.handles, List.mem_append]; exact .inl (.inl mem))
    · rcases List.mem_append.mp mem with dist | edge
      · exact .inl (List.mem_append_left _ dist)
      · exact .inl (List.mem_append_right _ ((eraseFirst_sublist erased).subset edge))
  · exact getModeRows_buttonsShow shows _

/-- A marker choice writes the chosen number to the clicked button of the row that stores it,
and then refreshes that row's list. -/
theorem setSelCursor_buttonsShow {selBtn index : Nat}
    (h : dock.setSelCursor v selBtn (qNumber (index + 1)) = some dock') : dock'.ButtonsShow := by
  have ok := inv.slots (modeIndex v.workMode)
  rw [setSelCursor_eq ok] at h
  split_ifs at h with inDist inEdge
  · refine updateDist_buttonsShow ?_ (.of_detaches (detaches_setActive dock v.workMode _ _
      dock.viewQueries) fun o mem => ?_) h
    · simpa [RowListItem.handles, flatMap_handles_map fun _ => CursorRowInfo.handles_assign]
        using ok.distinct
    · simp only [setRows_same, List.mem_append, List.mem_map] at mem
      rcases mem with ⟨x, mem, rfl⟩ | edge
      · exact (shows _ x (List.mem_append_left _ mem)).assign
          (RowListItem.nodup_of_mem ok.distinct (List.mem_append_left _ mem))
      · refine (shows _ o (List.mem_append_right _ edge)).setText fun owns => ?_
        obtain ⟨y, found, yOwns⟩ := inDist
        exact RowListItem.disjoint_dist_edge ok.distinct
          (List.mem_flatMap.mpr ⟨y, found, CursorRowInfo.owns_mem_handles yOwns⟩)
          (List.mem_flatMap.mpr ⟨o, edge, CursorRowInfo.owns_mem_handles owns⟩)
  · refine updateEdge_buttonsShow ?_ (.of_detaches (detaches_setActive dock v.workMode _ _
      dock.viewQueries) fun o mem => ?_) h
    · simpa [RowListItem.handles, flatMap_handles_map fun _ => CursorRowInfo.handles_assign]
        using ok.distinct
    · simp only [setRows_same, List.mem_append, List.mem_map] at mem
      rcases mem with dist | ⟨x, mem, rfl⟩
      · exact (shows _ o (List.mem_append_left _ dist)).setText fun owns => inDist ⟨o, dist, owns⟩
      · exact (shows _ x (List.mem_append_right _ mem)).assign
          (RowListItem.nodup_of_mem ok.distinct (List.mem_append_right _ mem))

theorem selectCursor_buttonsShow {selBtn index : Nat}
    (h : dock.selectCursor v selBtn index = some dock') : dock'.ButtonsShow := by
  unfold selectCursor at h
  split_ifs at h
  · cases h
    exact shows
  · exact setSelCursor_buttonsShow inv shows h

/-- A channel choice changes no text and no reference before its refresh. -/
theorem selectChannel_buttonsShow {box position : Nat}
    (h : dock.selectChannel v box position = some dock') : dock'.ButtonsShow := by
  have ok := inv.slots (modeIndex v.workMode)
  rw [selectChannel_eq ok] at h
  split_ifs at h
  · cases h
    exact shows
  have keeps : ∀ o : CursorRowInfo,
      (if o.box = some box then { o with channelIndex := (position : Int) } else o).handles = o.handles :=
    fun o => by split_ifs <;> rfl
  refine updateEdge_buttonsShow ?_ (.of_detaches (detaches_setActive dock v.workMode _ _
    dock.viewQueries) fun o mem => ?_) h
  · simpa [RowListItem.handles, flatMap_handles_map keeps] using ok.distinct
  · simp only [setRows_same, List.mem_append, List.mem_map] at mem
    rcases mem with dist | ⟨x, mem, rfl⟩
    · exact (shows _ o (List.mem_append_left _ dist)).congr fun b _ =>
        Widgets.modify_setCurrentIndex_text _ _ _ _
    · split_ifs <;> exact (shows _ x (List.mem_append_right _ mem)).congr fun b _ =>
        Widgets.modify_setCurrentIndex_text _ _ _ _

theorem cursorUpdate_buttonsShow (h : dock.cursorUpdate v = some dock') : dock'.ButtonsShow := by
  obtain ⟨updated, both, rfl⟩ := Option.map_eq_some'.mp h
  obtain ⟨dist, first, second⟩ := Option.bind_eq_some.mp both
  have afterDist := inv.updateDist first
  exact buildCursorPannel_buttonsShow v (fun h mem => ((afterDist.updateEdge second).slots _).allocated h mem)
    (updateEdge_buttonsShow (afterDist.slots _).distinct
      (updateDist_buttonsShow (inv.slots _).distinct shows first) second)

theorem reCalc_buttonsShow (h : dock.reCalc v = some dock') : dock'.ButtonsShow := by
  obtain ⟨dist, edge, first, second, third⟩ := reCalc_eq_some h
  have afterDist := inv.updateDist first
  exact updateCursorInfo_buttonsShow ((afterDist.updateEdge second).slots _).distinct
    (updateEdge_buttonsShow (afterDist.slots _).distinct
      (updateDist_buttonsShow (inv.slots _).distinct shows first) second) third

theorem reload_buttonsShow (h : dock.reload v = some dock') : dock'.ButtonsShow := by
  have dist := inv.buildDistPannel v
  have edge := dist.buildEdgePannel v
  refine reCalc_buttonsShow (edge.buildCursorPannel v) ?_ h
  refine buildCursorPannel_buttonsShow v (fun h mem => (edge.slots _).allocated h mem)
    (buildEdgePannel_buttonsShow v (fun h mem => (dist.slots (modeIndex v.workMode)).allocated h ?_)
      (buildDistPannel_buttonsShow v (fun h mem => (inv.slots (modeIndex v.workMode)).allocated h ?_)
        shows))
  · simp only [RowListItem.handles, List.mem_append]
    exact .inl (.inl mem)
  · simp only [RowListItem.handles, List.mem_append]
    exact .inl (.inr mem)

theorem cursorMoving_buttonsShow (h : dock.cursorMoving v = some dock') : dock'.ButtonsShow := by
  obtain ⟨info, first, second⟩ := Option.bind_eq_some.mp h
  split at first
  · exact updateDist_buttonsShow ((inv.updateCursorInfo first).slots _).distinct
      (updateCursorInfo_buttonsShow (inv.slots _).distinct shows first) second
  · cases first
    exact updateDist_buttonsShow (inv.slots _).distinct shows second

theorem reStyle_buttonsShow (h : dock.reStyle v = some dock') : dock'.ButtonsShow := by
  unfold reStyle at h
  dsimp only at h
  split_ifs at h
  exact updateDist_buttonsShow ((inv.getModeRows _).slots _).distinct
    (getModeRows_buttonsShow shows _) h

theorem delCursor_buttonsShow {src : Nat} {v' : View} (h : dock.delCursor v src = some (v', dock')) :
    dock'.ButtonsShow := by
  obtain ⟨updated, update, same⟩ := Option.map_eq_some'.mp h
  cases same
  exact cursorUpdate_buttonsShow (inv.getModeRows _) (getModeRows_buttonsShow shows _) update

end Slots

theorem empty_buttonsShow : empty.ButtonsShow := fun _ o mem => by
  simp [empty] at mem

end MeasureDock

/-- Every event keeps the buttons showing their references, whatever the view. -/
theorem System.step_buttonsShow {limit : Nat} {e : Event} {s s' : System} (inv : Inv limit s.dock)
    (shows : s.dock.ButtonsShow) (h : System.step limit e s = some s') : s'.dock.ButtonsShow := by
  obtain ⟨v, dock⟩ := s
  cases e <;> simp only [System.step, Option.some.injEq, Option.map_eq_some'] at h
  case addDistMeasure => subst h; exact MeasureDock.addDistMeasure_buttonsShow inv shows v
  case delDistMeasure src => subst h; exact MeasureDock.delDistMeasure_buttonsShow inv shows v src
  case addEdgeMeasure => subst h; exact MeasureDock.addEdgeMeasure_buttonsShow inv shows v
  case delEdgeMeasure src => subst h; exact MeasureDock.delEdgeMeasure_buttonsShow inv shows v src
  case selectCursor =>
    obtain ⟨_, step, rfl⟩ := h; exact MeasureDock.selectCursor_buttonsShow inv shows step
  case selectChannel =>
    obtain ⟨_, step, rfl⟩ := h; exact MeasureDock.selectChannel_buttonsShow inv shows step
  case delCursor =>
    obtain ⟨_, step, rfl⟩ := h; exact MeasureDock.delCursor_buttonsShow inv shows step
  case cursorUpdate =>
    obtain ⟨_, step, rfl⟩ := h; exact MeasureDock.cursorUpdate_buttonsShow inv shows step
  case cursorMoving =>
    obtain ⟨_, step, rfl⟩ := h; exact MeasureDock.cursorMoving_buttonsShow inv shows step
  case reCalc => obtain ⟨_, step, rfl⟩ := h; exact MeasureDock.reCalc_buttonsShow inv shows step
  case reload => obtain ⟨_, step, rfl⟩ := h; exact MeasureDock.reload_buttonsShow inv shows step
  case reStyle => obtain ⟨_, step, rfl⟩ := h; exact MeasureDock.reStyle_buttonsShow inv shows step
  case changeView => subst h; exact shows

/-- Two distance rows, the first bound to marker 3 while three markers existed; with two markers
left, marker 1 is chosen for the second row, and the refresh clears the first row's reference. -/
def System.rebound : System :=
  System.after 2 View.threeMarkers [.addDistMeasure, .selectCursor 5 2, .changeView View.twoMarkers,
    .selectCursor 9 0]

/-- In every reachable state the start and end buttons of every distance and edge row, in every
mode, show the number of the marker the row's reference names, and are blank while the reference
is unset. -/
theorem reachable_buttons_show {limit : Nat} {s : System} (reach : Reachable limit s) :
    ∀ slot, ∀ o ∈ (s.dock.modeRows slot).distRowList ++ (s.dock.modeRows slot).edgeRowList,
      (∀ b, o.startBt = some b → ShowsRef (s.dock.widgets.get b).text o.cursor1) ∧
        ∀ b, o.endBt = some b → ShowsRef (s.dock.widgets.get b).text o.cursor2 := by
  induction reach with
  | init v =>
    exact MeasureDock.addDistMeasure_buttonsShow (Inv.empty limit) MeasureDock.empty_buttonsShow v
  | step _ reach h shows => exact System.step_buttonsShow reach.inv shows h

theorem reachable_buttons_show_rebound :
    (System.rebound.dock.modeRows 0).distRowList.map CursorRowInfo.rowData =
      [(-1, -1, 0), (1, -1, 0)] ∧
    (System.rebound.dock.widgets.get 5).text = "" ∧ (System.rebound.dock.widgets.get 9).text = "1" ∧
    ∀ slot, ∀ o ∈ (System.rebound.dock.modeRows slot).distRowList ++
        (System.rebound.dock.modeRows slot).edgeRowList,
      (∀ b, o.startBt = some b → ShowsRef (System.rebound.dock.widgets.get b).text o.cursor1) ∧
        ∀ b, o.endBt = some b → ShowsRef (System.rebound.dock.widgets.get b).text o.cursor2 :=
  ⟨by decide, by decide, by decide, reachable_buttons_show (Reachable.after rfl)⟩

end DSView
