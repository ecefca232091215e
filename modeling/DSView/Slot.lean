import DSView.Update
import Mathlib.Data.List.Nodup

/-!
# What the rows of every slot keep

Every row keeps valid marker references and a selector position that is not negative, only an
edge row has a selector, and a row with a start button has every widget of its kind.  In each
list the rows with a start button come first, so the `break` of `update_dist` and `update_edge`
skips only rows without one, and no list is longer than the cap.  The widgets the rows of a
slot point to are distinct and were created by the dock, and an edge row's selector shows the
row's position whenever it has that many entries.

Each primitive the dock's slots are made of keeps these facts: detaching the rows of another
mode, refreshing, changing or erasing the row behind a click, appending an unset row, writing
texts, and building a panel from fresh widgets.
-/

namespace DSView

/-- The rows with a start button come first. -/
def BuiltFirst (rows : List CursorRowInfo) : Prop :=
  (rows.map CursorRowInfo.startBt).Pairwise fun first later => later ≠ none → first ≠ none

/-- A marker position passed to the view names an existing marker. -/
def ViewQuery.InRange (q : ViewQuery) : Prop := 0 ≤ q.index ∧ q.index < q.count

namespace CursorRowInfo

/-- What holds of every distance row (`edge = false`) and every edge row (`edge = true`). -/
structure Ok (edge : Bool) (o : CursorRowInfo) : Prop where
  /-- The start marker is unset or a marker number. -/
  cursor1 : RefValid o.cursor1
  /-- The end marker is unset or a marker number. -/
  cursor2 : RefValid o.cursor2
  /-- The selector position is not negative. -/
  channel : 0 ≤ o.channelIndex
  /-- Only an edge row has a selector. -/
  box : o.box ≠ none → edge = true
  /-- A row with a start button has every widget of its kind. -/
  built : o.startBt ≠ none →
    o.delBt ≠ none ∧ o.endBt ≠ none ∧ o.rLabel ≠ none ∧ (edge = true → o.box ≠ none)

/-- The selector of a row shows the row's position whenever it has that many entries. -/
def SelectorOk (widgets : Widgets) (o : CursorRowInfo) : Prop :=
  ∀ box, o.box = some box → o.channelIndex < (widgets.get box).items.length →
    (widgets.get box).currentIndex = o.channelIndex

variable {edge : Bool} {o : CursorRowInfo} {widgets widgets' : Widgets}

theorem Ok.refresh (ok : o.Ok edge) (count : Nat) : (o.refresh count).Ok edge :=
  ⟨refValid_checkRef ok.cursor1, refValid_checkRef ok.cursor2, ok.channel, ok.box, ok.built⟩

theorem Ok.detach (ok : o.Ok edge) : o.detach.Ok edge :=
  ⟨ok.cursor1, ok.cursor2, ok.channel, fun set => absurd rfl set, fun set => absurd rfl set⟩

theorem ok_unset (edge : Bool) : unset.Ok edge :=
  ⟨.inl rfl, .inl rfl, le_rfl, fun set => absurd rfl set, fun set => absurd rfl set⟩

theorem selectorOk_of_box (absent : o.box = none) (widgets : Widgets) : o.SelectorOk widgets :=
  fun _ has => absurd (absent.symm.trans has) (Option.noConfusion ·)

theorem SelectorOk.congr (ok : o.SelectorOk widgets)
    (same : ∀ box, o.box = some box → (widgets'.get box).items = (widgets.get box).items ∧
      (widgets'.get box).currentIndex = (widgets.get box).currentIndex) :
    o.SelectorOk widgets' := fun box has fits => by
  obtain ⟨items, current⟩ := same box has
  rw [items] at fits
  rw [current]
  exact ok box has fits

theorem box_mem_handles {box : Nat} (has : o.box = some box) : box ∈ o.handles := by
  simp [handles_eq, has]

theorem delBt_mem_handles {src : Nat} (has : o.delBt = some src) : src ∈ o.handles := by
  simp [handles_eq, has]

theorem Ok.box_eq_none (ok : o.Ok false) : o.box = none :=
  not_not.mp fun set => Bool.false_ne_true (ok.box set)

theorem Ok.buildDistRow (ok : o.Ok false) (store : Widgets) :
    (DSView.buildDistRow store o).2.Ok false := by
  rw [buildDistRow_snd]
  exact ⟨ok.cursor1, ok.cursor2, ok.channel, ok.box, fun _ =>
    ⟨Option.some_ne_none _, Option.some_ne_none _, Option.some_ne_none _,
      fun impossible => absurd impossible Bool.false_ne_true⟩⟩

theorem Ok.buildEdgeRow (ok : o.Ok true) (signals : List Signal) (store : Widgets) :
    (DSView.buildEdgeRow signals store o).2.Ok true := by
  rw [buildEdgeRow_snd]
  exact ⟨ok.cursor1, ok.cursor2, ok.channel, fun _ => rfl, fun _ =>
    ⟨Option.some_ne_none _, Option.some_ne_none _, Option.some_ne_none _,
      fun _ => Option.some_ne_none _⟩⟩

/-- A new edge row's selector shows the row's position whenever it has that many entries. -/
theorem Ok.selectorOk_buildEdgeRow (ok : o.Ok true) (signals : List Signal) (store : Widgets) :
    (DSView.buildEdgeRow signals store o).2.SelectorOk (DSView.buildEdgeRow signals store o).1 := by
  rw [buildEdgeRow_snd]
  rintro _ ⟨⟩ fits
  obtain ⟨items, current⟩ := buildEdgeRow_selector signals store o
  rw [items] at fits
  exact current ok.channel fits

theorem handles_buildDistRow (absent : o.box = none) (store : Widgets) :
    (buildDistRow store o).2.handles = List.range' store.next 4 := by
  simp [buildDistRow_snd, handles_eq, absent, List.range'_succ]

theorem handles_buildEdgeRow (signals : List Signal) (store : Widgets) (o : CursorRowInfo) :
    (buildEdgeRow signals store o).2.handles = List.range' store.next 5 := by
  simp [buildEdgeRow_snd, handles_eq, List.range'_succ]

end CursorRowInfo

theorem flatMap_handles_refreshRows (count : Nat) (rows : List CursorRowInfo) :
    (refreshRows count rows).flatMap CursorRowInfo.handles = rows.flatMap CursorRowInfo.handles := by
  rw [List.flatMap_def, List.flatMap_def, map_refreshRows CursorRowInfo.handles (fun _ => rfl)]

/-! ## The rows of one kind -/

/-- What holds of the distance rows (`edge = false`) or the edge rows (`edge = true`) of a slot. -/
structure RowsOk (limit : Nat) (edge : Bool) (widgets : Widgets) (rows : List CursorRowInfo) :
    Prop where
  /-- Every row is fine and its selector shows its position. -/
  each : ∀ o ∈ rows, o.Ok edge ∧ o.SelectorOk widgets
  /-- At most `Max_Measure_Limits` rows. -/
  length : rows.length ≤ limit
  /-- The rows with a start button come first. -/
  ordered : BuiltFirst rows

namespace RowsOk

variable {limit : Nat} {edge : Bool} {widgets widgets' : Widgets} {rows rows' : List CursorRowInfo}

theorem detach (ok : RowsOk limit edge widgets rows) (widgets' : Widgets) :
    RowsOk limit edge widgets' (rows.map CursorRowInfo.detach) where
  each := by
    simp only [List.mem_map]
    rintro _ ⟨o, mem, rfl⟩
    exact ⟨(ok.each o mem).1.detach, CursorRowInfo.selectorOk_of_box rfl _⟩
  length := (List.length_map _ _).trans_le ok.length
  ordered := by
    rw [BuiltFirst, List.map_map]
    exact List.pairwise_map.mpr (List.pairwise_of_forall fun _ _ set => absurd rfl set)

theorem congr (ok : RowsOk limit edge widgets rows)
    (same : ∀ o ∈ rows, ∀ box, o.box = some box →
      (widgets'.get box).items = (widgets.get box).items ∧
        (widgets'.get box).currentIndex = (widgets.get box).currentIndex) :
    RowsOk limit edge widgets' rows :=
  ⟨fun o mem => ⟨(ok.each o mem).1, (ok.each o mem).2.congr (same o mem)⟩, ok.length, ok.ordered⟩

/-- Distance rows have no selector, so they do not read the store. -/
theorem congr_dist (ok : RowsOk limit false widgets rows) (widgets' : Widgets) :
    RowsOk limit false widgets' rows :=
  ⟨fun o mem => ⟨(ok.each o mem).1,
      CursorRowInfo.selectorOk_of_box (ok.each o mem).1.box_eq_none _⟩, ok.length, ok.ordered⟩

theorem refresh (ok : RowsOk limit edge widgets rows) (count : Nat) :
    RowsOk limit edge widgets (refreshRows count rows) where
  each row mem := by
    obtain ⟨o, mem', rfl | rfl⟩ := mem_refreshRows mem
    · exact ok.each _ mem'
    · exact ⟨(ok.each o mem').1.refresh count, (ok.each o mem').2⟩
  length := (length_refreshRows count rows).trans_le ok.length
  ordered := by
    rw [BuiltFirst, map_refreshRows CursorRowInfo.startBt (fun _ => rfl)]
    exact ok.ordered

theorem map (ok : RowsOk limit edge widgets rows) {f : CursorRowInfo → CursorRowInfo}
    (keeps : ∀ o ∈ rows, o.Ok edge ∧ o.SelectorOk widgets → (f o).Ok edge ∧ (f o).SelectorOk widgets')
    (start : ∀ o, (f o).startBt = o.startBt) : RowsOk limit edge widgets' (rows.map f) where
  each row mem := by
    obtain ⟨o, mem', rfl⟩ := List.mem_map.mp mem
    exact keeps o mem' (ok.each o mem')
  length := (List.length_map _ _).trans_le ok.length
  ordered := by
    rw [BuiltFirst, List.map_map, show CursorRowInfo.startBt ∘ f = CursorRowInfo.startBt from
      funext start]
    exact ok.ordered

theorem sublist (ok : RowsOk limit edge widgets rows) (sub : List.Sublist rows' rows) :
    RowsOk limit edge widgets rows' :=
  ⟨fun o mem => ok.each o (sub.subset mem), sub.length_le.trans ok.length,
    ok.ordered.sublist (sub.map _)⟩

theorem append_unset (ok : RowsOk limit edge widgets rows) (room : rows.length < limit) :
    RowsOk limit edge widgets (rows ++ [.unset]) where
  each o mem := by
    rcases List.mem_append.mp mem with old | new
    · exact ok.each o old
    · rw [List.mem_singleton.mp new]
      exact ⟨CursorRowInfo.ok_unset edge, CursorRowInfo.selectorOk_of_box rfl _⟩
  length := by simpa using room
  ordered := by
    rw [BuiltFirst, List.map_append, List.pairwise_append]
    exact ⟨ok.ordered, List.pairwise_singleton _ _, fun _ _ _ unset set => absurd
      (List.mem_singleton.mp unset) (by simpa using set)⟩

end RowsOk

theorem flatMap_handles_map {f : CursorRowInfo → CursorRowInfo}
    (handles : ∀ o, (f o).handles = o.handles) (rows : List CursorRowInfo) :
    (rows.map f).flatMap CursorRowInfo.handles = rows.flatMap CursorRowInfo.handles := by
  rw [List.flatMap_map]
  exact congrArg _ (funext handles)

theorem flatMap_handles_sublist {rows rows' : List CursorRowInfo} (sub : List.Sublist rows' rows) :
    List.Sublist (rows'.flatMap CursorRowInfo.handles) (rows.flatMap CursorRowInfo.handles) := by
  induction sub with
  | slnil => exact List.Sublist.refl _
  | cons o _ ih =>
    rw [List.flatMap_cons]
    exact ih.trans (List.sublist_append_right _ _)
  | cons₂ o _ ih =>
    rw [List.flatMap_cons, List.flatMap_cons]
    exact (List.Sublist.refl _).append ih

/-- Rows that all have a start button. -/
theorem builtFirst_of_built {rows : List CursorRowInfo} (built : ∀ o ∈ rows, o.startBt ≠ none) :
    BuiltFirst rows :=
  List.pairwise_of_forall_mem_list fun _ first _ _ _ => by
    obtain ⟨o, mem, rfl⟩ := List.mem_map.mp first
    exact built o mem

/-! ## The rows of a slot -/

namespace RowListItem

variable {rows : RowListItem} {o : CursorRowInfo} {handle : Nat}

theorem mem_handles_of_dist (mem : o ∈ rows.distRowList) (has : handle ∈ o.handles) :
    handle ∈ rows.handles := by
  simp only [handles, List.mem_append, List.mem_flatMap]
  exact .inl (.inl ⟨o, mem, has⟩)

theorem mem_handles_of_edge (mem : o ∈ rows.edgeRowList) (has : handle ∈ o.handles) :
    handle ∈ rows.handles := by
  simp only [handles, List.mem_append, List.mem_flatMap]
  exact .inl (.inr ⟨o, mem, has⟩)

end RowListItem

/-- What holds of the rows of every slot. -/
structure SlotOk (limit : Nat) (widgets : Widgets) (rows : RowListItem) : Prop where
  /-- The distance rows. -/
  dist : RowsOk limit false widgets rows.distRowList
  /-- The edge rows. -/
  edge : RowsOk limit true widgets rows.edgeRowList
  /-- No widget is pointed to twice. -/
  distinct : rows.handles.Nodup
  /-- Every widget pointed to was created. -/
  allocated : ∀ h ∈ rows.handles, h < widgets.next

namespace SlotOk

variable {limit : Nat} {widgets widgets' : Widgets} {rows : RowListItem}

theorem detach (ok : SlotOk limit widgets rows) (widgets' : Widgets) :
    SlotOk limit widgets' rows.detach :=
  ⟨ok.dist.detach widgets', ok.edge.detach widgets', by simp, by simp⟩

/-- A change of the store that keeps the entries and the current index of every widget the rows
point to. -/
theorem congr (ok : SlotOk limit widgets rows) (grows : widgets.next ≤ widgets'.next)
    (same : ∀ h ∈ rows.handles, (widgets'.get h).items = (widgets.get h).items ∧
      (widgets'.get h).currentIndex = (widgets.get h).currentIndex) :
    SlotOk limit widgets' rows :=
  ⟨ok.dist.congr fun _ mem _ has =>
      same _ (RowListItem.mem_handles_of_dist mem (CursorRowInfo.box_mem_handles has)),
    ok.edge.congr fun _ mem _ has =>
      same _ (RowListItem.mem_handles_of_edge mem (CursorRowInfo.box_mem_handles has)),
    ok.distinct, fun h mem => (ok.allocated h mem).trans_le grows⟩

/-- New widgets created after the rows' ones. -/
theorem extend (ok : SlotOk limit widgets rows) (grows : widgets.next ≤ widgets'.next)
    (kept : ∀ h < widgets.next, widgets'.get h = widgets.get h) : SlotOk limit widgets' rows :=
  ok.congr grows fun h mem => by rw [kept h (ok.allocated h mem)]; exact ⟨rfl, rfl⟩

/-- The widgets of some of a slot's rows, next to widgets created after all of them, are distinct
and allocated. -/
theorem fresh_handles (ok : SlotOk limit widgets rows) {rest handles : List Nat} {width : Nat}
    (sub : List.Sublist rest rows.handles)
    (perm : handles.Perm (rest ++ List.range' widgets.next width)) :
    handles.Nodup ∧ ∀ h ∈ handles, h < widgets.next + width := by
  have below : ∀ h ∈ rest, h < widgets.next := fun h mem => ok.allocated h (sub.subset mem)
  refine ⟨perm.nodup_iff.mpr (List.nodup_append.mpr ⟨ok.distinct.sublist sub, List.nodup_range' _ _,
    fun h mem fresh => ?_⟩), fun h mem => ?_⟩
  · have := below h mem
    rw [List.mem_range'_1] at fresh
    omega
  · rcases List.mem_append.mp (perm.subset mem) with old | fresh
    · have := below h old
      omega
    · rw [List.mem_range'_1] at fresh
      omega

theorem apply (ok : SlotOk limit widgets rows) (writes : List (Nat × String)) :
    SlotOk limit (widgets.apply writes) rows :=
  ok.congr (Widgets.apply_next _ _).ge fun h _ => Widgets.apply_items _ _ h

theorem setText (ok : SlotOk limit widgets rows) (handle : Nat) (text : String) :
    SlotOk limit (widgets.setText handle text) rows :=
  ok.congr le_rfl fun h _ => ⟨Widgets.setText_items _ _ _ h, Widgets.setText_currentIndex _ _ _ h⟩

/-- The distance rows replaced by rows pointing to some of the same widgets. -/
theorem withDist (ok : SlotOk limit widgets rows) {dist : List CursorRowInfo}
    (distOk : RowsOk limit false widgets dist)
    (sub : List.Sublist (dist.flatMap CursorRowInfo.handles)
      (rows.distRowList.flatMap CursorRowInfo.handles)) :
    SlotOk limit widgets { rows with distRowList := dist } :=
  have handles : List.Sublist ({ rows with distRowList := dist } : RowListItem).handles rows.handles :=
    (sub.append_right _).append_right _
  ⟨distOk, ok.edge, ok.distinct.sublist handles, fun h mem => ok.allocated h (handles.subset mem)⟩

/-- The edge rows replaced by rows pointing to some of the same widgets. -/
theorem withEdge (ok : SlotOk limit widgets rows) {edge : List CursorRowInfo}
    (edgeOk : RowsOk limit true widgets edge)
    (sub : List.Sublist (edge.flatMap CursorRowInfo.handles)
      (rows.edgeRowList.flatMap CursorRowInfo.handles)) :
    SlotOk limit widgets { rows with edgeRowList := edge } :=
  have handles : List.Sublist ({ rows with edgeRowList := edge } : RowListItem).handles rows.handles :=
    ((List.Sublist.refl _).append sub).append_right _
  ⟨ok.dist, edgeOk, ok.distinct.sublist handles, fun h mem => ok.allocated h (handles.subset mem)⟩

/-- Every distance row changed in a way that keeps its widgets. -/
theorem mapDist (ok : SlotOk limit widgets rows) {f : CursorRowInfo → CursorRowInfo}
    (keeps : ∀ o ∈ rows.distRowList, o.Ok false ∧ o.SelectorOk widgets →
      (f o).Ok false ∧ (f o).SelectorOk widgets)
    (start : ∀ o, (f o).startBt = o.startBt) (handles : ∀ o, (f o).handles = o.handles) :
    SlotOk limit widgets { rows with distRowList := rows.distRowList.map f } :=
  ok.withDist (ok.dist.map keeps start) (by rw [flatMap_handles_map handles])

/-- Every edge row changed in a way that keeps its widgets, with a store that may differ at the
selectors. -/
theorem mapEdge (ok : SlotOk limit widgets rows) {f : CursorRowInfo → CursorRowInfo}
    (keeps : ∀ o ∈ rows.edgeRowList, o.Ok true ∧ o.SelectorOk widgets →
      (f o).Ok true ∧ (f o).SelectorOk widgets')
    (start : ∀ o, (f o).startBt = o.startBt) (handles : ∀ o, (f o).handles = o.handles)
    (grows : widgets.next ≤ widgets'.next) :
    SlotOk limit widgets' { rows with edgeRowList := rows.edgeRowList.map f } :=
  have same : ({ rows with edgeRowList := rows.edgeRowList.map f } : RowListItem).handles =
      rows.handles := by
    simp only [RowListItem.handles, flatMap_handles_map handles]
  ⟨ok.dist.congr_dist widgets', ok.edge.map keeps start, same ▸ ok.distinct,
    fun h mem => (ok.allocated h (same ▸ mem)).trans_le grows⟩

/-- At most one distance row points to a given widget. -/
theorem unique_dist (ok : SlotOk limit widgets rows) {p : CursorRowInfo → Prop} {handle : Nat}
    (owns : ∀ o, p o → handle ∈ o.handles) :
    rows.distRowList.Pairwise fun a b => ¬(p a ∧ p b) := by
  have distinct := ok.distinct.sublist
    ((List.sublist_append_left _ _).trans (List.sublist_append_left _ _))
  exact (List.nodup_flatMap.mp distinct).2.imp fun disjoint both =>
    disjoint (owns _ both.1) (owns _ both.2)

/-- At most one edge row points to a given widget. -/
theorem unique_edge (ok : SlotOk limit widgets rows) {p : CursorRowInfo → Prop} {handle : Nat}
    (owns : ∀ o, p o → handle ∈ o.handles) :
    rows.edgeRowList.Pairwise fun a b => ¬(p a ∧ p b) := by
  have distinct := ok.distinct.sublist
    ((List.sublist_append_right _ _).trans (List.sublist_append_left _ _))
  exact (List.nodup_flatMap.mp distinct).2.imp fun disjoint both =>
    disjoint (owns _ both.1) (owns _ both.2)

/-- `build_dist_pannel` on the rows of a slot. -/
theorem buildDist (ok : SlotOk limit widgets rows) :
    SlotOk limit (buildRows buildDistRow widgets rows.distRowList).1
      { rows with distRowList := (buildRows buildDistRow widgets rows.distRowList).2 } := by
  have next := buildRows_next buildDistRow_next widgets rows.distRowList
  have kept : ∀ h < widgets.next,
      (buildRows buildDistRow widgets rows.distRowList).1.get h = widgets.get h :=
    fun h below => buildRows_get_of_lt buildDistRow_next (fun _ o _ below => buildDistRow_get_of_lt below o) below _
  have fresh := buildRows_handles buildDistRow_next (fun store o mem =>
    CursorRowInfo.handles_buildDistRow ((ok.dist.each o mem).1.box_eq_none) store) widgets
  have old := ok.extend (by omega) kept
  have rest : List.Sublist (rows.edgeRowList.flatMap CursorRowInfo.handles ++
      rows.optRowList.flatMap CursorOptInfo.handles) rows.handles := by
    simp only [RowListItem.handles, List.append_assoc]
    exact List.sublist_append_right _ _
  have handles : ({ rows with distRowList := (buildRows buildDistRow widgets rows.distRowList).2 } :
      RowListItem).handles = List.range' widgets.next (4 * rows.distRowList.length) ++
        (rows.edgeRowList.flatMap CursorRowInfo.handles ++
          rows.optRowList.flatMap CursorOptInfo.handles) := by
    simp only [RowListItem.handles, fresh, List.append_assoc]
  have allocated := ok.fresh_handles rest (handles ▸ List.perm_append_comm)
  refine ⟨⟨fun o mem => ?_, ?_, builtFirst_of_built fun o mem => ?_⟩, old.edge, allocated.1,
    next ▸ allocated.2⟩
  · obtain ⟨o, mem', before, rfl, -⟩ := mem_buildRows buildDistRow_next
      (fun _ o _ below => buildDistRow_get_of_lt below o) mem
    have ok' := (ok.dist.each o mem').1
    exact ⟨ok'.buildDistRow before, CursorRowInfo.selectorOk_of_box ok'.box_eq_none _⟩
  · exact (buildRows_length _ _).trans_le ok.dist.length
  · obtain ⟨o, -, before, rfl, -⟩ := mem_buildRows buildDistRow_next
      (fun _ o _ below => buildDistRow_get_of_lt below o) mem
    rw [buildDistRow_snd]
    exact Option.some_ne_none _

/-- `build_edge_pannel` on the rows of a slot. -/
theorem buildEdge (ok : SlotOk limit widgets rows) (signals : List Signal) :
    SlotOk limit (buildRows (buildEdgeRow signals) widgets rows.edgeRowList).1
      { rows with edgeRowList := (buildRows (buildEdgeRow signals) widgets rows.edgeRowList).2 } := by
  have next := buildRows_next (buildEdgeRow_next signals) widgets rows.edgeRowList
  have get : ∀ store o handle, handle < store.next →
      (buildEdgeRow signals store o).1.get handle = store.get handle :=
    fun _ o _ below => buildEdgeRow_get_of_lt below signals o
  have kept : ∀ h < widgets.next,
      (buildRows (buildEdgeRow signals) widgets rows.edgeRowList).1.get h = widgets.get h :=
    fun h below => buildRows_get_of_lt (buildEdgeRow_next signals) get below _
  have fresh : (buildRows (buildEdgeRow signals) widgets rows.edgeRowList).2.flatMap
      CursorRowInfo.handles = List.range' widgets.next (5 * rows.edgeRowList.length) :=
    buildRows_handles (buildEdgeRow_next signals)
      (fun store o _ => CursorRowInfo.handles_buildEdgeRow signals store o) widgets
  have old := ok.extend (by omega) kept
  have rest : List.Sublist (rows.distRowList.flatMap CursorRowInfo.handles ++
      rows.optRowList.flatMap CursorOptInfo.handles) rows.handles :=
    (List.sublist_append_left _ _).append (List.Sublist.refl _)
  have handles : List.Perm ({ rows with
      edgeRowList := (buildRows (buildEdgeRow signals) widgets rows.edgeRowList).2 } :
      RowListItem).handles ((rows.distRowList.flatMap CursorRowInfo.handles ++
        rows.optRowList.flatMap CursorOptInfo.handles) ++
          List.range' widgets.next (5 * rows.edgeRowList.length)) := by
    simp only [RowListItem.handles, fresh, List.append_assoc]
    exact List.Perm.append_left _ List.perm_append_comm
  have allocated := ok.fresh_handles rest handles
  refine ⟨old.dist, ⟨fun o mem => ?_, ?_, builtFirst_of_built fun o mem => ?_⟩, allocated.1,
    next ▸ allocated.2⟩
  · obtain ⟨o, mem', before, rfl, later⟩ := mem_buildRows (buildEdgeRow_next signals) get mem
    have ok' := (ok.edge.each o mem').1
    refine ⟨ok'.buildEdgeRow signals before, (ok'.selectorOk_buildEdgeRow signals before).congr ?_⟩
    intro box has
    rw [buildEdgeRow_snd, Option.some.injEq] at has
    rw [later box (by rw [buildEdgeRow_next]; omega)]
    exact ⟨rfl, rfl⟩
  · exact (buildRows_length _ _).trans_le ok.edge.length
  · obtain ⟨o, -, before, rfl, -⟩ := mem_buildRows (buildEdgeRow_next signals) get mem
    rw [buildEdgeRow_snd]
    exact Option.some_ne_none _

/-- `build_cursor_pannel` on the rows of a slot. -/
theorem buildCursor (ok : SlotOk limit widgets rows) (v : View) (cursors : List Cursor) :
    SlotOk limit (buildCursorRows v widgets 0 cursors).1
      { rows with optRowList := (buildCursorRows v widgets 0 cursors).2.1 } := by
  have next := buildCursorRows_next v widgets 0 cursors
  have old := ok.extend (by omega) fun h below => buildCursorRows_get_of_lt v below 0 cursors
  have rest : List.Sublist (rows.distRowList.flatMap CursorRowInfo.handles ++
      rows.edgeRowList.flatMap CursorRowInfo.handles) rows.handles :=
    List.sublist_append_left _ _
  have handles : ({ rows with optRowList := (buildCursorRows v widgets 0 cursors).2.1 } :
      RowListItem).handles = (rows.distRowList.flatMap CursorRowInfo.handles ++
        rows.edgeRowList.flatMap CursorRowInfo.handles) ++
          List.range' widgets.next (3 * cursors.length) := by
    simp only [RowListItem.handles, buildCursorRows_handles]
  have allocated := ok.fresh_handles rest (.of_eq handles)
  exact ⟨old.dist, old.edge, allocated.1, next ▸ allocated.2⟩

end SlotOk

end DSView
