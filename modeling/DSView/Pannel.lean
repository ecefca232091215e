import DSView.Rows

/-!
# Building the panels

`build_dist_pannel` and `build_edge_pannel` create fresh widgets for every row of the active
mode and store their pointers in the rows; `build_cursor_pannel` replaces the cursor panel rows
with one row per marker.  Because widget addresses come from `new`, the rows a panel build
leaves behind point to one block of consecutive fresh addresses.  The add and delete slots of
the distance and edge rows end in such a build.
-/

namespace DSView

/-! ## Rows behind a click -/

/-- Erase the first row satisfying `p` (the `erase(it); break` loops); `none` when there is no
such row. -/
def eraseFirst (p : CursorRowInfo → Prop) [DecidablePred p] :
    List CursorRowInfo → Option (List CursorRowInfo)
  | [] => none
  | row :: rows => if p row then some rows else (eraseFirst p rows).map (row :: ·)

/-- Change the first row satisfying `p` (the `inf = &o; break` loops); `none` when there is no
such row. -/
def modifyFirst (p : CursorRowInfo → Prop) [DecidablePred p] (f : CursorRowInfo → CursorRowInfo) :
    List CursorRowInfo → Option (List CursorRowInfo)
  | [] => none
  | row :: rows => if p row then some (f row :: rows) else (modifyFirst p f rows).map (row :: ·)

section Click

variable {p : CursorRowInfo → Prop} [DecidablePred p] {f : CursorRowInfo → CursorRowInfo}
  {rows rows' : List CursorRowInfo}

theorem eraseFirst_sublist (h : eraseFirst p rows = some rows') : List.Sublist rows' rows := by
  induction rows generalizing rows' with
  | nil => cases h
  | cons row rows ih =>
    simp only [eraseFirst] at h
    split_ifs at h
    · cases h
      exact List.sublist_cons_self _ _
    · obtain ⟨rest, found, rfl⟩ := Option.map_eq_some'.mp h
      exact (ih found).cons_cons _

/-- A successful `eraseFirst` removes one row, which satisfies `p`. -/
theorem eraseFirst_eq_some (h : eraseFirst p rows = some rows') :
    ∃ before o after, rows = before ++ o :: after ∧ p o ∧ rows' = before ++ after := by
  induction rows generalizing rows' with
  | nil => cases h
  | cons first rows ih =>
    simp only [eraseFirst] at h
    split_ifs at h with found
    · cases h
      exact ⟨[], first, rows, rfl, found, rfl⟩
    · obtain ⟨rest, found', rfl⟩ := Option.map_eq_some'.mp h
      obtain ⟨before, o, after, rfl, holds, rfl⟩ := ih found'
      exact ⟨first :: before, o, after, rfl, holds, rfl⟩

/-- A successful `modifyFirst` changes one row, which satisfies `p`. -/
theorem modifyFirst_eq_some (h : modifyFirst p f rows = some rows') :
    ∃ before o after, rows = before ++ o :: after ∧ p o ∧ rows' = before ++ f o :: after := by
  induction rows generalizing rows' with
  | nil => cases h
  | cons first rows ih =>
    simp only [modifyFirst] at h
    split_ifs at h with found
    · cases h
      exact ⟨[], first, rows, rfl, found, rfl⟩
    · obtain ⟨rest, found', rfl⟩ := Option.map_eq_some'.mp h
      obtain ⟨before, o, after, rfl, holds, rfl⟩ := ih found'
      exact ⟨first :: before, o, after, rfl, holds, rfl⟩

theorem mem_modifyFirst (h : modifyFirst p f rows = some rows') {row : CursorRowInfo}
    (mem : row ∈ rows') : ∃ o ∈ rows, row = o ∨ p o ∧ row = f o := by
  induction rows generalizing rows' with
  | nil => cases h
  | cons first rows ih =>
    simp only [modifyFirst] at h
    split_ifs at h with found
    · cases h
      rcases List.mem_cons.mp mem with rfl | later
      · exact ⟨first, List.mem_cons_self _ _, .inr ⟨found, rfl⟩⟩
      · exact ⟨row, List.mem_cons_of_mem _ later, .inl rfl⟩
    · obtain ⟨rest, found, rfl⟩ := Option.map_eq_some'.mp h
      rcases List.mem_cons.mp mem with rfl | later
      · exact ⟨row, List.mem_cons_self _ _, .inl rfl⟩
      · obtain ⟨o, mem', same⟩ := ih found later
        exact ⟨o, List.mem_cons_of_mem _ mem', same⟩

theorem map_modifyFirst {α : Type} (g : CursorRowInfo → α) (keeps : ∀ o, g (f o) = g o)
    (h : modifyFirst p f rows = some rows') : rows'.map g = rows.map g := by
  induction rows generalizing rows' with
  | nil => cases h
  | cons first rows ih =>
    simp only [modifyFirst] at h
    split_ifs at h
    · cases h
      simp [keeps]
    · obtain ⟨rest, found, rfl⟩ := Option.map_eq_some'.mp h
      simp [ih found]

theorem modifyFirst_isSome_iff : (modifyFirst p f rows).isSome ↔ ∃ o ∈ rows, p o := by
  induction rows with
  | nil => simp [modifyFirst]
  | cons first rows ih => by_cases found : p first <;> simp [modifyFirst, found, ih]

/-- When at most one row satisfies `p`, changing the first such row changes all of them. -/
theorem modifyFirst_eq_map (unique : rows.Pairwise fun a b => ¬(p a ∧ p b))
    (h : modifyFirst p f rows = some rows') : rows' = rows.map fun o => if p o then f o else o := by
  induction rows generalizing rows' with
  | nil => cases h
  | cons first rows ih =>
    rw [List.pairwise_cons] at unique
    simp only [modifyFirst] at h
    split_ifs at h with found
    · cases h
      have rest : rows.map (fun o => if p o then f o else o) = rows :=
        (List.map_congr_left fun o mem => if_neg fun later => unique.1 o mem ⟨found, later⟩).trans
          (List.map_id _)
      rw [List.map_cons, if_pos found, rest]
    · obtain ⟨rest, found', rfl⟩ := Option.map_eq_some'.mp h
      rw [List.map_cons, if_neg found, ih unique.2 found']

theorem modifyFirst_eq_none_iff : modifyFirst p f rows = none ↔ ¬∃ o ∈ rows, p o := by
  rw [← modifyFirst_isSome_iff, Option.not_isSome_iff_eq_none]

theorem modifyFirst_getD_eq_map (unique : rows.Pairwise fun a b => ¬(p a ∧ p b)) :
    (modifyFirst p f rows).getD rows = rows.map fun o => if p o then f o else o := by
  cases found : modifyFirst p f rows with
  | some rows' => exact modifyFirst_eq_map unique found
  | none =>
    have absent := modifyFirst_eq_none_iff.mp found
    rw [Option.getD_none, eq_comm]
    exact (List.map_congr_left fun o mem => if_neg fun holds => absent ⟨o, mem, holds⟩).trans
      (List.map_id _)

/-- When at most one row satisfies `p`, erasing the first such row erases all of them. -/
theorem eraseFirst_eq_filter (unique : rows.Pairwise fun a b => ¬(p a ∧ p b))
    (h : eraseFirst p rows = some rows') : rows' = rows.filter fun o => decide ¬p o := by
  induction rows generalizing rows' with
  | nil => cases h
  | cons first rows ih =>
    rw [List.pairwise_cons] at unique
    simp only [eraseFirst] at h
    split_ifs at h with found
    · cases h
      rw [List.filter_cons_of_neg (by simpa using found), eq_comm, List.filter_eq_self]
      intro o mem
      simpa using fun later => unique.1 o mem ⟨found, later⟩
    · obtain ⟨rest, found', rfl⟩ := Option.map_eq_some'.mp h
      rw [List.filter_cons_of_pos (by simpa using found), ih unique.2 found']

/-- Without a row satisfying `p` nothing is erased. -/
theorem filter_of_eraseFirst_eq_none (h : eraseFirst p rows = none) :
    rows.filter (fun o => decide ¬p o) = rows := by
  induction rows with
  | nil => rfl
  | cons first rows ih =>
    simp only [eraseFirst] at h
    split_ifs at h with found
    rw [List.filter_cons_of_pos (by simpa using found), ih (Option.map_eq_none'.mp h)]

end Click

/-! ## Distance and edge rows -/

/-- One row of `build_dist_pannel`: new delete, start and end buttons and a new result label.
The result text is carried over from the old label, and the buttons show the row's markers. -/
def buildDistRow (store : Widgets) (o : CursorRowInfo) : Widgets × CursorRowInfo :=
  let (delBtn, store) := store.create (.ofText "")
  let (sBtn, store) := store.create (.ofText "")
  let (eBtn, store) := store.create (.ofText "")
  let (rLabel, store) := store.create (.ofText "")
  let store := match o.rLabel with
    | some old => store.setText rLabel (store.get old).text
    | none => store
  let store := if o.cursor1 ≠ -1 then store.setText sBtn (qNumber o.cursor1) else store
  let store := if o.cursor2 ≠ -1 then store.setText eBtn (qNumber o.cursor2) else store
  (store, { o with delBt := some delBtn, startBt := some sBtn, endBt := some eBtn,
                   rLabel := some rLabel })

/-- `create_probe_selector`: a combo box listing the enabled logic channels by id. -/
def probeSelector (signals : List Signal) : Widget :=
  .ofItems ((signals.filter fun s => s.signalType = .logic ∧ s.enabled).map fun s => qNumber s.index)

/-- One row of `build_edge_pannel`: like a distance row, plus a new channel selector that
shows entry `channelIndex` when the selector has that many entries. -/
def buildEdgeRow (signals : List Signal) (store : Widgets) (o : CursorRowInfo) :
    Widgets × CursorRowInfo :=
  let (delBtn, store) := store.create (.ofText "")
  let (sBtn, store) := store.create (.ofText " ")
  let (eBtn, store) := store.create (.ofText " ")
  let (rLabel, store) := store.create (.ofText "")
  let (chCmb, store) := store.create (probeSelector signals)
  let store := if o.channelIndex < (store.get chCmb).items.length then
      store.modify chCmb (·.setCurrentIndex o.channelIndex)
    else store
  let store := match o.rLabel with
    | some old => store.setText rLabel (store.get old).text
    | none => store
  let store := if o.cursor1 ≠ -1 then store.setText sBtn (qNumber o.cursor1) else store
  let store := if o.cursor2 ≠ -1 then store.setText eBtn (qNumber o.cursor2) else store
  (store, { o with delBt := some delBtn, startBt := some sBtn, endBt := some eBtn,
                   rLabel := some rLabel, box := some chCmb })

/-- The loop of a panel build: each row in order gets its widgets. -/
def buildRows (build : Widgets → CursorRowInfo → Widgets × CursorRowInfo) (store : Widgets) :
    List CursorRowInfo → Widgets × List CursorRowInfo
  | [] => (store, [])
  | o :: rows =>
    let (store, o) := build store o
    let (store, rows) := buildRows build store rows
    (store, o :: rows)

/-! ## The cursor panel -/

/-- The position text of the marker at `position`, as `build_cursor_pannel` and
`update_cursor_info` compute it: `get_cm_time(i) + "/" + QString::number(get_cursor_samples(i))`. -/
def cursorInfoCall (v : View) (position : Nat) : Logged String := do
  let time ← v.callCmTime position
  let samples ← v.callCursorSamples position
  pure (time ++ "/" ++ qNumber samples.toNat)

@[simp]
theorem cursorInfoCall_queries (v : View) (position : Nat) :
    (cursorInfoCall v position).queries =
      [⟨position, v.cursorList.length⟩, ⟨position, v.cursorList.length⟩] := rfl

/-- The rows `build_cursor_pannel` creates for the markers from `position` on, with the marker
positions it passes to the view. -/
def buildCursorRows (v : View) (store : Widgets) (position : Nat) :
    List Cursor → Widgets × List CursorOptInfo × List ViewQuery
  | [] => (store, [], [])
  | cursor :: rest =>
    let (delBtn, store) := store.create (.ofText "")
    let (gotoBtn, store) := store.create (.ofText (qNumber (position + 1)))
    let info := cursorInfoCall v position
    let (label, store) := store.create (.ofText info.result)
    let (store, rows, queries) := buildCursorRows v store (position + 1) rest
    (store, ⟨some delBtn, some gotoBtn, some label, cursor⟩ :: rows, info.queries ++ queries)

namespace MeasureDock

/-- `build_dist_pannel`. -/
def buildDistPannel (v : View) (dock : MeasureDock) : MeasureDock :=
  let dock := dock.getModeRows v.workMode
  let slot := modeIndex v.workMode
  let rows := dock.modeRows slot
  let (widgets, distRows) := buildRows buildDistRow dock.widgets rows.distRowList
  { dock.setRows slot { rows with distRowList := distRows } with widgets := widgets }

/-- `build_edge_pannel`. -/
def buildEdgePannel (v : View) (dock : MeasureDock) : MeasureDock :=
  let dock := dock.getModeRows v.workMode
  let slot := modeIndex v.workMode
  let rows := dock.modeRows slot
  let (widgets, edgeRows) := buildRows (buildEdgeRow v.signals) dock.widgets rows.edgeRowList
  { dock.setRows slot { rows with edgeRowList := edgeRows } with widgets := widgets }

/-- `build_cursor_pannel`. -/
def buildCursorPannel (v : View) (dock : MeasureDock) : MeasureDock :=
  let dock := dock.getModeRows v.workMode
  let slot := modeIndex v.workMode
  let rows := dock.modeRows slot
  let (widgets, optRows, queries) := buildCursorRows v dock.widgets 0 v.cursorList
  { dock.setRows slot { rows with optRowList := optRows } with
    widgets := widgets, viewQueries := dock.viewQueries ++ queries }

/-- `add_dist_measure`, with the row cap `Max_Measure_Limits` as `limit`. -/
def addDistMeasure (limit : Nat) (v : View) (dock : MeasureDock) : MeasureDock :=
  let dock := dock.getModeRows v.workMode
  let slot := modeIndex v.workMode
  let rows := dock.modeRows slot
  if rows.distRowList.length < limit then
    (dock.setRows slot { rows with distRowList := rows.distRowList ++ [.unset] }).buildDistPannel v
  else dock

/-- `add_edge_measure`, with the row cap `Max_Measure_Limits` as `limit`. -/
def addEdgeMeasure (limit : Nat) (v : View) (dock : MeasureDock) : MeasureDock :=
  let dock := dock.getModeRows v.workMode
  let slot := modeIndex v.workMode
  let rows := dock.modeRows slot
  if rows.edgeRowList.length < limit then
    (dock.setRows slot { rows with edgeRowList := rows.edgeRowList ++ [.unset] }).buildEdgePannel v
  else dock

/-- `del_dist_measure`, clicked on the delete button `src`. -/
def delDistMeasure (v : View) (src : Nat) (dock : MeasureDock) : MeasureDock :=
  let dock := dock.getModeRows v.workMode
  let slot := modeIndex v.workMode
  let rows := dock.modeRows slot
  match eraseFirst (·.delBt = some src) rows.distRowList with
  | some distRows => (dock.setRows slot { rows with distRowList := distRows }).buildDistPannel v
  | none => dock

/-- `del_edge_measure`, clicked on the delete button `src`. -/
def delEdgeMeasure (v : View) (src : Nat) (dock : MeasureDock) : MeasureDock :=
  let dock := dock.getModeRows v.workMode
  let slot := modeIndex v.workMode
  let rows := dock.modeRows slot
  match eraseFirst (·.delBt = some src) rows.edgeRowList with
  | some edgeRows => (dock.setRows slot { rows with edgeRowList := edgeRows }).buildEdgePannel v
  | none => dock

end MeasureDock

/-! ## Fresh widgets -/

section Fresh

theorem buildDistRow_snd (store : Widgets) (o : CursorRowInfo) :
    (buildDistRow store o).2 =
      { o with delBt := some store.next, startBt := some (store.next + 1),
               endBt := some (store.next + 2), rLabel := some (store.next + 3) } := rfl

theorem buildEdgeRow_snd (signals : List Signal) (store : Widgets) (o : CursorRowInfo) :
    (buildEdgeRow signals store o).2 =
      { o with delBt := some store.next, startBt := some (store.next + 1),
               endBt := some (store.next + 2), rLabel := some (store.next + 3),
               box := some (store.next + 4) } := rfl

theorem buildDistRow_rowData (store : Widgets) (o : CursorRowInfo) :
    (buildDistRow store o).2.rowData = o.rowData := by
  rw [buildDistRow_snd]
  rfl

theorem buildEdgeRow_rowData (signals : List Signal) (store : Widgets) (o : CursorRowInfo) :
    (buildEdgeRow signals store o).2.rowData = o.rowData := by
  rw [buildEdgeRow_snd]
  rfl

/- A build reads `o.rLabel` through a `match`; splitting on it is the only case analysis the
build lemmas need, the optional `setText` calls being pushed through their `if` by `apply_ite`. -/

theorem buildDistRow_next (store : Widgets) (o : CursorRowInfo) :
    (buildDistRow store o).1.next = store.next + 4 := by
  rcases o with ⟨_, _, _, _, _, _, _, _ | _⟩ <;>
    simp [buildDistRow, apply_ite Widgets.next, Nat.add_assoc]

theorem buildEdgeRow_next (signals : List Signal) (store : Widgets) (o : CursorRowInfo) :
    (buildEdgeRow signals store o).1.next = store.next + 5 := by
  rcases o with ⟨_, _, _, _, _, _, _, _ | _⟩ <;>
    simp [buildEdgeRow, apply_ite Widgets.next, Nat.add_assoc]

theorem buildDistRow_get_of_lt {store : Widgets} {handle : Nat} (below : handle < store.next)
    (o : CursorRowInfo) : (buildDistRow store o).1.get handle = store.get handle := by
  have fresh0 : handle ≠ store.next := by omega
  have fresh1 : handle ≠ store.next + 1 := by omega
  have fresh2 : handle ≠ store.next + 1 + 1 := by omega
  have fresh3 : handle ≠ store.next + 1 + 1 + 1 := by omega
  rcases o with ⟨_, _, _, _, _, _, _, _ | _⟩ <;>
    simp only [buildDistRow, apply_ite (Widgets.get · handle), Widgets.setText_get_of_ne,
      Widgets.create_get, Widgets.create_fst, Widgets.create_next, fresh0, fresh1, fresh2, fresh3,
      if_false, ite_self, Ne, not_false_eq_true]

theorem buildEdgeRow_get_of_lt {store : Widgets} {handle : Nat} (below : handle < store.next)
    (signals : List Signal) (o : CursorRowInfo) :
    (buildEdgeRow signals store o).1.get handle = store.get handle := by
  have fresh0 : handle ≠ store.next := by omega
  have fresh1 : handle ≠ store.next + 1 := by omega
  have fresh2 : handle ≠ store.next + 1 + 1 := by omega
  have fresh3 : handle ≠ store.next + 1 + 1 + 1 := by omega
  have fresh4 : handle ≠ store.next + 1 + 1 + 1 + 1 := by omega
  rcases o with ⟨_, _, _, _, _, _, _, _ | _⟩ <;>
    simp only [buildEdgeRow, apply_ite (Widgets.get · handle), Widgets.setText_get_of_ne,
      Widgets.modify_get_of_ne, Widgets.create_get, Widgets.create_fst, Widgets.create_next, fresh0,
      fresh1, fresh2, fresh3, fresh4, if_false, ite_self, Ne, not_false_eq_true]

variable {build : Widgets → CursorRowInfo → Widgets × CursorRowInfo} {width : Nat}

theorem buildRows_next (next : ∀ store o, (build store o).1.next = store.next + width)
    (store : Widgets) (rows : List CursorRowInfo) :
    (buildRows build store rows).1.next = store.next + width * rows.length := by
  induction rows generalizing store with
  | nil => rfl
  | cons o rows ih =>
    simp only [buildRows, ih, next, List.length_cons]
    rw [Nat.mul_succ, Nat.add_assoc, Nat.add_comm width]

theorem buildRows_get_of_lt (next : ∀ store o, (build store o).1.next = store.next + width)
    (get : ∀ store o handle, handle < store.next → (build store o).1.get handle = store.get handle)
    {store : Widgets} {handle : Nat} (below : handle < store.next) (rows : List CursorRowInfo) :
    (buildRows build store rows).1.get handle = store.get handle := by
  induction rows generalizing store with
  | nil => rfl
  | cons o rows ih =>
    have grown := next store o
    simp only [buildRows]
    rw [ih (show handle < (build store o).1.next by omega), get _ _ _ below]

theorem buildRows_length (store : Widgets) (rows : List CursorRowInfo) :
    (buildRows build store rows).2.length = rows.length := by
  induction rows generalizing store with
  | nil => rfl
  | cons o rows ih => simp [buildRows, ih]

/-- A panel build keeps the data of every row. -/
theorem buildRows_rowData (data : ∀ store o, (build store o).2.rowData = o.rowData)
    (store : Widgets) (rows : List CursorRowInfo) :
    (buildRows build store rows).2.map CursorRowInfo.rowData = rows.map CursorRowInfo.rowData := by
  induction rows generalizing store with
  | nil => rfl
  | cons o rows ih => simp [buildRows, ih, data]

/-- Every row a panel build leaves is one row builder's result, and the rows built after it
leave the widgets it created alone. -/
theorem mem_buildRows (next : ∀ store o, (build store o).1.next = store.next + width)
    (get : ∀ store o handle, handle < store.next → (build store o).1.get handle = store.get handle)
    {store : Widgets} {rows : List CursorRowInfo} {row : CursorRowInfo}
    (mem : row ∈ (buildRows build store rows).2) :
    ∃ o ∈ rows, ∃ before : Widgets, row = (build before o).2 ∧
      ∀ handle < (build before o).1.next,
        (buildRows build store rows).1.get handle = (build before o).1.get handle := by
  induction rows generalizing store with
  | nil => exact absurd mem (List.not_mem_nil _)
  | cons o rows ih =>
    rcases List.mem_cons.mp mem with first | later
    · exact ⟨o, List.mem_cons_self _ _, store, first, fun handle below =>
        buildRows_get_of_lt next get below rows⟩
    · obtain ⟨o', mem', before, rfl, kept⟩ := ih later
      exact ⟨o', List.mem_cons_of_mem _ mem', before, rfl, kept⟩

/-- The rows of a panel build point to one block of consecutive fresh addresses. -/
theorem buildRows_handles (next : ∀ store o, (build store o).1.next = store.next + width)
    {rows : List CursorRowInfo}
    (fresh : ∀ store, ∀ o ∈ rows, (build store o).2.handles = List.range' store.next width)
    (store : Widgets) :
    (buildRows build store rows).2.flatMap CursorRowInfo.handles =
      List.range' store.next (width * rows.length) := by
  induction rows generalizing store with
  | nil => rfl
  | cons o rows ih =>
    simp only [buildRows, List.flatMap_cons, List.length_cons]
    rw [fresh _ _ (List.mem_cons_self _ _), ih (fun s o mem => fresh s o (List.mem_cons_of_mem _ mem)),
      next, List.range'_append_1, Nat.mul_succ]

/-- The selector of a new edge row lists the enabled logic channels and shows entry
`channelIndex` when there is one. -/
theorem buildEdgeRow_selector (signals : List Signal) (store : Widgets) (o : CursorRowInfo) :
    ((buildEdgeRow signals store o).1.get (store.next + 4)).items = (probeSelector signals).items ∧
      (0 ≤ o.channelIndex → o.channelIndex < (probeSelector signals).items.length →
        ((buildEdgeRow signals store o).1.get (store.next + 4)).currentIndex = o.channelIndex) := by
  rcases o with ⟨_, _, _, _, _, _, _, _ | _⟩ <;>
    simp only [buildEdgeRow, apply_ite (fun s : Widgets => (s.get (store.next + 4)).items),
      apply_ite (fun s : Widgets => (s.get (store.next + 4)).currentIndex), Widgets.setText_items,
      Widgets.setText_currentIndex, ite_self, Widgets.create_fst, Widgets.create_next, Nat.add_assoc,
      Nat.reduceAdd, Widgets.modify_get_self, Widgets.create_get, if_true] <;>
    exact ⟨by split_ifs <;> rfl, fun nonneg fits => by simp [fits, Widget.setCurrentIndex, nonneg]⟩

theorem buildCursorRows_next (v : View) (store : Widgets) (position : Nat) (cursors : List Cursor) :
    (buildCursorRows v store position cursors).1.next = store.next + 3 * cursors.length := by
  induction cursors generalizing store position with
  | nil => rfl
  | cons cursor cursors ih =>
    simp only [buildCursorRows, ih, Widgets.create_next, List.length_cons]
    omega

theorem buildCursorRows_get_of_lt (v : View) {store : Widgets} {handle : Nat}
    (below : handle < store.next) (position : Nat) (cursors : List Cursor) :
    (buildCursorRows v store position cursors).1.get handle = store.get handle := by
  induction cursors generalizing store position with
  | nil => rfl
  | cons cursor cursors ih =>
    simp only [buildCursorRows]
    rw [ih (by simp only [Widgets.create_next]; omega), Widgets.create_get_of_lt (by simp; omega),
      Widgets.create_get_of_lt (by simp; omega), Widgets.create_get_of_lt below]

/-- The cursor panel rows point to one block of consecutive fresh addresses. -/
theorem buildCursorRows_handles (v : View) (store : Widgets) (position : Nat)
    (cursors : List Cursor) :
    (buildCursorRows v store position cursors).2.1.flatMap CursorOptInfo.handles =
      List.range' store.next (3 * cursors.length) := by
  induction cursors generalizing store position with
  | nil => rfl
  | cons cursor cursors ih =>
    simp only [buildCursorRows, List.flatMap_cons, ih, Widgets.create_next, Widgets.create_fst,
      CursorOptInfo.handles_eq, Option.toList_some, List.length_cons]
    rw [Nat.mul_succ, ← List.range'_append_1 _ 3]
    rfl

theorem buildCursorRows_cursors (v : View) (store : Widgets) (position : Nat)
    (cursors : List Cursor) :
    (buildCursorRows v store position cursors).2.1.map CursorOptInfo.cursor = cursors := by
  induction cursors generalizing store position with
  | nil => rfl
  | cons cursor cursors ih => simp [buildCursorRows, ih]

theorem buildCursorRows_delBt (v : View) (store : Widgets) (position : Nat)
    (cursors : List Cursor) : ∀ row ∈ (buildCursorRows v store position cursors).2.1, row.delBt ≠ none := by
  induction cursors generalizing store position with
  | nil => simp [buildCursorRows]
  | cons cursor cursors ih =>
    simp only [buildCursorRows, List.mem_cons, forall_eq_or_imp]
    exact ⟨Option.some_ne_none _, ih _ _⟩

/-- `build_cursor_pannel` passes the positions of the markers it lists. -/
theorem buildCursorRows_queries (v : View) (store : Widgets) (position : Nat)
    (cursors : List Cursor) :
    ∀ q ∈ (buildCursorRows v store position cursors).2.2, q.count = v.cursorList.length ∧
      position ≤ q.index ∧ q.index < position + cursors.length := by
  induction cursors generalizing store position with
  | nil => simp [buildCursorRows]
  | cons cursor cursors ih =>
    simp only [buildCursorRows, cursorInfoCall_queries, List.cons_append, List.singleton_append,
      List.mem_cons, List.length_cons]
    rintro q (rfl | rfl | mem)
    · simp
    · simp
    · have := ih _ _ q mem
      omega

end Fresh

end DSView
