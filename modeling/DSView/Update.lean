import DSView.Pannel

/-!
# Refreshing the rows

`update_dist` and `update_edge` walk the active mode's rows until the first row without a start
button.  For each row they first clear a marker reference above the current marker count, then
show the distance between the two markers, the edge counts on the selected channel, or a
placeholder.  `update_cursor_info` rewrites the position labels of the cursor panel.

None of these passes reads a text it writes, so each row contributes its `setText` calls, in
order, and the marker positions it passes to the view; a null widget pointer the pass would
dereference ends the program (`none`).
-/

namespace DSView

/-- A reference `update_dist` and `update_edge` clear: set, and above the marker count. -/
def IsStale (count : Nat) (ref : Int) : Prop := ref ≠ -1 ∧ (count : Int) < ref

instance (count : Nat) : DecidablePred (IsStale count) := fun ref =>
  inferInstanceAs (Decidable (ref ≠ -1 ∧ (count : Int) < ref))

/-- A marker reference after the stale-reference rule. -/
def checkRef (count : Nat) (ref : Int) : Int := if IsStale count ref then -1 else ref

/-- A row after the stale-reference rule. -/
def CursorRowInfo.refresh (count : Nat) (row : CursorRowInfo) : CursorRowInfo :=
  { row with cursor1 := checkRef count row.cursor1, cursor2 := checkRef count row.cursor2 }

/-- A refreshed row: the row, its `setText` calls and the marker positions it passed. -/
abbrev RowUpdate := CursorRowInfo × List (Nat × String) × List ViewQuery

/-! ## `update_dist` -/

/-- How `update_dist` computes the text for a row bound to the markers numbered `cursor1` and
`cursor2`: the time and the sample difference, with `+` turned into `-` when it is negative. -/
def distCall (v : View) (cursor1 cursor2 : Int) : Logged String := do
  let samples1 ← v.callCursorSamples (cursor1 - 1)
  let samples2 ← v.callCursorSamples (cursor2 - 1)
  let delta : Int := (samples1 - samples2).toInt
  let time ← v.callCmDelta (cursor1 - 1) (cursor2 - 1)
  let text := time ++ "/" ++ qNumber delta
  pure (if delta < 0 then qReplace '+' '-' text else text)

/-- The text `update_dist` shows for a row bound to the markers numbered `cursor1` and
`cursor2`. -/
def distText (v : View) (cursor1 cursor2 : Int) : String := (distCall v cursor1 cursor2).result

/-- The text `update_dist` shows for a refreshed row: the distance when both markers are set,
and a space otherwise. -/
def distLabel (v : View) (row : CursorRowInfo) : String :=
  if row.cursor1 ≠ -1 ∧ row.cursor2 ≠ -1 then distText v row.cursor1 row.cursor2 else " "

/-- How `update_dist` computes the label of a refreshed row, with the positions it passes. -/
def distLabelCall (v : View) (row : CursorRowInfo) : Logged String :=
  if row.cursor1 ≠ -1 ∧ row.cursor2 ≠ -1 then distCall v row.cursor1 row.cursor2 else pure " "

@[simp]
theorem distLabelCall_result (v : View) (row : CursorRowInfo) :
    (distLabelCall v row).result = distLabel v row := by
  unfold distLabelCall distLabel
  split_ifs <;> rfl

theorem distCall_queries (v : View) (cursor1 cursor2 : Int) :
    (distCall v cursor1 cursor2).queries =
      [⟨cursor1 - 1, v.cursorList.length⟩, ⟨cursor2 - 1, v.cursorList.length⟩,
        ⟨cursor1 - 1, v.cursorList.length⟩, ⟨cursor2 - 1, v.cursorList.length⟩] := rfl

/-- The `setText("")` on the button of a stale reference, which dereferences the button. -/
def staleClear (count : Nat) (ref : Int) (button : Option Nat) : Option (List (Nat × String)) :=
  if IsStale count ref then button.map fun b => [(b, "")] else some []

/-- One iteration of `update_dist`, on a row whose start button is `startBt`;
`set_cursor_btn_color(inf.end_bt)` dereferences the end button in every iteration. -/
def updateDistRow (v : View) (inf : CursorRowInfo) (startBt : Nat) : Option RowUpdate := do
  let count := v.cursorList.length
  let clearStart ← staleClear count inf.cursor1 (some startBt)
  let endBt ← inf.endBt
  let clearEnd ← staleClear count inf.cursor2 (some endBt)
  let rLabel ← inf.rLabel
  let row := inf.refresh count
  let label := distLabelCall v row
  pure (row, clearStart ++ clearEnd ++ [(rLabel, label.result)], label.queries)

/-! ## `update_edge` -/

/-- The text `update_edge` shows for edge counts. -/
def edgeText (rising falling : BitVec 64) : String :=
  qNumber rising.toNat ++ "/" ++ qNumber falling.toNat ++ "/" ++ qNumber (rising + falling).toNat

/-- `edges(get_cursor_samples(cursor2 - 1), get_cursor_samples(cursor1 - 1), ...)` on the logic
signal `s`. -/
def edgesCall (v : View) (s : Signal) (cursor1 cursor2 : Int) :
    Logged (Option (BitVec 64 × BitVec 64)) := do
  let last ← v.callCursorSamples (cursor2 - 1)
  let first ← v.callCursorSamples (cursor1 - 1)
  pure (v.edges s last first)

@[simp]
theorem edgesCall_queries (v : View) (s : Signal) (cursor1 cursor2 : Int) :
    (edgesCall v s cursor1 cursor2).queries =
      [⟨cursor2 - 1, v.cursorList.length⟩, ⟨cursor1 - 1, v.cursorList.length⟩] := rfl

/-- The signal loop of `update_edge`: the first enabled logic signal whose id is the selector's
current text and whose `edges` call succeeds; `box` is dereferenced for every enabled logic
signal. -/
def scanSignals (v : View) (store : Widgets) (box : Option Nat) (cursor1 cursor2 : Int) :
    List Signal → Option (Option (BitVec 64 × BitVec 64) × List ViewQuery)
  | [] => some (none, [])
  | s :: rest =>
    if s.signalType = .logic ∧ s.enabled = true then do
      let b ← box
      if (s.index : Int) = qToInt (store.get b).currentText then
        let call := edgesCall v s cursor1 cursor2
        match call.result with
        | some counts => pure (some counts, call.queries)
        | none => do
          let (counts, more) ← scanSignals v store box cursor1 cursor2 rest
          pure (counts, call.queries ++ more)
      else scanSignals v store box cursor1 cursor2 rest
    else scanSignals v store box cursor1 cursor2 rest

/-- The edge counts of a refreshed row, scanned only when both markers are set. -/
def edgeCounts (v : View) (store : Widgets) (row : CursorRowInfo) :
    Option (Option (BitVec 64 × BitVec 64) × List ViewQuery) :=
  if row.cursor1 ≠ -1 ∧ row.cursor2 ≠ -1 then
    scanSignals v store row.box row.cursor1 row.cursor2 v.signals
  else some (none, [])

/-- The text `update_edge` shows for the result of the scan. -/
def edgeLabel : Option (BitVec 64 × BitVec 64) → String
  | some (rising, falling) => edgeText rising falling
  | none => "-/-/-"

/-- One iteration of `update_edge`, on a row whose start button is `startBt`. -/
def updateEdgeRow (v : View) (store : Widgets) (inf : CursorRowInfo) (startBt : Nat) :
    Option RowUpdate := do
  let count := v.cursorList.length
  let clearStart ← staleClear count inf.cursor1 (some startBt)
  let clearEnd ← staleClear count inf.cursor2 inf.endBt
  let row := inf.refresh count
  let (counts, queries) ← edgeCounts v store row
  let rLabel ← inf.rLabel
  pure (row, clearStart ++ clearEnd ++ [(rLabel, edgeLabel counts)], queries)

/-! ## The shared loop -/

/-- The loop of `update_dist` and `update_edge`: rows are refreshed in order up to the first row
without a start button (`break`). -/
def updateRows (body : CursorRowInfo → Nat → Option RowUpdate) :
    List CursorRowInfo → Option (List CursorRowInfo × List (Nat × String) × List ViewQuery)
  | [] => some ([], [], [])
  | inf :: rest =>
    match inf.startBt with
    | none => some (inf :: rest, [], [])
    | some startBt => do
      let (row, writes, queries) ← body inf startBt
      let (rows, moreWrites, moreQueries) ← updateRows body rest
      pure (row :: rows, writes ++ moreWrites, queries ++ moreQueries)

/-- The loop of `update_cursor_info` from position `position` on. -/
def cursorInfoWrites (v : View) (position : Nat) :
    List CursorOptInfo → List (Nat × String) × List ViewQuery
  | [] => ([], [])
  | row :: rows =>
    let (writes, queries) := cursorInfoWrites v (position + 1) rows
    match row.infoLabel with
    | some label =>
      let info := cursorInfoCall v position
      ((label, info.result) :: writes, info.queries ++ queries)
    | none => (writes, queries)

namespace MeasureDock

/-- `update_dist`. -/
def updateDist (v : View) (dock : MeasureDock) : Option MeasureDock := do
  let dock := dock.getModeRows v.workMode
  let slot := modeIndex v.workMode
  let rows := dock.modeRows slot
  let (distRows, writes, queries) ← updateRows (updateDistRow v) rows.distRowList
  pure { dock.setRows slot { rows with distRowList := distRows } with
    widgets := dock.widgets.apply writes, viewQueries := dock.viewQueries ++ queries }

/-- `update_edge`. -/
def updateEdge (v : View) (dock : MeasureDock) : Option MeasureDock := do
  let dock := dock.getModeRows v.workMode
  let slot := modeIndex v.workMode
  let rows := dock.modeRows slot
  let (edgeRows, writes, queries) ← updateRows (updateEdgeRow v dock.widgets) rows.edgeRowList
  pure { dock.setRows slot { rows with edgeRowList := edgeRows } with
    widgets := dock.widgets.apply writes, viewQueries := dock.viewQueries ++ queries }

/-- `update_cursor_info`; a cursor panel out of step with the marker list fails the assertion
`num_cursors == num_rows`. -/
def updateCursorInfo (v : View) (dock : MeasureDock) : Option MeasureDock :=
  let dock := dock.getModeRows v.workMode
  let rows := dock.modeRows (modeIndex v.workMode)
  if rows.optRowList = [] then some dock
  else if v.cursorList.length ≠ rows.optRowList.length then none
  else
    let (writes, queries) := cursorInfoWrites v 0 rows.optRowList
    some { dock with widgets := dock.widgets.apply writes, viewQueries := dock.viewQueries ++ queries }

end MeasureDock

/-! ## The stale-reference rule -/

/-- A marker reference is unset or a marker number. -/
def RefValid (ref : Int) : Prop := ref = -1 ∨ 1 ≤ ref

section StaleRule

variable {count : Nat} {ref : Int}

theorem not_isStale_checkRef (count : Nat) (ref : Int) : ¬IsStale count (checkRef count ref) := by
  unfold checkRef IsStale
  split_ifs <;> omega

@[simp]
theorem checkRef_checkRef (count : Nat) (ref : Int) :
    checkRef count (checkRef count ref) = checkRef count ref :=
  if_neg (not_isStale_checkRef count ref)

theorem checkRef_of_not_isStale (fresh : ¬IsStale count ref) : checkRef count ref = ref :=
  if_neg fresh

theorem refValid_checkRef (valid : RefValid ref) : RefValid (checkRef count ref) := by
  unfold DSView.checkRef
  split_ifs
  · exact .inl rfl
  · exact valid

/-- A set reference that survives the rule is a marker number within the marker count. -/
theorem checkRef_bounds (valid : RefValid ref) (set : checkRef count ref ≠ -1) :
    1 ≤ checkRef count ref ∧ checkRef count ref ≤ count := by
  unfold DSView.checkRef IsStale at *
  split_ifs at * with stale
  · exact absurd rfl set
  · unfold RefValid at valid
    omega

@[simp]
theorem refresh_refresh (count : Nat) (row : CursorRowInfo) :
    (row.refresh count).refresh count = row.refresh count := by
  simp [CursorRowInfo.refresh]

theorem staleClear_some (count : Nat) (ref : Int) (button : Nat) :
    staleClear count ref (some button) =
      some (if IsStale count ref then [(button, "")] else []) := by
  unfold staleClear
  split_ifs <;> rfl

theorem staleClear_of_not_isStale {button : Option Nat} (fresh : ¬IsStale count ref) :
    staleClear count ref button = some [] :=
  if_neg fresh

end StaleRule

/-! ## One row -/

section Body

variable {v : View} {store : Widgets} {inf : CursorRowInfo} {startBt : Nat} {update : RowUpdate}

/-- What one iteration of `update_dist` does, when its row has an end button and a label. -/
theorem updateDistRow_eq {endBt rLabel : Nat} (hasEnd : inf.endBt = some endBt)
    (hasLabel : inf.rLabel = some rLabel) :
    updateDistRow v inf startBt =
      some (inf.refresh v.cursorList.length,
        (if IsStale v.cursorList.length inf.cursor1 then [(startBt, "")] else []) ++
          (if IsStale v.cursorList.length inf.cursor2 then [(endBt, "")] else []) ++
          [(rLabel, distLabel v (inf.refresh v.cursorList.length))],
        (distLabelCall v (inf.refresh v.cursorList.length)).queries) := by
  simp [updateDistRow, staleClear_some, hasEnd, hasLabel]

theorem updateDistRow_eq_some (h : updateDistRow v inf startBt = some update) :
    ∃ endBt rLabel, inf.endBt = some endBt ∧ inf.rLabel = some rLabel ∧
      update = (inf.refresh v.cursorList.length,
        (if IsStale v.cursorList.length inf.cursor1 then [(startBt, "")] else []) ++
          (if IsStale v.cursorList.length inf.cursor2 then [(endBt, "")] else []) ++
          [(rLabel, distLabel v (inf.refresh v.cursorList.length))],
        (distLabelCall v (inf.refresh v.cursorList.length)).queries) := by
  cases hasEnd : inf.endBt with
  | none => simp [updateDistRow, hasEnd, staleClear_some] at h
  | some endBt =>
    cases hasLabel : inf.rLabel with
    | none => simp [updateDistRow, hasEnd, hasLabel, staleClear_some] at h
    | some rLabel =>
      rw [updateDistRow_eq hasEnd hasLabel, Option.some.injEq] at h
      exact ⟨endBt, rLabel, rfl, rfl, h.symm⟩

theorem updateEdgeRow_eq_some (h : updateEdgeRow v store inf startBt = some update) :
    ∃ clearEnd counts queries rLabel,
      staleClear v.cursorList.length inf.cursor2 inf.endBt = some clearEnd ∧
      edgeCounts v store (inf.refresh v.cursorList.length) = some (counts, queries) ∧
      inf.rLabel = some rLabel ∧
      update = (inf.refresh v.cursorList.length,
        (if IsStale v.cursorList.length inf.cursor1 then [(startBt, "")] else []) ++ clearEnd ++
          [(rLabel, edgeLabel counts)], queries) := by
  simp only [updateEdgeRow, staleClear_some, Option.bind_eq_bind, Option.some_bind,
    Option.bind_eq_some, Option.pure_def, Option.some.injEq] at h
  obtain ⟨clearEnd, hasClear, ⟨counts, queries⟩, scan, rLabel, hasLabel, rfl⟩ := h
  exact ⟨clearEnd, counts, queries, rLabel, hasClear, scan, hasLabel, rfl⟩

end Body

end DSView

namespace DSView

section Body

variable {v : View} {store : Widgets} {inf : CursorRowInfo} {startBt : Nat} {update : RowUpdate}

theorem updateDistRow_row (h : updateDistRow v inf startBt = some update) :
    update.1 = inf.refresh v.cursorList.length := by
  obtain ⟨_, _, _, _, rfl⟩ := updateDistRow_eq_some h
  rfl

theorem updateEdgeRow_row (h : updateEdgeRow v store inf startBt = some update) :
    update.1 = inf.refresh v.cursorList.length := by
  obtain ⟨_, _, _, _, _, _, _, rfl⟩ := updateEdgeRow_eq_some h
  rfl

private theorem ite_sublist_toList {c : Prop} [Decidable c] {button : Nat} {slot : Option Nat}
    (has : slot = some button) : List.Sublist (if c then [button] else []) slot.toList := by
  subst has
  split_ifs
  · exact List.Sublist.refl _
  · exact List.nil_sublist _

private theorem sublist_handles {startKeys endKeys : List Nat} {rLabel : Nat}
    (start : List.Sublist startKeys inf.startBt.toList)
    (finish : List.Sublist endKeys inf.endBt.toList) (label : inf.rLabel = some rLabel) :
    List.Sublist (startKeys ++ endKeys ++ [rLabel]) inf.handles := by
  rw [CursorRowInfo.handles_eq, label]
  exact (((start.append finish).append (List.Sublist.refl _)).trans
    (by simp only [List.append_assoc]; exact List.sublist_append_right _ _)).trans
    (List.sublist_append_left _ _)

/-- An iteration of `update_dist` writes only to its row's widgets, each at most once. -/
theorem updateDistRow_keys (start : inf.startBt = some startBt)
    (h : updateDistRow v inf startBt = some update) :
    List.Sublist (update.2.1.map Prod.fst) inf.handles := by
  obtain ⟨endBt, rLabel, hasEnd, hasLabel, rfl⟩ := updateDistRow_eq_some h
  simp only [List.map_append, apply_ite (List.map Prod.fst), List.map_cons, List.map_nil]
  exact sublist_handles (ite_sublist_toList start) (ite_sublist_toList hasEnd) hasLabel

/-- An iteration of `update_edge` writes only to its row's widgets, each at most once. -/
theorem updateEdgeRow_keys (start : inf.startBt = some startBt)
    (h : updateEdgeRow v store inf startBt = some update) :
    List.Sublist (update.2.1.map Prod.fst) inf.handles := by
  obtain ⟨clearEnd, _, _, rLabel, hasClear, -, hasLabel, rfl⟩ := updateEdgeRow_eq_some h
  simp only [List.map_append, apply_ite (List.map Prod.fst), List.map_cons, List.map_nil]
  refine sublist_handles (ite_sublist_toList start) ?_ hasLabel
  unfold staleClear at hasClear
  split_ifs at hasClear
  · obtain ⟨endBt, hasEnd, rfl⟩ := Option.map_eq_some'.mp hasClear
    simp [hasEnd]
  · cases hasClear
    exact List.nil_sublist _

/-- The positions the signal loop passes to the view are those of the two markers. -/
theorem scanSignals_queries {box : Option Nat} {cursor1 cursor2 : Int} :
    ∀ {signals : List Signal} {result : Option (BitVec 64 × BitVec 64) × List ViewQuery},
      scanSignals v store box cursor1 cursor2 signals = some result →
      ∀ q ∈ result.2, q.count = v.cursorList.length ∧ (q.index = cursor2 - 1 ∨ q.index = cursor1 - 1)
  | [], _, h => by cases h; simp
  | s :: signals, result, h => by
    simp only [scanSignals] at h
    split_ifs at h
    · simp only [Option.bind_eq_bind, Option.bind_eq_some] at h
      obtain ⟨b, -, h⟩ := h
      split_ifs at h
      · split at h
        · cases h; simp
        · simp only [Option.bind_eq_some, Option.pure_def, Option.some.injEq] at h
          obtain ⟨⟨counts, more⟩, rest, rfl⟩ := h
          intro q mem
          rcases List.mem_append.mp mem with first | later
          · simp at first; rcases first with rfl | rfl <;> simp
          · exact scanSignals_queries rest q later
      · exact scanSignals_queries h
    · exact scanSignals_queries h

/-- The signal loop reads the widgets only through the selectors' current texts. -/
theorem scanSignals_congr {store' : Widgets}
    (same : ∀ b, (store'.get b).currentText = (store.get b).currentText)
    (box : Option Nat) (cursor1 cursor2 : Int) :
    ∀ signals : List Signal,
      scanSignals v store' box cursor1 cursor2 signals = scanSignals v store box cursor1 cursor2 signals
  | [] => rfl
  | s :: signals => by
    simp only [scanSignals, same, scanSignals_congr same box cursor1 cursor2 signals]

private theorem queries_bounds {count : Nat} {ref : Int} (valid : RefValid ref)
    (set : checkRef count ref ≠ -1) : 0 ≤ checkRef count ref - 1 ∧ checkRef count ref - 1 < count := by
  have := checkRef_bounds valid set
  omega

/-- With valid references, `update_dist` passes only positions of existing markers. -/
theorem updateDistRow_queries (valid1 : RefValid inf.cursor1) (valid2 : RefValid inf.cursor2)
    (h : updateDistRow v inf startBt = some update) :
    ∀ q ∈ update.2.2, 0 ≤ q.index ∧ q.index < q.count := by
  obtain ⟨_, _, _, _, rfl⟩ := updateDistRow_eq_some h
  simp only [distLabelCall]
  split_ifs with bound
  · rw [distCall_queries]
    have first := queries_bounds valid1 bound.1
    have second := queries_bounds valid2 bound.2
    simp only [CursorRowInfo.refresh] at first second
    simp only [List.mem_cons, List.not_mem_nil, or_false]
    rintro q (rfl | rfl | rfl | rfl) <;> assumption
  · simp

/-- With valid references, `update_edge` passes only positions of existing markers. -/
theorem updateEdgeRow_queries (valid1 : RefValid inf.cursor1) (valid2 : RefValid inf.cursor2)
    (h : updateEdgeRow v store inf startBt = some update) :
    ∀ q ∈ update.2.2, 0 ≤ q.index ∧ q.index < q.count := by
  obtain ⟨_, counts, queries, _, _, scan, _, rfl⟩ := updateEdgeRow_eq_some h
  unfold edgeCounts at scan
  split_ifs at scan with bound
  · have first := queries_bounds valid1 bound.1
    have second := queries_bounds valid2 bound.2
    intro q mem
    obtain ⟨count, index | index⟩ := scanSignals_queries scan q mem <;>
      simp only [CursorRowInfo.refresh] at index <;> omega
  · cases scan
    simp

/-- A second iteration of `update_dist` on a refreshed row clears nothing and repeats the
label it wrote. -/
theorem updateDistRow_again (h : updateDistRow v inf startBt = some update) :
    ∃ writes, updateDistRow v update.1 startBt = some (update.1, writes, update.2.2) ∧
      ∀ write ∈ writes, write ∈ update.2.1 := by
  obtain ⟨endBt, rLabel, hasEnd, hasLabel, rfl⟩ := updateDistRow_eq_some h
  have again := @updateDistRow_eq v (inf.refresh v.cursorList.length) startBt endBt rLabel
    hasEnd hasLabel
  rw [refresh_refresh] at again
  refine ⟨_, again, ?_⟩
  simp [CursorRowInfo.refresh, not_isStale_checkRef]

/-- A second iteration of `update_edge` on a refreshed row, over widgets whose selectors show
the same texts, clears nothing and repeats the label it wrote. -/
theorem updateEdgeRow_again {store' : Widgets}
    (same : ∀ b, (store'.get b).currentText = (store.get b).currentText)
    (h : updateEdgeRow v store inf startBt = some update) :
    ∃ writes, updateEdgeRow v store' update.1 startBt = some (update.1, writes, update.2.2) ∧
      ∀ write ∈ writes, write ∈ update.2.1 := by
  obtain ⟨clearEnd, counts, queries, rLabel, -, scan, hasLabel, rfl⟩ := updateEdgeRow_eq_some h
  refine ⟨[(rLabel, edgeLabel counts)], ?_, by simp⟩
  have rescan : edgeCounts v store' ((inf.refresh v.cursorList.length).refresh v.cursorList.length) =
      some (counts, queries) := by
    rw [refresh_refresh, ← scan, edgeCounts, edgeCounts, scanSignals_congr same]
  simp only [updateEdgeRow, staleClear_of_not_isStale (not_isStale_checkRef _ _),
    CursorRowInfo.refresh, rescan] at *
  simp [hasLabel]

end Body

end DSView

namespace DSView

/-! ## The loop -/

/-- The rows the loop leaves: refreshed up to the first row without a start button. -/
def refreshRows (count : Nat) : List CursorRowInfo → List CursorRowInfo
  | [] => []
  | inf :: rest =>
    match inf.startBt with
    | none => inf :: rest
    | some _ => inf.refresh count :: refreshRows count rest

/-- What the loop does, row by row: the rows it leaves, its `setText` calls and the positions it
passes to the view. -/
inductive UpdatesRows (body : CursorRowInfo → Nat → Option RowUpdate) :
    List CursorRowInfo → List CursorRowInfo → List (Nat × String) → List ViewQuery → Prop
  | nil : UpdatesRows body [] [] [] []
  | stop {inf : CursorRowInfo} {rest : List CursorRowInfo} :
      inf.startBt = none → UpdatesRows body (inf :: rest) (inf :: rest) [] []
  | cons {inf row : CursorRowInfo} {rest rows : List CursorRowInfo} {startBt : Nat}
      {writes moreWrites : List (Nat × String)} {queries moreQueries : List ViewQuery} :
      inf.startBt = some startBt → body inf startBt = some (row, writes, queries) →
      UpdatesRows body rest rows moreWrites moreQueries →
      UpdatesRows body (inf :: rest) (row :: rows) (writes ++ moreWrites) (queries ++ moreQueries)

section Loop

variable {body : CursorRowInfo → Nat → Option RowUpdate} {rows rows' : List CursorRowInfo}
  {writes : List (Nat × String)} {queries : List ViewQuery}

theorem updateRows_eq_some_iff :
    updateRows body rows = some (rows', writes, queries) ↔ UpdatesRows body rows rows' writes queries := by
  induction rows generalizing rows' writes queries with
  | nil =>
    simp only [updateRows, Option.some.injEq, Prod.mk.injEq]
    constructor
    · rintro ⟨rfl, rfl, rfl⟩; exact .nil
    · rintro ⟨⟩; exact ⟨rfl, rfl, rfl⟩
  | cons inf rest ih =>
    cases start : inf.startBt with
    | none =>
      simp only [updateRows, start, Option.some.injEq, Prod.mk.injEq]
      constructor
      · rintro ⟨rfl, rfl, rfl⟩; exact .stop start
      · rintro (_ | _ | ⟨start', _, _⟩)
        · exact ⟨rfl, rfl, rfl⟩
        · rw [start] at start'
          cases start'
    | some startBt =>
      simp only [updateRows, start, Option.bind_eq_bind, Option.bind_eq_some, Option.pure_def,
        Option.some.injEq, Prod.mk.injEq, Prod.exists]
      constructor
      · rintro ⟨row, ws, qs, first, rows, ws', qs', rest, rfl, rfl, rfl⟩
        exact .cons start first (ih.mp rest)
      · rintro (_ | ⟨start'⟩ | ⟨start', first, rest⟩)
        · rw [start] at start'
          cases start'
        · rw [start] at start'
          cases start'
          exact ⟨_, _, _, first, _, _, _, ih.mpr rest, rfl, rfl, rfl⟩

/-- Every iteration refreshes its row, so the loop leaves `refreshRows`. -/
theorem UpdatesRows.rows_eq {count : Nat}
    (refreshes : ∀ inf startBt update, body inf startBt = some update → update.1 = inf.refresh count)
    (h : UpdatesRows body rows rows' writes queries) : rows' = refreshRows count rows := by
  induction h with
  | nil => rfl
  | stop start => simp [refreshRows, start]
  | cons start first _ ih =>
    have refreshed : _ = _ := refreshes _ _ _ first
    simp [refreshRows, start, ← refreshed, ih]

/-- The loop writes only to the rows' widgets, each at most as often as the rows point to it. -/
theorem UpdatesRows.keys_sublist
    (keys : ∀ inf startBt update, inf.startBt = some startBt → body inf startBt = some update →
      List.Sublist (update.2.1.map Prod.fst) inf.handles)
    (h : UpdatesRows body rows rows' writes queries) :
    List.Sublist (writes.map Prod.fst) (rows.flatMap CursorRowInfo.handles) := by
  induction h with
  | nil => exact List.Sublist.refl _
  | stop _ => exact List.nil_sublist _
  | cons start first _ ih =>
    rw [List.map_append, List.flatMap_cons]
    exact (keys _ _ _ start first).append ih

/-- The loop passes the positions its iterations pass. -/
theorem UpdatesRows.queries_of {P : CursorRowInfo → Prop} {Q : ViewQuery → Prop}
    (pre : ∀ inf ∈ rows, P inf)
    (each : ∀ inf startBt update, P inf → body inf startBt = some update → ∀ q ∈ update.2.2, Q q)
    (h : UpdatesRows body rows rows' writes queries) : ∀ q ∈ queries, Q q := by
  induction h with
  | nil => simp
  | stop _ => simp
  | cons _ first _ ih =>
    intro q mem
    rcases List.mem_append.mp mem with now | later
    · exact each _ _ _ (pre _ (List.mem_cons_self _ _)) first q now
    · exact ih (fun inf mem => pre inf (List.mem_cons_of_mem _ mem)) q later

/-- Running the loop again over the rows it left, with an iteration that repeats only calls the
first one made, repeats only calls the first loop made. -/
theorem UpdatesRows.again {body' : CursorRowInfo → Nat → Option RowUpdate}
    (each : ∀ inf startBt update, body inf startBt = some update →
      update.1.startBt = inf.startBt ∧
      ∃ ws, body' update.1 startBt = some (update.1, ws, update.2.2) ∧ ∀ w ∈ ws, w ∈ update.2.1)
    (h : UpdatesRows body rows rows' writes queries) :
    ∃ ws, UpdatesRows body' rows' rows' ws queries ∧ ∀ w ∈ ws, w ∈ writes := by
  induction h with
  | nil => exact ⟨[], .nil, by simp⟩
  | stop start => exact ⟨[], .stop start, by simp⟩
  | cons start first _ ih =>
    obtain ⟨sameStart, ws, again, sub⟩ := each _ _ _ first
    obtain ⟨ws', rest, sub'⟩ := ih
    refine ⟨ws ++ ws', .cons (sameStart.trans start) again rest, fun w mem => ?_⟩
    rcases List.mem_append.mp mem with now | later
    · exact List.mem_append_left _ (sub w now)
    · exact List.mem_append_right _ (sub' w later)

end Loop

section RefreshRows

variable {count : Nat}

theorem length_refreshRows (count : Nat) (rows : List CursorRowInfo) :
    (refreshRows count rows).length = rows.length := by
  induction rows with
  | nil => rfl
  | cons inf rest ih => cases start : inf.startBt <;> simp [refreshRows, start, ih]

theorem refreshRows_refreshRows (count : Nat) (rows : List CursorRowInfo) :
    refreshRows count (refreshRows count rows) = refreshRows count rows := by
  induction rows with
  | nil => rfl
  | cons inf rest ih =>
    cases start : inf.startBt <;> simp [refreshRows, start, ih, CursorRowInfo.refresh]

/-- A refreshed row is the row or its refresh. -/
theorem mem_refreshRows {row : CursorRowInfo} {rows : List CursorRowInfo}
    (mem : row ∈ refreshRows count rows) : ∃ inf ∈ rows, row = inf ∨ row = inf.refresh count := by
  induction rows with
  | nil => exact absurd mem (List.not_mem_nil _)
  | cons inf rest ih =>
    cases start : inf.startBt <;> simp only [refreshRows, start] at mem
    · exact ⟨_, mem, .inl rfl⟩
    · rcases List.mem_cons.mp mem with rfl | later
      · exact ⟨inf, List.mem_cons_self _ _, .inr rfl⟩
      · obtain ⟨o, mem', same⟩ := ih later
        exact ⟨o, List.mem_cons_of_mem _ mem', same⟩

/-- Refreshing changes only marker references. -/
theorem map_refreshRows {α : Type} (f : CursorRowInfo → α)
    (keeps : ∀ inf, f (inf.refresh count) = f inf) (rows : List CursorRowInfo) :
    (refreshRows count rows).map f = rows.map f := by
  induction rows with
  | nil => rfl
  | cons inf rest ih => cases start : inf.startBt <;> simp [refreshRows, start, ih, keeps]

end RefreshRows

end DSView

namespace DSView

/-! ## The passes on the dock -/

section Passes

variable {v : View} {dock dock' : MeasureDock}

theorem cursorInfoWrites_keys (v : View) (position : Nat) (rows : List CursorOptInfo) :
    List.Sublist ((cursorInfoWrites v position rows).1.map Prod.fst)
      (rows.flatMap CursorOptInfo.handles) := by
  induction rows generalizing position with
  | nil => exact List.nil_sublist _
  | cons row rows ih =>
    rw [List.flatMap_cons, CursorOptInfo.handles_eq]
    cases label : row.infoLabel with
    | none =>
      simp only [cursorInfoWrites, label]
      exact (ih _).trans (List.sublist_append_right _ _)
    | some l =>
      simp only [cursorInfoWrites, label, List.map_cons, Option.toList_some]
      exact (List.sublist_append_right (row.delBt.toList ++ row.gotoBt.toList) [l]).append (ih _)

theorem cursorInfoWrites_queries (v : View) (position : Nat) (rows : List CursorOptInfo) :
    ∀ q ∈ (cursorInfoWrites v position rows).2, q.count = v.cursorList.length ∧
      position ≤ q.index ∧ q.index < position + rows.length := by
  induction rows generalizing position with
  | nil => simp [cursorInfoWrites]
  | cons row rows ih =>
    have rest := ih (position + 1)
    cases label : row.infoLabel with
    | none =>
      simp only [cursorInfoWrites, label]
      intro q mem
      have := rest q mem
      simp only [List.length_cons]
      omega
    | some l =>
      simp only [cursorInfoWrites, label, cursorInfoCall_queries, List.cons_append,
        List.singleton_append, List.mem_cons]
      rintro q (rfl | rfl | mem)
      · simp
      · simp
      · have := rest q mem
        simp only [List.length_cons]
        omega

theorem updateDist_eq_some_iff :
    dock.updateDist v = some dock' ↔
      ∃ rows writes queries, UpdatesRows (updateDistRow v)
        (dock.modeRows (modeIndex v.workMode)).distRowList rows writes queries ∧
      dock' = { (dock.getModeRows v.workMode).setRows (modeIndex v.workMode)
          { dock.modeRows (modeIndex v.workMode) with distRowList := rows } with
        widgets := dock.widgets.apply writes, viewQueries := dock.viewQueries ++ queries } := by
  simp only [MeasureDock.updateDist, Option.bind_eq_bind, Option.bind_eq_some, Option.pure_def,
    Option.some.injEq, Prod.exists, MeasureDock.getModeRows_active, updateRows_eq_some_iff,
    MeasureDock.getModeRows_widgets, MeasureDock.getModeRows_viewQueries]
  exact ⟨fun ⟨rows, writes, queries, loop, same⟩ => ⟨rows, writes, queries, loop, same.symm⟩,
    fun ⟨rows, writes, queries, loop, same⟩ => ⟨rows, writes, queries, loop, same.symm⟩⟩

theorem updateEdge_eq_some_iff :
    dock.updateEdge v = some dock' ↔
      ∃ rows writes queries, UpdatesRows (updateEdgeRow v dock.widgets)
        (dock.modeRows (modeIndex v.workMode)).edgeRowList rows writes queries ∧
      dock' = { (dock.getModeRows v.workMode).setRows (modeIndex v.workMode)
          { dock.modeRows (modeIndex v.workMode) with edgeRowList := rows } with
        widgets := dock.widgets.apply writes, viewQueries := dock.viewQueries ++ queries } := by
  simp only [MeasureDock.updateEdge, Option.bind_eq_bind, Option.bind_eq_some, Option.pure_def,
    Option.some.injEq, Prod.exists, MeasureDock.getModeRows_active, updateRows_eq_some_iff,
    MeasureDock.getModeRows_widgets, MeasureDock.getModeRows_viewQueries]
  exact ⟨fun ⟨rows, writes, queries, loop, same⟩ => ⟨rows, writes, queries, loop, same.symm⟩,
    fun ⟨rows, writes, queries, loop, same⟩ => ⟨rows, writes, queries, loop, same.symm⟩⟩

/-- `update_dist` leaves the active distance rows refreshed and every other row of the mode. -/
theorem updateDist_rows (h : dock.updateDist v = some dock') :
    dock'.modeRows (modeIndex v.workMode) = { dock.modeRows (modeIndex v.workMode) with
      distRowList := refreshRows v.cursorList.length (dock.modeRows (modeIndex v.workMode)).distRowList } := by
  obtain ⟨rows, writes, queries, loop, rfl⟩ := updateDist_eq_some_iff.mp h
  obtain rfl := loop.rows_eq fun _ _ _ => updateDistRow_row
  exact MeasureDock.setRows_same _ _ _

/-- `update_edge` leaves the active edge rows refreshed and every other row of the mode. -/
theorem updateEdge_rows (h : dock.updateEdge v = some dock') :
    dock'.modeRows (modeIndex v.workMode) = { dock.modeRows (modeIndex v.workMode) with
      edgeRowList := refreshRows v.cursorList.length (dock.modeRows (modeIndex v.workMode)).edgeRowList } := by
  obtain ⟨rows, writes, queries, loop, rfl⟩ := updateEdge_eq_some_iff.mp h
  obtain rfl := loop.rows_eq fun _ _ _ => updateEdgeRow_row
  exact MeasureDock.setRows_same _ _ _

theorem updateCursorInfo_eq_some (h : dock.updateCursorInfo v = some dock') :
    ((dock.modeRows (modeIndex v.workMode)).optRowList = [] ∨
      v.cursorList.length = (dock.modeRows (modeIndex v.workMode)).optRowList.length) ∧
    dock' = { dock.getModeRows v.workMode with
      widgets := dock.widgets.apply
        (cursorInfoWrites v 0 (dock.modeRows (modeIndex v.workMode)).optRowList).1,
      viewQueries := dock.viewQueries ++
        (cursorInfoWrites v 0 (dock.modeRows (modeIndex v.workMode)).optRowList).2 } := by
  simp only [MeasureDock.updateCursorInfo, MeasureDock.getModeRows_active] at h
  split_ifs at h with empty count
  · cases h
    refine ⟨.inl empty, ?_⟩
    simp only [empty, cursorInfoWrites, Widgets.apply, List.append_nil]
    rfl
  · cases h
    exact ⟨.inr (not_not.mp count), rfl⟩

end Passes

end DSView
