import DSView.Channel

/-!
# What the rows show

After `update_dist` every distance row with widgets shows in its label the distance between the
markers of its refreshed references, and after `update_edge` every edge row with widgets shows
the edge counts of the channel its selector names.  In every reachable state the rows with
widgets come first, so the loops, which stop at the first row without a start button, reach all
of them; and since no two rows point to one widget, no other `setText` of the pass overwrites a
label.
-/

namespace DSView

section Loop

variable {body : CursorRowInfo → Nat → Option RowUpdate} {rows rows' : List CursorRowInfo}
  {writes : List (Nat × String)} {queries : List ViewQuery} {count : Nat}

/-- When the rows with a start button come first, the loop runs the iteration of each of them and
keeps its writes. -/
theorem UpdatesRows.writes_of_built (h : UpdatesRows body rows rows' writes queries)
    (ordered : BuiltFirst rows) : ∀ inf ∈ rows, ∀ startBt, inf.startBt = some startBt →
      ∃ update, body inf startBt = some update ∧ ∀ w ∈ update.2.1, w ∈ writes := by
  induction h with
  | nil => exact fun _ mem => absurd mem (List.not_mem_nil _)
  | stop stopped =>
    intro inf mem startBt start
    rw [BuiltFirst, List.map_cons, List.pairwise_cons] at ordered
    rcases List.mem_cons.mp mem with rfl | later
    · rw [stopped] at start
      cases start
    · exact absurd stopped (ordered.1 _ (List.mem_map_of_mem _ later) (by simp [start]))
  | cons start first _ ih =>
    intro inf mem startBt' start'
    rw [BuiltFirst, List.map_cons, List.pairwise_cons] at ordered
    rcases List.mem_cons.mp mem with rfl | later
    · rw [start] at start'
      cases start'
      exact ⟨_, first, fun w kept => List.mem_append_left _ kept⟩
    · obtain ⟨update, step, kept⟩ := ih ordered.2 inf later startBt' start'
      exact ⟨update, step, fun w mem => List.mem_append_right _ (kept w mem)⟩

/-- When the rows with a start button come first, each refreshed row with a start button is the
refresh of one of the rows. -/
theorem mem_refreshRows_of_built {row : CursorRowInfo} (ordered : BuiltFirst rows)
    (mem : row ∈ refreshRows count rows) (built : row.startBt ≠ none) :
    ∃ inf ∈ rows, row = inf.refresh count := by
  induction rows with
  | nil => exact absurd mem (List.not_mem_nil _)
  | cons inf rest ih =>
    rw [BuiltFirst, List.map_cons, List.pairwise_cons] at ordered
    cases start : inf.startBt with
    | none =>
      simp only [refreshRows, start] at mem
      rcases List.mem_cons.mp mem with rfl | later
      · exact absurd start built
      · exact absurd start (ordered.1 _ (List.mem_map_of_mem _ later) built)
    | some _ =>
      simp only [refreshRows, start] at mem
      rcases List.mem_cons.mp mem with rfl | later
      · exact ⟨inf, List.mem_cons_self _ _, rfl⟩
      · obtain ⟨o, mem', same⟩ := ih ordered.2 later
        exact ⟨o, List.mem_cons_of_mem _ mem', same⟩

end Loop

namespace Inv

variable {limit : Nat} {v : View} {dock dock' : MeasureDock}

/-- The writes of `update_dist` go to distinct widgets. -/
theorem updateDist_writes (inv : Inv limit dock) (h : dock.updateDist v = some dock') :
    ∃ writes, dock'.widgets = dock.widgets.apply writes ∧ (writes.map Prod.fst).Nodup ∧
      ∀ inf ∈ (dock.modeRows (modeIndex v.workMode)).distRowList, ∀ startBt,
        inf.startBt = some startBt → ∃ update, updateDistRow v inf startBt = some update ∧
          ∀ w ∈ update.2.1, w ∈ writes := by
  have ok := inv.slots (modeIndex v.workMode)
  obtain ⟨rows, writes, queries, loop, rfl⟩ := updateDist_eq_some_iff.mp h
  refine ⟨writes, rfl, ?_, loop.writes_of_built ok.dist.ordered⟩
  refine (loop.keys_sublist fun _ _ _ start step => updateDistRow_keys start step).nodup ?_
  exact ok.distinct.sublist ((List.sublist_append_left _ _).trans (List.sublist_append_left _ _))

/-- The writes of `update_edge` go to distinct widgets. -/
theorem updateEdge_writes (inv : Inv limit dock) (h : dock.updateEdge v = some dock') :
    ∃ writes, dock'.widgets = dock.widgets.apply writes ∧ (writes.map Prod.fst).Nodup ∧
      ∀ inf ∈ (dock.modeRows (modeIndex v.workMode)).edgeRowList, ∀ startBt,
        inf.startBt = some startBt → ∃ update, updateEdgeRow v dock.widgets inf startBt = some update ∧
          ∀ w ∈ update.2.1, w ∈ writes := by
  have ok := inv.slots (modeIndex v.workMode)
  obtain ⟨rows, writes, queries, loop, rfl⟩ := updateEdge_eq_some_iff.mp h
  refine ⟨writes, rfl, ?_, loop.writes_of_built ok.edge.ordered⟩
  refine (loop.keys_sublist fun _ _ _ start step => updateEdgeRow_keys start step).nodup ?_
  exact ok.distinct.sublist ((List.sublist_append_right _ _).trans (List.sublist_append_left _ _))

/-- After `update_dist` each distance row with widgets shows the distance of its references. -/
theorem updateDist_labels (inv : Inv limit dock) (h : dock.updateDist v = some dock') :
    ∀ row ∈ (dock'.modeRows (modeIndex v.workMode)).distRowList, ∀ label,
      row.startBt ≠ none → row.rLabel = some label → (dock'.widgets.get label).text = distLabel v row := by
  intro row mem label built has
  obtain ⟨writes, widgets, distinct, each⟩ := inv.updateDist_writes h
  rw [updateDist_rows h] at mem
  obtain ⟨inf, mem', rfl⟩ :=
    mem_refreshRows_of_built (inv.slots (modeIndex v.workMode)).dist.ordered mem built
  obtain ⟨startBt, start⟩ := Option.ne_none_iff_exists'.mp built
  obtain ⟨update, step, kept⟩ := each inf mem' startBt start
  obtain ⟨endBt, rLabel, -, hasLabel, rfl⟩ := updateDistRow_eq_some step
  cases hasLabel.symm.trans has
  rw [widgets]
  exact Widgets.apply_text_of_mem distinct (kept _ (by simp))

/-- After `update_edge` each edge row with widgets shows the edge counts of the channel its
selector names, or the placeholder when there are none. -/
theorem updateEdge_labels (inv : Inv limit dock) (h : dock.updateEdge v = some dock') :
    ∀ row ∈ (dock'.modeRows (modeIndex v.workMode)).edgeRowList, ∀ label box,
      row.startBt ≠ none → row.rLabel = some label → row.box = some box →
      (dock'.widgets.get label).text = edgeLabel
        (if row.cursor1 ≠ -1 ∧ row.cursor2 ≠ -1 then channelCounts v
          (qToInt (dock'.widgets.get box).currentText) row.cursor1 row.cursor2 v.signals else none) := by
  intro row mem label box built has hasBox
  obtain ⟨writes, widgets, distinct, each⟩ := inv.updateEdge_writes h
  rw [updateEdge_rows h] at mem
  obtain ⟨inf, mem', rfl⟩ :=
    mem_refreshRows_of_built (inv.slots (modeIndex v.workMode)).edge.ordered mem built
  obtain ⟨startBt, start⟩ := Option.ne_none_iff_exists'.mp built
  obtain ⟨update, step, kept⟩ := each inf mem' startBt start
  obtain ⟨clearEnd, counts, queries, rLabel, -, scan, hasLabel, rfl⟩ := updateEdgeRow_eq_some step
  cases hasLabel.symm.trans has
  rw [widgets, Widgets.apply_text_of_mem distinct (kept (label, edgeLabel counts) (by simp)),
    Widgets.apply_currentText]
  unfold edgeCounts at scan
  split_ifs at scan ⊢ with bound
  · have measured := scanSignals_counts v dock.widgets box (inf.refresh v.cursorList.length).cursor1
      (inf.refresh v.cursorList.length).cursor2 v.signals
    rw [show (inf.refresh v.cursorList.length).box = some box from hasBox] at scan
    rw [scan, Option.map_some', Option.some.injEq] at measured
    exact congrArg edgeLabel measured
  · cases scan
    rfl

end Inv

/-- In every reachable state, whatever the view, `update_dist` leaves every distance row with
widgets showing the distance between the markers of its references, and `update_edge` leaves
every edge row with widgets showing the edge counts of the channel its selector names, or the
placeholder when a reference is unset or no such channel answers. -/
theorem reachable_rows_show_measurements {limit : Nat} {s : System} (reach : Reachable limit s)
    (v : View) :
    (∀ dock', s.dock.updateDist v = some dock' →
      ∀ row ∈ (dock'.modeRows (modeIndex v.workMode)).distRowList, ∀ label,
        row.startBt ≠ none → row.rLabel = some label →
        (dock'.widgets.get label).text = distLabel v row) ∧
    (∀ dock', s.dock.updateEdge v = some dock' →
      ∀ row ∈ (dock'.modeRows (modeIndex v.workMode)).edgeRowList, ∀ label box,
        row.startBt ≠ none → row.rLabel = some label → row.box = some box →
        (dock'.widgets.get label).text = edgeLabel
          (if row.cursor1 ≠ -1 ∧ row.cursor2 ≠ -1 then channelCounts v
            (qToInt (dock'.widgets.get box).currentText) row.cursor1 row.cursor2 v.signals
          else none)) :=
  ⟨fun _ h => reach.inv.updateDist_labels h, fun _ h => reach.inv.updateEdge_labels h⟩

theorem reachable_rows_show_measurements_bound :
    (∃ dist, System.boundRows.dock.updateDist View.threeChannels = some dist ∧
      ⟨1, 2, 0, none, some 4, some 5, some 6, some 7⟩ ∈ (dist.modeRows 0).distRowList ∧
      (dist.widgets.get 7).text =
        distLabel View.threeChannels ⟨1, 2, 0, none, some 4, some 5, some 6, some 7⟩ ∧
      (dist.widgets.get 7).text = "-4ms/-4000") ∧
    ∃ edge, System.boundRows.dock.updateEdge View.threeChannels = some edge ∧
      ⟨1, 2, 1, some 16, some 12, some 13, some 14, some 15⟩ ∈ (edge.modeRows 0).edgeRowList ∧
      (edge.widgets.get 15).text =
        edgeLabel (channelCounts View.threeChannels 1 1 2 View.threeChannels.signals) ∧
      (edge.widgets.get 15).text = "1/0/1" := by
  have shows := reachable_rows_show_measurements
    (Reachable.after rfl : Reachable 2 System.boundRows) View.threeChannels
  have dist := shows.1 _ rfl ⟨1, 2, 0, none, some 4, some 5, some 6, some 7⟩ (by decide) 7
    (by decide) rfl
  have edge := shows.2 _ rfl ⟨1, 2, 1, some 16, some 12, some 13, some 14, some 15⟩ (by decide) 15 16
    (by decide) rfl rfl
  exact ⟨⟨_, rfl, by decide, dist, dist.trans (by decide)⟩,
    ⟨_, rfl, by decide, edge.trans (by decide), edge.trans (by decide)⟩⟩

end DSView
