import DSView.Update

/-!
# The distance text

`update_dist` computes the sample distance of a row as the `uint64_t` difference of the sample
positions of its two markers, stored in an `int64_t`, and shows it after the time text and a `/`;
when the distance is negative every `+` of the text becomes `-`.  Below `2^63` the stored
difference is the exact one: the row with its markers swapped shows the negated number, and a
negative distance shows no `+`.
-/

namespace DSView

/-- The sample position `update_dist` reads for the marker numbered `ref`. -/
def markerSample (v : View) (ref : Int) : BitVec 64 := getCursorSamples v.cursorList (ref - 1)

/-- Below `2^63`, the `uint64_t` difference read as an `int64_t` is the exact difference. -/
theorem toInt_sub_of_lt {x y : BitVec 64} (smallX : x.toNat < 2 ^ 63) (smallY : y.toNat < 2 ^ 63) :
    (x - y).toInt = (x.toNat : Int) - y.toNat := by
  rw [BitVec.toInt_eq_toNat_cond, BitVec.toNat_sub]
  simp only [Nat.reducePow] at *
  split_ifs <;> omega

section Text

variable {v : View} {cursor1 cursor2 : Int}

theorem distText_eq (small1 : (markerSample v cursor1).toNat < 2 ^ 63)
    (small2 : (markerSample v cursor2).toNat < 2 ^ 63) :
    ∃ pre, distText v cursor1 cursor2 = pre ++ "/" ++
      qNumber ((markerSample v cursor1).toNat - (markerSample v cursor2).toNat) := by
  simp only [distText, distCall, Logged.bind_result, Logged.pure_result,
    View.callCursorSamples_result, View.callCmDelta_result]
  rw [show getCursorSamples v.cursorList (cursor1 - 1) - getCursorSamples v.cursorList (cursor2 - 1)
    = markerSample v cursor1 - markerSample v cursor2 from rfl, toInt_sub_of_lt small1 small2]
  split_ifs
  · refine ⟨qReplace '+' '-' (v.getCmDelta v.cursorList (cursor1 - 1) (cursor2 - 1)), ?_⟩
    rw [qReplace_append, qReplace_append, qReplace_of_not_mem (plus_not_mem_qNumber _),
      qReplace_of_not_mem (show '+' ∉ "/".data by decide)]
  · exact ⟨_, rfl⟩

theorem plus_not_mem_distText (small1 : (markerSample v cursor1).toNat < 2 ^ 63)
    (small2 : (markerSample v cursor2).toNat < 2 ^ 63)
    (before : (markerSample v cursor1).toNat < (markerSample v cursor2).toNat) :
    '+' ∉ (distText v cursor1 cursor2).data := by
  simp only [distText, distCall, Logged.bind_result, Logged.pure_result,
    View.callCursorSamples_result, View.callCmDelta_result]
  rw [show getCursorSamples v.cursorList (cursor1 - 1) - getCursorSamples v.cursorList (cursor2 - 1)
    = markerSample v cursor1 - markerSample v cursor2 from rfl, toInt_sub_of_lt small1 small2,
    if_pos (by omega)]
  exact not_mem_qReplace (by decide) _

end Text

/-- For a row bound to two markers whose sample positions are below `2^63`, the label
`update_dist` writes ends with `/` and the exact sample distance, the row with its markers
swapped shows the negated distance, and when the first marker comes first the label has no
`+`. -/
theorem distLabel_exact (v : View) (row : CursorRowInfo) (bound : row.cursor1 ≠ -1 ∧ row.cursor2 ≠ -1)
    (small1 : (markerSample v row.cursor1).toNat < 2 ^ 63)
    (small2 : (markerSample v row.cursor2).toNat < 2 ^ 63) :
    (∃ pre, distLabel v row = pre ++ "/" ++
      qNumber ((markerSample v row.cursor1).toNat - (markerSample v row.cursor2).toNat)) ∧
    (∃ pre, distLabel v { row with cursor1 := row.cursor2, cursor2 := row.cursor1 } = pre ++ "/" ++
      qNumber (-((markerSample v row.cursor1).toNat - (markerSample v row.cursor2).toNat))) ∧
    ((markerSample v row.cursor1).toNat < (markerSample v row.cursor2).toNat →
      '+' ∉ (distLabel v row).data) := by
  have swapped : row.cursor2 ≠ -1 ∧ row.cursor1 ≠ -1 := ⟨bound.2, bound.1⟩
  refine ⟨?_, ?_, fun before => ?_⟩
  · rw [distLabel, if_pos bound]
    exact distText_eq small1 small2
  · rw [distLabel, if_pos swapped, neg_sub]
    exact distText_eq small2 small1
  · rw [distLabel, if_pos bound]
    exact plus_not_mem_distText small1 small2 before

/-- Two markers, at samples 1000 and 5000, and a time text with a `+`. -/
def View.twoMarkers : View :=
  ⟨[⟨0, 1000⟩, ⟨1, 5000⟩], true, fun _ _ _ => "+4ms", fun _ _ => "", [], fun _ _ _ => none, .logic⟩

theorem distLabel_exact_twoMarkers :
    '+' ∉ (distLabel View.twoMarkers { CursorRowInfo.unset with cursor1 := 1, cursor2 := 2 }).data :=
  (distLabel_exact View.twoMarkers { CursorRowInfo.unset with cursor1 := 1, cursor2 := 2 }
    (by decide) (by decide) (by decide)).2.2 (by decide)

end DSView
