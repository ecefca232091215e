import DSView.Markers

/-!
# The channel of an edge row

An edge row keeps the position of the entry chosen in its channel selector, not a channel id:
`on_edge_channel_selected` stores `box->currentIndex()` in `channelIndex`.  `update_edge` measures
on the enabled logic channel whose id is the selector's current text, and `build_edge_pannel`
refills every selector with the ids of the channels enabled at that moment and selects the entry
at position `channelIndex` again when the selector has that many entries; otherwise the first entry
stays current.  So after a rebuild a row measures the channel now at its stored position, or the
first enabled one when the position is gone: the chosen channel as long as the number of enabled
channels listed before it is unchanged, and possibly another one, still enabled or not, otherwise.
-/

namespace DSView

/-- The edge counts measured on channel `id`: those of the first enabled logic channel with that
id whose `edges` call succeeds. -/
def channelCounts (v : View) (id cursor1 cursor2 : Int) (signals : List Signal) :
    Option (BitVec 64 × BitVec 64) :=
  (signals.filter fun s => s.signalType = .logic ∧ s.enabled = true ∧ (s.index : Int) = id).findSome?
    fun s => (edgesCall v s cursor1 cursor2).result

/-- The signal loop of `update_edge` measures on the channel whose id is the selector's current
text. -/
theorem scanSignals_counts (v : View) (store : Widgets) (box : Nat) (cursor1 cursor2 : Int) :
    ∀ signals, (scanSignals v store (some box) cursor1 cursor2 signals).map Prod.fst =
      some (channelCounts v (qToInt (store.get box).currentText) cursor1 cursor2 signals)
  | [] => rfl
  | s :: signals => by
    have rest := scanSignals_counts v store box cursor1 cursor2 signals
    unfold channelCounts at rest ⊢
    by_cases listed : s.signalType = .logic ∧ s.enabled = true ∧
        (s.index : Int) = qToInt (store.get box).currentText
    · rw [List.filter_cons_of_pos (by simpa using listed), List.findSome?_cons]
      simp only [scanSignals, listed, and_self, if_true, Option.bind_eq_bind, Option.some_bind]
      cases found : (edgesCall v s cursor1 cursor2).result with
      | some counts => rfl
      | none =>
        cases scan : scanSignals v store (some box) cursor1 cursor2 signals <;> simp_all
    · rw [List.filter_cons_of_neg (by simpa using listed)]
      simp only [scanSignals]
      split_ifs with logic
      · simp only [Option.bind_eq_bind, Option.some_bind, if_neg fun same => listed ⟨logic.1, logic.2, same⟩]
        exact rest
      · exact rest

end DSView
