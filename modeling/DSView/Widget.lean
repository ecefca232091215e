import DSView.QString
import Mathlib.Logic.Function.Basic

/-!
# Qt widgets as a store of addressed objects

The dock keeps raw pointers to the buttons, labels and combo boxes it creates and finds the
row behind a click by comparing pointers.  Widgets are modelled as a store from addresses to
widget states.  `new` hands out the next address: an address is never handed out twice, which
is what C++ guarantees for objects alive at the same time, and the dock only ever keeps
pointers to live widgets.

The passes that refresh the rows only call `setText`, and never read a text back.  Such a pass
is modelled as the list of its `setText` calls, applied in order; when no address occurs twice
in the list, the final text of every address it writes is the text written there.
-/

namespace DSView

/-- A widget as far as the dock reads it: the text of a label or button, and the entries and
current index of a combo box. -/
structure Widget where
  /-- `QLabel::text` or `QAbstractButton::text`. -/
  text : String
  /-- The entries of a `QComboBox`. -/
  items : List String
  /-- `QComboBox::currentIndex`, `-1` when no entry is current. -/
  currentIndex : Int
deriving DecidableEq, Repr

namespace Widget

/-- A label or button created with a text. -/
def ofText (text : String) : Widget := ⟨text, [], -1⟩

/-- `QComboBox::clear` followed by `addItem` of each entry: the first entry becomes current. -/
def ofItems (items : List String) : Widget := ⟨"", items, if items = [] then -1 else 0⟩

/-- `QComboBox::currentText`: the current entry, or the empty text when there is none. -/
def currentText (widget : Widget) : String :=
  if 0 ≤ widget.currentIndex then (widget.items.get? widget.currentIndex.toNat).getD "" else ""

/-- `QComboBox::setCurrentIndex`: an index outside the entries leaves no entry current. -/
def setCurrentIndex (widget : Widget) (index : Int) : Widget :=
  { widget with
    currentIndex := if 0 ≤ index ∧ index < widget.items.length then index else -1 }

end Widget

/-- The widgets the dock has created, by address, and the next address `new` hands out. -/
structure Widgets where
  /-- The widget at each address. -/
  get : Nat → Widget
  /-- The next address `new` hands out. -/
  next : Nat

namespace Widgets

/-- `new`: the fresh address and the store holding the widget there. -/
def create (store : Widgets) (widget : Widget) : Nat × Widgets :=
  (store.next, ⟨Function.update store.get store.next widget, store.next + 1⟩)

/-- `setText` on the widget at an address. -/
def setText (store : Widgets) (handle : Nat) (text : String) : Widgets :=
  { store with get := Function.update store.get handle { store.get handle with text := text } }

/-- Replace the widget at an address (a combo box whose current index changed). -/
def modify (store : Widgets) (handle : Nat) (f : Widget → Widget) : Widgets :=
  { store with get := Function.update store.get handle (f (store.get handle)) }

/-- Apply the `setText` calls of a pass, in order. -/
def apply (store : Widgets) : List (Nat × String) → Widgets
  | [] => store
  | (handle, text) :: rest => (store.setText handle text).apply rest

@[simp]
theorem create_fst (store : Widgets) (widget : Widget) : (store.create widget).1 = store.next :=
  rfl

@[simp]
theorem create_next (store : Widgets) (widget : Widget) :
    (store.create widget).2.next = store.next + 1 := rfl

theorem create_get_of_lt {store : Widgets} {handle : Nat} (below : handle < store.next)
    (widget : Widget) : (store.create widget).2.get handle = store.get handle :=
  Function.update_noteq (Nat.ne_of_lt below) _ _

theorem setText_get_of_ne {store : Widgets} {handle other : Nat} (differ : other ≠ handle)
    (text : String) : (store.setText handle text).get other = store.get other :=
  Function.update_noteq differ _ _

theorem modify_get_of_ne {store : Widgets} {handle other : Nat} (differ : other ≠ handle)
    (f : Widget → Widget) : (store.modify handle f).get other = store.get other :=
  Function.update_noteq differ _ _

theorem create_get (store : Widgets) (widget : Widget) (handle : Nat) :
    (store.create widget).2.get handle = if handle = store.next then widget else store.get handle :=
  Function.update_apply _ _ _ _

theorem modify_get_self (store : Widgets) (handle : Nat) (f : Widget → Widget) :
    (store.modify handle f).get handle = f (store.get handle) :=
  Function.update_same _ _ _

/-- `setText` leaves every combo box as it was. -/
@[simp]
theorem setText_items (store : Widgets) (handle : Nat) (text : String) (other : Nat) :
    ((store.setText handle text).get other).items = (store.get other).items := by
  by_cases same : other = handle
  · subst same; simp [setText]
  · rw [setText_get_of_ne same]

@[simp]
theorem setText_currentIndex (store : Widgets) (handle : Nat) (text : String) (other : Nat) :
    ((store.setText handle text).get other).currentIndex = (store.get other).currentIndex := by
  by_cases same : other = handle
  · subst same; simp [setText]
  · rw [setText_get_of_ne same]

theorem setText_text (store : Widgets) (handle : Nat) (text : String) (other : Nat) :
    ((store.setText handle text).get other).text =
      if other = handle then text else (store.get other).text := by
  by_cases same : other = handle
  · subst same
    simp [setText]
  · rw [setText_get_of_ne same, if_neg same]

/-- Choosing an entry of a combo box changes no text. -/
theorem modify_setCurrentIndex_text (store : Widgets) (handle : Nat) (index : Int) (other : Nat) :
    ((store.modify handle (·.setCurrentIndex index)).get other).text = (store.get other).text := by
  by_cases same : other = handle
  · subst same
    rw [modify_get_self]
    rfl
  · rw [modify_get_of_ne same]

@[simp]
theorem setText_next (store : Widgets) (handle : Nat) (text : String) :
    (store.setText handle text).next = store.next := rfl

@[simp]
theorem modify_next (store : Widgets) (handle : Nat) (f : Widget → Widget) :
    (store.modify handle f).next = store.next := rfl

theorem setText_self {store : Widgets} {handle : Nat} {text : String}
    (same : (store.get handle).text = text) : store.setText handle text = store := by
  cases store
  simp only [setText, ← same, Function.update_eq_self]

@[simp]
theorem apply_append (store : Widgets) (first second : List (Nat × String)) :
    store.apply (first ++ second) = (store.apply first).apply second := by
  induction first generalizing store with
  | nil => rfl
  | cons write first ih => exact ih _

@[simp]
theorem apply_next (store : Widgets) (writes : List (Nat × String)) :
    (store.apply writes).next = store.next := by
  induction writes generalizing store with
  | nil => rfl
  | cons write writes ih => exact (ih _).trans rfl

theorem apply_get_of_not_mem {store : Widgets} {handle : Nat} :
    ∀ {writes : List (Nat × String)}, handle ∉ writes.map Prod.fst →
      (store.apply writes).get handle = store.get handle
  | [], _ => rfl
  | (written, text) :: writes, absent => by
    simp only [List.map_cons, List.mem_cons, not_or] at absent
    rw [apply, apply_get_of_not_mem absent.2]
    exact Function.update_noteq absent.1 _ _

/-- A pass of `setText` calls leaves every combo box as it was. -/
@[simp]
theorem apply_items (store : Widgets) (writes : List (Nat × String)) (handle : Nat) :
    ((store.apply writes).get handle).items = (store.get handle).items ∧
      ((store.apply writes).get handle).currentIndex = (store.get handle).currentIndex := by
  induction writes generalizing store with
  | nil => exact ⟨rfl, rfl⟩
  | cons write writes ih =>
    rw [apply, (ih _).1, (ih _).2]
    by_cases same : handle = write.1
    · subst same; simp [setText]
    · simp [setText, Function.update_noteq same]

@[simp]
theorem apply_currentText (store : Widgets) (writes : List (Nat × String)) (box : Nat) :
    ((store.apply writes).get box).currentText = (store.get box).currentText := by
  simp only [Widget.currentText, (apply_items store writes box).1, (apply_items store writes box).2]

/-- Without repeated addresses, the last text of a written address is the one written. -/
theorem apply_text_of_mem {store : Widgets} {handle : Nat} {text : String} :
    ∀ {writes : List (Nat × String)}, (writes.map Prod.fst).Nodup → (handle, text) ∈ writes →
      ((store.apply writes).get handle).text = text
  | [], _, written => absurd written (List.not_mem_nil _)
  | (first, firstText) :: writes, distinct, written => by
    rw [List.map_cons, List.nodup_cons] at distinct
    rcases List.mem_cons.mp written with same | later
    · cases same
      rw [apply, apply_get_of_not_mem distinct.1]
      simp [setText]
    · rw [apply]
      exact apply_text_of_mem distinct.2 later

/-- Repeating calls a pass already made changes nothing, when it writes no address twice. -/
theorem apply_apply_of_subset {store : Widgets} {writes : List (Nat × String)}
    (distinct : (writes.map Prod.fst).Nodup) :
    ∀ {again : List (Nat × String)}, (∀ write ∈ again, write ∈ writes) →
      (store.apply writes).apply again = store.apply writes
  | [], _ => rfl
  | (handle, text) :: again, repeated => by
    rw [apply, setText_self (apply_text_of_mem distinct (repeated _ (List.mem_cons_self _ _)))]
    exact apply_apply_of_subset distinct fun write mem => repeated write (List.mem_cons_of_mem _ mem)

end Widgets

end DSView
