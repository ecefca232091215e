import Mathlib.Logic.Relation
import Mathlib.Logic.Function.Basic

/-!
# The measurements, without widgets

What the measure dock is for: in each of the three acquisition modes it keeps a list of distance
measurements and a list of edge measurements.  A measurement names a start and an end marker by
number, counting from `1` in display order, or `-1` while unset, and an edge measurement also the
position of the channel it counts edges on.  The user adds a measurement while fewer than the
cap exist, removes one, binds one of its ends to a marker on screen or picks its channel, and
the dock clears the references the marker list has outgrown.

This file states that as a step relation on the measurement lists, with no widget in it, and
proves its invariant: each list holds at most the cap of measurements, and every reference is
unset or a marker number.  `DSView.Refinement` shows that every event of the dock changes the
data of its rows by such steps.
-/

namespace DSView.Abstract

open Relation

/-- A measurement: the start marker, the end marker and the channel position. -/
abbrev Measurement := Int × Int × Int

/-- The distance and the edge measurements of each of the three modes. -/
abbrev Rows := Fin 3 → List Measurement × List Measurement

/-- A marker reference once the marker list holds `count` markers: cleared above the count. -/
def clearAbove (count : Nat) (ref : Int) : Int := if (count : Int) < ref then -1 else ref

/-- A measurement whose references above `count` are cleared. -/
def clear (count : Nat) (d : Measurement) : Measurement :=
  (clearAbove count d.1, clearAbove count d.2.1, d.2.2)

/-- What may happen to one list of measurements, at most `limit` of them, while `count` markers
are on screen. -/
inductive ListStep (limit count : Nat) : List Measurement → List Measurement → Prop
  /-- A new unset measurement at the end, while there is room. -/
  | add {l : List Measurement} : l.length < limit → ListStep limit count l (l ++ [(-1, -1, 0)])
  /-- One measurement is removed; the others keep their order. -/
  | erase (before after : List Measurement) (d : Measurement) :
      ListStep limit count (before ++ d :: after) (before ++ after)
  /-- The start of one measurement is bound to a marker on screen. -/
  | bindStart (before after : List Measurement) (d : Measurement) {n : Int} :
      1 ≤ n → n ≤ count →
      ListStep limit count (before ++ d :: after) (before ++ (n, d.2.1, d.2.2) :: after)
  /-- The end of one measurement is bound to a marker on screen. -/
  | bindEnd (before after : List Measurement) (d : Measurement) {n : Int} :
      1 ≤ n → n ≤ count →
      ListStep limit count (before ++ d :: after) (before ++ (d.1, n, d.2.2) :: after)
  /-- One measurement counts edges on the channel at another position. -/
  | channel (before after : List Measurement) (d : Measurement) (position : Nat) :
      ListStep limit count (before ++ d :: after) (before ++ (d.1, d.2.1, (position : Int)) :: after)
  /-- The references above the marker count are cleared in the first `k` measurements. -/
  | clear (l : List Measurement) (k : Nat) :
      ListStep limit count l ((l.take k).map (clear count) ++ l.drop k)

/-- One step of the lists of the mode `slot`. -/
inductive ModelStep (limit : Nat) (slot : Fin 3) (count : Nat) : Rows → Rows → Prop
  | dist {m : Rows} {dist : List Measurement} : ListStep limit count (m slot).1 dist →
      ModelStep limit slot count m (Function.update m slot (dist, (m slot).2))
  | edge {m : Rows} {edge : List Measurement} : ListStep limit count (m slot).2 edge →
      ModelStep limit slot count m (Function.update m slot ((m slot).1, edge))

/-- No measurement in any mode. -/
def empty : Rows := fun _ => ([], [])

/-- The rows reachable from no measurement, in any mode and with any number of markers at each
step. -/
inductive Reachable (limit : Nat) : Rows → Prop
  | empty : Reachable limit empty
  | step {m m' : Rows} (slot : Fin 3) (count : Nat) :
      Reachable limit m → ModelStep limit slot count m m' → Reachable limit m'

theorem Reachable.steps {limit : Nat} {slot : Fin 3} {count : Nat} {m m' : Rows}
    (reach : Reachable limit m) (steps : ReflTransGen (ModelStep limit slot count) m m') :
    Reachable limit m' := by
  induction steps with
  | refl => exact reach
  | tail _ step ih => exact .step slot count ih step

/-! ## The invariant -/

/-- A reference is unset or a marker number. -/
def Named (ref : Int) : Prop := ref = -1 ∨ 1 ≤ ref

theorem named_clearAbove {ref : Int} (named : Named ref) (count : Nat) :
    Named (clearAbove count ref) := by
  unfold clearAbove
  split_ifs
  · exact .inl rfl
  · exact named

/-- A list of measurements within the cap whose references are unset or marker numbers. -/
structure ListOk (limit : Nat) (l : List Measurement) : Prop where
  length_le : l.length ≤ limit
  named : ∀ d ∈ l, Named d.1 ∧ Named d.2.1

/-- Every list of every mode is `ListOk`. -/
def RowsOk (limit : Nat) (m : Rows) : Prop := ∀ slot, ListOk limit (m slot).1 ∧ ListOk limit (m slot).2

namespace ListOk

variable {limit : Nat} {before after : List Measurement} {d : Measurement}

/-- Replacing one measurement by one with named references. -/
theorem replace (ok : ListOk limit (before ++ d :: after)) {x : Measurement}
    (named : Named x.1 ∧ Named x.2.1) : ListOk limit (before ++ x :: after) where
  length_le := by simpa using ok.length_le
  named y mem := by
    rcases List.mem_append.mp mem with early | later
    · exact ok.named y (List.mem_append_left _ early)
    · rcases List.mem_cons.mp later with rfl | later
      · exact named
      · exact ok.named y (List.mem_append_right _ (List.mem_cons_of_mem _ later))

theorem step {count : Nat} {l l' : List Measurement} (ok : ListOk limit l)
    (step : ListStep limit count l l') : ListOk limit l' := by
  cases step with
  | add room =>
    refine ⟨by simp only [List.length_append, List.length_singleton]; omega, fun y mem => ?_⟩
    rcases List.mem_append.mp mem with old | new
    · exact ok.named y old
    · rw [List.mem_singleton.mp new]
      exact ⟨.inl rfl, .inl rfl⟩
  | erase before after d =>
    refine ⟨by simpa using Nat.le_of_succ_le (by simpa using ok.length_le), fun y mem => ?_⟩
    rcases List.mem_append.mp mem with early | later
    · exact ok.named y (List.mem_append_left _ early)
    · exact ok.named y (List.mem_append_right _ (List.mem_cons_of_mem _ later))
  | bindStart before after d first _ =>
    have named := ok.named d (by simp)
    exact ok.replace ⟨.inr first, named.2⟩
  | bindEnd before after d first _ =>
    have named := ok.named d (by simp)
    exact ok.replace ⟨named.1, .inr first⟩
  | channel before after d position => exact ok.replace (ok.named d (by simp))
  | clear l k =>
    have fits := ok.length_le
    refine ⟨by simp only [List.length_append, List.length_map, List.length_take, List.length_drop]; omega,
      fun y mem => ?_⟩
    rcases List.mem_append.mp mem with cleared | kept
    · obtain ⟨x, taken, rfl⟩ := List.mem_map.mp cleared
      have named := ok.named x (List.mem_of_mem_take taken)
      exact ⟨named_clearAbove named.1 count, named_clearAbove named.2 count⟩
    · exact ok.named y (List.mem_of_mem_drop kept)

end ListOk

theorem RowsOk.step {limit count : Nat} {slot : Fin 3} {m m' : Rows} (ok : RowsOk limit m)
    (step : ModelStep limit slot count m m') : RowsOk limit m' := fun other => by
  by_cases same : other = slot
  · subst same
    cases step with
    | dist step => simpa using ⟨(ok other).1.step step, (ok other).2⟩
    | edge step => simpa using ⟨(ok other).1, (ok other).2.step step⟩
  · cases step <;> simpa [Function.update_noteq same] using ok other

/-- Every reachable list is within the cap and holds only unset references and marker numbers. -/
theorem Reachable.rowsOk {limit : Nat} {m : Rows} (reach : Reachable limit m) : RowsOk limit m := by
  induction reach with
  | empty => exact fun _ => ⟨⟨Nat.zero_le _, nofun⟩, ⟨Nat.zero_le _, nofun⟩⟩
  | step _ _ _ step ih => exact ih.step step

end DSView.Abstract
