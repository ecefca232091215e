import Mathlib.Data.Nat.Digits

/-!
# The `QString` operations the measure dock relies on

The dock prints marker numbers, channel ids, sample deltas and edge counts with
`QString::number`, reads marker numbers and channel ids back with `QString::toInt`, and turns
`+` into `-` with `QString::replace` when a distance is negative.  Texts are modelled as Lean
strings; `QString::number` is the decimal numeral of `toString`, and `QString::toInt` is
modelled on the texts the dock parses: numerals it printed itself, or the empty text of a
combo box without entries.  The central fact is the round trip `qToInt (qNumber v) = v`.
-/

namespace DSView

/-- Value of one decimal digit character. -/
def digitValue (c : Char) : Nat := c.toNat - '0'.toNat

/-- Value of a decimal digit string, most significant digit first. -/
def decimalValue (digits : List Char) : Nat :=
  digits.foldl (fun value c => 10 * value + digitValue c) 0

/-- `QString::number`: the decimal numeral, with a leading `-` when negative. -/
def qNumber (value : Int) : String := toString value

/-- `QString::toInt`: the value of an optionally negated decimal numeral, and `0` otherwise. -/
def qToInt (text : String) : Int :=
  match text.data with
  | '-' :: digits =>
      if digits ≠ [] ∧ digits.all Char.isDigit then -(decimalValue digits : Int) else 0
  | digits => if digits ≠ [] ∧ digits.all Char.isDigit then decimalValue digits else 0

/-- `QString::replace(QChar before, QChar after)`: every `before` becomes `after`. -/
def qReplace (before after : Char) (text : String) : String :=
  ⟨text.data.map fun c => if c = before then after else c⟩

/-! ## Decimal numerals -/

theorem decimalValue_append_singleton (digits : List Char) (c : Char) :
    decimalValue (digits ++ [c]) = 10 * decimalValue digits + digitValue c := by
  simp [decimalValue, List.foldl_append]

theorem digitChar_spec {k : Nat} (hk : k < 10) :
    digitValue (Nat.digitChar k) = k ∧ (Nat.digitChar k).isDigit := by
  interval_cases k <;> decide

theorem toDigitsCore_append (fuel n : Nat) (ds : List Char) (hn : n < fuel) :
    Nat.toDigitsCore 10 fuel n ds = Nat.toDigitsCore 10 fuel n [] ++ ds := by
  induction fuel generalizing n ds with
  | zero => omega
  | succ fuel ih =>
    simp only [Nat.toDigitsCore]
    split
    · rfl
    · rw [ih _ _ (by omega), ih (n / 10) [_] (by omega)]
      simp

/-- The numeral core prints a nonempty digit string whose value is the number. -/
theorem toDigitsCore_spec (fuel n : Nat) (hn : n < fuel) :
    decimalValue (Nat.toDigitsCore 10 fuel n []) = n ∧ Nat.toDigitsCore 10 fuel n [] ≠ [] ∧
      ∀ c ∈ Nat.toDigitsCore 10 fuel n [], c.isDigit := by
  induction fuel generalizing n with
  | zero => omega
  | succ fuel ih =>
    have digit := digitChar_spec (Nat.mod_lt n (by omega : 10 > 0))
    simp only [Nat.toDigitsCore]
    split
    · simp [decimalValue, digit.1, digit.2]
      omega
    · rw [toDigitsCore_append _ _ _ (by omega), decimalValue_append_singleton]
      obtain ⟨value, -, digits⟩ := ih (n / 10) (by omega)
      refine ⟨by omega, by simp, ?_⟩
      simpa [or_imp, forall_and, digit.2] using digits

theorem qToInt_numeral {digits : List Char} (nonempty : digits ≠ [])
    (all : ∀ c ∈ digits, c.isDigit) : qToInt ⟨digits⟩ = decimalValue digits := by
  unfold qToInt
  split
  · rename_i rest h
    have minus := all '-' (by rw [show digits = '-' :: rest from h]; simp)
    contradiction
  · exact if_pos ⟨nonempty, List.all_eq_true.mpr all⟩

/-- `QString::toInt` reads back every number `QString::number` prints. -/
@[simp]
theorem qToInt_qNumber (value : Int) : qToInt (qNumber value) = value := by
  cases value with
  | ofNat n =>
    obtain ⟨number, nonempty, all⟩ := toDigitsCore_spec (n + 1) n (by omega)
    exact (qToInt_numeral nonempty all).trans (by simp [number])
  | negSucc n =>
    obtain ⟨number, nonempty, all⟩ := toDigitsCore_spec (n + 2) (n + 1) (by omega)
    show (if _ then _ else _) = _
    rw [if_pos ⟨nonempty, List.all_eq_true.mpr all⟩]
    change -((decimalValue (Nat.toDigitsCore 10 (n + 2) (n + 1) []) : Nat) : Int) = _
    rw [number]
    rfl

/-- A printed number consists of digits and at most a minus sign. -/
theorem qNumber_chars (value : Int) :
    ∀ c ∈ (qNumber value).data, c.isDigit ∨ c = '-' := by
  cases value with
  | ofNat n =>
    intro c hc
    exact .inl ((toDigitsCore_spec (n + 1) n (by omega)).2.2 c hc)
  | negSucc n =>
    intro c hc
    change c ∈ '-' :: Nat.toDigitsCore 10 (n + 2) (n + 1) [] at hc
    rcases List.mem_cons.mp hc with minus | digit
    · exact .inr minus
    · exact .inl ((toDigitsCore_spec (n + 2) (n + 1) (by omega)).2.2 c digit)

theorem plus_not_mem_qNumber (value : Int) : '+' ∉ (qNumber value).data := fun plus => by
  rcases qNumber_chars value '+' plus with digit | minus <;> simp_all [Char.isDigit]

/-! ## Character replacement -/

@[simp]
theorem qReplace_append (before after : Char) (left right : String) :
    qReplace before after (left ++ right) =
      qReplace before after left ++ qReplace before after right := by
  simp [qReplace, String.ext_iff]

theorem qReplace_of_not_mem {before after : Char} {text : String} (absent : before ∉ text.data) :
    qReplace before after text = text := by
  refine String.ext ((List.map_congr_left fun c hc => ?_).trans (List.map_id _))
  exact if_neg fun (same : c = before) => absent (same ▸ hc)

theorem not_mem_qReplace {before after : Char} (differ : before ≠ after) (text : String) :
    before ∉ (qReplace before after text).data := by
  simp only [qReplace, List.mem_map, not_exists, not_and]
  intro c _
  split <;> simp_all [eq_comm]

end DSView
