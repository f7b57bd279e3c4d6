import Multiplierless.CommandLine.Report
import Multiplierless.Proofs.Decomposition

/-!
The command that multiplies numbers, from its arguments to its report. A number in
decimal is an operand with or without a minus sign, and it is read back as it was
written. Main statement: the command prints one line for each number up to the first
that is too large for the width, and fails there and nowhere else.
-/

namespace Multiplierless.CommandLine

/-- Whether a number lies between the least and the greatest value of a word of the
width. -/
def withinWidth (w : Width) (v : Int) : Bool :=
  -2 ^ (w.bits - 1) ≤ v ∧ v < 2 ^ (w.bits - 1)

/-- A number with the signed residue of its product. -/
def productText (w : Width) (v : Int) : String :=
  Decimal.ofInt v ++ " * -82 = " ++ Decimal.ofInt ((-82 * v).bmod (2 ^ w.bits))

theorem withinWidth_iff_inRange (w : Width) (v : Int) :
    withinWidth w v = true ↔ Word.InRange w.bits v := by
  rw [Word.inRange_iff (w.lt_bits (by decide))]
  exact decide_eq_true_iff

theorem looksNumeric_of_digits {chars : List Char} (hDigits : chars.all Char.isDigit = true)
    (seenPoint seenExponent : Bool) : looksNumeric seenPoint seenExponent chars = true := by
  induction chars with
  | nil => rfl
  | cons c rest ih =>
      rw [List.all_cons, Bool.and_eq_true] at hDigits
      rw [looksNumeric, if_pos hDigits.1]
      exact ih hDigits.2

/-- Where negative numbers are allowed, a number is an operand and no option. -/
theorem readArgument_ofInt {grammar : Grammar} (hNegative : grammar.negativeNumbers = true)
    (v : Int) : readArgument grammar (Decimal.ofInt v) = .item (.operand (Decimal.ofInt v)) := by
  cases v with
  | ofNat n =>
      obtain ⟨c, rest, hList, hDigit, -⟩ := Decimal.exists_digits_ofNat n
      have hDash : c ≠ '-' := Decimal.ne_of_isDigit hDigit (by decide)
      simp [readArgument, Decimal.ofInt, hList, hDash]
  | negSucc n =>
      obtain ⟨c, rest, hList, hDigit, hRest⟩ := Decimal.exists_digits_ofNat (n + 1)
      have hDash : c ≠ '-' := Decimal.ne_of_isDigit hDigit (by decide)
      have hNumber : isNumber (c :: rest) = true := by
        rw [isNumber, hDigit, looksNumeric_of_digits hRest]
        rfl
      simp [readArgument, Decimal.toList_ofInt_negSucc, hList, hDash, hNegative, hNumber]

/-- A list of numbers is a list of operands. -/
theorem items_map_ofInt {grammar : Grammar} (hNegative : grammar.negativeNumbers = true)
    (values : List Int) :
    items grammar (values.map Decimal.ofInt) =
      values.map fun v => .operand (Decimal.ofInt v) := by
  induction values with
  | nil => rfl
  | cons v rest ih => rw [List.map_cons, items, readArgument_ofInt hNegative v, ih, List.map_cons]

theorem number?_text (x : Word 64) : number? (Decimal.ofInt x.value) = some x.value := by
  have hRange : Word.InRange 64 x.value := by
    rw [← Word.value_wrap_eq_self_iff (by decide), Word.wrap_value]
  simp [number?, Decimal.read?_ofInt, hRange]

/-- The numbers are collected in the order in which they are given. -/
theorem addAll_numbers (draft : EvalDraft) (numbers : List (Word 64)) :
    addAll EvalDraft.add draft
        ((numbers.map Word.value).map fun v => .operand (Decimal.ofInt v)) =
      .ok { draft with numbers := draft.numbers ++ numbers.map Word.value } := by
  induction numbers generalizing draft with
  | nil => simp [addAll]
  | cons x rest ih =>
      have hAdd : draft.add (.operand (Decimal.ofInt x.value)) =
          .ok { draft with numbers := draft.numbers ++ [x.value] } := by
        rw [EvalDraft.add, number?_text x]
      rw [List.map_cons, List.map_cons, addAll, hAdd]
      exact (ih _).trans (by simp)

/-- What is left to read once the width is known or left out. -/
theorem finish_numbers (width : Option Width) {numbers : List (Word 64)} (hNumbers : numbers ≠ []) :
    (do
      let draft ← addAll EvalDraft.add { width := width }
        (items EvalDraft.grammar (numbers.map Word.text))
      draft.finish) = .ok (.eval (width.getD .w32) (numbers.map Word.value)) := by
  have hTexts : numbers.map Word.text = (numbers.map Word.value).map Decimal.ofInt :=
    List.map_map.symm
  rw [hTexts, items_map_ofInt rfl, addAll_numbers]
  simp [bind, Except.bind, EvalDraft.finish, hNumbers]

/-- Numbers alone are multiplied at 32 bits. -/
theorem read_eval {numbers : List (Word 64)} (hNumbers : numbers ≠ []) :
    Command.read ("eval" :: numbers.map Word.text) =
      .ok (.eval .w32 (numbers.map Word.value)) :=
  finish_numbers none hNumbers

/-- With the option they are multiplied at the width that it names. -/
theorem read_eval_width {w : Width} (hWidth : w ∈ [Width.w8, .w16, .w32, .w64])
    {numbers : List (Word 64)} (hNumbers : numbers ≠ []) :
    Command.read ("eval" :: "--width" :: Decimal.ofNat w.bits :: numbers.map Word.text) =
      .ok (.eval w (numbers.map Word.value)) := by
  have hName : ∀ w ∈ [Width.w8, .w16, .w32, .w64],
      isValue (Decimal.ofNat w.bits) = true ∧ widthNamed? (Decimal.ofNat w.bits) = some w := by
    decide
  obtain ⟨hValue, hNamed⟩ := hName w hWidth
  have hItems : items EvalDraft.grammar
      ("--width" :: Decimal.ofNat w.bits :: numbers.map Word.text) =
        .option .width (Decimal.ofNat w.bits) ::
          items EvalDraft.grammar (numbers.map Word.text) :=
    if_pos hValue
  have hAdd : EvalDraft.add {} (.option .width (Decimal.ofNat w.bits)) =
      .ok { width := some w } := by
    rw [EvalDraft.add, hNamed]
    rfl
  rw [Command.read, hItems, addAll, hAdd]
  exact finish_numbers (some w) hNumbers

/-- The three ways to the product agree, so a number that fits has its line. -/
theorem productLine_eq (w : Width) (v : Int) :
    productLine w v =
      if withinWidth w v then .ok (productText w v) else .error (.outsideWord v w.bits) := by
  by_cases hRange : Word.InRange w.bits v
  · have hValue : (Word.wrap v : Word w.bits).value = v :=
      (Word.value_wrap_eq_self_iff (w.lt_bits (by decide)) v).mpr hRange
    have hProduct : (Product.direct (Word.wrap v : Word w.bits)).value =
        (-82 * v).bmod (2 ^ w.bits) := by
      rw [Product.direct_eq_wrap, Word.value_wrap, hValue]
    rw [if_pos ((withinWidth_iff_inRange w v).mpr hRange)]
    simp only [productLine, Word.ofInt?, if_pos hRange, Product.eval_neg82_eq_direct,
      Product.byShifts_eq_direct, and_self, if_true, Word.text, hValue, hProduct, productText]
  · rw [if_neg fun hWithin => hRange ((withinWidth_iff_inRange w v).mp hWithin)]
    simp only [productLine, Word.ofInt?, if_neg hRange]

/-- The lines go on up to the first number outside the width. -/
theorem productLines_eq (w : Width) (values : List Int) :
    productLines w values =
      ((values.takeWhile (withinWidth w)).map (productText w),
        (values.dropWhile (withinWidth w)).head?.map fun v => .outsideWord v w.bits) := by
  induction values with
  | nil => rfl
  | cons v rest ih =>
      rw [productLines, productLine_eq]
      cases hWithin : withinWidth w v with
      | true => simp [hWithin, ih]
      | false => simp [hWithin]

theorem text_outsideWord (v : Int) (bits : Nat) :
    (Failure.outsideWord v bits).text =
      Text.unlines ["Error: " ++ Decimal.ofInt v ++ " does not fit in a " ++ Decimal.ofNat bits ++
        "-bit word"] := by
  have hHeadline : (Failure.outsideWord v bits).headline =
      Decimal.ofInt v ++ " does not fit in a " ++ Decimal.ofNat bits ++ "-bit word" := rfl
  have hText : (Failure.outsideWord v bits).text =
      Text.unlines ["Error: " ++ (Failure.outsideWord v bits).headline] := rfl
  rw [hText, hHeadline]
  simp only [String.append_assoc]

/-- Every number that fits has its line with the wrapped product, also when a later one
does not fit. The width may be left out for 32 bits. Neither the comparison of the
three products nor the run of the sequence can be what stops the command. -/
theorem eval_prints_products (tree : FileTree) {w : Width}
    (hWidth : w ∈ [Width.w8, .w16, .w32, .w64]) (numbers : List (Word 64))
    (hNumbers : numbers ≠ []) :
    let values := numbers.map Word.value
    let report := run tree ("eval" :: "--width" :: Decimal.ofNat w.bits :: numbers.map Word.text)
    let printed := Text.unlines ((values.takeWhile (withinWidth w)).map (productText w))
    (values.dropWhile (withinWidth w) = [] → report = ⟨0, printed.toUTF8, .empty, []⟩) ∧
    (∀ v rest, values.dropWhile (withinWidth w) = v :: rest →
      report = ⟨1, printed.toUTF8,
        (Text.unlines ["Error: " ++ Decimal.ofInt v ++ " does not fit in a " ++
          Decimal.ofNat w.bits ++ "-bit word"]).toUTF8, []⟩) ∧
    (∀ v failure, productLine w v = .error failure → failure = .outsideWord v w.bits) ∧
    run tree ("eval" :: numbers.map Word.text) =
      run tree ("eval" :: "--width" :: "32" :: numbers.map Word.text) := by
  intro values report printed
  have hReport : report = evalReport w values :=
    run_of_read (read_eval_width hWidth hNumbers) tree
  rw [evalReport, productLines_eq] at hReport
  refine ⟨?_, ?_, ?_, ?_⟩
  · intro hAll
    rw [hReport, hAll]
    rfl
  · intro v rest hFirst
    rw [hReport, hFirst, ← text_outsideWord]
    rfl
  · intro v failure hFailure
    rw [productLine_eq] at hFailure
    split at hFailure
    · exact absurd hFailure (by simp)
    · exact (Except.error.inj hFailure).symm
  · have hDefault : Command.read ("eval" :: "--width" :: "32" :: numbers.map Word.text) =
        .ok (.eval .w32 values) :=
      read_eval_width (w := .w32) (by simp) hNumbers
    rw [run_of_read (read_eval hNumbers), run_of_read hDefault]

/-- The least value of the width still has its line, and what follows the number that
does not fit is left out. -/
theorem eval_prints_products_w8 :
    run ⟨[], []⟩ ["eval", "--width", "8", "3", "-128", "300", "1"] =
      ⟨1, (Text.unlines ["3 * -82 = 10", "-128 * -82 = 0"]).toUTF8,
        (Text.unlines ["Error: 300 does not fit in a 8-bit word"]).toUTF8, []⟩ := by
  obtain ⟨-, hFails, -, -⟩ := eval_prints_products ⟨[], []⟩ (w := .w8) (by simp)
    [Word.wrap 3, Word.wrap (-128), Word.wrap 300, Word.wrap 1] (by simp)
  exact hFails 300 [1] (by decide)

end Multiplierless.CommandLine
