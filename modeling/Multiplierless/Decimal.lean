/-!
Decimal numbers as text. Writing gives the shortest digits with a minus sign in
front of a negative number; reading also takes a plus sign and leading zeros.
-/

namespace Multiplierless.Decimal

def ofNat (n : Nat) : String :=
  String.ofList (Nat.toDigits 10 n)

def ofInt : Int → String
  | .ofNat n => ofNat n
  | .negSucc n => "-" ++ ofNat (n + 1)

/-- Reads one or more ASCII digits. No sign, separator or blank is taken. -/
def digits? (chars : List Char) : Option Nat :=
  if chars ≠ [] ∧ chars.all Char.isDigit then
    some (Nat.ofDigitChars 10 chars 0)
  else
    none

/-- Reads a number without a minus sign: at most a plus and then digits. -/
def unsigned? : List Char → Option Nat
  | '+' :: chars => digits? chars
  | chars => digits? chars

/-- Reads an integer of any size: at most one sign and then digits. -/
def read? (text : String) : Option Int :=
  match text.toList with
  | '-' :: chars => (digits? chars).map fun n => -(n : Int)
  | chars => (unsigned? chars).map fun n => (n : Int)

theorem isDigit_toDigits (n : Nat) : (Nat.toDigits 10 n).all Char.isDigit = true := by
  rw [List.all_eq_true]
  intro c hc
  exact Nat.isDigit_of_mem_toDigits (by decide) (by decide) hc

theorem digits?_toDigits (n : Nat) : digits? (Nat.toDigits 10 n) = some n := by
  rw [digits?, if_pos ⟨Nat.toDigits_ne_nil, isDigit_toDigits n⟩,
    Nat.ofDigitChars_toDigits (by decide) (by decide)]

theorem toList_ofNat (n : Nat) : (ofNat n).toList = Nat.toDigits 10 n :=
  String.toList_ofList

theorem digits?_ofNat (n : Nat) : digits? (ofNat n).toList = some n := by
  rw [toList_ofNat, digits?_toDigits]

/-- The text of a number starts with a digit and goes on with digits. -/
theorem exists_digits_ofNat (n : Nat) :
    ∃ c rest, (ofNat n).toList = c :: rest ∧ c.isDigit = true ∧ rest.all Char.isDigit = true := by
  obtain ⟨c, rest, hList⟩ := List.exists_cons_of_ne_nil (Nat.toDigits_ne_nil (n := n))
  have hDigits := isDigit_toDigits n
  rw [hList, List.all_cons, Bool.and_eq_true] at hDigits
  exact ⟨c, rest, (toList_ofNat n).trans hList, hDigits⟩

theorem ne_of_isDigit {c d : Char} (hDigit : c.isDigit = true) (hOther : d.isDigit = false) :
    c ≠ d := by
  rintro rfl
  exact absurd (hDigit.symm.trans hOther) (by decide)

theorem toList_ofInt_negSucc (n : Nat) :
    (ofInt (.negSucc n)).toList = '-' :: (ofNat (n + 1)).toList := by
  simp [ofInt]

/-- Reading gives back the number that was written. -/
theorem read?_ofInt (v : Int) : read? (ofInt v) = some v := by
  cases v with
  | ofNat n =>
      obtain ⟨c, rest, hList, hDigit, -⟩ := exists_digits_ofNat n
      have hDigits := digits?_ofNat n
      rw [hList] at hDigits
      simp [read?, ofInt, hList, unsigned?, hDigits, ne_of_isDigit hDigit (d := '-') (by decide),
        ne_of_isDigit hDigit (d := '+') (by decide)]
  | negSucc n =>
      rw [read?, toList_ofInt_negSucc]
      simp only [digits?_ofNat]
      rfl

end Multiplierless.Decimal
