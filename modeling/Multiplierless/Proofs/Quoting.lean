import Mathlib.Tactic.SplitIfs
import Multiplierless.Source.Symbol

/-!
What stands between quotes. A character is written as itself, as a backslash and a
letter, or as its code point. Main statement: different characters are written
differently, so a reason that quotes a character says which one it is about.
-/

namespace Multiplierless

namespace Text

theorem digitChar_injective :
    ∀ a < 16, ∀ b < 16, Nat.digitChar a = Nat.digitChar b → a = b := by
  decide

/-- Hexadecimal digits spell one number. -/
theorem toDigits_injective {m n : Nat} (hDigits : Nat.toDigits 16 m = Nat.toDigits 16 n) :
    m = n := by
  have hOne : ∀ {k l : Nat}, k < 16 → 16 ≤ l → Nat.toDigits 16 k ≠ Nat.toDigits 16 l := by
    intro k l hk hl hSame
    rw [Nat.toDigits_of_lt_base hk, Nat.toDigits_of_base_le (by decide) hl] at hSame
    have hPos := @Nat.length_toDigits_pos 16 (l / 16)
    have hLength := congrArg List.length hSame
    simp only [List.length_append, List.length_singleton] at hLength
    omega
  induction m using Nat.strongRecOn generalizing n with
  | ind m ih =>
      by_cases hm : m < 16
      · by_cases hn : n < 16
        · rw [Nat.toDigits_of_lt_base hm, Nat.toDigits_of_lt_base hn] at hDigits
          exact digitChar_injective m hm n hn (List.singleton_inj.mp hDigits)
        · exact absurd hDigits (hOne hm (by omega))
      · by_cases hn : n < 16
        · exact absurd hDigits.symm (hOne hn (by omega))
        · rw [Nat.toDigits_of_base_le (n := m) (by decide) (by omega),
            Nat.toDigits_of_base_le (n := n) (by decide) (by omega)] at hDigits
          obtain ⟨hInit, hLast⟩ := List.append_inj' hDigits rfl
          have hQuotient : m / 16 = n / 16 := ih (m / 16) (by omega) hInit
          have hRemainder : m % 16 = n % 16 :=
            digitChar_injective _ (by omega) _ (by omega) (List.singleton_inj.mp hLast)
          omega

theorem codePoint_injective {c d : Char} (hCode : codePoint c = codePoint d) : c = d := by
  have hDigits : Nat.toDigits 16 c.toNat = Nat.toDigits 16 d.toNat := by
    simpa [codePoint] using hCode
  exact Char.toNat_inj.mp (toDigits_injective hDigits)

/-- The character that a backslash and this one stand for. -/
def unescaped (mark : Char) : Char :=
  if mark = '0' then '\x00'
  else if mark = 't' then '\t'
  else if mark = 'r' then '\r'
  else if mark = 'n' then '\n'
  else mark

/-- The three ways to write a character between single quotes. -/
theorem escape_cases (c : Char) :
    escape '\x27' c = [c] ∨
      (∃ mark, escape '\x27' c = ['\\', mark] ∧ unescaped mark = c) ∨
      escape '\x27' c = codePoint c := by
  unfold escape
  split_ifs with hNul hTab hReturn hNewline hMark hVisible
  · exact .inr (.inl ⟨_, rfl, by rw [hNul]; decide⟩)
  · exact .inr (.inl ⟨_, rfl, by rw [hTab]; decide⟩)
  · exact .inr (.inl ⟨_, rfl, by rw [hReturn]; decide⟩)
  · exact .inr (.inl ⟨_, rfl, by rw [hNewline]; decide⟩)
  · refine .inr (.inl ⟨_, rfl, ?_⟩)
    rcases hMark with rfl | rfl <;> decide
  · exact .inl rfl
  · exact .inr (.inr rfl)

/-- The ways differ in length, and each of them can be undone. -/
theorem escape_injective {c d : Char} (hEscape : escape '\x27' c = escape '\x27' d) : c = d := by
  rcases escape_cases c with hc | ⟨first, hc, hFirst⟩ | hc <;>
    rcases escape_cases d with hd | ⟨second, hd, hSecond⟩ | hd <;>
    rw [hc, hd] at hEscape
  case inl.inl => exact List.singleton_inj.mp hEscape
  case inr.inl.inr.inl =>
    have hMark : first = second := by simpa using hEscape
    rw [← hFirst, ← hSecond, hMark]
  case inr.inr.inr.inr => exact codePoint_injective hEscape
  -- One character, two, and at least four.
  all_goals exact absurd hEscape (by simp [codePoint])

theorem quotedChar_injective {c d : Char} (hText : quotedChar c = quotedChar d) : c = d := by
  have hList := congrArg String.toList hText
  apply escape_injective
  simpa [quotedChar] using hList

end Text

namespace SymbolFlaw

/-- Three characters are enough to tell the kinds of flaws apart. -/
def heading : SymbolFlaw → List Char
  | empty => ['e', 'm', 'p']
  | badStart _ => ['c', 'a', 'n']
  | badCharacter _ => ['c', 'o', 'n']
  | taken => ['c', 'o', 'l']

theorem take_reason (flaw : SymbolFlaw) : flaw.reason.toList.take 3 = flaw.heading := by
  cases flaw with
  | empty => decide
  | badStart c =>
      have hList : (badStart c).reason.toList =
          "cannot start with ".toList ++ (Text.quotedChar c).toList := String.toList_append
      rw [hList, List.take_append_of_le_length (by decide)]
      rfl
  | badCharacter c =>
      have hList : (badCharacter c).reason.toList =
          "contains ".toList ++ (Text.quotedChar c).toList := String.toList_append
      rw [hList, List.take_append_of_le_length (by decide)]
      rfl
  | taken => decide

/-- The reason tells the kind of flaw and the character it is about, if there is one. -/
theorem reason_injective : Function.Injective reason := by
  intro first second hReason
  have hHeading : first.heading = second.heading := by
    rw [← take_reason, ← take_reason, hReason]
  cases first <;> cases second
  case empty.empty => rfl
  case badStart.badStart c d =>
    rw [Text.quotedChar_injective (String.append_right_inj _ |>.mp hReason)]
  case badCharacter.badCharacter c d =>
    rw [Text.quotedChar_injective (String.append_right_inj _ |>.mp hReason)]
  case taken.taken => rfl
  all_goals exact absurd hHeading (by simp [heading])

end SymbolFlaw

end Multiplierless
