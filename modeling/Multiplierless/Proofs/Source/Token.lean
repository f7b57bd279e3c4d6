import Multiplierless.Source.Symbol

/-!
Source text as tokens. A word is a longest run of letters, digits and underscores,
blanks separate and are dropped, and every other character is a mark of its own. A
tab is a mark too, so indentation by tabs can be told from none. Lines are cut first;
a token never goes across a line.
-/

namespace Multiplierless.Source

open Multiplierless.Symbol

inductive Token
  | word (text : String)
  | mark (c : Char)
  deriving DecidableEq

/-- One or more letters, digits and underscores, with no digit in front. -/
def isName (text : String) : Bool :=
  match text.toList with
  | [] => false
  | c :: rest => startsName c && rest.all continuesName

namespace Token

/-- The word that has been collected, if there is one. -/
def flush : List Char → List Token
  | [] => []
  | c :: rest => [.word (String.ofList (c :: rest))]

/-- The token of a character that no word has. A blank has none. -/
def separator (c : Char) : List Token :=
  if c = ' ' then [] else [.mark c]

/-- Reads tokens with the beginning of a word already collected. -/
def lexFrom (pending : List Char) : List Char → List Token
  | [] => flush pending
  | c :: rest =>
      if continuesName c then lexFrom (pending ++ [c]) rest
      else flush pending ++ separator c ++ lexFrom [] rest

def lex (text : String) : List Token :=
  lexFrom [] text.toList

/-- The lines of a text as tokens. After the last newline there is one more line. -/
def lines (text : String) : List (List Token) :=
  (text.toList.splitOn '\n').map fun line => lex (String.ofList line)

/-- One or more characters that can stand in a name, digits in front included. -/
def IsWord (text : String) : Prop :=
  text.toList ≠ [] ∧ ∀ c ∈ text.toList, continuesName c = true

/-- The text begins with a character that no word has. -/
def startsApart (text : String) : Bool :=
  text.toList.head?.any fun c => !continuesName c

/-- The text ends with a character that no word has. -/
def endsApart (text : String) : Bool :=
  text.toList.getLast?.any fun c => !continuesName c

@[simp] theorem flush_nil : flush [] = [] := rfl

/-- The characters of a word are held back until the word ends. -/
theorem lexFrom_of_word (pending word rest : List Char)
    (hWord : ∀ c ∈ word, continuesName c = true) :
    lexFrom pending (word ++ rest) = lexFrom (pending ++ word) rest := by
  induction word generalizing pending with
  | nil => simp
  | cons c word ih =>
      have hRest := ih (pending ++ [c]) fun d hd => hWord d (List.mem_cons_of_mem c hd)
      rw [List.cons_append, lexFrom, if_pos (hWord c (by simp)), hRest]
      simp

/-- No word goes on into a character that no word has. -/
theorem lexFrom_append_cons (pending first rest : List Char) {c : Char}
    (hApart : continuesName c = false) :
    lexFrom pending (first ++ c :: rest) = lexFrom pending first ++ lexFrom [] (c :: rest) := by
  induction first generalizing pending with
  | nil => simp [lexFrom, hApart]
  | cons d first ih =>
      rw [List.cons_append, lexFrom, lexFrom]
      split
      · exact ih (pending ++ [d])
      · rw [ih [], List.append_assoc (flush pending ++ separator d)]

theorem lexFrom_cons_apart (rest : List Char) {c : Char} (hApart : continuesName c = false) :
    lexFrom [] (c :: rest) = lexFrom [] [c] ++ lexFrom [] rest := by
  simp [lexFrom, hApart]

/-- A text that starts with a separator leaves the tokens before it alone. -/
theorem lex_append_of_startsApart (first : String) {second : String}
    (hSecond : startsApart second = true) : lex (first ++ second) = lex first ++ lex second := by
  obtain ⟨c, hHead, hApart⟩ := (Option.any_eq_true _ _).mp hSecond
  obtain ⟨rest, hList⟩ := List.head?_eq_some_iff.mp hHead
  rw [lex, String.toList_append, hList, lex, lex, hList]
  exact lexFrom_append_cons [] first.toList rest (by simpa using hApart)

theorem lex_append_of_endsApart {first : String} (second : String)
    (hFirst : endsApart first = true) : lex (first ++ second) = lex first ++ lex second := by
  obtain ⟨c, hLast, hApart⟩ := (Option.any_eq_true _ _).mp hFirst
  have hc : continuesName c = false := by simpa using hApart
  obtain ⟨front, hList⟩ := List.getLast?_eq_some_iff.mp hLast
  rw [lex, String.toList_append, hList, lex, lex, hList, List.append_assoc, List.singleton_append,
    lexFrom_append_cons [] front second.toList hc, lexFrom_cons_apart second.toList hc,
    lexFrom_append_cons [] front [] hc, List.append_assoc]

/-- A text that is apart at both ends keeps its neighbours apart. -/
theorem lex_between (first : String) {middle : String} (last : String)
    (hStarts : startsApart middle = true) (hEnds : endsApart middle = true) :
    lex (first ++ middle ++ last) = lex first ++ lex middle ++ lex last := by
  have hBoth : endsApart (first ++ middle) = true := by
    obtain ⟨c, hLast, hApart⟩ := (Option.any_eq_true _ _).mp hEnds
    rw [endsApart, String.toList_append, List.getLast?_append, hLast]
    exact hApart
  rw [lex_append_of_endsApart last hBoth, lex_append_of_startsApart first hStarts]

/-- A word is one token. -/
theorem lex_of_isWord {text : String} (hWord : IsWord text) : lex text = [.word text] := by
  obtain ⟨hNonempty, hChars⟩ := hWord
  have hLex := lexFrom_of_word [] text.toList [] hChars
  rw [List.append_nil, List.nil_append, lexFrom] at hLex
  rw [lex, hLex]
  cases hList : text.toList with
  | nil => exact absurd hList hNonempty
  | cons c rest => rw [flush, ← hList, String.ofList_toList]

theorem IsWord.not_mem {text : String} (hWord : IsWord text) {c : Char}
    (hApart : continuesName c = false) : c ∉ text.toList := by
  intro hMem
  rw [hWord.2 c hMem] at hApart
  exact absurd hApart (by simp)

/-- Lines that are put together are cut at the same places. -/
theorem lines_unlines (texts : List String) (hTexts : ∀ text ∈ texts, '\n' ∉ text.toList) :
    lines (Text.unlines texts) = texts.map lex ++ [[]] := by
  induction texts with
  | nil => rfl
  | cons text rest ih =>
      have hRest := ih fun other hOther => hTexts other (List.mem_cons_of_mem text hOther)
      have hList : (Text.unlines (text :: rest)).toList =
          text.toList ++ '\n' :: (Text.unlines rest).toList := by
        simp [Text.unlines_cons]
      rw [lines, hList, List.splitOn_append_cons_self_of_not_mem (hTexts text (by simp)),
        List.map_cons, String.ofList_toList]
      rw [lines] at hRest
      rw [hRest]
      rfl

end Token

end Multiplierless.Source
