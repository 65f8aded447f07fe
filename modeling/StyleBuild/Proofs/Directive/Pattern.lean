import StyleBuild.Proofs.Directive.Form
import StyleBuild.Proofs.Regex.Searching

/-!
# The pattern of directives

The pieces of a sheet are what searching it for a regular expression finds: a comment, a string of
either kind, or a directive. Reading the pattern gives `expression` (`read_pattern`), what the
expression matches in front of a text is the first piece of the text (`matchLength_cons`), and so it
cuts every text into its pieces (`cut_expression`).
-/

namespace StyleBuild.Directive

open Regex

/-- The pattern that finds comments, strings and directives. -/
def pattern : String :=
  "/\\*[\\s\\S]*?(?:\\*/|\\z)|" ++ "\"(?:\\\\[\\s\\S]|[^\"\\\\\\n])*\"|" ++
    "'(?:\\\\[\\s\\S]|[^'\\\\\\n])*'|" ++ "@tailwind\\s+([A-Za-z-]+)\\s*;?"

/-! ## The expression -/

/-- One character. -/
def one (c : Char) : Regex := .oneOf (.single c)

/-- All characters. -/
def allChars : CharSet := ⟨[(0, CharSet.lastCode)]⟩

/-- Any character. -/
def anyOne : Regex := .oneOf allChars

/-- The characters of the names of layers. -/
def layerChars : CharSet := ⟨[(45, 45), (65, 90), (97, 122)]⟩

/-- The characters that stand for themselves between two quotes. -/
def insideChars (quote : Char) : CharSet :=
  CharSet.complement
    ((CharSet.single quote).union ((CharSet.single '\\').union (CharSet.single '\n')))

/-- The end of a comment. -/
def commentEnd : Regex := .alt (.seq (one '*') (one '/')) (.at .finish)

/-- One step of a string: a backslash with the next character, or a character. -/
def stringStep (quote : Char) : Regex := .alt (.seq (one '\\') anyOne) (.oneOf (insideChars quote))

/-- White space that may be missing. -/
def gap : Regex := (Regex.oneOf .space).star true

/-- A semicolon that may be missing. -/
def closing : Regex := (one ';').optional true

/-- What follows the first character of a comment. -/
def afterSlash : Regex := sequence [one '*', anyOne.star false, commentEnd]

/-- What follows the first quote of a string. -/
def afterQuote (quote : Char) : Regex := sequence [(stringStep quote).star true, one quote]

/-- What follows the keyword of a directive. -/
def afterKeyword : List Regex :=
  [.plus (.oneOf .space) true, .plus (.oneOf layerChars) true, gap, closing]

/-- What follows the first character of a directive. -/
def afterAt : Regex := sequence (keyword.tail.map one ++ afterKeyword)

/-- Comments, strings and directives. -/
def expression : Regex :=
  alternatives
    [.seq (one '/') afterSlash, .seq (one '"') (afterQuote '"'), .seq (one '\'') (afterQuote '\''),
      sequence (keyword.map one ++ afterKeyword)]

theorem read_pattern : Regex.read pattern = .ok expression := read_eq_ok (by decide +kernel)

/-! ## Sets of characters -/

theorem toNat_le_lastCode (c : Char) : c.toNat ≤ CharSet.lastCode := by
  have h := c.valid
  simp only [UInt32.isValidChar, Nat.isValidChar] at h
  simp only [CharSet.lastCode, Char.toNat]
  omega

theorem contains_allChars (c : Char) : allChars.contains c = true := by
  simp [allChars, CharSet.contains, CharSet.inRanges, toNat_le_lastCode c]

theorem contains_space (c : Char) : CharSet.space.contains c = isBlank c := by
  have h : CharSet.space = ⟨[(9, 13), (32, 32), (0x85, 0x85), (0xA0, 0xA0), (0x1680, 0x1680),
      (0x2000, 0x200A), (0x2028, 0x2029), (0x202F, 0x202F), (0x205F, 0x205F),
      (0x3000, 0x3000)]⟩ := by decide +kernel
  rw [h, CharSet.contains, Bool.eq_iff_iff]
  simp [CharSet.inRanges, isBlank]
  omega

theorem contains_layerChars (c : Char) : layerChars.contains c = isLayerChar c := by
  rw [CharSet.contains, Bool.eq_iff_iff, isLayerChar_iff]
  simp [CharSet.inRanges, layerChars]
  omega

theorem contains_insideChars {quote : Char} (hq : quote = '"' ∨ quote = '\'') (c : Char) :
    (insideChars quote).contains c = (c != quote && c != '\\' && c != '\n') := by
  have hb : c = '\\' ↔ c.toNat = 92 := Char.toNat_inj.symm
  have hn : c = '\n' ↔ c.toNat = 10 := Char.toNat_inj.symm
  have hc : c.toNat ≤ CharSet.lastCode := toNat_le_lastCode c
  rcases hq with rfl | rfl
  · have hq : c = '"' ↔ c.toNat = 34 := Char.toNat_inj.symm
    have h : insideChars '"' = ⟨[(0, 9), (11, 33), (35, 91), (93, CharSet.lastCode)]⟩ := by
      decide +kernel
    rw [h, CharSet.contains, Bool.eq_iff_iff]
    simp [CharSet.inRanges, hq, hb, hn]
    omega
  · have hq : c = '\'' ↔ c.toNat = 39 := Char.toNat_inj.symm
    have h : insideChars '\'' = ⟨[(0, 9), (11, 38), (40, 91), (93, CharSet.lastCode)]⟩ := by
      decide +kernel
    rw [h, CharSet.contains, Bool.eq_iff_iff]
    simp [CharSet.inRanges, hq, hb, hn]
    omega

/-! ## Comments -/

section Threads

variable {before : Option Char} {n : Nat} {found : Option Nat}

/-- The thread inside of a comment. -/
def inComment : List Regex := [.again anyOne false, commentEnd]

theorem allHeads_comment (c : Char) : allHeads before (some c) [] [inComment] =
    [.step (.single '*') [one '/'], .step allChars inComment] := rfl

theorem allHeads_star (c : Char) : allHeads before (some c) [] [[one '/'], inComment] =
    [.step (.single '/') [], .step (.single '*') [one '/'], .step allChars inComment] := rfl

/-- What is left of a comment behind a star. -/
def starLength : List Char → Nat
  | '/' :: _ => 1
  | cs => (commentRest cs).1.length

theorem length_commentRest_star (cs : List Char) :
    (commentRest ('*' :: cs)).1.length = 1 + starLength cs := by
  cases cs with
  | nil => rfl
  | cons d cs =>
    by_cases hd : d = '/'
    · subst hd; rfl
    · simp [commentRest, starLength, hd, Nat.add_comm]

/-- Inside of a comment, and behind a star there, the match goes on to the end of the comment. -/
theorem follow_comment (cs : List Char) :
    follow before [inComment] n found cs = some (n + (commentRest cs).1.length) ∧
      follow before [[one '/'], inComment] n found cs = some (n + starLength cs) := by
  induction cs generalizing before n found with
  | nil => exact ⟨rfl, rfl⟩
  | cons c cs ih =>
    have hin : follow before [inComment] n found (c :: cs) =
        some (n + (commentRest (c :: cs)).1.length) := by
      rw [follow_cons_running (allHeads_comment c) rfl]
      by_cases hc : c = '*'
      · subst hc
        have hs : survivors '*' [.step (.single '*') [one '/'], .step allChars inComment] =
            [[one '/'], inComment] := by decide
        rw [hs, length_commentRest_star, ← Nat.add_assoc]
        exact ih.2
      · simp [contains_allChars, hc, ih.1, commentRest, Nat.add_assoc, Nat.add_comm 1]
    refine ⟨hin, ?_⟩
    by_cases hc : c = '/'
    · subst hc
      rw [follow_cons_running (allHeads_star '/') rfl]
      simp [follow_done, starLength]
    · rw [follow_cons_running (allHeads_star c) rfl]
      rw [follow_cons_running (allHeads_comment c) rfl] at hin
      simpa [hc, starLength] using hin

/-! ## Strings -/

/-- The thread inside of a string. -/
def inString (quote : Char) : List Regex := [.again (stringStep quote) true, one quote]

theorem allHeads_string (quote : Char) (after : Option Char) :
    allHeads before after [] [inString quote] =
      [.step (.single '\\') (anyOne :: inString quote), .step (insideChars quote) (inString quote),
        .step (.single quote) []] := rfl

theorem allHeads_escape (quote : Char) (after : Option Char) :
    allHeads before after [] [anyOne :: inString quote] =
      [.step allChars (inString quote)] := rfl

theorem follow_escape (quote c : Char) (cs : List Char) :
    follow before [anyOne :: inString quote] n found (c :: cs) =
      follow (some c) [inString quote] (n + 1) found cs := by
  rw [follow_cons_running (allHeads_escape quote _) rfl]
  simp [contains_allChars]

/-- Inside of a string, there is a match if the string is closed. -/
theorem follow_string {quote : Char} (hq : quote = '"' ∨ quote = '\'') (cs : List Char) :
    follow before [inString quote] n none cs =
      (stringRest quote cs).map fun found => n + found.1.length := by
  have hb : quote ≠ '\\' := by rcases hq with rfl | rfl <;> decide
  fun_induction stringRest quote cs generalizing before n with
  | case1 => rfl
  | case2 =>
    rw [follow_cons_running (allHeads_string quote _) rfl]
    simp [contains_insideChars hq, hb.symm, follow_nil, allHeads_escape, Head.isDone]
  | case3 c cs ih =>
    rw [follow_cons_running (allHeads_string quote _) rfl]
    simp [contains_insideChars hq, hb.symm, follow_escape, ih, Nat.add_assoc, Function.comp_def,
      Nat.add_comm 2]
  | case4 =>
    rw [follow_cons_running (allHeads_string quote _) rfl]
    simp [contains_insideChars hq, hb, follow_done]
  | case5 cs _ _ hquote =>
    rw [follow_cons_running (allHeads_string quote _) rfl]
    simp [contains_insideChars hq, hquote]
  | case6 c cs hlast hescape hquote hline ih =>
    have hc : c ≠ '\\' := fun h => by
      cases cs with
      | nil => exact hlast h rfl
      | cons d cs => exact hescape d cs h rfl
    rw [follow_cons_running (allHeads_string quote _) rfl]
    simp [contains_insideChars hq, hc, hquote, hline, ih, Nat.add_assoc, Function.comp_def,
      Nat.add_comm 1]

/-! ## Directives -/

/-- The threads behind the keyword, in the white space there. -/
def inBlanks : List Regex :=
  [.again (.oneOf .space) true, sequence [.plus (.oneOf layerChars) true, gap, closing]]

/-- The thread in the name of a layer. -/
def inLayer : List Regex := [.again (.oneOf layerChars) true, sequence [gap, closing]]

/-- The thread in the white space behind a layer. -/
def inGap : List Regex := [.again (.oneOf .space) true, closing]

theorem allHeads_afterKeyword (after : Option Char) :
    allHeads before after [] [[sequence afterKeyword]] = [.step .space inBlanks] := rfl

theorem allHeads_blanks (after : Option Char) : allHeads before after [] [inBlanks] =
    [.step .space inBlanks, .step layerChars inLayer] := rfl

theorem allHeads_layer (after : Option Char) : allHeads before after [] [inLayer] =
    [.step layerChars inLayer, .step .space inGap, .step (.single ';') []] ++ [.done] := rfl

theorem allHeads_gap (after : Option Char) : allHeads before after [] [inGap] =
    [.step .space inGap, .step (.single ';') []] ++ [.done] := rfl

theorem follow_gap (cs : List Char) :
    follow before [inGap] n found cs = some (n + (ending cs).length) := by
  induction cs generalizing before n found with
  | nil => rfl
  | cons c cs ih =>
    rw [follow_cons_accepting (allHeads_gap _) rfl]
    by_cases hb : isBlank c
    · have hc : c ≠ ';' := by rintro rfl; revert hb; decide
      simp [contains_space, hb, hc, ih, ending, Nat.add_assoc, Nat.add_comm 1]
    · by_cases hc : c = ';'
      · subst hc
        simp [contains_space, hb, follow_done, ending, takeSemicolon]
      · simp [contains_space, hb, hc, ending, takeSemicolon]

theorem follow_layer (cs : List Char) :
    follow before [inLayer] n found cs =
      some (n + (cs.takeWhile isLayerChar ++ ending (cs.dropWhile isLayerChar)).length) := by
  induction cs generalizing before n found with
  | nil => rfl
  | cons c cs ih =>
    rw [follow_cons_accepting (allHeads_layer _) rfl]
    by_cases hl : isLayerChar c
    · have hb := isBlank_eq_false_of_isLayerChar hl
      have hc : c ≠ ';' := by rintro rfl; revert hl; decide
      simp [contains_space, contains_layerChars, hl, hb, hc, ih, Nat.add_assoc, Nat.add_comm 1]
    · have h : follow before [inGap] n found (c :: cs) = some (n + (ending (c :: cs)).length) :=
        follow_gap _
      rw [follow_cons_accepting (allHeads_gap _) rfl] at h
      simpa [contains_layerChars, hl] using h

theorem follow_blanks (cs : List Char) : follow before [inBlanks] n none cs =
    if ((cs.dropWhile isBlank).takeWhile isLayerChar).isEmpty then none
    else some (n + (cs.takeWhile isBlank ++ ((cs.dropWhile isBlank).takeWhile isLayerChar ++
      ending ((cs.dropWhile isBlank).dropWhile isLayerChar))).length) := by
  induction cs generalizing before n with
  | nil => rfl
  | cons c cs ih =>
    rw [follow_cons_running (allHeads_blanks _) rfl]
    by_cases hb : isBlank c
    · have hl : isLayerChar c = false :=
        Bool.eq_false_iff.2 fun h => by simp [isBlank_eq_false_of_isLayerChar h] at hb
      simp [contains_space, contains_layerChars, hb, hl, ih, Nat.add_assoc, Nat.add_comm 1]
    · by_cases hl : isLayerChar c
      · simp [contains_space, contains_layerChars, hb, hl, follow_layer, Nat.add_assoc,
          Nat.add_comm 1]
      · simp [contains_space, contains_layerChars, hb, hl]

theorem follow_afterKeyword (cs : List Char) :
    follow before [[sequence afterKeyword]] keyword.length none cs =
      (directiveRest cs).map (·.1.text.length) := by
  cases cs with
  | nil => rfl
  | cons c cs =>
    rw [follow_cons_running (allHeads_afterKeyword _) rfl]
    by_cases hb : isBlank c
    · simp only [survivors_step, survivors_nil, contains_space, hb, if_true, List.filter_nil,
        follow_blanks, directiveRest_eq, List.takeWhile_cons, List.dropWhile_cons,
        List.isEmpty_cons, Bool.false_or]
      split
      · rfl
      · simp [Piece.text, Nat.add_assoc, Nat.add_comm 1]
    · simp [contains_space, hb, directiveRest]

theorem allHeads_one (c : Char) (r : Regex) (after : Option Char) :
    allHeads before after [] [[.seq (one c) r]] = [.step (.single c) [r]] := rfl

/-- What comes after a word is followed when the text starts with the word. -/
theorem follow_word {word cs : List Char} {rest : List Regex} (hr : rest ≠ [])
    {result : Option Nat} (h : ∀ before, follow before [[sequence rest]] (n + word.length) none
      (cs.drop word.length) = result) :
    follow before [[sequence (word.map one ++ rest)]] n none cs =
      if word.isPrefixOf cs then result else none := by
  induction word generalizing before n cs with
  | nil => simpa using h before
  | cons w word ih =>
    have hs : sequence ((w :: word).map one ++ rest) =
        .seq (one w) (sequence (word.map one ++ rest)) := by
      cases word <;> cases rest <;> simp_all [Regex.sequence]
    rw [hs]
    cases cs with
    | nil => rfl
    | cons c cs =>
      rw [follow_cons_running (allHeads_one w _ _) rfl]
      by_cases hc : c = w
      · subst hc
        have hrest : ∀ before, follow before [[sequence rest]] (n + 1 + word.length) none
            (cs.drop word.length) = result := fun before => by
          simpa [Nat.add_assoc, Nat.add_comm 1] using h before
        simp [ih hrest]
      · simp [hc, Ne.symm hc]

/-! ## Pieces -/

theorem allHeads_expression (after : Option Char) : allHeads before after [] [[expression]] =
    [.step (.single '/') [afterSlash], .step (.single '"') [afterQuote '"'],
      .step (.single '\'') [afterQuote '\''], .step (.single '@') [afterAt]] := rfl

/-- The length of a text, unless it is a single character. -/
def matchedLength (text : List Char) : Option Nat :=
  match text with
  | [_] => none
  | _ => some text.length

theorem follow_afterSlash (cs : List Char) :
    follow before [[afterSlash]] 1 none cs = matchedLength (next '/' cs).1.text := by
  cases cs with
  | nil => rfl
  | cons c cs =>
    have h : allHeads before (some c) [] [[afterSlash]] =
      [.step (.single '*') [sequence [anyOne.star false, commentEnd]]] := rfl
    rw [follow_cons_running h rfl]
    by_cases hc : c = '*'
    · subst hc
      have hin : allHeads (some '*') cs.head? [] [[sequence [anyOne.star false, commentEnd]]] =
          allHeads (some '*') cs.head? [] [inComment] := by cases cs <;> rfl
      simp [follow_congr hin, follow_comment, next, matchedLength, Piece.text]
      omega
    · simp [hc, next, matchedLength, Piece.text]

theorem stringRest_ne_nil {quote : Char} {cs : List Char} {found : List Char × List Char}
    (h : stringRest quote cs = some found) : found.1 ≠ [] := by
  fun_induction stringRest quote cs generalizing found with
  | case1 | case2 | case5 => simp at h
  | case3 | case6 =>
    obtain ⟨x, -, rfl⟩ := Option.map_eq_some_iff.1 h
    simp
  | case4 => cases h; simp

theorem follow_afterQuote {quote : Char} (hq : quote = '"' ∨ quote = '\'') (cs : List Char) :
    follow before [[afterQuote quote]] 1 none cs = matchedLength (next quote cs).1.text := by
  have hin : allHeads before cs.head? [] [[afterQuote quote]] =
      allHeads before cs.head? [] [inString quote] := rfl
  rw [follow_congr hin, follow_string hq, next_quote hq]
  cases h : stringRest quote cs with
  | none => rfl
  | some found =>
    obtain ⟨d, inside, hd⟩ := List.exists_cons_of_ne_nil (stringRest_ne_nil h)
    simp [hd, matchedLength, Piece.text, Nat.add_comm 1]

theorem matchedLength_directive {cs rest : List Char} {p : Piece}
    (h : directive? cs = some (p, rest)) : matchedLength p.text = some p.text.length := by
  obtain ⟨layer, text, rfl, -, -, -, -, -, -⟩ := isDirective_of_directive? h
  rfl

theorem follow_afterAt (cs : List Char) :
    follow before [[afterAt]] 1 none cs = matchedLength (next '@' cs).1.text := by
  have hr : ∀ before, follow before [[sequence afterKeyword]] (1 + keyword.tail.length) none
      (cs.drop keyword.tail.length) =
        (directiveRest (cs.drop keyword.tail.length)).map (·.1.text.length) :=
    fun before => follow_afterKeyword _
  have hd : directive? ('@' :: cs) = if keyword.tail.isPrefixOf cs then
      directiveRest (cs.drop keyword.tail.length) else none := rfl
  have hn : (next '@' cs).1 = ((directive? ('@' :: cs)).getD (.other ['@'], cs)).1 := rfl
  have hf : follow before [[afterAt]] 1 none cs =
      (directive? ('@' :: cs)).map (·.1.text.length) := by
    rw [afterAt, follow_word (by decide) hr, hd]
    split <;> rfl
  rw [hf, hn]
  cases h : directive? ('@' :: cs) with
  | none => rfl
  | some found => exact (matchedLength_directive h).symm

/-- What the expression matches in front of a text is the first piece, if this is more than a
character. -/
theorem matchLength_cons (c : Char) (cs : List Char) :
    expression.matchLength before (c :: cs) = matchedLength (next c cs).1.text := by
  rw [matchLength, follow_cons_running (allHeads_expression _) rfl]
  by_cases hslash : c = '/'
  · subst hslash; simp [follow_afterSlash]
  by_cases hdouble : c = '"'
  · subst hdouble; simp [follow_afterQuote]
  by_cases hsingle : c = '\''
  · subst hsingle; simp [follow_afterQuote]
  by_cases hat : c = '@'
  · subst hat; simp [follow_afterAt]
  simp [hslash, hdouble, hsingle, hat, next, matchedLength, Piece.text]

end Threads

/-- The part of a searched text that a piece is: a character between matches, or else a match. -/
def Piece.cut (p : Piece) : Cut :=
  match p.text with
  | [c] => .between c
  | t => .found t

/-- **The pieces of a sheet are what the pattern finds**, with the characters between. -/
theorem cut_expression (before : Option Char) (cs : List Char) :
    expression.cut before cs = (pieces cs).map Piece.cut := by
  fun_induction pieces cs generalizing before with
  | case1 => rw [cut]; rfl
  | case2 c cs ih =>
    have happend := next_append c cs
    have hne := text_next_ne_nil c cs
    rw [cut, matchLength_cons, List.map_cons]
    generalize (next c cs).1 = p at happend hne
    generalize (next c cs).2 = rest at happend ih
    -- A piece of one character is not matched, and longer ones are matched as a whole.
    match ht : p.text with
    | [] => exact absurd ht hne
    | [d] =>
      obtain ⟨rfl, rfl⟩ : d = c ∧ rest = cs := by simpa [ht] using happend
      have hp : p.cut = .between d := by simp only [Piece.cut, ht]
      simp only [matchedLength, ih, hp]
    | d :: e :: text =>
      obtain ⟨rfl, rfl⟩ : d = c ∧ e :: (text ++ rest) = cs := by simpa [ht] using happend
      have hp : p.cut = .found (d :: e :: text) := by simp only [Piece.cut, ht]
      simp [matchedLength, ih, hp]

end StyleBuild.Directive
