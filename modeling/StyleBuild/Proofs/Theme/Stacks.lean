import Mathlib
import StyleBuild.Proofs.Theme.Rules

/-!
# Reading font stacks

A font stack is read as the families that it was made of if and only if no family name holds a
backslash, the end of a line or the character zero: between quotes, only quotes are escaped.
Whatever the names hold, no two lists of families have one stack (`fontStack_reads`).
-/

namespace StyleBuild

open Css

/-! ## Families -/

/-- The family that a token names. -/
def Css.Token.family? : Token → Option String
  | .quoted text => some text
  | .ident name => some name
  | _ => none

/-- The families that tokens name, with commas between them. -/
def families? : List Token → Option (List String)
  | [t] => t.family?.map ([·])
  | t :: .comma :: ts => do return (← t.family?) :: (← families? ts)
  | _ => none

/-- The tokens of a text, without their places. -/
def lexemes (cs : List Char) : List Token := (tokenize cs).1.map Placed.token

/-- Read a text as a font stack: families with commas between them, and blanks anywhere. Without
tokens there are no families. -/
def readStack? (text : String) : Option (List String) :=
  let ts := (lexemes text.toList).filter (!·.isBlank)
  if ts.isEmpty then some [] else families? ts

theorem family?_of_families? {t : Token} {ts : List Token} {name : String} {names : List String}
    (h : families? (t :: ts) = some (name :: names)) : t.family? = some name := by
  unfold families? at h
  split at h
  · next heq =>
    cases heq
    obtain ⟨family, hfamily, heq⟩ := Option.map_eq_some_iff.1 h
    cases heq
    exact hfamily
  · next heq =>
    cases heq
    obtain ⟨family, hfamily, h⟩ := Option.bind_eq_some_iff.1 h
    obtain ⟨families, -, h⟩ := Option.bind_eq_some_iff.1 h
    cases h
    exact hfamily
  · cases h

theorem map_token_tokensFrom (p q : Position) (cs : List Char) :
    (tokensFrom p cs).1.map Placed.token = (tokensFrom q cs).1.map Placed.token := by
  induction hn : cs.length using Nat.strongRecOn generalizing p q cs with
  | ind n ih =>
    rcases cs with _ | ⟨c, cs⟩
    · rfl
    · rcases hread : readToken (c :: cs) with ⟨t, rest⟩
      have hlen := (readToken_suffix c cs).length_le
      rw [hread] at hlen
      have hrest := fun p q => ih rest.length (by simp at hlen hn; omega) p q rest rfl
      rw [tokensFrom_cons hread, tokensFrom_cons hread]
      cases t with
      | none => exact hrest _ _
      | some t => exact congrArg (t :: ·) (hrest _ _)

theorem lexemes_cons {c : Char} {cs rest : List Char} {t : Option Token}
    (h : readToken (c :: cs) = (t, rest)) : lexemes (c :: cs) = t.toList ++ lexemes rest := by
  rw [lexemes, tokenize_eq, tokensFrom_cons h, lexemes, tokenize_eq]
  cases t with
  | none => exact map_token_tokensFrom _ _ _
  | some t => exact congrArg (t :: ·) (map_token_tokensFrom _ _ _)

/-! ## What stands in quotes -/

/-- How many characters a text takes at least between quotes: quotes and backslashes take two. -/
def weight (cs : List Char) : Nat := (cs.map fun c => if c = '"' ∨ c = '\\' then 2 else 1).sum

theorem weight_cons (c : Char) (cs : List Char) :
    weight (c :: cs) = (if c = '"' ∨ c = '\\' then 2 else 1) + weight cs := by
  rw [weight, List.map_cons, List.sum_cons, weight]

/-- Only the backslashes of a family name weigh more than they take. -/
theorem weight_eq (cs : List Char) :
    weight cs = (cs.flatMap quoteFamilyChar).length + cs.count '\\' := by
  induction cs with
  | nil => rfl
  | cons c cs ih =>
    rw [weight_cons, ih, List.flatMap_cons, List.length_append, List.count_cons, quoteFamilyChar]
    by_cases hquote : c = '"'
    · subst hquote
      simp
      omega
    · by_cases hback : c = '\\'
      · subst hback
        simp
        omega
      · simp [hquote, hback]
        omega

/-- The first quote or backslash of a text, if there is one, is a quote. -/
def Calm (z : List Char) : Prop := z.find? (fun c => c = '"' ∨ c = '\\') ≠ some '\\'

theorem visible_eq_backslash {c : Char} (h : visible c = '\\') : c = '\\' := by
  unfold visible at h
  split at h
  · cases h
  · exact h

theorem visible_eq_quote {c : Char} (h : visible c = '"') : c = '"' := by
  unfold visible at h
  split at h
  · cases h
  · exact h

/-- No backslash is read in a text without backslashes before the first quote. -/
theorem not_mem_readQuoted {n : Nat} {z : List Char} (hz : Calm z) :
    '\\' ∉ (readQuoted '"' n z).2.1 := by
  induction n generalizing z with
  | zero => simp [readQuoted]
  | succ n ih =>
    rcases z with _ | ⟨c, z⟩
    · simp [readQuoted]
    · have hc : c ≠ '\\' := by
        rintro rfl
        exact hz rfl
      rw [readQuoted_cons hc]
      split
      · simp
      · next hquote =>
        split
        · simp
        · have hrest : Calm z := by simpa [Calm, List.find?_cons, hquote, hc] using hz
          simpa [ih hrest] using fun heq => hc (visible_eq_backslash heq.symm)

theorem getLast?_of_suffix {p q : List Char} {c : Char} (h : p <:+ q)
    (hp : p.getLast? = some c) : q.getLast? = some c := by
  obtain ⟨u, rfl⟩ := h
  rw [List.getLast?_append, hp]
  rfl

/-- What is read between quotes weighs no more than what stands there, unless the closing quote is
read as a part of it: then a backslash stands last, and something else is read last. -/
theorem weight_readQuoted {n : Nat} {p z text rest : List Char} (hz : Calm z)
    (h : readQuoted '"' n (p ++ '"' :: z) = (true, text, rest)) :
    weight text ≤ p.length ∨
      p.getLast? = some '\\' ∧ ∃ c, text.getLast? = some c ∧ c ≠ '\\' := by
  induction n generalizing p text with
  | zero =>
    obtain ⟨rfl, -⟩ : text = [] ∧ _ := by simpa [readQuoted] using h
    exact .inl (Nat.zero_le _)
  | succ n ih =>
    rcases readQuoted_cases p with rfl | rfl | ⟨d, p, rfl, hd⟩ | ⟨d, p, rfl, hd⟩ | ⟨d, p, rfl, hd⟩
    · rw [List.nil_append, readQuoted_cons (by decide), if_pos rfl] at h
      cases h
      exact .inl (Nat.zero_le _)
    · -- the closing quote is escaped, and what is read behind it holds no backslash
      have hescape := readEscape_symbol (d := '"') (by decide) z
      rw [List.singleton_append, readQuoted_escape (by decide), hescape] at h
      obtain ⟨-, rfl, -⟩ : _ ∧ _ = text ∧ _ := by simpa only [Prod.mk.injEq] using h
      refine .inr ⟨rfl, _, List.getLast?_cons, ?_⟩
      cases hlast : (readQuoted '"' n z).2.1.getLast? with
      | none => decide
      | some c =>
        rintro rfl
        exact not_mem_readQuoted hz (List.mem_of_getLast? hlast)
    · rw [List.cons_append, List.cons_append, readQuoted_newline hd, ← List.cons_append,
        dropSpace_before (by simp; decide)] at h
      have hsuffix := (dropSpace_suffix (d :: p)).trans (List.suffix_cons '\\' _)
      rcases ih h with hweight | ⟨hlast, hread⟩
      · exact .inl (hweight.trans hsuffix.length_le)
      · exact .inr ⟨getLast?_of_suffix hsuffix hlast, hread⟩
    · rw [List.cons_append, List.cons_append, readQuoted_escape hd, ← List.cons_append,
        readEscape_before (by simp; decide) (by simp)] at h
      obtain ⟨hok, rfl, hrest⟩ : _ ∧ _ = text ∧ _ := by simpa only [Prod.mk.injEq] using h
      have hsuffix := readEscape_suffix_tail (d :: p)
      have hread : readQuoted '"' n ((readEscape (d :: p)).2 ++ '"' :: z) =
          (true, (readQuoted '"' n ((readEscape (d :: p)).2 ++ '"' :: z)).2.1, rest) :=
        Prod.ext hok (Prod.ext rfl hrest)
      rcases ih hread with hweight | ⟨hlast, c, hread, hc⟩
      · have hlen := hsuffix.length_le
        simp only [List.tail_cons] at hlen
        refine .inl ?_
        rw [weight_cons, List.length_cons, List.length_cons]
        split <;> omega
      · refine .inr ⟨getLast?_of_suffix (hsuffix.trans ?_) hlast, c, ?_, hc⟩
        · exact (List.suffix_cons _ _).trans (List.suffix_cons _ _)
        · rw [List.getLast?_cons, hread]
          rfl
    · rw [List.cons_append, readQuoted_cons hd] at h
      split at h
      · cases h
        exact .inl (Nat.zero_le _)
      · next hquote =>
        split at h
        · cases h
        · obtain ⟨hok, rfl, hrest⟩ : _ ∧ _ = text ∧ _ := by simpa only [Prod.mk.injEq] using h
          have hread : readQuoted '"' n (p ++ '"' :: z) =
              (true, (readQuoted '"' n (p ++ '"' :: z)).2.1, rest) :=
            Prod.ext hok (Prod.ext rfl hrest)
          rcases ih hread with hweight | ⟨hlast, c, hread, hc⟩
          · have hplain : ¬(visible d = '"' ∨ visible d = '\\') := by
              rintro (heq | heq)
              · exact hquote (visible_eq_quote heq)
              · exact hd (visible_eq_backslash heq)
            refine .inl ?_
            rw [weight_cons, if_neg hplain, List.length_cons]
            omega
          · refine .inr ⟨getLast?_of_suffix (List.suffix_cons _ _) hlast, c, ?_, hc⟩
            rw [List.getLast?_cons, hread]
            rfl

theorem getLast?_quoted (cs : List Char) :
    (cs.flatMap quoteFamilyChar).getLast? = cs.getLast? := by
  induction cs using List.reverseRecOn with
  | nil => rfl
  | append_singleton cs c ih =>
    have hc : (quoteFamilyChar c).getLast? = some c := by
      unfold quoteFamilyChar
      split
      · next hquote => rw [hquote]; rfl
      · rfl
    rw [List.flatMap_append, List.flatMap_singleton, List.getLast?_append, hc,
      List.getLast?_append]
    rfl

/-- If what is read between quotes is the family name that stands there, it has no backslash. -/
theorem not_mem_of_readQuoted {n : Nat} {cs z rest : List Char} (hz : Calm z)
    (h : readQuoted '"' n (cs.flatMap quoteFamilyChar ++ '"' :: z) = (true, cs, rest)) :
    '\\' ∉ cs := by
  rcases weight_readQuoted hz h with hweight | ⟨hlast, c, hread, hc⟩
  · rw [weight_eq] at hweight
    exact List.count_eq_zero.1 (by omega)
  · rw [getLast?_quoted, hread] at hlast
    exact absurd (Option.some.inj hlast) hc

/-- The characters that stand between quotes for themselves, quotes being escaped. -/
def IsReadable (cs : List Char) : Prop := ∀ c ∈ cs, c ≠ '\\' ∧ isNewline c = false ∧ c ≠ '\x00'

/-- If what is read between quotes is the family name that stands there, it is readable. -/
theorem isReadable_of_readQuoted {n : Nat} {cs z rest : List Char} (hcs : '\\' ∉ cs)
    (h : readQuoted '"' n (cs.flatMap quoteFamilyChar ++ '"' :: z) = (true, cs, rest)) :
    IsReadable cs := by
  induction cs generalizing n with
  | nil => simp [IsReadable]
  | cons c cs ih =>
    obtain ⟨hc, hcs⟩ : '\\' ≠ c ∧ '\\' ∉ cs := by simpa using hcs
    rcases n with _ | n
    · simp [readQuoted] at h
    · refine List.forall_mem_cons.2 ?_
      rw [List.flatMap_cons, List.append_assoc, readQuoted_familyChar (Ne.symm hc)] at h
      split at h
      · cases h
      · next hline =>
        obtain ⟨hok, htext, hrest⟩ : _ ∧ _ = c :: cs ∧ _ := by
          simpa only [Prod.mk.injEq] using h
        obtain ⟨hvisible, htext⟩ := List.cons.inj htext
        refine ⟨⟨Ne.symm hc, by simpa using hline, ?_⟩,
          ih hcs (Prod.ext hok (Prod.ext htext hrest))⟩
        rintro rfl
        exact absurd hvisible (by decide)

/-! ## Tokens of families -/

theorem isPlainFamily_chars {name : String} (h : isPlainFamily name = true) :
    ∀ c ∈ name.toList, (c.isAlphanum || c == '-' || c == '_') = true := by
  obtain ⟨c, cs, hname, hc, hcs⟩ := isPlainFamily_cases h
  have hfirst : (c.isAlphanum || c == '-' || c == '_') = true := by
    simp only [Char.isAlphanum, Bool.or_eq_true] at hc ⊢
    exact hc.imp_left fun hc => .inl (.inl hc)
  rcases hname with hname | ⟨-, hname⟩
  · rw [hname]
    exact List.forall_mem_cons.2 ⟨by decide, List.forall_mem_cons.2 ⟨hfirst, hcs⟩⟩
  · rw [hname]
    exact List.forall_mem_cons.2 ⟨hfirst, hcs⟩

theorem ne_of_isPlainFamily {name : String} (h : isPlainFamily name = true) {c : Char}
    (hc : (c.isAlphanum || c == '-' || c == '_') = false) : ∀ d ∈ name.toList, d ≠ c := by
  rintro d hd rfl
  rw [isPlainFamily_chars h d hd] at hc
  cases hc

theorem isReadable_of_isPlainFamily {name : String} (h : isPlainFamily name = true) :
    IsReadable name.toList := by
  refine fun c hc => ⟨ne_of_isPlainFamily h (by decide) c hc, ?_,
    ne_of_isPlainFamily h (by decide) c hc⟩
  simp [isNewline, ne_of_isPlainFamily h (c := '\n') (by decide) c hc,
    ne_of_isPlainFamily h (c := '\r') (by decide) c hc,
    ne_of_isPlainFamily h (c := '\x0c') (by decide) c hc]

theorem visible_of_isReadable {cs : List Char} (h : IsReadable cs) : cs.map visible = cs := by
  have hsame : ∀ c ∈ cs, visible c = id c := fun c hc =>
    if_neg fun hzero => (h c hc).2.2 (Char.toNat_inj.1 hzero)
  rw [List.map_congr_left hsame, List.map_id]

theorem readToken_readable {name : String} (h : IsReadable name.toList) {y : List Char}
    (hy : Ends y) :
    ∃ t, readToken ((familyText name).toList ++ y) = (some t, y) ∧ t.isBlank = false ∧
      t.family? = some name := by
  have hquotable : isQuotable name = true :=
    List.all_eq_true.2 fun c hc => by simp [h c hc]
  obtain ⟨t, ht, hread⟩ := readToken_family hquotable hy
  rw [visible_of_isReadable h, String.ofList_toList] at ht
  exact ⟨t, hread, by rcases ht with rfl | rfl <;> exact ⟨rfl, rfl⟩⟩

/-- A family name that is not readable is read as something else. -/
theorem readToken_unreadable {name : String} (h : ¬IsReadable name.toList) {y : List Char}
    (hy : Calm y) :
    ∃ t rest, readToken ((familyText name).toList ++ y) = (some t, rest) ∧ t.isBlank = false ∧
      t.family? ≠ some name := by
  have hplain : isPlainFamily name = false :=
    Bool.eq_false_iff.2 fun hplain => h (isReadable_of_isPlainFamily hplain)
  refine ⟨_, _, readToken_quotedFamily hplain y, ?_⟩
  rcases hquoted : readQuoted '"' ((name.toList.flatMap quoteFamilyChar ++ '"' :: y).length + 1)
    (name.toList.flatMap quoteFamilyChar ++ '"' :: y) with ⟨ok, text, rest⟩
  rw [readString, hquoted]
  cases ok with
  | false =>
    refine ⟨rfl, fun heq => ?_⟩
    cases heq
  | true =>
    refine ⟨rfl, fun heq => h ?_⟩
    obtain rfl : text = name.toList := by
      rw [← Option.some.inj heq, String.toList_ofList]
    exact isReadable_of_readQuoted (not_mem_of_readQuoted hy hquoted) hquoted

/-! ## Stacks -/

/-- The text of a stack behind its first family. -/
def behind : List String → List Char
  | [] => []
  | name :: names => ',' :: ' ' :: (fontStack (name :: names)).toList

theorem toList_fontStack (name : String) (names : List String) :
    (fontStack (name :: names)).toList = (familyText name).toList ++ behind names := by
  cases names <;> simp [fontStack, behind, String.toList_intercalate]

theorem ends_behind (names : List String) : Ends (behind names) := by
  cases names with
  | nil => exact ends_nil
  | cons name names => exact ends_cons rfl

theorem calm_behind (names : List String) : Calm (behind names) := by
  induction names with
  | nil => simp [Calm, behind]
  | cons name names ih =>
    rw [Calm, behind, toList_fontStack, List.find?_cons_of_neg (by decide),
      List.find?_cons_of_neg (by decide), List.find?_append]
    cases hplain : isPlainFamily name with
    | true =>
      have hnone : (familyText name).toList.find? (fun c => c = '"' ∨ c = '\\') = none := by
        refine List.find?_eq_none.2 fun c hc => ?_
        rw [familyText, if_pos hplain] at hc
        simp [ne_of_isPlainFamily hplain (c := '"') (by decide) c hc,
          ne_of_isPlainFamily hplain (c := '\\') (by decide) c hc]
      rw [hnone]
      exact ih
    | false => simp [familyText, hplain]

theorem lexemes_family {name : String} {y rest : List Char} {t : Token}
    (h : readToken ((familyText name).toList ++ y) = (some t, rest)) :
    lexemes ((familyText name).toList ++ y) = t :: lexemes rest := by
  obtain ⟨c, cs, hcs, -⟩ := familyText_head name
  rw [hcs, List.cons_append] at h ⊢
  exact lexemes_cons h

theorem lexemes_behind (name : String) (names : List String) :
    lexemes (behind (name :: names)) =
      .comma :: .blank " " :: lexemes (fontStack (name :: names)).toList := by
  have hcomma : readToken (behind (name :: names)) =
      (some .comma, ' ' :: (fontStack (name :: names)).toList) := rfl
  have hblank : readToken ([' '] ++ (fontStack (name :: names)).toList) =
      (some (.blank " "), (fontStack (name :: names)).toList) := by
    refine readToken_blank (by simp) (by decide) ?_
    obtain ⟨c, cs, hcs, hc⟩ := familyText_head name
    rw [toList_fontStack, hcs]
    simpa using hc
  rw [behind, lexemes_cons hcomma]
  exact congrArg (Token.comma :: ·) (lexemes_cons hblank)

theorem families?_unreadable {name : String} (h : ¬IsReadable name.toList) (names : List String) :
    families? ((lexemes (fontStack (name :: names)).toList).filter (!·.isBlank)) ≠
      some (name :: names) := by
  obtain ⟨t, rest, hread, hblank, hfamily⟩ := readToken_unreadable h (calm_behind names)
  rw [toList_fontStack, lexemes_family hread, List.filter_cons_of_pos (by simp [hblank])]
  exact fun heq => hfamily (family?_of_families? heq)

theorem families?_fontStack (name : String) (names : List String) :
    families? ((lexemes (fontStack (name :: names)).toList).filter (!·.isBlank)) =
      some (name :: names) ↔ ∀ n ∈ name :: names, IsReadable n.toList := by
  induction names generalizing name with
  | nil =>
    by_cases h : IsReadable name.toList
    · obtain ⟨t, hread, hblank, hfamily⟩ := readToken_readable h (ends_behind [])
      rw [toList_fontStack, lexemes_family hread, List.filter_cons_of_pos (by simp [hblank])]
      simpa [behind, lexemes, tokenize_eq, tokensFrom_nil, families?, hfamily] using h
    · exact iff_of_false (families?_unreadable h []) fun hall => h (hall name (by simp))
  | cons other names ih =>
    by_cases h : IsReadable name.toList
    · obtain ⟨t, hread, hblank, hfamily⟩ := readToken_readable h (ends_behind (other :: names))
      rw [toList_fontStack, lexemes_family hread, lexemes_behind,
        List.filter_cons_of_pos (by simp [hblank]), List.filter_cons_of_pos (by rfl),
        List.filter_cons_of_neg (by simp [Token.isBlank]), families?, hfamily,
        List.forall_mem_cons, ← ih other, and_iff_right h]
      generalize families? _ = found
      cases found <;> simp
    · exact iff_of_false (families?_unreadable h _) fun hall => h (hall name (by simp))

theorem readStack?_cons {text name : String} {names : List String} :
    readStack? text = some (name :: names) ↔
      families? ((lexemes text.toList).filter (!·.isBlank)) = some (name :: names) := by
  rw [readStack?]
  cases (lexemes text.toList).filter (!·.isBlank) with
  | nil => simp [families?]
  | cons t ts => rfl

theorem readStack?_fontStack (names : List String) :
    readStack? (fontStack names) = some names ↔ ∀ n ∈ names, IsReadable n.toList := by
  cases names with
  | nil => exact iff_of_true (by decide +kernel) (by simp)
  | cons name names => rw [readStack?_cons, families?_fontStack]

/-! ## Different stacks -/

/-- A character of a family name between quotes, read from behind: a quote comes before its
backslash. -/
def quotedBehind (c : Char) : List Char := (quoteFamilyChar c).reverse

theorem quotedBehind_cases (c : Char) :
    c = '"' ∧ quotedBehind c = ['"', '\\'] ∨ c ≠ '"' ∧ quotedBehind c = [c] := by
  by_cases hc : c = '"'
  · exact .inl ⟨hc, by rw [hc]; rfl⟩
  · exact .inr ⟨hc, by rw [quotedBehind, quoteFamilyChar, if_neg hc]; rfl⟩

/-- Read from behind, a name between quotes ends at the first quote without a backslash. -/
theorem quotedBehind_ne {d : Char} {ds x y : List Char} (hx : x.head? ≠ some '\\') :
    '"' :: x ≠ (d :: ds).flatMap quotedBehind ++ '"' :: y := by
  rw [List.flatMap_cons]
  rcases quotedBehind_cases d with ⟨-, hd⟩ | ⟨hne, hd⟩ <;> rw [hd] <;> intro h
  · obtain ⟨-, rfl⟩ := List.cons.inj h
    exact hx rfl
  · exact hne (List.cons.inj h).1.symm

theorem quoted_cancel {cs ds x y : List Char} (hx : x.head? ≠ some '\\') (hy : y.head? ≠ some '\\')
    (h : cs.flatMap quotedBehind ++ '"' :: x = ds.flatMap quotedBehind ++ '"' :: y) :
    cs = ds ∧ x = y := by
  induction cs generalizing ds with
  | nil =>
    cases ds with
    | nil => exact ⟨rfl, (List.cons.inj h).2⟩
    | cons d ds => exact absurd h (quotedBehind_ne hx)
  | cons c cs ih =>
    cases ds with
    | nil => exact absurd h.symm (quotedBehind_ne hy)
    | cons d ds =>
      have hsame : c = d ∧ cs.flatMap quotedBehind ++ '"' :: x =
          ds.flatMap quotedBehind ++ '"' :: y := by
        rw [List.flatMap_cons, List.flatMap_cons] at h
        rcases quotedBehind_cases c with ⟨hcq, hc⟩ | ⟨hcne, hc⟩ <;>
          rcases quotedBehind_cases d with ⟨hdq, hd⟩ | ⟨hdne, hd⟩ <;> rw [hc, hd] at h
        · exact ⟨hcq.trans hdq.symm, by simpa using h⟩
        · exact absurd (List.cons.inj h).1.symm hdne
        · exact absurd (List.cons.inj h).1 hcne
        · exact ⟨(List.cons.inj h).1, (List.cons.inj h).2⟩
      obtain ⟨rfl, hrest⟩ := hsame
      obtain ⟨rfl, hxy⟩ := ih hrest
      exact ⟨rfl, hxy⟩

/-- A family name read from behind. -/
theorem reverse_familyText (name : String) :
    (isPlainFamily name = true ∧ (familyText name).toList.reverse = name.toList.reverse) ∨
      (familyText name).toList.reverse =
        '"' :: (name.toList.reverse.flatMap quotedBehind ++ ['"']) := by
  cases h : isPlainFamily name with
  | true => exact .inl ⟨rfl, by rw [familyText, if_pos h]⟩
  | false =>
    have hshape : (familyText name).toList =
        '"' :: (name.toList.flatMap quoteFamilyChar ++ ['"']) := by
      simp [familyText, h]
    refine .inr ?_
    rw [hshape, List.reverse_cons, List.reverse_append, List.reverse_flatMap]
    rfl

/-- The text of a stack before its last family. -/
def before : List String → List Char
  | [] => []
  | name :: names => (fontStack (name :: names)).toList ++ [',', ' ']

theorem toList_fontStack_append (names : List String) (name : String) :
    (fontStack (names ++ [name])).toList = before names ++ (familyText name).toList := by
  induction names with
  | nil => simp [fontStack, before]
  | cons first names ih =>
    cases names with
    | nil => simp [fontStack, before]
    | cons second names =>
      have hrest : behind (second :: names ++ [name]) =
          ',' :: ' ' :: (before (second :: names) ++ (familyText name).toList) := by
        rw [← ih]
        rfl
      rw [List.cons_append, toList_fontStack, hrest, before, before, toList_fontStack first]
      simp [behind]

theorem head?_reverse_before (names : List String) :
    ∀ c ∈ (before names).reverse.head?, c = ' ' := by
  cases names <;> simp [before]

/-- A name without quotes, read from behind, goes to the text before it. -/
theorem takeWhile_reverse {name : String} (h : isPlainFamily name = true) (names : List String) :
    (name.toList.reverse ++ (before names).reverse).takeWhile
      (fun c => c.isAlphanum || c == '-' || c == '_') = name.toList.reverse := by
  rw [takeWhile_before fun c hc => by rw [head?_reverse_before names c hc]; rfl]
  exact List.takeWhile_eq_self_iff.2 fun c hc => isPlainFamily_chars h c (by simpa using hc)

/-- A name without quotes does not end in a quote. -/
theorem reverse_ne_quote {name : String} (h : isPlainFamily name = true) (names : List String)
    (x : List Char) : name.toList.reverse ++ (before names).reverse ≠ '"' :: x := by
  intro heq
  have hempty := takeWhile_reverse h names
  rw [heq, List.takeWhile_cons_of_neg (by decide)] at hempty
  obtain ⟨c, cs, hname, -⟩ := isPlainFamily_cases h
  rcases hname with hname | ⟨-, hname⟩ <;> simp [hname] at hempty

/-- The last family of a stack, and what stands before it. -/
theorem familyText_cancel {a b : String} {as bs : List String}
    (h : before as ++ (familyText a).toList = before bs ++ (familyText b).toList) :
    a = b ∧ before as = before bs := by
  have hhead : ∀ names, (before names).reverse.head? ≠ some '\\' := fun names heq =>
    absurd (head?_reverse_before names _ heq) (by decide)
  have hrev : (familyText a).toList.reverse ++ (before as).reverse =
      (familyText b).toList.reverse ++ (before bs).reverse := by
    rw [← List.reverse_append, ← List.reverse_append, h]
  rcases reverse_familyText a with ⟨ha, hatext⟩ | hatext <;>
    rcases reverse_familyText b with ⟨hb, hbtext⟩ | hbtext <;>
    rw [hatext, hbtext] at hrev
  · have hname : a.toList.reverse = b.toList.reverse := by
      rw [← takeWhile_reverse ha as, hrev, takeWhile_reverse hb bs]
    rw [hname] at hrev
    exact ⟨String.toList_injective (List.reverse_injective hname),
      List.reverse_injective (List.append_cancel_left hrev)⟩
  · exact absurd hrev (reverse_ne_quote ha as _)
  · exact absurd hrev.symm (reverse_ne_quote hb bs _)
  · simp only [List.cons_append, List.append_assoc] at hrev
    obtain ⟨hname, hbefore⟩ := quoted_cancel (hhead as) (hhead bs) (List.cons.inj hrev).2
    exact ⟨String.toList_injective (List.reverse_injective hname), List.reverse_injective hbefore⟩

theorem fontStack_of_before {names others : List String} (h : before names = before others) :
    fontStack names = fontStack others := by
  cases names <;> cases others
  · rfl
  · simp [before] at h
  · simp [before] at h
  · exact String.toList_injective (List.append_cancel_right h)

theorem fontStack_ne_empty (names : List String) (name : String) :
    fontStack (names ++ [name]) ≠ fontStack [] := by
  intro h
  obtain ⟨c, cs, hcs, -⟩ := familyText_head name
  have htext := toList_fontStack_append names name
  rw [h, hcs] at htext
  simp [fontStack] at htext

theorem fontStack_injective : Function.Injective fontStack := by
  intro names others h
  induction names using List.reverseRecOn generalizing others with
  | nil =>
    rcases List.eq_nil_or_concat' others with rfl | ⟨others, other, rfl⟩
    · rfl
    · exact absurd h.symm (fontStack_ne_empty others other)
  | append_singleton names name ih =>
    rcases List.eq_nil_or_concat' others with rfl | ⟨others, other, rfl⟩
    · exact absurd h (fontStack_ne_empty names name)
    · have htext := congrArg String.toList h
      rw [toList_fontStack_append, toList_fontStack_append] at htext
      obtain ⟨rfl, hbefore⟩ := familyText_cancel htext
      rw [ih (fontStack_of_before hbefore)]

/-- **Font stacks.** A stack is read as the families that it was made of exactly if all their names
are readable, and different lists of families have different stacks. -/
theorem fontStack_reads (names : List String) :
    (readStack? (fontStack names) = some names ↔
      ∀ n ∈ names, ∀ c ∈ n.toList, c ≠ '\\' ∧ isNewline c = false ∧ c ≠ '\x00') ∧
    ∀ others, fontStack names = fontStack others → names = others :=
  ⟨readStack?_fontStack names, fun _ h => fontStack_injective h⟩

theorem fontStack_reads_quoted :
    (∀ n ∈ ["Open \"Sans\", bold", "-", ""], ∀ c ∈ n.toList,
      c ≠ '\\' ∧ isNewline c = false ∧ c ≠ '\x00') ∧
    fontStack ["Open \"Sans\", bold", "-", ""] = "\"Open \\\"Sans\\\", bold\", \"-\", \"\"" ∧
    readStack? (fontStack ["Open \"Sans\", bold", "-", ""]) =
      some ["Open \"Sans\", bold", "-", ""] :=
  have hnames : ∀ n ∈ ["Open \"Sans\", bold", "-", ""], ∀ c ∈ n.toList,
      c ≠ '\\' ∧ isNewline c = false ∧ c ≠ '\x00' := by decide +kernel
  ⟨hnames, by decide +kernel, (fontStack_reads _).1.2 hnames⟩

/-- A backslash is written as it is, and read as the start of an escape. -/
theorem fontStack_backslash :
    fontStack ["a\\z"] = "\"a\\z\"" ∧ readStack? (fontStack ["a\\z"]) = some ["az"] ∧
      readStack? (fontStack ["a\\z"]) ≠ some ["a\\z"] := by
  decide +kernel

end StyleBuild
