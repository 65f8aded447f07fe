import Mathlib.Data.List.Infix
import StyleBuild.Proofs.Directive.Form

/-!
# Comments and strings of style sheets

Style sheets are lexed into comments, strings and open text (`segments?`). A backslash takes the
next character with it: in a string, where it may also stand in front of a line break, and in open
text, where an escaped quote opens no string. The search for directives knows escapes in strings
only. Where that makes no difference (`Segment.IsClear`), the pieces of a sheet are its comments,
its strings, and the pieces of its open text (`pieces_of_segments?`).
-/

namespace StyleBuild.Directive

/-! ## Lexing -/

/-- Whether a character breaks a line in a style sheet. -/
def isLineBreak (c : Char) : Bool := c == '\n' || c == '\r' || c == '\x0c'

/-- The inside and the end of a comment that is closed, and what comes after it. -/
def closedComment : List Char → Option (List Char × List Char)
  | [] => none
  | '*' :: '/' :: cs => some (['*', '/'], cs)
  | c :: cs => (closedComment cs).map fun (a, b) => (c :: a, b)

/-- The inside and the end of a string that is closed, and what comes after it. -/
def closedString (quote : Char) : List Char → Option (List Char × List Char)
  | [] => none
  | '\\' :: '\r' :: '\n' :: cs =>
    (closedString quote cs).map fun (a, b) => ('\\' :: '\r' :: '\n' :: a, b)
  | '\\' :: c :: cs => (closedString quote cs).map fun (a, b) => ('\\' :: c :: a, b)
  | c :: cs =>
    if c = quote then some ([c], cs)
    else if isLineBreak c then none
    else (closedString quote cs).map fun (a, b) => (c :: a, b)

/-- The text up to the next comment or string, and what comes after it. -/
def openText : List Char → List Char × List Char
  | [] => ([], [])
  | '\\' :: c :: cs => ('\\' :: c :: (openText cs).1, (openText cs).2)
  | '/' :: '*' :: cs => ([], '/' :: '*' :: cs)
  | c :: cs =>
    if c = '"' ∨ c = '\'' then ([], c :: cs) else (c :: (openText cs).1, (openText cs).2)

/-- A part of a style sheet. -/
inductive Segment where
  | comment (text : List Char)
  | string (text : List Char)
  | opened (text : List Char)
  deriving DecidableEq, Repr, Inhabited

/-- The text of a segment. -/
def Segment.text : Segment → List Char
  | .comment t | .string t | .opened t => t

/-- The first segment of a text that is not empty, and what comes after it. There is none if it is
a comment or a string that is not closed. -/
def segment? (c : Char) (cs : List Char) : Option (Segment × List Char) :=
  match c, cs with
  | '/', '*' :: rest => (closedComment rest).map fun (a, b) => (.comment ('/' :: '*' :: a), b)
  | _, _ =>
    if c = '"' ∨ c = '\'' then (closedString c cs).map fun (a, b) => (.string (c :: a), b)
    else some (.opened (openText (c :: cs)).1, (openText (c :: cs)).2)

theorem closedComment_append {cs inside rest : List Char}
    (h : closedComment cs = some (inside, rest)) : inside ++ rest = cs := by
  fun_induction closedComment cs generalizing inside rest with
  | case1 => simp at h
  | case2 cs =>
    cases h
    rfl
  | case3 c cs _ ih =>
    obtain ⟨⟨a, b⟩, hab, he⟩ := Option.map_eq_some_iff.1 h
    cases he
    rw [List.cons_append, ih hab]

theorem closedString_append {quote : Char} {cs inside rest : List Char}
    (h : closedString quote cs = some (inside, rest)) : inside ++ rest = cs := by
  fun_induction closedString quote cs generalizing inside rest with
  | case1 | case5 => simp at h
  | case2 cs ih | case3 c cs _ ih | case6 c cs _ _ _ _ ih =>
    obtain ⟨⟨a, b⟩, hab, he⟩ := Option.map_eq_some_iff.1 h
    cases he
    simp [ih hab]
  | case4 =>
    cases h
    rfl

/-- A comment that is closed stays as it is with more text behind it. -/
theorem closedComment_extend {cs inside rest : List Char}
    (h : closedComment cs = some (inside, rest)) (q : List Char) :
    closedComment (cs ++ q) = some (inside, rest ++ q) := by
  fun_induction closedComment cs generalizing inside rest with
  | case1 => simp at h
  | case2 cs =>
    cases h
    rfl
  | case3 c cs hend ih =>
    obtain ⟨⟨a, b⟩, hab, he⟩ := Option.map_eq_some_iff.1 h
    cases he
    rw [List.cons_append, closedComment, ih hab]
    · rfl
    · rintro more rfl he
      cases cs with
      | nil => simp [closedComment] at hab
      | cons d cs =>
        obtain ⟨rfl, -⟩ := List.cons.inj he
        exact hend cs rfl rfl

/-- A string that is closed stays as it is with more text behind it. -/
theorem closedString_extend {quote : Char} {cs inside rest : List Char}
    (hq : quote = '"' ∨ quote = '\'') (h : closedString quote cs = some (inside, rest))
    (q : List Char) : closedString quote (cs ++ q) = some (inside, rest ++ q) := by
  have hb : quote ≠ '\\' := by rcases hq with rfl | rfl <;> decide
  fun_induction closedString quote cs generalizing inside rest with
  | case1 | case5 => simp at h
  | case2 cs ih =>
    obtain ⟨⟨a, b⟩, hab, he⟩ := Option.map_eq_some_iff.1 h
    cases he
    simp [closedString, ih hab]
  | case3 c cs hline ih =>
    obtain ⟨⟨a, b⟩, hab, he⟩ := Option.map_eq_some_iff.1 h
    cases he
    rw [List.cons_append, List.cons_append, closedString, ih hab]
    · rfl
    · rintro more rfl he
      cases cs with
      | nil => simp [closedString] at hab
      | cons d cs =>
        obtain ⟨rfl, -⟩ := List.cons.inj he
        exact hline cs rfl rfl
  | case4 cs =>
    cases h
    rw [List.cons_append, closedString, if_pos rfl]
    · exact fun _ h => absurd h hb
    · exact fun _ _ h => absurd h hb
  | case6 c cs _ hescape hquote hline ih =>
    obtain ⟨⟨a, b⟩, hab, he⟩ := Option.map_eq_some_iff.1 h
    cases he
    have hc : c ≠ '\\' := by
      rintro rfl
      cases cs with
      | nil => simp [closedString] at hab
      | cons d cs => exact hescape d cs rfl rfl
    rw [List.cons_append, closedString, if_neg hquote, if_neg hline, ih hab]
    · rfl
    · exact fun _ h => absurd h hc
    · exact fun _ _ h => absurd h hc

theorem openText_append (cs : List Char) : (openText cs).1 ++ (openText cs).2 = cs := by
  fun_induction openText cs <;> simp_all

/-- What a comment, a string or a directive starts with, or the end. -/
def Stops (cs : List Char) : Prop := ∀ c ∈ cs.head?, c ∈ ['/', '"', '\'', '@']

theorem stops_nil : Stops [] := by simp [Stops]

theorem Stops.append {cs q : List Char} (h : Stops cs) (hq : Stops q) : Stops (cs ++ q) := by
  cases cs with
  | nil => exact hq
  | cons c cs => exact fun d hd => h d (by simpa using hd)

/-- What a directive stops at is not in the keyword behind its first character. -/
theorem not_goesOn_of_mem {c : Char} (h : c ∈ ['/', '"', '\'', '@']) :
    c ∉ keyword.tail ∧ goesOn c = false := by
  simp only [List.mem_cons, List.not_mem_nil, or_false] at h
  rcases h with rfl | rfl | rfl | rfl <;> decide

theorem Stops.startsWithout {cs : List Char} (h : Stops cs) : StartsWithout goesOn cs :=
  fun c hc => (not_goesOn_of_mem (h c hc)).2

theorem stops_openText (cs : List Char) : Stops (openText cs).2 := by
  fun_induction openText cs with
  | case1 => simp [Stops]
  | case2 c cs ih => exact ih
  | case3 cs =>
    rintro _ ⟨⟩
    decide
  | case4 c cs _ _ hq =>
    rintro _ ⟨⟩
    rcases hq with rfl | rfl <;> decide
  | case5 c cs _ _ _ ih => exact ih

/-- What the first segment of a text can be: a comment, a string, or open text. -/
theorem segment?_cases {c : Char} {cs rest : List Char} {s : Segment}
    (h : segment? c cs = some (s, rest)) :
    (∃ body inside, c = '/' ∧ cs = '*' :: body ∧ closedComment body = some (inside, rest) ∧
        s = .comment ('/' :: '*' :: inside)) ∨
      (∃ inside, (c = '"' ∨ c = '\'') ∧ closedString c cs = some (inside, rest) ∧
        s = .string (c :: inside)) ∨
      ∃ t, t ≠ [] ∧ c :: cs = t ++ rest ∧ Stops rest ∧ s = .opened t := by
  unfold segment? at h
  split at h
  · next body =>
    obtain ⟨⟨inside, _⟩, hinside, he⟩ := Option.map_eq_some_iff.1 h
    cases he
    exact .inl ⟨body, inside, rfl, rfl, hinside, rfl⟩
  · split at h
    · next hq =>
      obtain ⟨⟨inside, _⟩, hinside, he⟩ := Option.map_eq_some_iff.1 h
      cases he
      exact .inr (.inl ⟨inside, hq, hinside, rfl⟩)
    · cases h
      refine .inr (.inr ⟨_, ?_, (openText_append _).symm, stops_openText _, rfl⟩)
      unfold openText
      split <;> simp_all

theorem segment?_append {c : Char} {cs rest : List Char} {s : Segment}
    (h : segment? c cs = some (s, rest)) : s.text ++ rest = c :: cs ∧ s.text ≠ [] := by
  obtain ⟨body, inside, rfl, rfl, hc, rfl⟩ | ⟨inside, -, hs, rfl⟩ | ⟨t, ht, he, -, rfl⟩ :=
    segment?_cases h
  · simp [Segment.text, closedComment_append hc]
  · simp [Segment.text, closedString_append hs]
  · exact ⟨he.symm, ht⟩

theorem length_segment? {c : Char} {cs rest : List Char} {s : Segment}
    (h : segment? c cs = some (s, rest)) : rest.length < (c :: cs).length := by
  obtain ⟨happend, hne⟩ := segment?_append h
  have hpos := List.length_pos_iff.2 hne
  rw [← happend, List.length_append]
  omega

/-- The segments of a style sheet in which all comments and strings are closed. -/
def segments? : List Char → Option (List Segment)
  | [] => some []
  | c :: cs =>
    match _h : segment? c cs with
    | none => none
    | some (s, rest) => (segments? rest).map (s :: ·)
  termination_by cs => cs.length
  decreasing_by exact length_segment? _h

/-- The segments of a style sheet make up the sheet. -/
theorem flatMap_text_segments? {cs : List Char} {ss : List Segment} (h : segments? cs = some ss) :
    ss.flatMap Segment.text = cs := by
  fun_induction segments? cs generalizing ss with
  | case1 =>
    cases h
    rfl
  | case2 => simp at h
  | case3 c cs s rest hs ih =>
    obtain ⟨ss, hss, rfl⟩ := Option.map_eq_some_iff.1 h
    rw [List.flatMap_cons, ih hss, (segment?_append hs).1]

/-! ## Pieces -/

/-- A text has no quotes, and no start of a comment. -/
structure IsOpen (t : List Char) : Prop where
  double : '"' ∉ t
  single : '\'' ∉ t
  slash : ¬['/', '*'] <:+: t

theorem IsOpen.of_infix {t u : List Char} (h : IsOpen t) (hu : u <:+: t) : IsOpen u :=
  ⟨fun hm => h.double (hu.mem hm), fun hm => h.single (hu.mem hm), fun hi => h.slash (hi.trans hu)⟩

/-- Whether the search for directives sees a segment as it is lexed: a string has no backslash in
front of a carriage return and a line feed, and open text no backslash in front of a quote or of
what would start a comment. -/
def Segment.IsClear : Segment → Prop
  | .comment _ => True
  | .string t => ¬['\\', '\r', '\n'] <:+: t
  | .opened t => IsOpen t

instance (t : List Char) : Decidable (IsOpen t) :=
  decidable_of_iff ('"' ∉ t ∧ '\'' ∉ t ∧ ¬['/', '*'] <:+: t)
    ⟨fun ⟨hd, hs, hc⟩ => ⟨hd, hs, hc⟩, fun ⟨hd, hs, hc⟩ => ⟨hd, hs, hc⟩⟩

instance : DecidablePred Segment.IsClear
  | .comment _ => inferInstanceAs (Decidable True)
  | .string t => inferInstanceAs (Decidable ¬['\\', '\r', '\n'] <:+: t)
  | .opened t => inferInstanceAs (Decidable (IsOpen t))

/-- The pieces of a segment. -/
def Segment.pieces : Segment → List Piece
  | .comment t | .string t => [.other t]
  | .opened t => Directive.pieces t

theorem commentRest_of_closedComment {cs : List Char} {found : List Char × List Char}
    (h : closedComment cs = some found) : commentRest cs = found := by
  fun_induction closedComment cs generalizing found with
  | case1 => simp at h
  | case2 cs =>
    cases h
    rfl
  | case3 c cs hend ih =>
    obtain ⟨x, hx, rfl⟩ := Option.map_eq_some_iff.1 h
    rw [commentRest, ih hx]
    exact hend

theorem stringRest_of_closedString {quote : Char} {cs inside rest : List Char}
    (hq : quote = '"' ∨ quote = '\'') (h : closedString quote cs = some (inside, rest))
    (hclear : ¬['\\', '\r', '\n'] <:+: inside) : stringRest quote cs = some (inside, rest) := by
  have hb : quote ≠ '\\' := by rcases hq with rfl | rfl <;> decide
  fun_induction closedString quote cs generalizing inside rest with
  | case1 | case5 => simp at h
  | case2 cs ih =>
    obtain ⟨⟨a, b⟩, hab, he⟩ := Option.map_eq_some_iff.1 h
    cases he
    exact absurd ⟨[], a, rfl⟩ hclear
  | case3 c cs _ ih =>
    obtain ⟨⟨a, b⟩, hab, he⟩ := Option.map_eq_some_iff.1 h
    cases he
    rw [stringRest, ih hab fun hi => hclear (hi.trans ⟨['\\', c], [], by simp⟩)]
    rfl
  | case4 cs _ hescape =>
    cases h
    rw [stringRest, if_pos rfl]
    · exact fun h => absurd h hb
    · exact hescape
  | case6 c cs _ hescape hquote hline ih =>
    obtain ⟨⟨a, b⟩, hab, he⟩ := Option.map_eq_some_iff.1 h
    cases he
    have hn : c ≠ '\n' := by
      rintro rfl
      exact hline (by decide)
    rw [stringRest, if_neg hquote, if_neg hn,
      ih hab fun hi => hclear (hi.trans ⟨[c], [], by simp⟩)]
    · rfl
    · rintro - rfl
      simp [closedString] at hab
    · exact hescape

theorem ending_append_startsWithout {q : List Char} (hq : StartsWithout goesOn q)
    (behind : List Char) :
    ending (behind ++ q) = ending behind ∧ afterEnding (behind ++ q) = afterEnding behind ++ q := by
  induction behind with
  | nil => simpa [ending, afterEnding, takeSemicolon] using ending_of_startsWithout hq
  | cons c cs ih =>
    unfold ending afterEnding at ih ⊢
    by_cases hb : isBlank c
    · simpa [hb] using ih
    · by_cases hc : c = ';'
      · subst hc
        exact ⟨rfl, rfl⟩
      · simp [hb, hc, takeSemicolon]

/-- A directive does not go on to what starts a comment, a string or another directive. -/
theorem directive?_append_of_stops {c : Char} {cs q : List Char} (hq : Stops q) :
    directive? (c :: cs ++ q) = (directive? (c :: cs)).map fun (p, rest) => (p, rest ++ q) := by
  cases hfound : directive? (c :: cs) with
  | none =>
    rw [Option.map_none, directive?_eq_none_iff] at *
    intro layer text rest hd he
    rcases List.append_eq_append_iff.1 he with ⟨more, hmore, -⟩ | ⟨more, rfl, hmore⟩
    · exact hfound layer text more hd hmore.symm
    · cases more with
      | nil => exact hfound layer _ [] hd (by simp)
      | cons d more =>
        subst hmore
        have hstop : d ∉ keyword.tail ∧ goesOn d = false := not_goesOn_of_mem (hq d rfl)
        have hmem := hd.mem_tail (c := d) (by simp)
        simp [hstop.1, hstop.2] at hmem
  | some found =>
    obtain ⟨p, rest⟩ := found
    obtain ⟨blanks, layer, behind, hb, hb', hl, hl', hbehind, he, rfl, rfl⟩ :=
      exists_of_directive? hfound
    have hlayer : StartsWithout isLayerChar (behind ++ q) :=
      hbehind.append fun _ => hq.startsWithout.layerChar
    obtain ⟨hending, hafter⟩ := ending_append_startsWithout hq.startsWithout behind
    rw [he]
    simp only [List.append_assoc]
    rw [directive?_eq hb hb' hl hl' hlayer, hending, hafter]
    rfl

/-- The first piece of open text, whatever comes after the text. -/
theorem IsOpen.next_append {c : Char} {cs q : List Char} (h : IsOpen (c :: cs)) (hq : Stops q) :
    next c (cs ++ q) = (directive? (c :: cs ++ q)).getD (.other [c], cs ++ q) := by
  have hd : c ≠ '"' := fun hc => h.double (by simp [hc])
  have hs : c ≠ '\'' := fun hc => h.single (by simp [hc])
  have hnone : c ≠ '@' → directive? (c :: cs ++ q) = none := fun hat => by
    rw [directive?, if_neg]
    exact fun hk => not_keyword_prefix (.inl hat) (List.isPrefixOf_iff_prefix.1 hk)
  unfold next
  split
  · next rest he =>
    cases cs with
    | nil =>
      rw [List.nil_append] at he
      exact absurd (hq '*' (by simp [he])) (by decide)
    | cons d cs =>
      obtain ⟨rfl, -⟩ := List.cons.inj he
      exact absurd ⟨[], cs, rfl⟩ h.slash
  · rfl
  · next hat _ => simp only [hd, hs, or_self, if_false, hnone hat, Option.getD_none]

theorem IsOpen.next_eq {c : Char} {cs : List Char} (h : IsOpen (c :: cs)) :
    next c cs = (directive? (c :: cs)).getD (.other [c], cs) := by
  simpa using h.next_append stops_nil

/-- The pieces of open text do not depend on what comes after it. -/
theorem pieces_append {o q : List Char} (ho : IsOpen o) (hq : Stops q) :
    pieces (o ++ q) = pieces o ++ pieces q := by
  fun_induction pieces o with
  | case1 => simp
  | case2 c cs ih =>
    have hnext : next c (cs ++ q) = ((next c cs).1, (next c cs).2 ++ q) := by
      rw [ho.next_append hq, ho.next_eq, directive?_append_of_stops hq]
      cases directive? (c :: cs) <;> rfl
    have hrest : (next c cs).2 <:+ c :: cs := ⟨_, next_append c cs⟩
    rw [List.cons_append, pieces_cons, hnext, ih (ho.of_infix hrest.isInfix), List.cons_append]

/-- The pieces of a sheet are those of its segments, whatever comes after it. -/
theorem pieces_append_of_segments? {cs q : List Char} {ss : List Segment}
    (h : segments? cs = some ss) (hclear : ∀ s ∈ ss, s.IsClear) (hq : Stops q) :
    pieces (cs ++ q) = ss.flatMap Segment.pieces ++ pieces q := by
  fun_induction segments? cs generalizing ss with
  | case1 =>
    cases h
    rfl
  | case2 => simp at h
  | case3 c cs s rest hs ih =>
    obtain ⟨ss, hss, rfl⟩ := Option.map_eq_some_iff.1 h
    obtain ⟨hsc, hclear⟩ := List.forall_mem_cons.1 hclear
    rw [List.flatMap_cons, List.append_assoc, ← ih hss hclear]
    obtain ⟨body, inside, rfl, rfl, hcomment, rfl⟩ | ⟨inside, hquote, hstring, rfl⟩ |
      ⟨t, -, he, hstop, rfl⟩ := segment?_cases hs
    · rw [List.cons_append, List.cons_append, pieces_cons, next,
        commentRest_of_closedComment (closedComment_extend hcomment q)]
      rfl
    · have hinside : ¬['\\', '\r', '\n'] <:+: inside := fun hi => hsc (hi.trans ⟨[c], [], by simp⟩)
      rw [List.cons_append, pieces_cons, next_quote hquote,
        stringRest_of_closedString hquote (closedString_extend hquote hstring q) hinside]
      rfl
    · rw [he, List.append_assoc]
      exact pieces_append hsc (hstop.append hq)

/-- **The pieces of a sheet are those of its segments** where escapes make no difference. -/
theorem pieces_of_segments? {cs : List Char} {ss : List Segment} (h : segments? cs = some ss)
    (hclear : ∀ s ∈ ss, s.IsClear) : pieces cs = ss.flatMap Segment.pieces := by
  simpa [pieces] using pieces_append_of_segments? h hclear stops_nil

/-! ## Directives in open text -/

/-- A text has a directive for a layer somewhere. -/
def HasDirective (layer o : List Char) : Prop := ∃ a d b, o = a ++ (d ++ b) ∧ IsLongest layer d b

theorem IsLongest.stops {d b layer : List Char} (h : IsLongest layer d b) : Stops (d ++ b) := by
  obtain ⟨-, -, -, -, -, -⟩ := h.isDirective
  rintro _ ⟨⟩
  decide

/-- The first piece of open text is one character, or the directive in front of the text. -/
theorem IsOpen.next_cases {c : Char} {cs : List Char} (ho : IsOpen (c :: cs)) :
    (directive? (c :: cs) = none ∧ next c cs = (.other [c], cs)) ∨
      ∃ layer d rest, IsLongest layer d rest ∧ c :: cs = d ++ rest ∧
        next c cs = (.directive layer d, rest) := by
  rw [ho.next_eq]
  cases hfound : directive? (c :: cs) with
  | none => exact .inl ⟨rfl, rfl⟩
  | some found =>
    obtain ⟨p, rest⟩ := found
    obtain ⟨layer, d, rfl, -⟩ := isDirective_of_directive? hfound
    obtain ⟨hd, he⟩ := directive?_eq_some_iff.1 hfound
    exact .inr ⟨layer, d, rest, hd, he.symm, rfl⟩

/-- A directive in open text is a piece, and what stands in front of it and behind it has pieces of
its own. -/
theorem pieces_at {a d b layer : List Char} (ho : IsOpen (a ++ (d ++ b)))
    (hd : IsLongest layer d b) :
    pieces (a ++ (d ++ b)) = pieces a ++ .directive layer d :: pieces b := by
  have hfront : IsOpen a := ho.of_infix (List.prefix_append a _).isInfix
  have hback : IsOpen (d ++ b) := ho.of_infix (List.suffix_append a _).isInfix
  have hfound := directive?_eq_some_iff.2 ⟨hd, rfl⟩
  rw [pieces_append hfront hd.stops]
  cases d with
  | nil => exact absurd rfl hd.isDirective.ne_nil
  | cons c cs =>
    rw [List.cons_append] at hback hfound ⊢
    rw [pieces_cons, hback.next_eq, hfound, Option.getD_some]

theorem hasDirective_of_mem_pieces {cs layer d : List Char} (ho : IsOpen cs)
    (h : .directive layer d ∈ pieces cs) : HasDirective layer cs := by
  fun_induction pieces cs with
  | case1 => simp at h
  | case2 c cs ih =>
    have hrest : (next c cs).2 <:+ c :: cs := ⟨_, next_append c cs⟩
    rcases List.mem_cons.1 h with h | h
    · obtain ⟨-, hn⟩ | ⟨layer', d', rest, hd, he, hn⟩ := ho.next_cases
      · rw [hn] at h
        cases h
      · rw [hn] at h
        cases h
        exact ⟨[], d, rest, he, hd⟩
    · obtain ⟨a, d, b, he, hd⟩ := ih (ho.of_infix hrest.isInfix) h
      refine ⟨(next c cs).1.text ++ a, d, b, ?_, hd⟩
      rw [List.append_assoc, ← he, next_append]

end StyleBuild.Directive
