import StyleBuild.Text.Blank

/-!
# Directives

A sheet asks for generated text by directives such as `@tailwind utilities;`. Finding them splits
the sheet into pieces that make up the whole sheet again. Comments and strings are pieces of their
own, so that no directive is found inside them.
-/

namespace StyleBuild.Directive

/-- A piece of a sheet: a directive for a layer, or other text. -/
inductive Piece where
  | other (text : List Char)
  | directive (layer : List Char) (text : List Char)
  deriving DecidableEq, Repr, Inhabited

/-- The text of a piece. -/
def Piece.text : Piece → List Char
  | .other t => t
  | .directive _ t => t

/-- The inside and the end of a comment, and what comes after it. A comment that is not closed
goes on to the end. -/
def commentRest : List Char → List Char × List Char
  | '*' :: '/' :: cs => (['*', '/'], cs)
  | c :: cs => (c :: (commentRest cs).1, (commentRest cs).2)
  | [] => ([], [])

/-- The inside and the end of a string, and what comes after it. A string has to be closed on its
line; a backslash takes the next character with it. -/
def stringRest (quote : Char) : List Char → Option (List Char × List Char)
  | [] => none
  | ['\\'] => none
  | '\\' :: c :: cs => (stringRest quote cs).map fun (a, b) => ('\\' :: c :: a, b)
  | c :: cs =>
    if c = quote then some ([c], cs)
    else if c = '\n' then none
    else (stringRest quote cs).map fun (a, b) => (c :: a, b)

/-- What starts a directive. -/
def keyword : List Char := "@tailwind".toList

/-- Whether a character may stand in the name of a layer. -/
def isLayerChar (c : Char) : Bool := c.isAlpha || c == '-'

/-- The text without a semicolon in front, with that semicolon. -/
def takeSemicolon : List Char → List Char × List Char
  | ';' :: cs => ([';'], cs)
  | cs => ([], cs)

/-- The layer and the end of a directive, behind its keyword, and what comes after it. The white
space behind a layer belongs to the directive, and so does a semicolon there. -/
def directiveRest (after : List Char) : Option (Piece × List Char) :=
  let blanks := after.takeWhile isBlank
  let named := after.dropWhile isBlank
  let layer := named.takeWhile isLayerChar
  let ended := named.dropWhile isLayerChar
  let closing := takeSemicolon (ended.dropWhile isBlank)
  if blanks.isEmpty || layer.isEmpty then none
  else some (.directive layer
    (keyword ++ (blanks ++ (layer ++ (ended.takeWhile isBlank ++ closing.1)))), closing.2)

/-- The directive in front of a text, and what comes after it. -/
def directive? (cs : List Char) : Option (Piece × List Char) :=
  if keyword.isPrefixOf cs then directiveRest (cs.drop keyword.length) else none

/-- The first piece of a text that is not empty, and what comes after it. -/
def next (c : Char) (cs : List Char) : Piece × List Char :=
  match c, cs with
  | '/', '*' :: rest => (.other ('/' :: '*' :: (commentRest rest).1), (commentRest rest).2)
  | '@', _ => (directive? (c :: cs)).getD (.other [c], cs)
  | _, _ =>
    if c = '"' ∨ c = '\'' then
      match stringRest c cs with
      | some (inside, rest) => (.other (c :: inside), rest)
      | none => (.other [c], cs)
    else (.other [c], cs)

theorem commentRest_append (cs : List Char) : (commentRest cs).1 ++ (commentRest cs).2 = cs := by
  fun_induction commentRest cs with
  | case1 => rfl
  | case2 c cs _ ih => simp [ih]
  | case3 => rfl

theorem stringRest_append {quote : Char} {cs inside rest : List Char}
    (h : stringRest quote cs = some (inside, rest)) : inside ++ rest = cs := by
  fun_induction stringRest quote cs generalizing inside rest with
  | case1 => simp at h
  | case2 => simp at h
  | case3 c cs ih =>
    obtain ⟨⟨a, b⟩, hab, he⟩ := Option.map_eq_some_iff.1 h
    simp only [Prod.mk.injEq] at he
    obtain ⟨rfl, rfl⟩ := he
    simp [ih hab]
  | case4 =>
    simp only [Option.some.injEq, Prod.mk.injEq] at h
    obtain ⟨rfl, rfl⟩ := h
    rfl
  | case5 => simp at h
  | case6 c cs _ _ _ _ ih =>
    obtain ⟨⟨a, b⟩, hab, he⟩ := Option.map_eq_some_iff.1 h
    simp only [Prod.mk.injEq] at he
    obtain ⟨rfl, rfl⟩ := he
    simp [ih hab]

theorem takeSemicolon_append (cs : List Char) :
    (takeSemicolon cs).1 ++ (takeSemicolon cs).2 = cs := by
  unfold takeSemicolon; split <;> rfl

theorem directiveRest_append {after rest : List Char} {p : Piece}
    (h : directiveRest after = some (p, rest)) : p.text ++ rest = keyword ++ after := by
  unfold directiveRest at h
  simp only at h
  split at h
  · simp at h
  · simp only [Option.some.injEq, Prod.mk.injEq] at h
    obtain ⟨rfl, rfl⟩ := h
    simp only [Piece.text, List.append_assoc, takeSemicolon_append,
      List.takeWhile_append_dropWhile]

theorem directive?_append {cs rest : List Char} {p : Piece} (h : directive? cs = some (p, rest)) :
    p.text ++ rest = cs := by
  unfold directive? at h
  split at h
  · next hk =>
    obtain ⟨after, rfl⟩ := List.isPrefixOf_iff_prefix.1 hk
    rw [List.drop_left] at h
    exact directiveRest_append h
  · simp at h

theorem text_directiveRest_ne_nil {after rest : List Char} {p : Piece}
    (h : directiveRest after = some (p, rest)) : p.text ≠ [] := by
  unfold directiveRest at h
  simp only at h
  split at h
  · simp at h
  · simp only [Option.some.injEq, Prod.mk.injEq] at h
    obtain ⟨rfl, rfl⟩ := h
    exact List.append_ne_nil_of_left_ne_nil (by decide) _

theorem text_directive?_ne_nil {cs rest : List Char} {p : Piece}
    (h : directive? cs = some (p, rest)) : p.text ≠ [] := by
  unfold directive? at h
  split at h
  · exact text_directiveRest_ne_nil h
  · simp at h

theorem next_append (c : Char) (cs : List Char) :
    (next c cs).1.text ++ (next c cs).2 = c :: cs := by
  unfold next
  split
  · simp [Piece.text, commentRest_append]
  · cases h : directive? ('@' :: cs) with
    | none => simp [Piece.text]
    | some d => simpa using directive?_append h
  · split
    · split
      · next h => simp [Piece.text, stringRest_append h]
      · rfl
    · rfl

theorem text_next_ne_nil (c : Char) (cs : List Char) : (next c cs).1.text ≠ [] := by
  unfold next
  split
  · simp [Piece.text]
  · cases h : directive? ('@' :: cs) with
    | none => simp [Piece.text]
    | some d => simpa using text_directive?_ne_nil h
  · split
    · split <;> simp [Piece.text]
    · simp [Piece.text]

theorem length_next (c : Char) (cs : List Char) : (next c cs).2.length < (c :: cs).length := by
  have h := congrArg List.length (next_append c cs)
  have hp := List.length_pos_iff.2 (text_next_ne_nil c cs)
  rw [List.length_append] at h
  omega

/-- The pieces of a text. -/
def pieces : List Char → List Piece
  | [] => []
  | c :: cs => (next c cs).1 :: pieces (next c cs).2
  termination_by cs => cs.length
  decreasing_by exact length_next c cs

theorem pieces_cons (c : Char) (cs : List Char) :
    pieces (c :: cs) = (next c cs).1 :: pieces (next c cs).2 := by
  rw [pieces]

/-- The pieces of a text make up the text. -/
theorem flatMap_text_pieces (cs : List Char) : (pieces cs).flatMap Piece.text = cs := by
  fun_induction pieces cs with
  | case1 => rfl
  | case2 c cs ih => rw [List.flatMap_cons, ih, next_append]

end StyleBuild.Directive
