import StyleBuild.Css.Token.Lexer
import StyleBuild.Proofs.Directive.Quoting
import StyleBuild.Proofs.Directive.Splicing

/-!
# Directives for layers that are not known

The search for directives reads the name of a layer as letters and hyphens. Of an identifier it
takes those in front, behind what it takes for white space (`layerOf`), and leaves the rest. So
generation fails with the whole identifier if there are only letters and hyphens in it, and goes on
if the part that it reads is the name of a layer, or empty (`run_refuses`).
-/

namespace StyleBuild

namespace Directive

/-! ## Characters on their own -/

/-- A character starts no comment, no string and no directive. -/
def IsPlain (c : Char) : Prop := c ∉ ['/', '"', '\'', '@']

instance : DecidablePred IsPlain := fun c => inferInstanceAs (Decidable (c ∉ ['/', '"', '\'', '@']))

theorem isPlain_of_isBlank {c : Char} (h : isBlank c = true) : IsPlain c := by
  intro hc
  have hgo := (not_goesOn_of_mem hc).2
  simp [goesOn, h] at hgo

theorem isPlain_of_isNameChar {c : Char} (h : Css.isNameChar c = true) : IsPlain c := by
  intro hc
  simp only [List.mem_cons, List.not_mem_nil, or_false] at hc
  rcases hc with rfl | rfl | rfl | rfl <;> exact absurd h (by decide)

theorem next_of_isPlain {c : Char} (h : IsPlain c) (cs : List Char) :
    next c cs = (.other [c], cs) := by
  simp only [IsPlain, List.mem_cons, List.not_mem_nil, or_false, not_or] at h
  obtain ⟨hslash, hdouble, hsingle, hat⟩ := h
  unfold next
  split
  · exact absurd rfl hslash
  · exact absurd rfl hat
  · rw [if_neg (by simp [hdouble, hsingle])]

theorem pieces_append_of_isPlain {cs : List Char} (h : ∀ c ∈ cs, IsPlain c) (q : List Char) :
    pieces (cs ++ q) = cs.map (fun c => .other [c]) ++ pieces q := by
  induction cs with
  | nil => rfl
  | cons c cs ih =>
    obtain ⟨hc, hcs⟩ := List.forall_mem_cons.1 h
    rw [List.cons_append, pieces_cons, next_of_isPlain hc, ih hcs]
    rfl

/-! ## Identifiers -/

theorem IsDirective.isLayerChar {layer text : List Char} (h : IsDirective layer text) :
    ∀ c ∈ layer, Directive.isLayerChar c = true := by
  obtain ⟨-, -, hlayer, -, -, -⟩ := h
  exact hlayer

/-- A text is made of letters, digits, hyphens, underscores and characters beyond ASCII, and does
not start with a digit. -/
def IsIdentifier (name : List Char) : Prop :=
  name ≠ [] ∧ (∀ c ∈ name, Css.isNameChar c = true) ∧ StartsWithout Char.isDigit name

instance (p : Char → Bool) : (cs : List Char) → Decidable (StartsWithout p cs)
  | [] => isTrue nofun
  | c :: _ => decidable_of_iff (p c = false) (by simp [StartsWithout])

instance (name : List Char) : Decidable (IsIdentifier name) :=
  letI : Decidable (∀ c ∈ name, Css.isNameChar c = true) := List.decidableBAll _ name
  inferInstanceAs (Decidable (name ≠ [] ∧ (∀ c ∈ name, Css.isNameChar c = true) ∧
    StartsWithout Char.isDigit name))

/-- What the search for directives takes for the layer where an identifier stands. -/
def layerOf (name : List Char) : List Char := (name.dropWhile isBlank).takeWhile isLayerChar

theorem layerOf_eq_self {name : List Char} (h : ∀ c ∈ name, isLayerChar c = true) :
    layerOf name = name := by
  have hstart : StartsWithout isBlank name := fun c hc =>
    isBlank_eq_false_of_isLayerChar (h c (List.mem_of_head? hc))
  have hdrop : name.dropWhile isBlank = name := dropWhile_run (List.forall_mem_nil _) hstart
  rw [layerOf, hdrop, List.takeWhile_eq_self_iff]
  exact h

section AtName

variable {blanks name : List Char} (hblanks : ∀ c ∈ blanks, isBlank c = true) (back : List Char)

include hblanks in
/-- An identifier from which no layer can be read makes no directive. -/
theorem directive?_of_layerOf_eq_nil (hlayer : layerOf name = []) :
    directive? (keyword ++ (blanks ++ (name ++ ';' :: back))) = none := by
  have hnamed :
      ((blanks ++ (name ++ ';' :: back)).dropWhile isBlank).takeWhile isLayerChar = [] := by
    rw [List.dropWhile_append_of_pos hblanks, dropWhile_append_cons (by decide),
      takeWhile_append_cons (by decide)]
    exact hlayer
  rw [directive?, if_pos (List.isPrefixOf_iff_prefix.2 ⟨_, rfl⟩), List.drop_left, directiveRest_eq,
    hnamed]
  simp

/-- What comes after a directive starts with what is left of the name, up to the semicolon. -/
theorem afterEnding_left {left : List Char} (hleft : ∀ c ∈ left, IsPlain c) :
    ∃ more, (∀ c ∈ more, IsPlain c) ∧ afterEnding (left ++ ';' :: back) = more ++ back := by
  have hdrop : ∀ c ∈ left.dropWhile isBlank, IsPlain c := fun c hc =>
    hleft c ((List.dropWhile_suffix isBlank).mem hc)
  rw [afterEnding, dropWhile_append_cons (by decide)]
  cases hd : left.dropWhile isBlank with
  | nil => exact ⟨[], by simp, rfl⟩
  | cons c cs =>
    rw [hd] at hdrop
    obtain ⟨hc, hcs⟩ := List.forall_mem_cons.1 hdrop
    have hend : ∀ c ∈ cs ++ [';'], IsPlain c := by
      rw [List.forall_mem_append]
      exact ⟨hcs, by decide⟩
    by_cases hsemi : c = ';'
    · subst hsemi
      exact ⟨cs ++ [';'], hend, by simp [takeSemicolon]⟩
    · exact ⟨c :: (cs ++ [';']), List.forall_mem_cons.2 ⟨hc, hend⟩, by simp [takeSemicolon, hsemi]⟩

include hblanks in
/-- An identifier from which a layer can be read makes a directive for it. -/
theorem directive?_of_layerOf_ne_nil (hblanks' : blanks ≠ []) (hlayer : layerOf name ≠ []) :
    ∃ text, directive? (keyword ++ (blanks ++ (name ++ ';' :: back))) =
        some (.directive (layerOf name) text,
          afterEnding ((name.dropWhile isBlank).dropWhile isLayerChar ++ ';' :: back)) := by
  have hsplit : blanks ++ (name ++ ';' :: back) = (blanks ++ name.takeWhile isBlank) ++
      (layerOf name ++ ((name.dropWhile isBlank).dropWhile isLayerChar ++ ';' :: back)) := by
    rw [layerOf, ← List.append_assoc (List.takeWhile isLayerChar _),
      List.takeWhile_append_dropWhile, List.append_assoc, ← List.append_assoc (List.takeWhile _ _),
      List.takeWhile_append_dropWhile]
  have hmore : ∀ c ∈ blanks ++ name.takeWhile isBlank, isBlank c = true := fun c hc =>
    (List.mem_append.1 hc).elim (hblanks c) List.mem_takeWhile_imp
  have hbehind : StartsWithout isLayerChar
      ((name.dropWhile isBlank).dropWhile isLayerChar ++ ';' :: back) :=
    (startsWithout_dropWhile _ _).append fun _ => by
      rintro _ ⟨⟩
      decide
  rw [hsplit]
  exact ⟨_, directive?_eq hmore (by simp [hblanks']) (fun c hc => List.mem_takeWhile_imp hc) hlayer
    hbehind⟩

end AtName

end Directive

namespace Generation

open Directive

/-! ## Failures -/

/-- The failure for a layer that is not known. -/
def refusal (layer : List Char) : TransformError :=
  .other ("unknown @tailwind directive '" ++ String.ofList layer ++ "'")

theorem refusal_inj {a b : List Char} (h : refusal a = refusal b) : a = b := by
  simp only [refusal, TransformError.other.injEq, String.append_left_inj,
    String.append_right_inj] at h
  exact String.ofList_injective h

theorem unknownLayer?_append (ps qs : List Piece) :
    unknownLayer? (ps ++ qs) = (unknownLayer? ps).or (unknownLayer? qs) := by
  fun_induction unknownLayer? ps with
  | case1 => rfl
  | case2 t ps ih => simpa [unknownLayer?] using ih
  | case3 layer t ps h ih => rw [List.cons_append, unknownLayer?, if_pos h, ih]
  | case4 layer t ps h => rw [List.cons_append, unknownLayer?, if_neg h, Option.some_or]

/-- Characters on their own do not matter for the failure. -/
theorem unknownLayer?_of_isPlain {cs : List Char} (h : ∀ c ∈ cs, IsPlain c) (q : List Char) :
    unknownLayer? (pieces (cs ++ q)) = unknownLayer? (pieces q) := by
  rw [pieces_append_of_isPlain h]
  induction cs with
  | nil => rfl
  | cons c cs ih => exact ih (List.forall_mem_cons.1 h).2

section AtName

variable {blanks name : List Char} (hblanks : ∀ c ∈ blanks, isBlank c = true)
  (hblanks' : blanks ≠ []) (hname : ∀ c ∈ name, IsPlain c) (back : List Char)

include hblanks hname in
theorem unknownLayer?_of_layerOf_eq_nil (hlayer : layerOf name = []) :
    unknownLayer? (pieces (keyword ++ (blanks ++ (name ++ ';' :: back)))) =
      unknownLayer? (pieces back) := by
  have hnone := directive?_of_layerOf_eq_nil hblanks back hlayer
  have hkeyword : keyword = '@' :: keyword.tail := by decide
  have hplain : ∀ c ∈ keyword.tail ++ (blanks ++ (name ++ [';'])), IsPlain c := by
    simp only [List.forall_mem_append]
    exact ⟨by decide, fun c hc => isPlain_of_isBlank (hblanks c hc), hname, by decide⟩
  have hnext : next '@' (keyword.tail ++ (blanks ++ (name ++ ';' :: back))) =
      (.other ['@'], (keyword.tail ++ (blanks ++ (name ++ [';']))) ++ back) := by
    rw [hkeyword, List.cons_append] at hnone
    simp [next, hnone]
  rw [hkeyword, List.cons_append, pieces_cons, hnext]
  exact unknownLayer?_of_isPlain hplain back

include hblanks hblanks' hname in
theorem unknownLayer?_of_layerOf_ne_nil (hlayer : layerOf name ≠ []) :
    unknownLayer? (pieces (keyword ++ (blanks ++ (name ++ ';' :: back)))) =
      if layerOf name ∈ layers then unknownLayer? (pieces back) else some (layerOf name) := by
  obtain ⟨text, hfound⟩ := directive?_of_layerOf_ne_nil hblanks back hblanks' hlayer
  have hleft : ∀ c ∈ (name.dropWhile isBlank).dropWhile isLayerChar, IsPlain c := fun c hc =>
    hname c ((List.dropWhile_suffix isBlank).mem ((List.dropWhile_suffix isLayerChar).mem hc))
  obtain ⟨more, hmore, hafter⟩ := afterEnding_left back hleft
  have hkeyword : keyword = '@' :: keyword.tail := by decide
  have hnext : next '@' (keyword.tail ++ (blanks ++ (name ++ ';' :: back))) =
      (.directive (layerOf name) text, more ++ back) := by
    rw [hkeyword, List.cons_append, hafter] at hfound
    simp [next, hfound]
  rw [hkeyword, List.cons_append, pieces_cons, hnext, unknownLayer?, unknownLayer?_of_isPlain hmore]
  simp

end AtName

theorem result_run_eq_error_iff {theme : Theme} {safelist : NameSet} {ctx : StageContext}
    {css : String} {e : TransformError} :
    (run theme safelist ctx css).result = .error e ↔
      ∃ layer, unknownLayer? (pieces css.toList) = some layer ∧ e = refusal layer := by
  unfold run
  cases hu : unknownLayer? (pieces css.toList) with
  | none => simp [hu]
  | some layer => simp [hu, refusal, eq_comm]

/-- **A directive for a layer that is not known is refused** behind text without such directives,
with the name of the layer if that has letters and hyphens only. Of another identifier only a part
is read. If that part is empty or the name of a layer, then generation fails exactly if it fails for
what stands behind. -/
theorem run_refuses (theme : Theme) (safelist : NameSet) (ctx : StageContext) {css : String}
    {front blanks name back : List Char} {ss : List Segment}
    (hcss : css.toList = front ++ (keyword ++ (blanks ++ (name ++ ';' :: back))))
    (hfront : segments? front = some ss) (hclear : ∀ s ∈ ss, s.IsClear)
    (hblanks : ∀ c ∈ blanks, isBlank c = true) (hblanks' : blanks ≠ [])
    (hname : IsIdentifier name) (hunknown : name ∉ layers) :
    ((∀ c ∈ name, isLayerChar c = true) → ∃ layer,
      (run theme safelist ctx css).result = .error (refusal layer) ∧
        (layer = name ∨ layer ∉ layers ∧ ∃ o, .opened o ∈ ss ∧ HasDirective layer o)) ∧
    ((∀ o, .opened o ∈ ss → ∀ layer, HasDirective layer o → layer ∈ layers) →
      ((run theme safelist ctx css).result = .error (refusal name) ↔
        ∀ c ∈ name, isLayerChar c = true) ∧
      (layerOf name ≠ [] → layerOf name ∉ layers →
        (run theme safelist ctx css).result = .error (refusal (layerOf name))) ∧
      (layerOf name = [] ∨ layerOf name ∈ layers → ∀ e,
        (run theme safelist ctx css).result = .error e ↔
          (run theme safelist ctx (String.ofList back)).result = .error e)) := by
  have hplain : ∀ c ∈ name, IsPlain c := fun c hc => isPlain_of_isNameChar (hname.2.1 c hc)
  have hstops : Stops (keyword ++ (blanks ++ (name ++ ';' :: back))) := by
    rintro _ ⟨⟩
    decide
  have hall : unknownLayer? (pieces css.toList) = (unknownLayer? (ss.flatMap Segment.pieces)).or
      (unknownLayer? (pieces (keyword ++ (blanks ++ (name ++ ';' :: back))))) := by
    rw [hcss, pieces_append_of_segments? hfront hclear hstops, unknownLayer?_append]
  have hpart := unknownLayer?_of_layerOf_ne_nil hblanks hblanks' hplain back
  have hwhole : (∀ c ∈ name, isLayerChar c = true) →
      unknownLayer? (pieces (keyword ++ (blanks ++ (name ++ ';' :: back)))) = some name :=
    fun hletters => by
      rw [layerOf_eq_self hletters] at hpart
      rw [hpart hname.1, if_neg hunknown]
  constructor
  · intro hletters
    cases hu : unknownLayer? (ss.flatMap Segment.pieces) with
    | none =>
      rw [hu, Option.none_or, hwhole hletters] at hall
      exact ⟨name, result_run_eq_error_iff.2 ⟨name, hall, rfl⟩, .inl rfl⟩
    | some layer =>
      rw [hu, Option.some_or] at hall
      obtain ⟨⟨d, hd⟩, hlayer⟩ := mem_of_unknownLayer? hu
      obtain ⟨o, ho, hd⟩ := mem_pieces_segments hd
      exact ⟨layer, result_run_eq_error_iff.2 ⟨layer, hall, rfl⟩,
        .inr ⟨hlayer, o, ho, hasDirective_of_mem_pieces (hclear _ ho) hd⟩⟩
  · intro hknown
    rw [← unknownLayer?_segments hclear] at hknown
    rw [hknown, Option.none_or] at hall
    simp only [result_run_eq_error_iff, hall, String.toList_ofList]
    refine ⟨⟨?_, fun hletters => ⟨name, hwhole hletters, rfl⟩⟩, fun hne hlayer => ?_,
      fun hlayer e => ?_⟩
    · rintro ⟨layer, hlayer, he⟩
      obtain ⟨⟨d, hd⟩, -⟩ := mem_of_unknownLayer? hlayer
      rw [← refusal_inj he] at hd
      exact (isProper_of_mem_pieces _ hd : IsDirective _ _).isLayerChar
    · exact ⟨_, by rw [hpart hne, if_neg hlayer], rfl⟩
    · by_cases hne : layerOf name = []
      · rw [unknownLayer?_of_layerOf_eq_nil hblanks hplain back hne]
      · rw [hpart hne, if_pos (hlayer.resolve_left hne)]

/-- A layer that is not known, behind one that is. -/
theorem run_refuses_sample :
    let front := "/* @tailwind a; */ @tailwind base;\n".toList
    let css := "/* @tailwind a; */ @tailwind base;\n@tailwind base-layer; p \x7b\x7d"
    let ss : List Segment :=
      [.comment "/* @tailwind a; */".toList, .opened " @tailwind base;\n".toList]
    css.toList = front ++ (keyword ++ ([' '] ++ ("base-layer".toList ++ ';' ::
        " p \x7b\x7d".toList))) ∧
      segments? front = some ss ∧ (∀ s ∈ ss, s.IsClear) ∧ IsIdentifier "base-layer".toList ∧
      "base-layer".toList ∉ layers ∧
      (∀ o, .opened o ∈ ss → ∀ layer, HasDirective layer o → layer ∈ layers) ∧
      (run .empty {} {} css).result = .error (refusal "base-layer".toList) := by
  intro front css ss
  have hcss : css.toList = front ++ (keyword ++ ([' '] ++ ("base-layer".toList ++ ';' ::
      " p \x7b\x7d".toList))) := by decide +kernel
  have hfront : segments? front = some ss := by decide +kernel
  have hclear : ∀ s ∈ ss, s.IsClear := by decide +kernel
  have hname : IsIdentifier "base-layer".toList := by decide +kernel
  have hunknown : "base-layer".toList ∉ layers := by decide +kernel
  have hknown : ∀ o, .opened o ∈ ss → ∀ layer, HasDirective layer o → layer ∈ layers := by
    rw [← unknownLayer?_segments hclear]
    decide +kernel
  exact ⟨hcss, hfront, hclear, hname, hunknown, hknown,
    ((run_refuses .empty {} {} hcss hfront hclear (by decide) (by decide) hname hunknown).2
      hknown).1.2 (by decide +kernel)⟩

/-- Only the start of this identifier is read, which is the name of a layer. The rest of it stays in
the sheet. -/
theorem run_takes_start :
    let css := "@tailwind utilities2;"
    css.toList = keyword ++ ([' '] ++ ("utilities2".toList ++ [';'])) ∧
      IsIdentifier "utilities2".toList ∧ "utilities2".toList ∉ layers ∧
      layerOf "utilities2".toList = "utilities".toList ∧
      (run .empty {} {} css).result = .ok "2;" := by
  decide +kernel

end Generation

end StyleBuild
