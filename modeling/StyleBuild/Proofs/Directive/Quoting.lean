import Mathlib.Data.List.Forall2
import StyleBuild.Proofs.Directive.Lexing
import StyleBuild.Stage.Generation

/-!
# Directives outside of comments and strings

In a style sheet that the search for directives sees as it is lexed, generation leaves comments and
strings as they are, and replaces all directives of the open text (`run_keeps_quoted`). An escaped
quote in open text opens no string, but the search takes it for one that does
(`run_fills_quoted`).
-/

namespace StyleBuild.Generation

open Directive

/-! ## Replacing in pieces -/

section Replacing

variable (text : List Char) (done : Bool)

theorem replace_append (ps qs : List Piece) :
    replace text done (ps ++ qs) =
      ((replace text done ps).1 ++ (replace text (replace text done ps).2 qs).1,
        (replace text (replace text done ps).2 qs).2) := by
  fun_induction replace text done ps with
  | case1 => rfl
  | case2 done t ps ih => simp [replace, ih]
  | case3 done layer t ps h ih => simp [replace, h, ih]
  | case4 done layer t ps h ih => rw [List.cons_append, replace, if_neg h, ih]

/-- A directive is replaced by the text or taken out. -/
theorem replace_directive (layer t : List Char) (ps : List Piece) :
    ∃ fill done', (fill = [] ∨ fill = text) ∧
      replace text done (.directive layer t :: ps) =
        (fill ++ (replace text done' ps).1, (replace text done' ps).2) := by
  rw [replace]
  split
  · exact ⟨text, true, .inr rfl, rfl⟩
  · exact ⟨[], done, .inl rfl, rfl⟩

/-- What may come behind a sheet whose directives are replaced. -/
theorem expand_eq_append (ps : List Piece) :
    ∃ tail, expand text ps = (replace text false ps).1 ++ tail ∧
      (tail = [] ∨ tail = text ∨ tail = '\n' :: text) := by
  unfold expand
  rcases replace text false ps with ⟨cs, _ | _⟩
  · dsimp only
    split
    · exact ⟨[], (List.append_nil cs).symm, .inl rfl⟩
    · unfold appendOnNewLine
      split
      · exact ⟨text, rfl, .inr (.inl rfl)⟩
      · exact ⟨'\n' :: text, rfl, .inr (.inr rfl)⟩
  · exact ⟨[], (List.append_nil cs).symm, .inl rfl⟩

end Replacing

theorem unknownLayer?_eq_none_iff {ps : List Piece} : unknownLayer? ps = none ↔
    ∀ layer t, .directive layer t ∈ ps → layer ∈ layers := by
  fun_induction unknownLayer? ps with
  | case1 => simp
  | case2 t ps ih => simpa using ih
  | case3 layer t ps h ih =>
    rw [ih]
    simp only [List.contains_eq_mem, decide_eq_true_eq] at h
    simp [or_imp, forall_and, h]
  | case4 layer t ps h =>
    simp only [List.contains_eq_mem, decide_eq_true_eq] at h
    simpa using ⟨layer, ⟨t, .inl ⟨rfl, rfl⟩⟩, h⟩

theorem mem_of_unknownLayer? {ps : List Piece} {layer : List Char}
    (h : unknownLayer? ps = some layer) : (∃ t, .directive layer t ∈ ps) ∧ layer ∉ layers := by
  fun_induction unknownLayer? ps with
  | case1 => simp at h
  | case2 t ps ih => simpa using ih h
  | case3 layer' t ps hl ih =>
    obtain ⟨⟨t, ht⟩, hlayer⟩ := ih h
    exact ⟨⟨t, List.mem_cons_of_mem _ ht⟩, hlayer⟩
  | case4 layer' t ps hl =>
    cases h
    exact ⟨⟨t, List.mem_cons_self⟩, by simpa using hl⟩

/-! ## Replacing in open text -/

/-- A text and what comes of replacing the directives in it, each by a given text or by nothing. -/
inductive Expands (text : List Char) : List Char → List Char → Prop
  | nil : Expands text [] []
  | keep {c : Char} {cs out : List Char}
    (hnone : ∀ layer d rest, IsDirective layer d → d ++ rest ≠ c :: cs)
    (hrest : Expands text cs out) : Expands text (c :: cs) (c :: out)
  | fill {layer d rest fill out : List Char} (hd : IsLongest layer d rest) (hlayer : layer ∈ layers)
    (hfill : fill = [] ∨ fill = text) (hrest : Expands text rest out) :
    Expands text (d ++ rest) (fill ++ out)

theorem expands_replace (text : List Char) {o : List Char} (ho : IsOpen o)
    (hknown : unknownLayer? (pieces o) = none) (done : Bool) :
    Expands text o (replace text done (pieces o)).1 := by
  fun_induction pieces o generalizing done with
  | case1 => exact .nil
  | case2 c cs ih =>
    have hrest : (next c cs).2 <:+ c :: cs := ⟨_, next_append c cs⟩
    specialize ih (ho.of_infix hrest.isInfix)
    rw [unknownLayer?_eq_none_iff] at hknown ih
    specialize ih fun layer t h => hknown layer t (List.mem_cons_of_mem _ h)
    obtain ⟨hnone, hn⟩ | ⟨layer, d, rest, hd, he, hn⟩ := ho.next_cases
    · rw [hn] at ih ⊢
      exact .keep (directive?_eq_none_iff.1 hnone) (ih done)
    · rw [hn] at ih hknown ⊢
      obtain ⟨fill, done', hfill, hreplace⟩ := replace_directive text done layer d (pieces rest)
      rw [hreplace, he]
      exact .fill hd (hknown layer d List.mem_cons_self) hfill (ih done')

/-! ## Segments -/

/-- What becomes of a segment: comments and strings stay, and every directive of open text is
replaced. -/
inductive Becomes (text : List Char) : Segment → List Char → Prop
  | comment (t : List Char) : Becomes text (.comment t) t
  | string (t : List Char) : Becomes text (.string t) t
  | opened {o part : List Char} (hpart : Expands text o part)
    (hall : ∀ a layer d b, o = a ++ (d ++ b) → IsLongest layer d b → ∃ front fill back,
      part = front ++ (fill ++ back) ∧ Expands text a front ∧ (fill = [] ∨ fill = text) ∧
        Expands text b back) : Becomes text (.opened o) part

theorem becomes_replace (text : List Char) {s : Segment} (hs : s.IsClear)
    (hknown : unknownLayer? s.pieces = none) (done : Bool) :
    Becomes text s (replace text done s.pieces).1 := by
  cases s with
  | comment t => simpa [Segment.pieces, replace] using Becomes.comment t
  | string t => simpa [Segment.pieces, replace] using Becomes.string t
  | opened o =>
    refine .opened (expands_replace text hs hknown done) ?_
    rintro a layer d b rfl hd
    have hpieces : pieces (a ++ (d ++ b)) = pieces a ++ .directive layer d :: pieces b :=
      pieces_at hs hd
    rw [Segment.pieces, hpieces] at hknown ⊢
    rw [unknownLayer?_eq_none_iff] at hknown
    have hfront : IsOpen a := hs.of_infix (List.prefix_append a _).isInfix
    have hback : IsOpen b := hs.of_infix ⟨a ++ d, [], by simp⟩
    have hexpands := expands_replace text hfront
      (unknownLayer?_eq_none_iff.2 fun layer t h => hknown layer t (by simp [h])) done
    obtain ⟨fill, done', hfill, hreplace⟩ :=
      replace_directive text (replace text done (pieces a)).2 layer d (pieces b)
    have hexpands' := expands_replace text hback
      (unknownLayer?_eq_none_iff.2 fun layer t h => hknown layer t (by simp [h])) done'
    exact ⟨_, fill, _, by rw [replace_append, hreplace], hexpands, hfill, hexpands'⟩

/-- What becomes of the segments of a sheet. -/
theorem forall₂_becomes (text : List Char) {ss : List Segment} (hclear : ∀ s ∈ ss, s.IsClear)
    (hknown : unknownLayer? (ss.flatMap Segment.pieces) = none) (done : Bool) :
    ∃ parts, List.Forall₂ (Becomes text) ss parts ∧
      (replace text done (ss.flatMap Segment.pieces)).1 = parts.flatten := by
  induction ss generalizing done with
  | nil => exact ⟨[], .nil, rfl⟩
  | cons s ss ih =>
    obtain ⟨hs, hclear⟩ := List.forall_mem_cons.1 hclear
    rw [List.flatMap_cons] at hknown ⊢
    rw [unknownLayer?_eq_none_iff] at hknown ih
    have hfirst := becomes_replace text hs (unknownLayer?_eq_none_iff.2
      fun layer t h => hknown layer t (List.mem_append_left _ h)) done
    obtain ⟨parts, hparts, hflatten⟩ := ih hclear
      (fun layer t h => hknown layer t (List.mem_append_right _ h)) (replace text done s.pieces).2
    exact ⟨_ :: parts, .cons hfirst hparts, by rw [replace_append, hflatten, List.flatten_cons]⟩

/-- The directives of a sheet are those of its open text. -/
theorem mem_pieces_segments {ss : List Segment} {layer d : List Char}
    (h : .directive layer d ∈ ss.flatMap Segment.pieces) :
    ∃ o, .opened o ∈ ss ∧ .directive layer d ∈ pieces o := by
  obtain ⟨s, hs, hd⟩ := List.mem_flatMap.1 h
  cases s with
  | comment t | string t => simp [Segment.pieces] at hd
  | opened o => exact ⟨o, hs, hd⟩

theorem unknownLayer?_segments {ss : List Segment} (hclear : ∀ s ∈ ss, s.IsClear) :
    unknownLayer? (ss.flatMap Segment.pieces) = none ↔
      ∀ o, .opened o ∈ ss → ∀ layer, HasDirective layer o → layer ∈ layers := by
  rw [unknownLayer?_eq_none_iff]
  constructor
  · rintro h o ho layer ⟨a, d, b, rfl, hd⟩
    refine h layer d (List.mem_flatMap.2 ⟨_, ho, ?_⟩)
    rw [Segment.pieces, pieces_at (hclear _ ho) hd]
    simp
  · intro h layer d hd
    obtain ⟨o, ho, hd⟩ := mem_pieces_segments hd
    exact h o ho layer (hasDirective_of_mem_pieces (hclear _ ho) hd)

/-- **Generation leaves comments and strings alone**, in a sheet whose escapes the search for
directives sees. It fails exactly if a directive in the open text is for an unknown layer. Otherwise
all comments and strings stay as they are, and every directive in the open text is replaced. -/
theorem run_keeps_quoted (theme : Theme) (safelist : NameSet) (ctx : StageContext) {css : String}
    {ss : List Segment} (h : segments? css.toList = some ss) (hclear : ∀ s ∈ ss, s.IsClear) :
    ss.flatMap Segment.text = css.toList ∧
      ((∃ out, (run theme safelist ctx css).result = .ok out) ↔
        ∀ o, .opened o ∈ ss → ∀ layer, HasDirective layer o → layer ∈ layers) ∧
      (∀ e, (run theme safelist ctx css).result = .error e → ∃ o layer, .opened o ∈ ss ∧
        HasDirective layer o ∧ layer ∉ layers ∧
          e = .other ("unknown @tailwind directive '" ++ String.ofList layer ++ "'")) ∧
      ∀ out, (run theme safelist ctx css).result = .ok out →
        ∃ parts tail, List.Forall₂ (Becomes (generated theme safelist ctx).toList) ss parts ∧
          out.toList = parts.flatten ++ tail ∧ (tail = [] ∨
            tail = (generated theme safelist ctx).toList ∨
              tail = '\n' :: (generated theme safelist ctx).toList) := by
  have hpieces : pieces css.toList = ss.flatMap Segment.pieces := pieces_of_segments? h hclear
  refine ⟨flatMap_text_segments? h, ?_⟩
  rw [← unknownLayer?_segments hclear]
  unfold run
  cases hu : unknownLayer? (ss.flatMap Segment.pieces) with
  | some layer =>
    obtain ⟨⟨d, hd⟩, hlayer⟩ := mem_of_unknownLayer? hu
    obtain ⟨o, ho, hd⟩ := mem_pieces_segments hd
    simp only [hpieces, hu]
    refine ⟨by simp, ?_, by simp⟩
    rintro _ ⟨⟩
    exact ⟨o, layer, ho, hasDirective_of_mem_pieces (hclear _ ho) hd, hlayer, rfl⟩
  | none =>
    simp only [hpieces, hu]
    refine ⟨by simp, by simp, ?_⟩
    rintro _ ⟨⟩
    obtain ⟨parts, hparts, hflatten⟩ :=
      forall₂_becomes (generated theme safelist ctx).toList hclear hu false
    obtain ⟨tail, htail, hcases⟩ :=
      expand_eq_append (generated theme safelist ctx).toList (ss.flatMap Segment.pieces)
    exact ⟨parts, tail, hparts, by rw [String.toList_ofList, htail, hflatten], hcases⟩

/-- Directives for unknown layers in a comment and in a string do no harm, beside a directive in
open text. -/
theorem run_keeps_quoted_sample :
    let css := "/*@tailwind a;*/ p \x7bcontent:'@tailwind b;'\x7d @tailwind base;"
    let ss : List Segment := [.comment "/*@tailwind a;*/".toList, .opened " p \x7bcontent:".toList,
      .string "'@tailwind b;'".toList, .opened "\x7d @tailwind base;".toList]
    segments? css.toList = some ss ∧ (∀ s ∈ ss, s.IsClear) ∧
      HasDirective "base".toList "\x7d @tailwind base;".toList ∧
      ∃ out, (run .empty {} {} css).result = .ok out := by
  intro css ss
  have h : segments? css.toList = some ss := by decide +kernel
  have hclear : ∀ s ∈ ss, s.IsClear := by decide +kernel
  have hbase : IsDirective "base".toList "@tailwind base;".toList :=
    @IsDirective.intro [' '] "base".toList [] [';'] (by simp [isBlank]) (by decide)
      (by simp [isLayerChar_iff]) (by decide) (by simp) (.inr rfl)
  have hhas : HasDirective "base".toList "\x7d @tailwind base;".toList :=
    ⟨"\x7d ".toList, _, [], by decide, hbase.isLongest (by decide) []⟩
  refine ⟨h, hclear, hhas, (run_keeps_quoted .empty {} {} h hclear).2.1.2 ?_⟩
  rw [← unknownLayer?_segments hclear]
  decide +kernel

/-- An escaped quote in open text opens no string, but the search for directives takes it for one
that does, so that the directive in the string behind it is replaced. -/
theorem run_fills_quoted :
    let css := ".a\\\" \x7b content: \"@tailwind utilities;\" \x7d"
    let out := ".a\\\" \x7b content: \"\" \x7d"
    segments? css.toList = some [.opened ".a\\\" \x7b content: ".toList,
        .string "\"@tailwind utilities;\"".toList, .opened " \x7d".toList] ∧
      (run .empty {} {} css).result = .ok out ∧
      ¬"\"@tailwind utilities;\"".toList <:+: out.toList := by
  decide +kernel

end StyleBuild.Generation
