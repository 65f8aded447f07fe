import StyleBuild.Proofs.Directive.Pattern
import StyleBuild.Stage.Generation

/-!
# Splicing generated text

Searching a sheet for the pattern of directives splits it at its directives (`split`). Generation
fails with the first directive for an unknown layer. Otherwise it puts the generated text in the
place of the first directive for utilities, or behind everything if there is none, and takes out the
other directives (`run_splices`).
-/

namespace StyleBuild

namespace Directive

open Regex

/-! ## Slots -/

/-- A directive that was found, with what stands between it and the next one. -/
structure Slot where
  layer : List Char
  text : List Char
  behind : List Char
  deriving DecidableEq, Repr, Inhabited

/-- The text of a slot, and what stands behind it. -/
def Slot.whole (d : Slot) : List Char := d.text ++ d.behind

/-- The layer that a match captures. Comments and strings capture none. -/
def layer? : Cut → Option (List Char)
  | .found text =>
    if keyword.isPrefixOf text then
      some (((text.drop keyword.length).dropWhile isBlank).takeWhile isLayerChar)
    else none
  | .between _ => none

/-- What stands in front of the first directive, and the directives. -/
def split : List Cut → List Char × List Slot
  | [] => ([], [])
  | k :: ks =>
    match layer? k with
    | some layer => ([], ⟨layer, k.text, (split ks).1⟩ :: (split ks).2)
    | none => (k.text ++ (split ks).1, (split ks).2)

theorem flatten_split (ks : List Cut) :
    (split ks).1 ++ (split ks).2.flatMap Slot.whole = ks.flatMap Cut.text := by
  induction ks with
  | nil => rfl
  | cons k ks ih =>
    rw [split]
    split <;> simp [← ih, Slot.whole]

/-! ## The slots of pieces -/

/-- Comments, strings and single characters do not start like directives, and directives have
their form. -/
def Piece.IsProper : Piece → Prop
  | .other t => ¬keyword <+: t
  | .directive layer text => IsDirective layer text

theorem isProper_next (c : Char) (cs : List Char) : (next c cs).1.IsProper := by
  unfold next
  split
  · exact not_keyword_prefix (.inl (by decide))
  · cases h : directive? ('@' :: cs) with
    | none => exact not_keyword_prefix (.inr rfl)
    | some found =>
      obtain ⟨p, rest⟩ := found
      obtain ⟨layer, text, rfl, hd⟩ := isDirective_of_directive? h
      exact hd
  · split
    · next hq =>
      split
      · exact not_keyword_prefix (.inl (by rcases hq with rfl | rfl <;> decide))
      · exact not_keyword_prefix (.inr rfl)
    · exact not_keyword_prefix (.inr rfl)

theorem isProper_of_mem_pieces {cs : List Char} : ∀ p ∈ pieces cs, p.IsProper := by
  fun_induction pieces cs with
  | case1 => simp
  | case2 c cs ih => exact List.forall_mem_cons.2 ⟨isProper_next c cs, ih⟩

theorem text_cut (p : Piece) : p.cut.text = p.text := by
  unfold Piece.cut
  split <;> simp_all [Cut.text]

theorem layer?_cut_other {t : List Char} (h : ¬keyword <+: t) :
    layer? (Piece.other t).cut = none := by
  unfold Piece.cut
  split
  · rfl
  · simpa [layer?, Piece.text] using h

theorem layer?_cut_directive {layer text : List Char} (h : IsDirective layer text) :
    layer? (Piece.directive layer text).cut = some layer := by
  obtain @⟨blanks, _, gap, closing, hb, -, hl, hl', hgap, hclosing⟩ := h
  have hbehind : StartsWithout isLayerChar (gap ++ closing) := startsWithout_gap hgap fun _ => by
    rcases hclosing with rfl | rfl
    · simp [StartsWithout]
    · rintro _ ⟨⟩; decide
  have hcut : (Piece.directive layer (keyword ++ (blanks ++ (layer ++ (gap ++ closing))))).cut =
      .found (keyword ++ (blanks ++ (layer ++ (gap ++ closing)))) := rfl
  rw [hcut, layer?, if_pos (List.isPrefixOf_iff_prefix.2 ⟨_, rfl⟩), List.drop_left,
    dropWhile_run hb (startsWithout_of_isLayerChar hl hl'), takeWhile_run hl hbehind]

/-- Pieces split at the directives among them. -/
def parted (ps : List Piece) : List Char × List Slot := split (ps.map Piece.cut)

theorem parted_other {t : List Char} (h : (Piece.other t).IsProper) (ps : List Piece) :
    parted (.other t :: ps) = (t ++ (parted ps).1, (parted ps).2) := by
  rw [parted, List.map_cons, split, layer?_cut_other h, text_cut, Piece.text, parted]

theorem parted_directive {layer text : List Char} (h : IsDirective layer text) (ps : List Piece) :
    parted (.directive layer text :: ps) = ([], ⟨layer, text, (parted ps).1⟩ :: (parted ps).2) := by
  rw [parted, List.map_cons, split, layer?_cut_directive h, text_cut, Piece.text, parted]

theorem isDirective_of_mem_parted {ps : List Piece} (hps : ∀ p ∈ ps, p.IsProper) :
    ∀ d ∈ (parted ps).2, IsDirective d.layer d.text := by
  induction ps with
  | nil => simp [parted, split]
  | cons p ps ih =>
    obtain ⟨hp, hrest⟩ := List.forall_mem_cons.1 hps
    cases p with
    | other t => rw [parted_other hp]; exact ih hrest
    | directive layer text =>
      rw [parted_directive hp]
      exact List.forall_mem_cons.2 ⟨hp, ih hrest⟩

end Directive

namespace Generation

open Directive

/-! ## Replacing -/

/-- The first directive for a layer that is not known. -/
def unknownSlot? (slots : List Slot) : Option Slot := slots.find? fun d => !layers.contains d.layer

theorem unknownLayer?_eq_map {ps : List Piece} (hps : ∀ p ∈ ps, p.IsProper) :
    unknownLayer? ps = (unknownSlot? (parted ps).2).map Slot.layer := by
  induction ps with
  | nil => rfl
  | cons p ps ih =>
    obtain ⟨hp, hrest⟩ := List.forall_mem_cons.1 hps
    cases p with
    | other t => rw [parted_other hp]; exact ih hrest
    | directive layer text =>
      rw [parted_directive hp, unknownLayer?, unknownSlot?, List.find?_cons, ih hrest, unknownSlot?]
      cases layers.contains layer <;> rfl

/-- Without a directive for utilities that counts, all directives are taken out. -/
theorem replace_of_done {ps : List Piece} (hps : ∀ p ∈ ps, p.IsProper) {text : List Char}
    {done : Bool} (h : done = true ∨ ∀ d ∈ (parted ps).2, d.layer ≠ utilitiesLayer) :
    replace text done ps = ((parted ps).1 ++ (parted ps).2.flatMap Slot.behind, done) := by
  induction ps with
  | nil => rfl
  | cons p ps ih =>
    obtain ⟨hp, hrest⟩ := List.forall_mem_cons.1 hps
    cases p with
    | other t =>
      rw [parted_other hp] at h ⊢
      rw [replace, ih hrest h, List.append_assoc]
    | directive layer t =>
      rw [parted_directive hp] at h ⊢
      have hlayer : ¬(layer = utilitiesLayer ∧ done = false) := by
        rintro ⟨hl, rfl⟩
        exact h.elim Bool.false_ne_true fun h => h _ List.mem_cons_self hl
      have htail : done = true ∨ ∀ d ∈ (parted ps).2, d.layer ≠ utilitiesLayer :=
        h.imp_right fun h d hd => h d (List.mem_cons_of_mem _ hd)
      rw [replace, if_neg hlayer, ih hrest htail]
      simp

/-- The first directive for utilities is replaced by the text, and the others are taken out. -/
theorem replace_of_parted {ps : List Piece} (hps : ∀ p ∈ ps, p.IsProper) {text : List Char}
    {before behind : List Slot} {d : Slot} (hs : (parted ps).2 = before ++ d :: behind)
    (hbefore : ∀ b ∈ before, b.layer ≠ utilitiesLayer) (hd : d.layer = utilitiesLayer) :
    replace text false ps = ((parted ps).1 ++ (before.flatMap Slot.behind ++
      (text ++ (d.behind ++ behind.flatMap Slot.behind))), true) := by
  induction ps generalizing before with
  | nil => simp [parted, split] at hs
  | cons p ps ih =>
    obtain ⟨hp, hrest⟩ := List.forall_mem_cons.1 hps
    cases p with
    | other t =>
      rw [parted_other hp] at hs ⊢
      rw [replace, ih hrest hs hbefore, List.append_assoc]
    | directive layer t =>
      rw [parted_directive hp] at hs ⊢
      cases before with
      | nil =>
        obtain ⟨rfl, rfl⟩ := List.cons.inj hs
        have hlayer : layer = utilitiesLayer ∧ false = false := ⟨hd, rfl⟩
        rw [replace, if_pos hlayer, replace_of_done hrest (.inl rfl)]
        rfl
      | cons b before =>
        obtain ⟨rfl, htail⟩ := List.cons.inj hs
        obtain ⟨hb, hbefore⟩ := List.forall_mem_cons.1 hbefore
        have hlayer : ¬(layer = utilitiesLayer ∧ false = false) := fun h => hb h.1
        rw [replace, if_neg hlayer, ih hrest htail hbefore]
        simp

/-- What generation makes of a sheet that is split at its directives. -/
structure Splices (text front : List Char) (slots : List Slot)
    (result : Except TransformError String) : Prop where
  /-- It fails exactly if a directive is for an unknown layer. -/
  fails_iff : (∃ e, result = .error e) ↔ ∃ d ∈ slots, d.layer ∉ layers
  /-- The failure names the first such layer. -/
  error : ∀ before d behind, slots = before ++ d :: behind →
    (∀ b ∈ before, b.layer ∈ layers) → d.layer ∉ layers →
      result = .error (.other ("unknown @tailwind directive '" ++ String.ofList d.layer ++ "'"))
  /-- The text takes the place of the first directive for utilities. -/
  fills : (∀ d ∈ slots, d.layer ∈ layers) → ∀ before d behind, slots = before ++ d :: behind →
    (∀ b ∈ before, b.layer ≠ utilitiesLayer) → d.layer = utilitiesLayer →
      result = .ok (String.ofList (front ++ (before.flatMap Slot.behind ++
        (text ++ (d.behind ++ behind.flatMap Slot.behind)))))
  /-- Without such a directive the text comes last, on a line of its own, unless it is empty. -/
  appends : (∀ d ∈ slots, d.layer ∈ layers) → (∀ d ∈ slots, d.layer ≠ utilitiesLayer) →
    ∀ rest, rest = front ++ slots.flatMap Slot.behind → result = .ok (String.ofList
      (if text = [] then rest
        else if rest = [] ∨ rest.getLast? = some '\n' then rest ++ text
        else rest ++ '\n' :: text))

section Run

variable (theme : Theme) (safelist : NameSet) (ctx : StageContext) (css : String)

/-- The result of generation, by the slots of the sheet. -/
theorem result_run : (run theme safelist ctx css).result =
    match unknownSlot? (parted (pieces css.toList)).2 with
    | some d => .error (.other ("unknown @tailwind directive '" ++ String.ofList d.layer ++ "'"))
    | none => .ok (String.ofList
        (expand (generated theme safelist ctx).toList (pieces css.toList))) := by
  have hps : ∀ p ∈ pieces css.toList, p.IsProper := isProper_of_mem_pieces
  unfold run
  cases hunknown : unknownSlot? (parted (pieces css.toList)).2 <;>
    simp only [unknownLayer?_eq_map hps, hunknown, Option.map_none, Option.map_some]

theorem result_run_of_known (hknown : ∀ d ∈ (parted (pieces css.toList)).2, d.layer ∈ layers) :
    (run theme safelist ctx css).result = .ok (String.ofList
      (expand (generated theme safelist ctx).toList (pieces css.toList))) := by
  have hnone : unknownSlot? (parted (pieces css.toList)).2 = none :=
    List.find?_eq_none.2 fun d hd => by simpa using hknown d hd
  rw [result_run, hnone]

theorem splices_run : Splices (generated theme safelist ctx).toList (parted (pieces css.toList)).1
    (parted (pieces css.toList)).2 (run theme safelist ctx css).result := by
  have hps : ∀ p ∈ pieces css.toList, p.IsProper := isProper_of_mem_pieces
  constructor
  case fails_iff =>
    constructor
    · rintro ⟨e, he⟩
      by_contra hall
      simp only [not_exists, not_and, not_not] at hall
      rw [result_run_of_known theme safelist ctx css hall] at he
      cases he
    · rintro ⟨d, hd, hunknown⟩
      have hsome : (unknownSlot? (parted (pieces css.toList)).2).isSome :=
        List.find?_isSome.2 ⟨d, hd, by simpa using hunknown⟩
      obtain ⟨first, hfirst⟩ := Option.isSome_iff_exists.1 hsome
      exact ⟨_, by rw [result_run, hfirst]⟩
  case error =>
    intro before d behind hs hbefore hd
    have hfound : unknownSlot? (parted (pieces css.toList)).2 = some d :=
      List.find?_eq_some_iff_append.2
        ⟨by simpa using hd, before, behind, hs, by simpa using hbefore⟩
    rw [result_run, hfound]
  case fills =>
    intro hknown before d behind hs hbefore hd
    rw [result_run_of_known theme safelist ctx css hknown, expand,
      replace_of_parted hps hs hbefore hd]
  case appends =>
    rintro hknown hnone _ rfl
    rw [result_run_of_known theme safelist ctx css hknown, expand, replace_of_done hps (.inr hnone)]
    simp [appendOnNewLine]

/-- **The generated text is spliced into a sheet at its directives**, which are what searching the
sheet for the pattern of directives finds. Everything else stays as it is. -/
theorem run_splices :
    ∃ r front slots, Regex.read pattern = .ok r ∧ split (r.cut none css.toList) = (front, slots) ∧
      css.toList = front ++ slots.flatMap Slot.whole ∧
      (∀ d ∈ slots, IsDirective d.layer d.text) ∧
      Splices (generated theme safelist ctx).toList front slots
        (run theme safelist ctx css).result := by
  have hsplit : split (expression.cut none css.toList) = parted (pieces css.toList) := by
    rw [cut_expression, parted]
  refine ⟨expression, (parted (pieces css.toList)).1, (parted (pieces css.toList)).2, read_pattern,
    hsplit, ?_, isDirective_of_mem_parted isProper_of_mem_pieces,
    splices_run theme safelist ctx css⟩
  rw [← hsplit, flatten_split, Regex.flatMap_text_cut]

end Run

end Generation

end StyleBuild
