import StyleBuild.Proofs.Directive.Splicing

/-!
# Taking directives out

If nothing is generated, the directives of a sheet are taken out, and what stood around them is
joined. Comments and strings stay what they are (`next_extend`), but a character on its own may
start a comment, a string or a directive with the text that comes to stand behind it. If no
character does (`StayApart`), then no directive is left, and a second run returns its input
(`Generation.run_settles`).
-/

namespace StyleBuild

namespace Directive

/-! ## What is left -/

/-- Whether a piece is text that is no directive. -/
def Piece.isOther : Piece → Bool
  | .other _ => true
  | .directive _ _ => false

/-- The pieces that are no directives. -/
def kept (ps : List Piece) : List Piece := ps.filter Piece.isOther

/-- The text that is left when the directives are taken out. -/
def leftover (ps : List Piece) : List Char := (kept ps).flatMap Piece.text

@[simp] theorem kept_other (t : List Char) (ps : List Piece) :
    kept (.other t :: ps) = .other t :: kept ps := rfl

@[simp] theorem kept_directive (layer t : List Char) (ps : List Piece) :
    kept (.directive layer t :: ps) = kept ps := rfl

@[simp] theorem leftover_other (t : List Char) (ps : List Piece) :
    leftover (.other t :: ps) = t ++ leftover ps := rfl

@[simp] theorem leftover_directive (layer t : List Char) (ps : List Piece) :
    leftover (.directive layer t :: ps) = leftover ps := rfl

theorem kept_kept (ps : List Piece) : kept (kept ps) = kept ps := by
  simp [kept]

/-- A character starts no comment, no string and no directive with the text behind it. -/
structure IsAlone (c : Char) (cs : List Char) : Prop where
  comment : c = '/' → cs.head? ≠ some '*'
  string : c = '"' ∨ c = '\'' → stringRest c cs = none
  directive : c = '@' → directive? (c :: cs) = none

instance (c : Char) (cs : List Char) : Decidable (IsAlone c cs) :=
  decidable_of_iff ((c = '/' → cs.head? ≠ some '*') ∧
    (c = '"' ∨ c = '\'' → stringRest c cs = none) ∧ (c = '@' → directive? (c :: cs) = none))
    ⟨fun ⟨hc, hs, hd⟩ => ⟨hc, hs, hd⟩, fun ⟨hc, hs, hd⟩ => ⟨hc, hs, hd⟩⟩

/-- Every character that is a piece on its own is one with the text that is left behind it, too. -/
def StayApart : List Piece → Prop
  | [] => True
  | .other [c] :: ps => IsAlone c (leftover ps) ∧ StayApart ps
  | _ :: ps => StayApart ps

instance decidableStayApart : (ps : List Piece) → Decidable (StayApart ps)
  | [] => isTrue trivial
  | .other [c] :: ps =>
    haveI := decidableStayApart ps
    inferInstanceAs (Decidable (IsAlone c (leftover ps) ∧ StayApart ps))
  | .other [] :: ps | .other (_ :: _ :: _) :: ps | .directive _ _ :: ps => decidableStayApart ps

/-! ## First pieces -/

/-- What the first piece of a text can be: a comment, a string, a directive, or a character that is
alone. -/
theorem next_cases (c : Char) (cs : List Char) :
    (∃ body, c = '/' ∧ cs = '*' :: body ∧
        next c cs = (.other ('/' :: '*' :: (commentRest body).1), (commentRest body).2)) ∨
      (∃ inside rest, (c = '"' ∨ c = '\'') ∧ stringRest c cs = some (inside, rest) ∧
        next c cs = (.other (c :: inside), rest)) ∨
      (∃ layer t rest, c = '@' ∧ directive? (c :: cs) = some (.directive layer t, rest) ∧
        next c cs = (.directive layer t, rest)) ∨
      (IsAlone c cs ∧ next c cs = (.other [c], cs)) := by
  unfold next
  split
  · next body => exact .inl ⟨body, rfl, rfl, rfl⟩
  · cases hfound : directive? ('@' :: cs) with
    | none => exact .inr (.inr (.inr ⟨⟨nofun, by simp, fun _ => hfound⟩, rfl⟩))
    | some found =>
      obtain ⟨p, rest⟩ := found
      obtain ⟨layer, t, rfl, -⟩ := isDirective_of_directive? hfound
      exact .inr (.inr (.inl ⟨layer, t, rest, rfl, rfl, rfl⟩))
  · next hat hslash =>
    have hcomment : c = '/' → cs.head? ≠ some '*' := by
      rintro rfl hstar
      obtain ⟨body, rfl⟩ := List.head?_eq_some_iff.1 hstar
      exact hslash body rfl rfl
    split
    · next hquote =>
      split
      · next inside rest hstring => exact .inr (.inl ⟨inside, rest, hquote, hstring, rfl⟩)
      · next hstring =>
        exact .inr (.inr (.inr ⟨⟨hcomment, fun _ => hstring, fun h => absurd h hat⟩, rfl⟩))
    · next hquote =>
      exact .inr (.inr (.inr ⟨⟨hcomment, fun h => absurd h hquote, fun h => absurd h hat⟩, rfl⟩))

/-- A character is the first piece exactly if it is alone. -/
theorem isAlone_iff (c : Char) (cs : List Char) : IsAlone c cs ↔ (next c cs).1 = .other [c] := by
  obtain ⟨body, rfl, rfl, hnext⟩ | ⟨inside, rest, hquote, hstring, hnext⟩ |
    ⟨layer, t, rest, hat, hfound, hnext⟩ | ⟨halone, hnext⟩ := next_cases c cs
  · rw [hnext]
    exact iff_of_false (fun h => h.comment rfl rfl) nofun
  · rw [hnext]
    refine iff_of_false (fun h => ?_) fun h => stringRest_ne_nil hstring (by simpa using h)
    rw [h.string hquote] at hstring
    cases hstring
  · rw [hnext]
    refine iff_of_false (fun h => ?_) nofun
    rw [h.directive hat] at hfound
    cases hfound
  · rw [hnext]
    exact iff_of_true halone rfl

/-! ## Comments and strings -/

theorem head?_commentRest (c : Char) (cs : List Char) :
    (commentRest (c :: cs)).1.head? = some c := by
  unfold commentRest
  split
  · next heq => rw [(List.cons.inj heq).1]; rfl
  · next heq => rw [(List.cons.inj heq).1]; rfl
  · next heq => cases heq

/-- A comment stays as it is with other text behind it, if it is closed. -/
theorem commentRest_extend {cs z : List Char} (h : (commentRest cs).2 = [] → z = []) :
    commentRest ((commentRest cs).1 ++ z) = ((commentRest cs).1, z) := by
  fun_induction commentRest cs with
  | case1 cs => rfl
  | case2 c cs hend ih =>
    rw [List.cons_append, commentRest, ih h]
    rintro more rfl hslash
    cases cs with
    | nil =>
      obtain rfl := h rfl
      cases hslash
    | cons d cs =>
      have hhead := congrArg List.head? hslash
      rw [List.head?_append, head?_commentRest, Option.some_or, List.head?_cons] at hhead
      obtain rfl := Option.some.inj hhead
      exact hend cs rfl rfl
  | case3 =>
    obtain rfl := h rfl
    rfl

/-- A string stays as it is with other text behind it. -/
theorem stringRest_extend {quote : Char} (hq : quote = '"' ∨ quote = '\'')
    {cs inside rest : List Char} (h : stringRest quote cs = some (inside, rest)) (z : List Char) :
    stringRest quote (inside ++ z) = some (inside, z) := by
  have hb : quote ≠ '\\' := by rcases hq with rfl | rfl <;> decide
  fun_induction stringRest quote cs generalizing inside rest with
  | case1 | case2 | case5 => simp at h
  | case3 c cs ih =>
    obtain ⟨⟨a, b⟩, hab, he⟩ := Option.map_eq_some_iff.1 h
    cases he
    rw [List.cons_append, List.cons_append, stringRest, ih hab]
    rfl
  | case4 c cs =>
    cases h
    rw [List.singleton_append, stringRest, if_pos rfl]
    · exact fun h => absurd h hb
    · exact fun _ _ h => absurd h hb
  | case6 c cs hlast hescape hquote hline ih =>
    obtain ⟨⟨a, b⟩, hab, he⟩ := Option.map_eq_some_iff.1 h
    cases he
    have hc : c ≠ '\\' := fun heq => by
      cases cs with
      | nil => exact hlast heq rfl
      | cons d cs => exact hescape d cs heq rfl
    rw [List.cons_append, stringRest, if_neg hquote, if_neg hline, ih hab]
    · rfl
    · exact fun h => absurd h hc
    · exact fun _ _ h => absurd h hc

/-- A comment or a string is the first piece whatever comes to stand behind it. -/
theorem next_extend {c : Char} {cs t : List Char} (h : (next c cs).1 = .other (c :: t))
    (ht : t ≠ []) {z : List Char} (hz : (next c cs).2 = [] → z = []) :
    next c (t ++ z) = (.other (c :: t), z) := by
  obtain ⟨body, rfl, rfl, hnext⟩ | ⟨inside, rest, hquote, hstring, hnext⟩ |
    ⟨layer, t, rest, hat, hfound, hnext⟩ | ⟨halone, hnext⟩ := next_cases c cs
  · rw [hnext] at h hz
    cases h
    rw [List.cons_append, next, commentRest_extend hz]
  · rw [hnext] at h
    cases h
    rw [next_quote hquote, stringRest_extend hquote hstring]
  · rw [hnext] at h
    cases h
  · rw [hnext] at h
    exact absurd (by simpa using h.symm) ht

/-- What is left has the pieces that are left exactly if they stay apart. -/
theorem pieces_leftover_iff (cs : List Char) :
    pieces (leftover (pieces cs)) = kept (pieces cs) ↔ StayApart (pieces cs) := by
  fun_induction pieces cs with
  | case1 => exact iff_of_true (by simp [leftover, kept, pieces]) trivial
  | case2 c cs ih =>
    have hend : (next c cs).2 = [] → leftover (pieces (next c cs).2) = [] := fun h => by
      rw [h, pieces]
      rfl
    have hlong : ∀ t, t ≠ [] → (next c cs).1 = .other (c :: t) →
        (pieces (leftover ((next c cs).1 :: pieces (next c cs).2)) =
            kept ((next c cs).1 :: pieces (next c cs).2) ↔
          StayApart ((next c cs).1 :: pieces (next c cs).2)) := by
      intro t ht hpiece
      have hnext := next_extend hpiece ht hend
      obtain ⟨d, t, rfl⟩ := List.exists_cons_of_ne_nil ht
      rw [hpiece, leftover_other, kept_other, List.cons_append, pieces_cons, hnext, StayApart,
        ← ih]
      · exact List.cons_inj_right _
      · simp
    obtain ⟨body, rfl, rfl, hnext⟩ | ⟨inside, rest, -, hstring, hnext⟩ |
      ⟨layer, t, rest, -, -, hnext⟩ | ⟨-, hnext⟩ := next_cases c cs
    · exact hlong _ (List.cons_ne_nil _ _) (by rw [hnext])
    · exact hlong inside (stringRest_ne_nil hstring) (by rw [hnext])
    · rw [hnext] at ih ⊢
      exact ih
    · rw [hnext] at ih ⊢
      rw [leftover_other, kept_other, List.singleton_append, pieces_cons, StayApart, isAlone_iff,
        ← ih, List.cons.injEq]
      refine and_congr_right fun halone => ?_
      have hbehind : (next c (leftover (pieces cs))).2 = leftover (pieces cs) := by
        have happend := next_append c (leftover (pieces cs))
        rw [halone] at happend
        exact (List.cons.inj happend).2
      rw [hbehind]

/-! ## Directives in what is left -/

theorem slots_eq_nil_iff {ps : List Piece} (hps : ∀ p ∈ ps, p.IsProper) :
    (parted ps).2 = [] ↔ kept ps = ps := by
  induction ps with
  | nil => exact iff_of_true rfl rfl
  | cons p ps ih =>
    obtain ⟨hp, hrest⟩ := List.forall_mem_cons.1 hps
    cases p with
    | other t =>
      rw [parted_other hp, ih hrest, kept_other]
      exact (List.cons_inj_right _).symm
    | directive layer t =>
      rw [parted_directive hp, kept_directive]
      refine iff_of_false (List.cons_ne_nil _ _) fun h => ?_
      have hlen := congrArg List.length h
      have hle : (kept ps).length ≤ ps.length := List.length_filter_le _ _
      rw [List.length_cons] at hlen
      omega

/-- Taking a directive out makes a text shorter. -/
theorem length_leftover {ps : List Piece} (hps : ∀ p ∈ ps, p.IsProper) :
    kept ps = ps ∨ (leftover ps).length < (ps.flatMap Piece.text).length := by
  induction ps with
  | nil => exact .inl rfl
  | cons p ps ih =>
    obtain ⟨hp, hrest⟩ := List.forall_mem_cons.1 hps
    cases p with
    | other t =>
      refine (ih hrest).imp (fun h => by rw [kept_other, h]) fun h => ?_
      rw [leftover_other, List.flatMap_cons, Piece.text, List.length_append, List.length_append]
      omega
    | directive layer t =>
      have hpos : 0 < t.length := List.length_pos_iff.2 (IsDirective.ne_nil hp)
      have hle : (leftover ps).length ≤ (ps.flatMap Piece.text).length := by
        rcases ih hrest with h | h
        · rw [leftover, h]
        · exact h.le
      right
      rw [leftover_directive, List.flatMap_cons, Piece.text, List.length_append]
      omega

theorem kept_pieces_iff (cs : List Char) :
    kept (pieces cs) = pieces cs ↔ leftover (pieces cs) = cs := by
  constructor
  · intro h
    rw [leftover, h, flatMap_text_pieces]
  · intro h
    refine (length_leftover isProper_of_mem_pieces).resolve_right fun hlen => ?_
    rw [h, flatMap_text_pieces] at hlen
    exact Nat.lt_irrefl _ hlen

end Directive

namespace Generation

open Directive

theorem replace_nil (done : Bool) (ps : List Piece) : (replace [] done ps).1 = leftover ps := by
  induction ps generalizing done with
  | nil => rfl
  | cons p ps ih =>
    cases p with
    | other t => rw [replace, ih, leftover_other]
    | directive layer t =>
      rw [replace, leftover_directive]
      split
      · exact ih true
      · exact ih done

theorem expand_nil (ps : List Piece) : expand [] ps = leftover ps := by
  rw [← replace_nil false, expand]
  split
  · next heq => rw [heq]
  · next heq => rw [heq]; rfl

section Settles

variable {theme : Theme} {safelist : NameSet} {ctx : StageContext} {css out : String}

/-- What is left of a sheet if nothing is generated. -/
theorem result_of_generated_empty (h : generated theme safelist ctx = "") :
    (run theme safelist ctx css).result =
      match unknownSlot? (parted (pieces css.toList)).2 with
      | some d => .error (.other ("unknown @tailwind directive '" ++ String.ofList d.layer ++ "'"))
      | none => .ok (String.ofList (leftover (pieces css.toList))) := by
  have hrun := result_run theme safelist ctx css
  rw [h, String.toList_empty, expand_nil] at hrun
  cases hunknown : unknownSlot? (parted (pieces css.toList)).2 <;>
    simpa only [hunknown] using hrun

theorem toList_of_generated_empty (h : generated theme safelist ctx = "")
    (hrun : (run theme safelist ctx css).result = .ok out) :
    out.toList = leftover (pieces css.toList) := by
  rw [result_of_generated_empty h] at hrun
  split at hrun
  · cases hrun
  · cases hrun
    exact String.toList_ofList

/-- A sheet stays as it is exactly if it has no directives. -/
theorem result_eq_self_iff (h : generated theme safelist ctx = "") :
    (run theme safelist ctx css).result = .ok css ↔ (parted (pieces css.toList)).2 = [] := by
  rw [slots_eq_nil_iff isProper_of_mem_pieces, kept_pieces_iff]
  constructor
  · exact fun hrun => (toList_of_generated_empty h hrun).symm
  · intro hleft
    have hnone : (parted (pieces css.toList)).2 = [] := by
      rwa [slots_eq_nil_iff isProper_of_mem_pieces, kept_pieces_iff]
    rw [result_of_generated_empty h, hnone, hleft]
    exact congrArg Except.ok String.ofList_toList

/-- **Taking directives out.** If nothing is generated and no character that is left on its own
starts something with the text that comes to stand behind it, then searching the output for the
pattern of directives finds none, and a second run returns its input. The condition is exact for the
output to be cut into the pieces that are left of the sheet; and whatever it is cut into, there are
no directives in it exactly if it stays as it is. -/
theorem run_settles (hempty : generated theme safelist ctx = "")
    (hrun : (run theme safelist ctx css).result = .ok out) :
    ∃ r, Regex.read pattern = .ok r ∧
      (StayApart (pieces css.toList) →
        (split (r.cut none out.toList)).2 = [] ∧ (run theme safelist ctx out).result = .ok out) ∧
      (StayApart (pieces css.toList) ↔ pieces out.toList = kept (pieces css.toList)) ∧
      ∀ theme' safelist' ctx', generated theme' safelist' ctx' = "" →
        ((run theme' safelist' ctx' out).result = .ok out ↔
          (split (r.cut none out.toList)).2 = []) := by
  have hsplit : split (expression.cut none out.toList) = parted (pieces out.toList) := by
    rw [cut_expression, parted]
  have hout := toList_of_generated_empty hempty hrun
  have happart : StayApart (pieces css.toList) ↔
      pieces out.toList = kept (pieces css.toList) := by
    rw [hout, pieces_leftover_iff]
  refine ⟨expression, read_pattern, fun h => ?_, happart, fun theme' safelist' ctx' h => ?_⟩
  · have hnone : (parted (pieces out.toList)).2 = [] := by
      rw [slots_eq_nil_iff isProper_of_mem_pieces, happart.1 h, kept_kept]
    exact ⟨by rw [hsplit, hnone], (result_eq_self_iff hempty).2 hnone⟩
  · rw [hsplit, result_eq_self_iff h]

end Settles

/-- Directives with a comment, a string and another at-rule around them. -/
theorem run_settles_sample :
    let css := "@tailwind base;/* @tailwind a; */@page \x7bquotes: '/'\x7d@tailwind screens"
    let out := "/* @tailwind a; */@page \x7bquotes: '/'\x7d"
    generated .empty {} {} = "" ∧ (run .empty {} {} css).result = .ok out ∧
      StayApart (pieces css.toList) ∧ (run .empty {} {} out).result = .ok out := by
  intro css out
  have hempty : generated .empty {} {} = "" := by decide +kernel
  have hrun : (run .empty {} {} css).result = .ok out := by decide +kernel
  have hparts : StayApart (pieces css.toList) := by decide +kernel
  obtain ⟨r, -, hagain, -⟩ := run_settles hempty hrun
  exact ⟨hempty, hrun, hparts, (hagain hparts).2⟩

/-- What stood around a directive makes another one, which is taken out by a second run, or fails it
if its layer is not known. -/
theorem run_joins :
    let css := "@tailwind @tailwind base;utilities;"
    let other := "@tailwind @tailwind base;a;"
    generated .empty {} {} = "" ∧
      (run .empty {} {} css).result = .ok "@tailwind utilities;" ∧
      (run .empty {} {} "@tailwind utilities;").result = .ok "" ∧
      (run .empty {} {} other).result = .ok "@tailwind a;" ∧
      (run .empty {} {} "@tailwind a;").result =
        .error (.other "unknown @tailwind directive 'a'") := by
  decide +kernel

end Generation

end StyleBuild
