import StyleBuild.Proofs.Except
import StyleBuild.Proofs.Glob.Parts
import StyleBuild.Proofs.Glob.Searching

/-!
# Escaped names

The escaped form of a text is a pattern that describes the text and nothing else
(`describes_escapeToken`). In front of a slash it makes no difference to what is wrong with a
pattern (`flaw?_tokens_escaped`); as a part of a glob it spells its text and nothing else
(`spells_escapedPart`). Escaping keeps the slashes of a path, so that a glob behind an escaped path
has the parts of the path in front of its own (`parts_escape`).
-/

namespace StyleBuild.Glob

/-! ## Escaped text -/

/-- A character as a pattern that describes nothing else. -/
def escapeChar (c : Char) : List Char :=
  if "?*[]".toList.contains c then ['[', c, ']'] else [c]

theorem toList_escape (text : String) : (escape text).toList = text.toList.flatMap escapeChar := by
  rw [escape, String.toList_ofList]
  rfl

/-- What the escaped form of a character is read as. -/
def escapeToken (c : Char) : Token :=
  if "?*[]".toList.contains c then .oneOf [.one c] else .char c

theorem escape_cases (c : Char) :
    (escapeChar c = ['[', c, ']'] ∧ escapeToken c = .oneOf [.one c] ∧ c ∈ "?*[]".toList) ∨
      (escapeChar c = [c] ∧ escapeToken c = .char c ∧ c ∉ "?*[]".toList) := by
  unfold escapeChar escapeToken
  split
  · next h => exact .inl ⟨rfl, rfl, List.contains_iff_mem.1 h⟩
  · next h => exact .inr ⟨rfl, rfl, mt List.contains_iff_mem.2 h⟩

/-- A character in brackets of its own. -/
theorem brackets_escaped {c : Char} (h : c ∈ "?*[]".toList) (rest : List Char) :
    brackets (c :: ']' :: rest) = some (false, [c], rest) := by
  have hmark : c ≠ '!' := by
    rintro rfl
    exact absurd h (by decide)
  exact brackets_eq_some_iff.2 ⟨c, [], rfl, by simp, .inr ⟨rfl, hmark, rfl⟩⟩

theorem tokens_escapeChar (i : Nat) (before : Option Char) (cs : List Char) :
    tokens i before (cs.flatMap escapeChar) = .ok (cs.map escapeToken) := by
  induction cs generalizing i before with
  | nil =>
    rw [List.flatMap_nil, tokens]
    rfl
  | cons c cs ih =>
    rw [List.flatMap_cons, List.map_cons]
    rcases escape_cases c with ⟨hc, ht, hmem⟩ | ⟨hc, ht, hmem⟩
    · rw [hc, ht, List.cons_append, List.cons_append, List.singleton_append,
        tokens_brackets_some (brackets_escaped hmem _), ih]
      rfl
    · rw [hc, ht, List.singleton_append, tokens, ih]
      · rfl
      all_goals
        intros
        subst c
        exact absurd (by decide) hmem

theorem read_escape (s : String) : read (escape s) = .ok (s.toList.map escapeToken) := by
  rw [read, toList_escape, tokens_escapeChar]

theorem describes_escapeToken {cs ds : List Char} :
    describes (cs.map escapeToken) ds = true ↔ ds = cs := by
  induction cs generalizing ds with
  | nil => simp [describes]
  | cons c cs ih =>
    rw [List.map_cons]
    cases ds with
    | nil => rcases escape_cases c with ⟨-, h, -⟩ | ⟨-, h, -⟩ <;> simp [h, describes]
    | cons d ds =>
      rcases escape_cases c with ⟨-, h, -⟩ | ⟨-, h, -⟩ <;>
        simp [h, describes, ih, Token.holds, Choice.holds]

/-- Escaped text in front of a slash makes no difference to a pattern. -/
theorem flaw?_tokens_escaped (cs pattern : List Char) (i : Nat) (before : Option Char) :
    flaw? (tokens i before (cs.flatMap escapeChar ++ '/' :: pattern)) =
      flaw? (tokens 0 none pattern) := by
  induction cs generalizing i before with
  | nil =>
    rw [List.flatMap_nil, List.nil_append, tokens, flaw?_map, flaw?_tokens _ 0, flaw?_tokens_slash]
    all_goals simp
  | cons c cs ih =>
    rw [List.flatMap_cons, List.append_assoc]
    rcases escape_cases c with ⟨hc, -, hmem⟩ | ⟨hc, -, hmem⟩
    · rw [hc, List.cons_append, List.cons_append, List.singleton_append,
        tokens_brackets_some (brackets_escaped hmem _), flaw?_map, ih]
    · rw [hc, List.singleton_append, tokens, flaw?_map, ih]
      all_goals simp_all

theorem slashInBrackets_escaped (cs pattern : List Char) :
    slashInBrackets (cs.flatMap escapeChar ++ '/' :: pattern) = slashInBrackets pattern := by
  induction cs with
  | nil => exact slashInBrackets_cons (by decide)
  | cons c cs ih =>
    rw [List.flatMap_cons, List.append_assoc]
    rcases escape_cases c with ⟨hc, -, hmem⟩ | ⟨hc, -, hmem⟩
    · have hslash : '/' ≠ c := fun h => absurd (h ▸ hmem) (by decide)
      rw [hc, List.cons_append, List.cons_append, List.singleton_append,
        slashInBrackets_brackets (brackets_escaped hmem _), ih]
      simp [hslash]
    · have hopen : c ≠ '[' := fun h => hmem (h ▸ by decide)
      rw [hc, List.singleton_append, slashInBrackets_cons hopen, ih]

/-! ## Escaped parts -/

theorem mapM_char?_eq_some {ts : List Token} {cs : List Char} :
    ts.mapM Token.char? = some cs ↔ ts = cs.map .char := by
  induction ts generalizing cs with
  | nil => cases cs <;> simp
  | cons t ts ih =>
    rw [List.mapM_cons]
    constructor
    · intro h
      obtain ⟨c, hc, h⟩ := Option.bind_eq_some_iff.1 h
      obtain ⟨cs', hcs, h⟩ := Option.bind_eq_some_iff.1 h
      cases h
      cases t <;> cases hc
      rw [ih.1 hcs, List.map_cons]
    · intro h
      cases cs with
      | nil => cases h
      | cons c cs =>
        obtain ⟨rfl, hts⟩ := List.cons_eq_cons.1 h
        rw [ih.2 hts]
        rfl

theorem literalText?_eq_some {ts : List Token} {s : String} :
    literalText? ts = some s ↔ ts = s.toList.map .char := by
  rw [literalText?, Option.map_eq_some_iff]
  constructor
  · rintro ⟨cs, hcs, rfl⟩
    rw [String.toList_ofList]
    exact mapM_char?_eq_some.1 hcs
  · intro h
    exact ⟨s.toList, mapM_char?_eq_some.2 h, String.ofList_toList⟩

/-- The part that escaped text makes up. -/
def escapedPart (s : String) : Part := .ofTokens (s.toList.map escapeToken)

/-- An escaped name is looked up if it has no character with a meaning of its own, and compared with
all names if it has. -/
theorem escapedPart_cases (s : String) : escapedPart s = .literal s ∨
    (escapedPart s = .wild (s.toList.map escapeToken) ∧ ∃ c ∈ s.toList, c ∈ "?*[]".toList) := by
  have hfolders : (s.toList.map escapeToken).contains .folders = false := by
    rw [List.contains_eq_mem, decide_eq_false_iff_not, List.mem_map]
    rintro ⟨c, -, hc⟩
    rcases escape_cases c with ⟨-, h, -⟩ | ⟨-, h, -⟩ <;> rw [h] at hc <;> cases hc
  rw [escapedPart, Part.ofTokens, hfolders, if_neg Bool.false_ne_true]
  by_cases hmeta : ∃ c ∈ s.toList, c ∈ "?*[]".toList
  · cases htext : literalText? (s.toList.map escapeToken) with
    | none => exact .inr ⟨rfl, hmeta⟩
    | some r =>
      obtain ⟨c, hc, hmem⟩ := hmeta
      have ht : escapeToken c ∈ r.toList.map Token.char := by
        rw [← literalText?_eq_some.1 htext]
        exact List.mem_map_of_mem hc
      rcases escape_cases c with ⟨-, h, -⟩ | ⟨-, -, hno⟩
      · rw [h] at ht
        simp at ht
      · exact absurd hmem hno
  · have htext : literalText? (s.toList.map escapeToken) = some s := by
      refine literalText?_eq_some.2 (List.map_congr_left fun c hc => ?_)
      rcases escape_cases c with ⟨-, -, hmem⟩ | ⟨-, h, -⟩
      · exact absurd ⟨c, hc, hmem⟩ hmeta
      · exact h
    rw [htext]
    exact .inl rfl

theorem specials_escapedPart (s : String) : (escapedPart s).specials = [] := by
  rcases escapedPart_cases s with h | ⟨h, c, hc, hmem⟩
  · rw [h]
    rfl
  · rw [h, List.eq_nil_iff_forall_not_mem]
    intro r hr
    obtain rfl : r = s := by
      unfold Part.specials at hr
      split at hr
      · next heq =>
        rw [← Part.wild.inj heq] at hr
        exact String.toList_inj.1 (describes_escapeToken.1 (List.mem_filter.1 hr).2)
      · cases hr
    rcases eq_of_mem_specials hr with rfl | rfl <;> simp at hc <;> subst hc <;>
      exact absurd hmem (by decide)

/-- **An escaped part spells nothing but its text.** -/
theorem spells_escapedPart {s : String} {ps : List Part} {q : List String} (hs : '/' ∉ s.toList) :
    Spells (escapedPart s :: ps) q ↔ ∃ q', q = s :: q' ∧ Spells ps q' := by
  have hspecials := specials_escapedPart s
  rcases escapedPart_cases s with h | ⟨h, c, hc, hmem⟩
  · rw [h]
    constructor
    · rintro ⟨⟩
      next q hq => exact ⟨_, rfl, hq⟩
    · rintro ⟨q', rfl, hq⟩
      exact .literal hq
  · rw [h] at hspecials ⊢
    constructor
    · intro hq
      cases hq with
      | wild name describes hq =>
        obtain rfl := String.toList_inj.1 (describes_escapeToken.1 describes)
        exact ⟨_, rfl, hq⟩
      | special special hq =>
        rw [hspecials] at special
        cases special
    · rintro ⟨q', rfl, hq⟩
      have hdot : c ≠ '.' := fun h => absurd (h ▸ hmem) (by decide)
      exact .wild (Path.isName_of_mem hs hc hdot) (describes_escapeToken.2 rfl) hq

/-- Escaped names spell nothing but themselves. -/
theorem spells_escaped {ss q : List String} {ps : List Part} (hss : ∀ s ∈ ss, '/' ∉ s.toList) :
    Spells (ss.map escapedPart ++ ps) q ↔ ∃ q', q = ss ++ q' ∧ Spells ps q' := by
  induction ss generalizing q with
  | nil => simp
  | cons s ss ih =>
    rw [List.map_cons, List.cons_append, spells_escapedPart (hss s List.mem_cons_self)]
    have ih {q} := ih (q := q) fun r hr => hss r (List.mem_cons_of_mem _ hr)
    constructor
    · rintro ⟨_, rfl, hq⟩
      obtain ⟨q', rfl, hq'⟩ := ih.1 hq
      exact ⟨q', rfl, hq'⟩
    · rintro ⟨q', rfl, hq⟩
      exact ⟨ss ++ q', rfl, ih.2 ⟨q', rfl, hq⟩⟩

/-! ## Pieces as parts -/

/-- What is read as characters alone is these characters. -/
theorem eq_of_tokens {i : Nat} {before : Option Char} {cs ds : List Char}
    (h : tokens i before cs = .ok (ds.map .char)) : cs = ds := by
  have hmap {r : Except Fault (List Token)} {t : Token} {ds : List Char}
      (h : (do return t :: (← r)) = (.ok (ds.map .char) : Except Fault (List Token))) :
      ∃ d ds', ds = d :: ds' ∧ t = .char d ∧ r = .ok (ds'.map .char) := by
    obtain ⟨ts', hr, h⟩ := exists_of_bind_eq_ok h
    cases ds with
    | nil => cases h
    | cons d ds =>
      cases h
      exact ⟨d, ds, rfl, rfl, hr⟩
  fun_induction tokens i before cs generalizing ds with
  | case1 =>
    cases ds <;> cases h
    rfl
  | case4 => cases ds <;> cases h
  | case3 | case6 | case7 | case9 => cases h
  | case2 | case5 | case8 =>
    obtain ⟨d, ds, rfl, ht, -⟩ := hmap h
    cases ht
  | case10 i before cs excluded =>
    obtain ⟨d, ds, rfl, ht, -⟩ := hmap h
    cases excluded <;> cases ht
  | case11 i before c cs _ _ _ _ _ ih =>
    obtain ⟨d, ds, rfl, ht, hr⟩ := hmap h
    cases ht
    rw [ih hr]

/-- The part that a piece of a glob is read as. -/
def readPart (piece : String) : Except Fault Part := Part.ofTokens <$> read piece

/-- A part without wildcards is its piece. -/
theorem eq_of_readPart {piece s : String} (h : readPart piece = .ok (.literal s)) : piece = s := by
  obtain ⟨ts, hread, h⟩ := exists_of_map_eq_ok h
  unfold Part.ofTokens at h
  split_ifs at h
  split at h
  · next r hr =>
    cases h
    rw [literalText?_eq_some.1 hr] at hread
    exact String.toList_inj.1 (eq_of_tokens hread)
  · cases h

theorem readPart_escape (s : String) : readPart (escape s) = .ok (escapedPart s) := by
  rw [readPart, read_escape]
  rfl

theorem mapM_readPart_escape (ss : List String) :
    (ss.map escape).mapM readPart = .ok (ss.map escapedPart) := by
  induction ss with
  | nil => rfl
  | cons s ss ih =>
    rw [List.map_cons, List.mapM_cons, readPart_escape, ih]
    rfl

theorem exists_of_mapM_readPart {ss : List String} {ps : List Part}
    (h : ss.mapM readPart = .ok ps) : List.Forall₂ (fun s part => readPart s = .ok part) ss ps :=
  mapM_eq_ok_iff.1 h

theorem exists_of_mem_mapM {ss : List String} {ps : List Part} {part : Part}
    (h : ss.mapM readPart = .ok ps) (hpart : part ∈ ps) : ∃ s ∈ ss, readPart s = .ok part := by
  have hall := exists_of_mapM_readPart h
  clear h
  induction hall with
  | nil => cases hpart
  | @cons s _ ss _ hs _ ih =>
    rcases List.mem_cons.1 hpart with rfl | hpart
    · exact ⟨s, List.mem_cons_self, hs⟩
    · obtain ⟨r, hr, hread⟩ := ih hpart
      exact ⟨r, List.mem_cons_of_mem _ hr, hread⟩

theorem parts_eq_mapM {p : String} (h : (Path.inner p).getLast? ≠ some "") :
    parts p = (Path.inner p).mapM readPart := by
  have hparts {r : String} (hr : (Path.pieces r).getLast? ≠ some "") :
      (do
        let found ← (pieces r).mapM fun p => Part.ofTokens <$> read p
        return if r.isEmpty then [Part.literal ""] else found) = (Path.pieces r).mapM readPart := by
    have hempty : r.isEmpty = false := by
      rw [Bool.eq_false_iff]
      intro he
      obtain rfl : r = "" := by simpa using he
      exact hr rfl
    rw [pieces, if_neg hr, hempty]
    exact bind_pure _
  rw [parts]
  split
  · next habsolute =>
    have htext : p = "/" ++ (p.drop 1).toString := by
      rw [← String.toList_inj, toList_of_isAbsolute habsolute]
      simp
    have hinner := Path.inner_root (p.drop 1).toString
    rw [← htext] at hinner
    rw [hinner] at h ⊢
    exact hparts h
  · next habsolute =>
    rw [Path.inner, if_neg habsolute] at h ⊢
    exact hparts h

theorem slashFree_of_parts {pattern : String} {ps : List Part}
    (hlast : (Path.inner pattern).getLast? ≠ some "") (h : parts pattern = .ok ps) :
    SlashFree ps := by
  rw [parts_eq_mapM hlast] at h
  intro s hs
  obtain ⟨piece, hpiece, hread⟩ := exists_of_mem_mapM h hs
  obtain rfl := eq_of_readPart hread
  by_cases hempty : piece = ""
  · simp [hempty]
  · exact Path.not_mem_of_mem_pieces ((Path.mem_inner hempty).1 hpiece)

/-! ## Escaped paths -/

theorem escapeChar_slash : escapeChar '/' = ['/'] := by decide

theorem splitAtChar_escaped (cs : List Char) :
    splitAtChar '/' (cs.flatMap escapeChar) =
      (splitAtChar '/' cs).map fun piece => piece.flatMap escapeChar := by
  induction cs with
  | nil => rfl
  | cons c cs ih =>
    rw [List.flatMap_cons]
    by_cases hc : c = '/'
    · rw [hc, escapeChar_slash, List.singleton_append, splitAtChar_slash, splitAtChar_slash, ih]
      rfl
    · have hslash : '/' ∉ escapeChar c := by
        rcases escape_cases c with ⟨h, -⟩ | ⟨h, -⟩ <;> rw [h] <;> simp [Ne.symm hc]
      obtain ⟨piece, rest, hsplit, hcons⟩ := exists_splitAtChar_cons hc cs
      rw [hsplit, List.map_cons] at ih
      rw [splitAtChar_append hslash ih, hcons, List.map_cons, List.flatMap_cons]

theorem pieces_escape (p : String) : Path.pieces (escape p) = (Path.pieces p).map escape := by
  rw [Path.pieces, Path.pieces, toList_escape, splitAtChar_escaped, List.map_map, List.map_map]
  refine List.map_congr_left fun cs _ => ?_
  rw [← String.toList_inj]
  simp [toList_escape]

theorem isAbsolute_escape (p : String) : Path.isAbsolute (escape p) = Path.isAbsolute p := by
  rw [Path.isAbsolute_eq, Path.isAbsolute_eq, toList_escape]
  cases p.toList with
  | nil => rfl
  | cons c cs =>
    rw [List.flatMap_cons]
    rcases escape_cases c with ⟨h, -, hmem⟩ | ⟨h, -⟩
    · have hslash : c ≠ '/' := by
        rintro rfl
        exact absurd hmem (by decide)
      simp [h, hslash]
    · simp [h]

theorem escape_slash (p : String) : escape (p ++ "/") = escape p ++ "/" := by
  rw [← String.toList_inj, String.toList_append, toList_escape, toList_escape, String.toList_append,
    List.flatMap_append]
  rfl

theorem inner_escape (p : String) : Path.inner (escape p) = (Path.inner p).map escape := by
  rw [Path.inner, Path.inner, isAbsolute_escape, pieces_escape]
  split_ifs
  · rw [List.map_drop]
  · rfl

theorem escape_eq_empty_iff {p : String} : escape p = "" ↔ p = "" := by
  rw [← String.toList_eq_nil_iff, ← String.toList_eq_nil_iff, toList_escape]
  cases p.toList with
  | nil => rfl
  | cons c cs => rcases escape_cases c with ⟨h, -⟩ | ⟨h, -⟩ <;> simp [h]

theorem lead_escape (p : String) : Path.lead (escape p) = (Path.lead p).map escape := by
  simp only [Path.lead, escape_eq_empty_iff, inner_escape]
  split <;> rfl

theorem trim_escape (p : String) : Path.trim (escape p) = escape (Path.trim p) := by
  rw [← String.toList_inj, Path.toList_trim, toList_escape, toList_escape, Path.toList_trim]
  induction p.toList using List.reverseRecOn with
  | nil => rfl
  | append_singleton cs c ih =>
    rw [List.flatMap_append, List.flatMap_singleton]
    by_cases hc : c = '/'
    · rw [hc, escapeChar_slash, List.rdropWhile_concat_pos _ _ _ (by simp),
        List.rdropWhile_concat_pos _ _ _ (by simp), ih]
    · rw [List.rdropWhile_concat_neg _ _ _ (by simpa using hc), List.flatMap_append,
        List.flatMap_singleton]
      rcases escape_cases c with ⟨h, -⟩ | ⟨h, -⟩
      · rw [h]
        have hsplit : cs.flatMap escapeChar ++ ['[', c, ']'] =
            (cs.flatMap escapeChar ++ ['[', c]) ++ [']'] := by simp
        rw [hsplit, List.rdropWhile_concat_neg _ _ _ (by simp)]
      · rw [h, List.rdropWhile_concat_neg _ _ _ (by simpa using hc)]

/-- What a pattern behind an escaped folder is read as. -/
theorem parts_escape {b pattern : String} {ps : List Part}
    (hrelative : Path.isAbsolute pattern = false)
    (hlast : (Path.pieces pattern).getLast? ≠ some "") (h : parts pattern = .ok ps) :
    parts (escape b ++ "/" ++ pattern) = .ok ((Path.lead b).map escapedPart ++ ps) := by
  have hinner := Path.inner_of_relative hrelative
  have hall : Path.inner (escape b ++ "/" ++ pattern) =
      (Path.lead b).map escape ++ Path.pieces pattern := by
    rw [Path.inner_behind, lead_escape]
  rw [parts_eq_mapM (by rwa [hinner]), hinner] at h
  rw [parts_eq_mapM, hall, List.mapM_append, mapM_readPart_escape, h]
  · rfl
  · rw [hall, List.getLast?_append_of_ne_nil _ (Path.pieces_ne_nil pattern)]
    exact hlast

end StyleBuild.Glob
