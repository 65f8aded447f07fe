import Mathlib.Data.List.Forall2
import Mathlib.Data.String.Basic
import StyleBuild.Json.Form
import StyleBuild.Proofs.Except
import StyleBuild.Proofs.Text.Numerals

/-!
# Reading JSON back

A form reads a JSON value as some data (`Form.Reads`) if it takes that data off the text of the
value, whatever stands behind it there. Texts, counts, lists, records and choices are read back from
how they are written. What is read has a property if all that the form is made of ensures it
(`Json.Ensures`, `Form.of_read`).
-/

namespace StyleBuild

namespace Json

variable {α β : Type} {r : Reader α} {f : α → Reader β} {a : α} {b : β} {c : Char}
  {cs ds mid rest : List Char}

/-! ## Taking characters -/

/-- A reader takes a value off some characters and leaves others, wherever they stand. -/
def Takes (r : Reader α) (cs : List Char) (a : α) (rest : List Char) : Prop :=
  ∀ p, ∃ q, r ⟨cs, p⟩ = .ok (a, ⟨rest, q⟩)

theorem takes_pure (a : α) (cs : List Char) : Takes (pure a) cs a cs := fun p => ⟨p, rfl⟩

theorem Takes.bind (hr : Takes r cs a mid) (hf : Takes (f a) mid b rest) :
    Takes (r >>= f) cs b rest := by
  intro p
  obtain ⟨q, hq⟩ := hr p
  obtain ⟨q', hq'⟩ := hf q
  refine ⟨q', ?_⟩
  change (r ⟨cs, p⟩ >>= fun s => f s.1 s.2) = _
  rw [hq]
  exact hq'

theorem takes_get_bind {f : Cursor → Reader β} (h : ∀ p, Takes (f ⟨cs, p⟩) cs b rest) :
    Takes (get >>= f) cs b rest := fun p => h p p

theorem takes_peek (cs : List Char) : Takes Reader.peek cs cs.head? cs := fun p => ⟨p, rfl⟩

theorem takes_advance (c : Char) (cs : List Char) : Takes Reader.advance (c :: cs) () cs :=
  fun _ => ⟨_, rfl⟩

theorem takes_peekBehindSpace (h : ∀ c ∈ cs.head?, isSpace c = false) :
    Takes Reader.peekBehindSpace cs cs.head? cs := by
  have hnone : cs.takeWhile isSpace = [] := by
    cases cs with
    | nil => rfl
    | cons c cs => rw [List.takeWhile_cons_of_neg (by simpa using h c rfl)]
  intro p
  refine ⟨p, ?_⟩
  change Except.ok ((Cursor.skipSpace ⟨cs, p⟩).rest.head?, Cursor.skipSpace ⟨cs, p⟩) = _
  rw [Cursor.skipSpace, hnone]
  rfl

theorem skip_append {n : Nat} (h : ds.length = n) (rest : List Char) (p : Place) :
    Cursor.skip n ⟨ds ++ rest, p⟩ = ⟨rest, ds.foldl Place.after p⟩ := by
  rw [Cursor.skip, ← h, List.drop_left, List.take_left]

theorem takes_takeWhile {p : Char → Bool} (hds : ∀ c ∈ ds, p c = true)
    (hrest : ∀ c ∈ rest.head?, p c = false) : Takes (Reader.takeWhile p) (ds ++ rest) ds rest := by
  have htake := takeWhile_append_of_head hds hrest
  intro q
  refine ⟨ds.foldl Place.after q, ?_⟩
  change Except.ok ((ds ++ rest).takeWhile p,
    Cursor.skip ((ds ++ rest).takeWhile p).length ⟨ds ++ rest, q⟩) = _
  rw [htake, skip_append rfl]

theorem takes_word (cs rest : List Char) : Takes (Reader.word cs) (cs ++ rest) () rest := by
  induction cs with
  | nil => exact takes_pure () rest
  | cons c cs ih =>
    rw [Reader.word]
    refine (takes_peek _).bind ?_
    simp only [List.cons_append, List.head?_cons, if_true]
    exact (takes_advance c _).bind ih

/-! ## Texts -/

theorem utf8Len_ge_length (cs : List Char) : cs.length ≤ String.utf8Len cs := by
  induction cs with
  | nil => exact Nat.zero_le _
  | cons c cs ih =>
    have hpos := Char.utf8Size_pos c
    rw [String.utf8Len_cons, List.length_cons]
    omega

theorem takes_hexCode (hlen : ds.length = 4) (hds : ∀ c ∈ ds, isHexDigit c = true) :
    Takes Reader.hexCode (ds ++ rest) (valueOfDigits 16 ds) rest := by
  refine takes_get_bind fun p => ?_
  have hsize : ¬(String.ofList (ds ++ rest)).utf8ByteSize < 4 := by
    have hle := utf8Len_ge_length (ds ++ rest)
    rw [List.length_append] at hle
    rw [String.utf8ByteSize_ofList]
    omega
  have htake : (ds ++ rest).take 4 = ds := by rw [← hlen, List.take_left]
  have hall : ds.all isHexDigit = true := List.all_eq_true.2 hds
  simp only [hsize, htake, hall, if_true, if_false]
  intro q
  refine ⟨ds.foldl Place.after p, ?_⟩
  change Except.ok (valueOfDigits 16 ds, Cursor.skip 4 ⟨ds ++ rest, p⟩) = _
  rw [skip_append hlen]

/-- How a character is written in a text: by a letter, by its code, or as it stands. -/
theorem jsonChar_cases (c : Char) :
    (∃ d, jsonChar c = ['\\', d] ∧ d ≠ 'u' ∧ Reader.letterEscape? d = some c) ∨
    (jsonChar c = '\\' :: 'u' :: paddedDigits 16 4 c.toNat ∧ c.toNat < 32) ∨
    (jsonChar c = [c] ∧ ¬c.toNat < 32 ∧ c ≠ '"' ∧ c ≠ '\\') := by
  unfold jsonChar
  split
  · exact .inl ⟨'"', rfl, by decide, rfl⟩
  · exact .inl ⟨'\\', rfl, by decide, rfl⟩
  · exact .inl ⟨'n', rfl, by decide, rfl⟩
  · exact .inl ⟨'r', rfl, by decide, rfl⟩
  · exact .inl ⟨'t', rfl, by decide, rfl⟩
  · exact .inl ⟨'b', rfl, by decide, rfl⟩
  · exact .inl ⟨'f', rfl, by decide, rfl⟩
  · next hquote hslash _ _ _ _ _ =>
    by_cases hlow : c.toNat < 32
    · refine .inr (.inl ⟨?_, hlow⟩)
      rw [if_pos hlow, toList_hexPadded]
      rfl
    · refine .inr (.inr ⟨if_neg hlow, hlow, hquote, hslash⟩)

theorem takes_escape_letter {d : Char} (hne : d ≠ 'u') (hd : Reader.letterEscape? d = some c)
    (rest : List Char) : Takes Reader.escape (d :: rest) c rest := by
  refine (takes_peek _).bind ?_
  rw [List.head?_cons]
  split
  · next h => cases h
  · next h => exact absurd (Option.some.inj h) hne
  · next h =>
    cases h
    rw [hd]
    exact (takes_advance d rest).bind (takes_pure c rest)

theorem takes_escape_code (hc : c.toNat < 32) (rest : List Char) :
    Takes Reader.escape ('u' :: (paddedDigits 16 4 c.toNat ++ rest)) c rest := by
  have hvalue := valueOfDigits_paddedDigits (b := 16) (by decide) (by decide) 4 c.toNat
  have hcode : Takes Reader.hexCode (paddedDigits 16 4 c.toNat ++ rest)
      (valueOfDigits 16 (paddedDigits 16 4 c.toNat)) rest :=
    takes_hexCode (length_paddedDigits (by decide) (by decide) (by omega))
      fun d hd => isHexDigit_of_mem_paddedDigits hd
  rw [hvalue] at hcode
  have htrailing : Reader.isTrailing c.toNat = false := by
    simp only [Reader.isTrailing, Bool.and_eq_false_iff, decide_eq_false_iff_not]
    omega
  have hleading : Reader.isLeading c.toNat = false := by
    simp only [Reader.isLeading, Bool.and_eq_false_iff, decide_eq_false_iff_not]
    omega
  refine (takes_peek _).bind ((takes_advance 'u' _).bind (hcode.bind ?_))
  rw [htrailing, hleading, Char.ofNat_toNat]
  exact takes_pure c rest

/-- Characters are read back up to the closing quote. -/
theorem takes_textFrom {s : List Char} {fuel : Nat} (h : s.length < fuel) (rest : List Char) :
    Takes (Reader.textFrom fuel) (s.flatMap jsonChar ++ '"' :: rest) s rest := by
  induction s generalizing fuel with
  | nil =>
    obtain ⟨fuel, rfl⟩ := Nat.exists_eq_add_one.2 h
    exact (takes_peek _).bind ((takes_advance '"' rest).bind (takes_pure [] rest))
  | cons c s ih =>
    obtain ⟨fuel, rfl⟩ := Nat.exists_eq_add_one.2 (Nat.zero_lt_of_lt h)
    have hrest : Takes (Reader.textFrom fuel) (s.flatMap jsonChar ++ '"' :: rest) s rest :=
      ih (by simpa using h)
    have hdone := hrest.bind (f := fun t => pure (c :: t)) (takes_pure (c :: s) rest)
    rw [List.flatMap_cons, List.append_assoc, Reader.textFrom]
    rcases jsonChar_cases c with ⟨d, hchar, hne, hd⟩ | ⟨hchar, hlow⟩ | ⟨hchar, hlow, hquote, hslash⟩
    · rw [hchar]
      exact (takes_peek _).bind ((takes_advance '\\' _).bind
        ((takes_escape_letter hne hd _).bind hdone))
    · rw [hchar]
      exact (takes_peek _).bind ((takes_advance '\\' _).bind
        ((takes_escape_code hlow _).bind hdone))
    · rw [hchar, List.singleton_append]
      refine (takes_peek _).bind ?_
      rw [List.head?_cons]
      split
      · next h => cases h
      · next h => exact absurd (Option.some.inj h) hquote
      · next h => exact absurd (Option.some.inj h) hslash
      · next h =>
        cases h
        rw [if_neg hlow]
        exact (takes_advance c _).bind hdone

theorem length_le_flatMap_jsonChar (s : List Char) : s.length ≤ (s.flatMap jsonChar).length := by
  induction s with
  | nil => exact Nat.zero_le _
  | cons c s ih =>
    have hpos : 0 < (jsonChar c).length := by
      rcases jsonChar_cases c with ⟨d, h, -⟩ | ⟨h, -⟩ | ⟨h, -⟩ <;> rw [h] <;> exact Nat.succ_pos _
    rw [List.flatMap_cons, List.length_append, List.length_cons]
    omega

theorem takes_text (s : String) (rest : List Char) :
    Takes Reader.text (s.toList.flatMap jsonChar ++ '"' :: rest) s rest := by
  refine takes_get_bind fun p => ?_
  have hfuel : s.toList.length < (s.toList.flatMap jsonChar ++ '"' :: rest).length + 1 := by
    have hle := length_le_flatMap_jsonChar s.toList
    rw [List.length_append]
    omega
  refine (takes_textFrom hfuel rest).bind ?_
  rw [String.ofList_toList]
  exact takes_pure s rest

/-! ## Numbers -/

/-- Characters that may stand behind a value: none, or first one that ends an item or a bracket. -/
def Ends (cs : List Char) : Prop := ∀ c ∈ cs.head?, c = ',' ∨ c = ']' ∨ c = '\x7d'

theorem ends_nil : Ends [] := nofun

theorem Ends.cases (h : Ends rest) : rest = [] ∨
    ∃ tail, rest = ',' :: tail ∨ rest = ']' :: tail ∨ rest = '\x7d' :: tail := by
  cases rest with
  | nil => exact .inl rfl
  | cons c tail =>
    refine .inr ⟨tail, ?_⟩
    rcases h c rfl with rfl | rfl | rfl
    · exact .inl rfl
    · exact .inr (.inl rfl)
    · exact .inr (.inr rfl)

theorem Ends.not_isDigit (h : Ends rest) : ∀ c ∈ rest.head?, c.isDigit = false := by
  intro c hc
  rcases h c hc with rfl | rfl | rfl <;> rfl

theorem takes_fractionPart (flaw : Flaw) (h : Ends rest) :
    Takes (Reader.fractionPart flaw) rest none rest := by
  rcases h.cases with rfl | ⟨tail, rfl | rfl | rfl⟩ <;>
    exact (takes_peek _).bind (takes_pure none _)

theorem takes_exponentPart (flaw : Flaw) (h : Ends rest) :
    Takes (Reader.exponentPart flaw) rest none rest := by
  rcases h.cases with rfl | ⟨tail, rfl | rfl | rfl⟩ <;>
    exact (takes_peek _).bind (takes_pure none _)

theorem takes_wholePart (flaw : Flaw) (n : Nat) (h : Ends rest) :
    Takes (Reader.wholePart flaw) (Nat.toDigits 10 n ++ rest) (Nat.toDigits 10 n) rest := by
  rcases Nat.eq_zero_or_pos n with rfl | hpos
  · refine (takes_peek _).bind ((takes_advance '0' rest).bind ((takes_peek _).bind ?_))
    rcases h.cases with rfl | ⟨tail, rfl | rfl | rfl⟩ <;> exact takes_pure ['0'] _
  · have hhead := head?_toDigits_ne_zero (b := 10) (by decide) (by decide) hpos
    have hdigit : ∀ c ∈ Nat.toDigits 10 n, c.isDigit = true := fun c hc =>
      Nat.isDigit_of_mem_toDigits (by decide) (by decide) hc
    have hall := takes_takeWhile hdigit h.not_isDigit
    rcases hds : Nat.toDigits 10 n with _ | ⟨d, ds⟩
    · exact absurd hds Nat.toDigits_ne_nil
    · rw [hds] at hhead hdigit hall
      refine (takes_peek _).bind ?_
      rw [List.cons_append, List.head?_cons]
      split
      · next heq => cases heq
      · next heq => exact absurd heq hhead
      · next heq =>
        cases heq
        rw [if_pos (hdigit d (List.mem_cons_self ..))]
        exact hall

/-- A count is read back from its numeral. -/
theorem takes_number {n : Nat} (hn : n < Nat.pow 2 64) (h : Ends rest) :
    Takes Reader.number (Nat.toDigits 10 n ++ rest) (.integer n) rest := by
  have hminus : (Nat.toDigits 10 n ++ rest).head? ≠ some '-' := by
    rcases hds : Nat.toDigits 10 n with _ | ⟨d, ds⟩
    · exact absurd hds Nat.toDigits_ne_nil
    · intro hd
      have hmem : '-' ∈ Nat.toDigits 10 n := by
        rw [hds, ← Option.some.inj hd]
        exact List.mem_cons_self ..
      exact absurd (Nat.isDigit_of_mem_toDigits (by decide) (by decide) hmem) (by decide)
  have hnumeral : Takes (Reader.numeral .endOfValue) (Nat.toDigits 10 n ++ rest)
      ⟨Nat.toDigits 10 n, none, none⟩ rest :=
    (takes_wholePart .endOfValue n h).bind ((takes_fractionPart .endOfValue h).bind
      ((takes_exponentPart .endOfValue h).bind (takes_pure _ rest)))
  have hvalue : Reader.Numeral.value? (decide False) ⟨Nat.toDigits 10 n, none, none⟩ =
      some (.integer n) := by
    have hself := valueOfDigits_toDigits (b := 10) (by decide) (by decide) n
    simp [Reader.Numeral.value?, hself, hn]
  refine (takes_peek _).bind ?_
  simp only [hminus, if_false]
  refine hnumeral.bind ?_
  rw [hvalue]
  exact takes_pure _ rest

end Json

/-! ## Forms -/

namespace Form

open Json

variable {α β : Type}

/-- A form reads a JSON value as some data, whatever stands behind the text of the value. -/
def Reads (f : Form α) (j : Json) (x : α) : Prop :=
  ∀ rest, Ends rest → Takes f.fromText (j.compact.toList ++ rest) x rest

/-- A form that reads a JSON value reads its text. -/
theorem Reads.read {f : Form α} {j : Json} {x : α} (h : f.Reads j x) :
    f.read j.compact = .ok x := by
  have hend : Takes Reader.peekBehindSpace [] none [] := takes_peekBehindSpace nofun
  have hwhole : Takes (do
      let x ← f.fromText
      if (← Reader.peekBehindSpace).isSome then Reader.flawAhead .trailing
      return x) (j.compact.toList ++ []) x [] :=
    (h [] ends_nil).bind (hend.bind (takes_pure x []))
  obtain ⟨q, hq⟩ := hwhole {}
  rw [List.append_nil] at hq
  exact congrArg (Except.map Prod.fst) hq

/-! ### Scalars -/

theorem toList_compact_text (s : String) :
    (Json.text s).compact.toList = '"' :: (s.toList.flatMap jsonChar ++ ['"']) := by
  simp [compact, jsonQuoted]

theorem toList_compact_nat (n : Nat) : (Json.nat n).compact.toList = Nat.toDigits 10 n := by
  have hpos : ¬(n : Int) < 0 := by omega
  rw [Json.nat, compact, Number.jsonText, integerText, if_neg hpos, decimalText,
    String.toList_ofList]
  rfl

/-- A text that stands for something is read as that. -/
theorem reads_parsed {expected s : String} {parse : String → Except String α} {x : α}
    (h : parse s = .ok x) : (parsed expected parse).Reads (.text s) x := by
  intro rest _
  rw [toList_compact_text, List.cons_append, List.append_assoc, List.singleton_append]
  refine (takes_peekBehindSpace (by simp [isSpace])).bind ?_
  refine (takes_advance '"' _).bind ((takes_text s rest).bind ?_)
  rw [h]
  exact takes_pure x rest

theorem reads_text (s : String) : text.Reads (.text s) s := reads_parsed rfl

theorem isSpace_of_isDigit {c : Char} (h : c.isDigit = true) : isSpace c = false := by
  rw [Bool.eq_false_iff]
  intro hspace
  have hspaces : c = ' ' ∨ c = '\n' ∨ c = '\t' ∨ c = '\r' := by
    simpa [isSpace, or_assoc] using hspace
  rcases hspaces with rfl | rfl | rfl | rfl <;> exact absurd h (by decide)

theorem reads_count {n : Nat} (h : n < Nat.pow 2 64) : count.Reads (.nat n) n := by
  intro rest hrest
  have hnumber := takes_number h hrest
  have hcount : countOf (.integer n) = .ok n := by
    rw [countOf, if_pos ⟨Int.natCast_nonneg n, by exact_mod_cast h⟩]
    rfl
  rw [toList_compact_nat]
  rcases hds : Nat.toDigits 10 n with _ | ⟨d, ds⟩
  · exact absurd hds Nat.toDigits_ne_nil
  · rw [hds] at hnumber
    have hdigit : d.isDigit = true :=
      Nat.isDigit_of_mem_toDigits (b := 10) (n := n) (by decide) (by decide)
        (hds ▸ List.mem_cons_self ..)
    refine (takes_peekBehindSpace (by simpa using isSpace_of_isDigit hdigit)).bind ?_
    simp only [List.cons_append, List.head?_cons, hdigit, or_true, if_true]
    refine hnumber.bind ?_
    rw [hcount]
    exact takes_pure n rest

theorem reads_none (f : Form α) : (optional f).Reads .null none := by
  intro rest _
  have hnull : (Json.null).compact.toList ++ rest = 'n' :: ("ull".toList ++ rest) := by
    simp [compact]
  rw [hnull]
  refine (takes_peekBehindSpace (by simp [isSpace])).bind ((takes_advance 'n' _).bind ?_)
  exact (takes_word _ rest).bind (takes_pure none rest)

theorem reads_some {f : Form α} {s : String} {x : α} (h : f.Reads (.text s) x) :
    (optional f).Reads (.text s) (some x) := by
  intro rest hrest
  have hread := h rest hrest
  rw [toList_compact_text] at hread ⊢
  refine (takes_peekBehindSpace (by simp [isSpace])).bind ?_
  exact hread.bind (takes_pure (some x) rest)

/-! ### Lists -/

theorem intercalate_cons (sep x : List Char) (xs : List (List Char)) :
    sep.intercalate (x :: xs) = x ++ xs.flatMap (sep ++ ·) := by
  induction xs generalizing x with
  | nil => simp [List.intercalate]
  | cons y ys ih =>
    rw [List.intercalate_cons_cons, ih, List.flatMap_cons]
    simp only [List.append_assoc]

theorem length_le_flatMap {γ : Type} {g : γ → List Char} (hg : ∀ x, 0 < (g x).length)
    (xs : List γ) : xs.length ≤ (xs.flatMap g).length := by
  induction xs with
  | nil => exact Nat.zero_le _
  | cons x xs ih =>
    have hpos := hg x
    rw [List.flatMap_cons, List.length_append, List.length_cons]
    omega

/-- An item behind another one. -/
def itemBehind (j : Json) : List Char := ',' :: j.compact.toList

theorem toList_compact_array_cons (j : Json) (js : List Json) :
    (Json.array (j :: js)).compact.toList =
      '[' :: (j.compact.toList ++ (js.flatMap itemBehind ++ [']'])) := by
  have hitems : ∀ js, compactItems js = js.map compact := fun js => by
    induction js with
    | nil => rfl
    | cons j js ih => rw [compactItems, ih, List.map_cons]
  have hopen : "[".toList = ['['] := by simp
  have hclose : "]".toList = [']'] := by simp
  have hcomma : ",".toList = [','] := by simp
  rw [compact, hitems, String.toList_append, String.toList_append, String.toList_intercalate,
    hopen, hclose, hcomma, List.map_cons, List.map_cons, intercalate_cons, List.flatMap_map,
    List.flatMap_map]
  simp only [List.cons_append, List.append_assoc]
  rfl

theorem takes_moreItems_end (first : Bool) (rest : List Char) :
    Takes (Reader.moreItems first) (']' :: rest) false (']' :: rest) :=
  (takes_peekBehindSpace (by simp [isSpace])).bind (takes_pure false _)

theorem takes_moreItems_first (rest : List Char) :
    Takes (Reader.moreItems true) ('\x7b' :: rest) true ('\x7b' :: rest) :=
  (takes_peekBehindSpace (by simp [isSpace])).bind (takes_pure true _)

theorem takes_moreItems_next (rest : List Char) :
    Takes (Reader.moreItems false) (',' :: '\x7b' :: rest) true ('\x7b' :: rest) :=
  (takes_peekBehindSpace (by simp [isSpace])).bind ((takes_advance ',' _).bind
    ((takes_peekBehindSpace (by simp [isSpace])).bind (takes_pure true _)))

/-- A value that is read, and starts with a brace. -/
def ReadsObject (f : Form α) (j : Json) (x : α) : Prop :=
  f.Reads j x ∧ ∃ es, j = .object es

theorem exists_compact_object (es : List (String × Json)) :
    ∃ cs, (Json.object es).compact.toList = '\x7b' :: cs := by
  have hopen : "\x7b".toList = ['\x7b'] := by simp
  rw [compact, String.toList_append, String.toList_append, hopen]
  exact ⟨_, rfl⟩

theorem ends_cons_iff {c : Char} {rest : List Char} :
    Ends (c :: rest) ↔ c = ',' ∨ c = ']' ∨ c = '\x7d' := by
  simp [Ends]

theorem ends_flatMap_itemBehind (js : List Json) (rest : List Char) :
    Ends (js.flatMap itemBehind ++ ']' :: rest) := by
  cases js with
  | nil => exact ends_cons_iff.2 (.inr (.inl rfl))
  | cons j js => exact ends_cons_iff.2 (.inl rfl)

theorem takes_itemsFrom {f : Form α} {js : List Json} {xs : List α}
    (h : List.Forall₂ f.ReadsObject js xs) {fuel : Nat} (hfuel : js.length < fuel)
    (rest : List Char) :
    Takes (itemsFrom f.fromText fuel false) (js.flatMap itemBehind ++ ']' :: rest) xs
      (']' :: rest) := by
  induction h generalizing fuel with
  | nil =>
    obtain ⟨fuel, rfl⟩ := Nat.exists_eq_add_one.2 (Nat.zero_lt_of_lt hfuel)
    exact (takes_moreItems_end false rest).bind (takes_pure [] _)
  | @cons j x js xs hj _ ih =>
    obtain ⟨fuel, rfl⟩ := Nat.exists_eq_add_one.2 (Nat.zero_lt_of_lt hfuel)
    obtain ⟨hread, es, rfl⟩ := hj
    obtain ⟨cs, hcs⟩ := exists_compact_object es
    have hitem := hread (js.flatMap itemBehind ++ ']' :: rest) (ends_flatMap_itemBehind js rest)
    have hitems : Takes (itemsFrom f.fromText fuel false) (js.flatMap itemBehind ++ ']' :: rest) xs
        (']' :: rest) := ih (by simpa using hfuel)
    rw [List.flatMap_cons, itemBehind, List.append_assoc, itemsFrom]
    rw [hcs] at hitem ⊢
    refine (takes_moreItems_next _).bind ?_
    exact hitem.bind (hitems.bind (takes_pure (x :: xs) _))

theorem takes_enclosed_list {body : Reader α} {cs rest : List Char} {x : α}
    (h : Takes body cs x (']' :: rest)) :
    Takes (Reader.enclosed body Reader.closeList) cs x rest := by
  intro p
  obtain ⟨q, hq⟩ := h p
  refine ⟨q.after ']', ?_⟩
  rw [Reader.enclosed, hq]
  rfl

/-- A list of objects is read item by item. -/
theorem reads_list {f : Form α} {js : List Json} {xs : List α}
    (h : List.Forall₂ f.ReadsObject js xs) : (list f).Reads (.array js) xs := by
  intro rest _
  cases h with
  | nil =>
    have hempty : (Json.array []).compact.toList ++ rest = '[' :: ']' :: rest := by
      simp [compact, compactItems]
    rw [hempty]
    refine (takes_peekBehindSpace (by simp [isSpace])).bind ((takes_advance '[' _).bind ?_)
    refine takes_get_bind fun p => takes_enclosed_list ?_
    exact (takes_moreItems_end true rest).bind (takes_pure [] _)
  | @cons j x js xs hj hjs =>
    obtain ⟨hread, es, rfl⟩ := hj
    obtain ⟨cs, hcs⟩ := exists_compact_object es
    have hitem := hread (js.flatMap itemBehind ++ ']' :: rest) (ends_flatMap_itemBehind js rest)
    rw [toList_compact_array_cons, List.cons_append, List.append_assoc, List.append_assoc,
      List.singleton_append]
    refine (takes_peekBehindSpace (by simp [isSpace])).bind ((takes_advance '[' _).bind ?_)
    refine takes_get_bind fun p => takes_enclosed_list ?_
    have hfuel : js.length <
        ((Json.object es).compact.toList ++ (js.flatMap itemBehind ++ ']' :: rest)).length := by
      have hle := length_le_flatMap (g := itemBehind) (fun _ => Nat.succ_pos _) js
      simp only [List.length_append, List.length_cons]
      omega
    have hitems := takes_itemsFrom hjs hfuel rest
    rw [itemsFrom]
    rw [hcs] at hitem hitems ⊢
    refine (takes_moreItems_first _).bind ?_
    exact hitem.bind (hitems.bind (takes_pure (x :: xs) _))

/-! ### Records -/

/-- The text of an entry. -/
def entryText (e : String × Json) : List Char :=
  '"' :: (e.1.toList.flatMap jsonChar ++ '"' :: ':' :: e.2.compact.toList)

/-- An entry behind another one. -/
def entryBehind (e : String × Json) : List Char := ',' :: entryText e

theorem toList_compact_object_cons (e : String × Json) (es : List (String × Json)) :
    (Json.object (e :: es)).compact.toList =
      '\x7b' :: (entryText e ++ (es.flatMap entryBehind ++ ['\x7d'])) := by
  have hentries : ∀ es, compactEntries es = es.map fun e => jsonQuoted e.1 ++ ":" ++ e.2.compact :=
    fun es => by
      induction es with
      | nil => rfl
      | cons e es ih => rw [compactEntries, ih, List.map_cons]
  have hentry : ∀ e : String × Json, (jsonQuoted e.1 ++ ":" ++ e.2.compact).toList = entryText e :=
    fun e => by simp [jsonQuoted, entryText]
  have hopen : "\x7b".toList = ['\x7b'] := by simp
  have hclose : "\x7d".toList = ['\x7d'] := by simp
  have hcomma : ",".toList = [','] := by simp
  rw [compact, hentries, String.toList_append, String.toList_append, String.toList_intercalate,
    hopen, hclose, hcomma, List.map_cons, List.map_cons, intercalate_cons, List.flatMap_map,
    List.flatMap_map]
  simp only [hentry, List.cons_append, List.append_assoc]
  rfl

theorem takes_moreEntries_end (first : Bool) (rest : List Char) :
    Takes (Reader.moreEntries first) ('\x7d' :: rest) false ('\x7d' :: rest) :=
  (takes_peekBehindSpace (by simp [isSpace])).bind (takes_pure false _)

theorem takes_moreEntries_first (rest : List Char) :
    Takes (Reader.moreEntries true) ('"' :: rest) true ('"' :: rest) :=
  (takes_peekBehindSpace (by simp [isSpace])).bind (takes_pure true _)

theorem takes_moreEntries_next (rest : List Char) :
    Takes (Reader.moreEntries false) (',' :: '"' :: rest) true ('"' :: rest) :=
  (takes_peekBehindSpace (by simp [isSpace])).bind ((takes_advance ',' _).bind
    ((takes_peekBehindSpace (by simp [isSpace])).bind (takes_pure true _)))

theorem takes_colon (rest : List Char) : Takes Reader.colon (':' :: rest) () rest :=
  (takes_peekBehindSpace (by simp [isSpace])).bind (takes_advance ':' rest)

/-- Entries fill the fields of a record one after another: each is that of a field that is not given
yet, and is read by it. -/
inductive Fills (fields : List (Field β)) : β → List (String × Json) → β → Prop where
  | nil (b : β) : Fills fields b [] b
  | cons {b b' b'' : β} {name : String} {j : Json} {es : List (String × Json)} {f : Field β}
    (hfield : (fields.find? fun f => f.name == name) = some f) (hnew : f.isGiven b = false)
    (hread : ∀ rest, Ends rest → Takes (f.fromText b) (j.compact.toList ++ rest) b' rest)
    (hes : Fills fields b' es b'') : Fills fields b ((name, j) :: es) b''

theorem ends_flatMap_entryBehind (es : List (String × Json)) (rest : List Char) :
    Ends (es.flatMap entryBehind ++ '\x7d' :: rest) := by
  cases es with
  | nil => exact ends_cons_iff.2 (.inr (.inr rfl))
  | cons e es => exact ends_cons_iff.2 (.inl rfl)

variable {fields : List (Field β)} {b b' : β} {es : List (String × Json)} {fuel : Nat}

/-- An entry is read by its field, and then the entries behind it are read. -/
theorem takes_entriesFrom_cons {name : String} {j : Json} {f : Field β} {b'' : β} {first : Bool}
    {cs rest : List Char}
    (hmore : Takes (Reader.moreEntries first) cs true
      (entryText (name, j) ++ (es.flatMap entryBehind ++ '\x7d' :: rest)))
    (hfield : (fields.find? fun f => f.name == name) = some f) (hnew : f.isGiven b = false)
    (hread : ∀ rest, Ends rest → Takes (f.fromText b) (j.compact.toList ++ rest) b' rest)
    (hes : Takes (entriesFrom fields fuel false b')
      (es.flatMap entryBehind ++ '\x7d' :: rest) b'' ('\x7d' :: rest)) :
    Takes (entriesFrom fields (fuel + 1) first b) cs b'' ('\x7d' :: rest) := by
  have hvalue := hread _ (ends_flatMap_entryBehind es rest)
  rw [entriesFrom]
  refine hmore.bind ?_
  simp only [entryText, List.cons_append, List.append_assoc, if_true]
  refine (takes_advance '"' _).bind ((takes_text name _).bind ?_)
  simp only [hfield, hnew]
  exact (takes_colon _).bind (hvalue.bind hes)

theorem takes_entriesFrom (h : Fills fields b es b') (hfuel : es.length < fuel)
    (rest : List Char) :
    Takes (entriesFrom fields fuel false b) (es.flatMap entryBehind ++ '\x7d' :: rest) b'
      ('\x7d' :: rest) := by
  induction h generalizing fuel with
  | nil b =>
    obtain ⟨fuel, rfl⟩ := Nat.exists_eq_add_one.2 (Nat.zero_lt_of_lt hfuel)
    exact (takes_moreEntries_end false rest).bind (takes_pure b _)
  | cons hfield hnew hread _ ih =>
    obtain ⟨fuel, rfl⟩ := Nat.exists_eq_add_one.2 (Nat.zero_lt_of_lt hfuel)
    refine takes_entriesFrom_cons ?_ hfield hnew hread (ih (by simpa using hfuel))
    rw [List.flatMap_cons, List.append_assoc]
    exact takes_moreEntries_next _

theorem takes_enclosed_object {body : Reader α} {cs rest : List Char} {x : α}
    (h : Takes body cs x ('\x7d' :: rest)) :
    Takes (Reader.enclosed body Reader.closeObject) cs x rest := by
  intro p
  obtain ⟨q, hq⟩ := h p
  refine ⟨q.after '\x7d', ?_⟩
  rw [Reader.enclosed, hq]
  rfl

/-- A record is read from an object whose entries fill its fields. -/
theorem reads_record {what : String} {start : β} {finish : β → Except Mismatch α} {x : α}
    (h : Fills fields start es b) (hfinish : finish b = .ok x) (hne : es ≠ []) :
    (record what fields start finish).Reads (.object es) x := by
  intro rest _
  cases h with
  | nil => exact absurd rfl hne
  | @cons _ b' _ name j es f hfield hnew hread hes =>
    rw [toList_compact_object_cons, List.cons_append, List.append_assoc, List.append_assoc,
      List.singleton_append]
    refine (takes_peekBehindSpace (by simp [isSpace])).bind ((takes_advance '\x7b' _).bind ?_)
    refine takes_get_bind fun p => takes_enclosed_object ?_
    have hfuel : es.length <
        (entryText (name, j) ++ (es.flatMap entryBehind ++ '\x7d' :: rest)).length := by
      have hle := length_le_flatMap (g := entryBehind) (fun _ => Nat.succ_pos _) es
      simp only [List.length_append, List.length_cons]
      omega
    have hentries := takes_entriesFrom hes hfuel rest
    refine (takes_entriesFrom_cons (takes_moreEntries_first _) hfield hnew hread hentries).bind ?_
    rw [hfinish]
    exact takes_pure x _

/-- An entry whose value is read by the form of its field fills that field. -/
theorem Reads.fills {f : Form α} {j : Json} {x : α} {name : String} {view : β → Option α}
    {give : β → α → β} (h : f.Reads j x)
    (hfield : (fields.find? fun f => f.name == name) = some (field name f view give))
    (hnew : (view b).isSome = false) (hes : Fills fields (give b x) es b') :
    Fills fields b ((name, j) :: es) b' :=
  .cons hfield hnew (fun rest hrest => (h rest hrest).bind (takes_pure (give b x) rest)) hes

/-! ### Choices -/

theorem takes_variantName {variants : List (String × Variant α)} {name : String} {v : Variant α}
    (h : variants.lookup name = some v) (rest : List Char) :
    Takes (variantName variants) ('"' :: (name.toList.flatMap jsonChar ++ '"' :: rest)) v rest := by
  have hname : Takes (parsed "variant identifier" .ok).fromText
      ('"' :: (name.toList.flatMap jsonChar ++ '"' :: rest)) name rest := by
    refine (takes_peekBehindSpace (by simp [isSpace])).bind ?_
    exact (takes_advance '"' _).bind ((takes_text name rest).bind (takes_pure name rest))
  refine hname.bind ?_
  rw [variant, h]
  exact takes_pure v rest

/-- A variant that stands for itself is read from its name. -/
theorem reads_plain {variants : List (String × Variant α)} {name : String} {x : α}
    (h : variants.lookup name = some (.plain x)) : (choice variants).Reads (.text name) x := by
  intro rest _
  rw [toList_compact_text, List.cons_append, List.append_assoc, List.singleton_append]
  refine (takes_peekBehindSpace (by simp [isSpace])).bind ?_
  exact (takes_variantName h rest).bind (takes_pure x rest)

/-- A variant with fields is read from an object whose only entry has its name. -/
theorem reads_withFields {variants : List (String × Variant α)} {name : String} {f : Form α}
    {j : Json} {x : α} (h : variants.lookup name = some (.withFields f)) (hread : f.Reads j x) :
    (choice variants).Reads (.object [(name, j)]) x := by
  intro rest _
  have hfields := hread ('\x7d' :: rest) (ends_cons_iff.2 (.inr (.inr rfl)))
  rw [toList_compact_object_cons, entryText]
  simp only [List.flatMap_nil, List.nil_append, List.cons_append, List.append_assoc]
  refine (takes_peekBehindSpace (by simp [isSpace])).bind ((takes_advance '\x7b' _).bind ?_)
  refine (takes_variantName h _).bind ((takes_colon _).bind (hfields.bind ?_))
  refine (takes_peekBehindSpace (by simp [isSpace])).bind ?_
  exact (takes_advance '\x7d' rest).bind (takes_pure x rest)

end Form

/-! ## What is ensured -/

namespace Json

variable {α β : Type} {r : Reader α} {f : α → Reader β} {P : α → Prop} {Q : β → Prop}

/-- Whatever a reader reads has a property. -/
def Ensures (r : Reader α) (P : α → Prop) : Prop := ∀ c a c', r c = .ok (a, c') → P a

theorem ensures_true (r : Reader α) : Ensures r fun _ => True := fun _ _ _ _ => trivial

theorem ensures_pure {a : α} (h : P a) : Ensures (pure a) P := by
  intro c a' c' heq
  cases heq
  exact h

theorem Ensures.bind (hr : Ensures r P) (hf : ∀ a, P a → Ensures (f a) Q) :
    Ensures (r >>= f) Q := by
  intro c b c' h
  change (r c >>= fun s => f s.1 s.2) = _ at h
  cases hrun : r c with
  | error e =>
    rw [hrun] at h
    cases h
  | ok s =>
    rw [hrun] at h
    exact hf s.1 (hr c s.1 s.2 hrun) s.2 b c' h

theorem ensures_bind (hf : ∀ a, Ensures (f a) Q) : Ensures (r >>= f) Q :=
  (ensures_true r).bind fun a _ => hf a

theorem ensures_flawHere (flaw : Flaw) : Ensures (Reader.flawHere flaw) P := nofun

theorem ensures_flawAhead (flaw : Flaw) : Ensures (Reader.flawAhead flaw) P := nofun

theorem ensures_unfitHere (m : Mismatch) : Ensures (Reader.unfitHere m) P := nofun

theorem ensures_unfitSomewhere (m : Mismatch) : Ensures (Reader.unfitSomewhere m) P := nofun

theorem ensures_wrongType (expected : String) : Ensures (Form.wrongType expected) P := by
  refine ensures_bind fun next => ?_
  split
  · exact ensures_bind fun _ => ensures_bind fun _ => ensures_unfitHere _
  · exact ensures_bind fun _ => ensures_bind fun _ => ensures_unfitHere _
  · exact ensures_bind fun _ => ensures_bind fun _ => ensures_unfitHere _
  · exact ensures_bind fun _ => ensures_bind fun _ => ensures_unfitHere _
  · exact ensures_unfitHere _
  · exact ensures_unfitHere _
  · split
    · exact ensures_bind fun _ => ensures_unfitHere _
    · exact ensures_flawAhead _
  · exact ensures_flawAhead _

theorem Ensures.enclosed {body : Reader α} {close : Cursor → Option Stop × Cursor}
    (h : Ensures body P) : Ensures (Reader.enclosed body close) P := by
  intro c a c' heq
  unfold Reader.enclosed at heq
  split at heq
  · next hbody =>
    split at heq
    · cases heq
      exact h c _ _ hbody
    · cases heq
  · cases heq
  · cases heq

end Json

namespace Form

open Json

variable {α β : Type} {P : α → Prop} {I : β → Prop} {fields : List (Field β)}

theorem ensures_count : Ensures count.fromText (· < Nat.pow 2 64) := by
  refine ensures_bind fun next => ?_
  split
  · exact ensures_flawAhead _
  · split
    · refine ensures_bind fun n => ?_
      split
      · next k hcount =>
        refine ensures_pure ?_
        unfold countOf at hcount
        split at hcount
        · split at hcount
          · next hbounds =>
            cases hcount
            omega
          · cases hcount
        · cases hcount
      · exact ensures_unfitHere _
    · exact ensures_wrongType _

theorem ensures_itemsFrom {read : Reader α} (h : Ensures read P) (fuel : Nat) (first : Bool) :
    Ensures (itemsFrom read fuel first) fun xs => ∀ x ∈ xs, P x := by
  induction fuel generalizing first with
  | zero => exact ensures_pure nofun
  | succ fuel ih =>
    refine ensures_bind fun more => ?_
    split
    · refine h.bind fun x hx => (ih false).bind fun xs hxs => ensures_pure ?_
      exact List.forall_mem_cons.2 ⟨hx, hxs⟩
    · exact ensures_pure nofun

theorem ensures_list {f : Form α} (h : Ensures f.fromText P) :
    Ensures (list f).fromText fun xs => ∀ x ∈ xs, P x := by
  refine ensures_bind fun next => ?_
  split
  · exact ensures_flawAhead _
  · exact ensures_bind fun _ => ensures_bind fun _ => (ensures_itemsFrom h _ true).enclosed
  · exact ensures_wrongType _

theorem ensures_entriesFrom (h : ∀ f ∈ fields, ∀ b, I b → Ensures (f.fromText b) I) (fuel : Nat)
    (first : Bool) {b : β} (hb : I b) : Ensures (entriesFrom fields fuel first b) I := by
  induction fuel generalizing first b with
  | zero => exact ensures_pure hb
  | succ fuel ih =>
    refine ensures_bind fun more => ?_
    split
    · refine ensures_bind fun _ => ensures_bind fun key => ?_
      split
      · next f hfield =>
        have hread := h f (List.mem_of_find?_eq_some hfield) b hb
        have hrest : Ensures (Reader.colon >>= fun _ => f.fromText b >>= fun b' =>
            entriesFrom fields fuel false b') I :=
          ensures_bind fun _ => hread.bind fun b' hb' => ih false hb'
        split
        · exact ensures_bind fun _ => hrest
        · exact hrest
      · exact ensures_bind fun _ => ensures_bind fun _ => ih false hb
    · exact ensures_pure hb

theorem ensures_fieldsInOrder {what : String} {total : Nat}
    (h : ∀ f ∈ fields, ∀ b, I b → Ensures (f.fromText b) I) (first : Bool) {b : β} (hb : I b) :
    Ensures (fieldsInOrder what total fields first b) I := by
  induction fields generalizing first b with
  | nil => exact ensures_pure hb
  | cons f fs ih =>
    rw [List.forall_mem_cons] at h
    refine ensures_bind fun more => ?_
    split
    · exact (h.1 b hb).bind fun b' hb' => ih h.2 false hb'
    · exact ensures_unfitSomewhere _

/-- A field keeps an invariant if what its form ensures does. -/
theorem ensures_field {f : Form α} {name : String} {view : β → Option α} {give : β → α → β}
    (h : Ensures f.fromText P) (hgive : ∀ b x, I b → P x → I (give b x)) :
    ∀ b, I b → Ensures ((field name f view give).fromText b) I := fun b hb =>
  h.bind fun x hx => ensures_pure (hgive b x hb hx)

theorem ensures_finish {finish : β → Except Mismatch α}
    (hfinish : ∀ b x, I b → finish b = .ok x → P x) (b : β) (hb : I b) :
    Ensures (match finish b with
      | .ok x => pure x
      | .error m => Reader.unfitSomewhere m) P := by
  split
  · next x hx => exact ensures_pure (hfinish b x hb hx)
  · exact ensures_unfitSomewhere _

/-- What a record ensures follows from an invariant of its fields. -/
theorem ensures_record {what : String} {start : β} {finish : β → Except Mismatch α}
    (h : ∀ f ∈ fields, ∀ b, I b → Ensures (f.fromText b) I) (hstart : I start)
    (hfinish : ∀ b x, I b → finish b = .ok x → P x) :
    Ensures (record what fields start finish).fromText P := by
  have hend := ensures_finish hfinish
  refine ensures_bind fun next => ?_
  split
  · exact ensures_flawAhead _
  · refine ensures_bind fun _ => ensures_bind fun _ => Ensures.enclosed ?_
    exact (ensures_entriesFrom h _ true hstart).bind hend
  · refine ensures_bind fun _ => Ensures.enclosed ?_
    exact (ensures_fieldsInOrder h true hstart).bind hend
  · exact ensures_wrongType _

/-- A variant that stands for data with a property, or whose fields ensure it. -/
def Variant.Ensures (P : α → Prop) : Variant α → Prop
  | .plain x => P x
  | .withFields f => Json.Ensures f.fromText P

theorem ensures_variantName {variants : List (String × Variant α)} {V : Variant α → Prop}
    (h : ∀ v ∈ variants, V v.2) : Ensures (variantName variants) V := by
  refine ensures_bind fun name => ?_
  split
  · next v hv =>
    refine ensures_pure ?_
    unfold variant at hv
    split at hv
    · next v' hlookup =>
      cases hv
      obtain ⟨before, behind, rfl, -⟩ := List.lookup_eq_some_iff.1 hlookup
      exact h (name, v) (List.mem_append_right _ (List.mem_cons_self ..))
    · cases hv
  · exact ensures_unfitHere _

theorem ensures_closing {x : α} (hx : P x) : Ensures (do
    match ← Reader.peekBehindSpace with
    | some '\x7d' => do
      Reader.advance
      return x
    | some _ => Reader.flawHere .noValue
    | none => Reader.flawHere .endOfObject) P := by
  refine ensures_bind fun next => ?_
  split
  · exact ensures_bind fun _ => ensures_pure hx
  · exact ensures_flawHere _
  · exact ensures_flawHere _

/-- What a choice ensures is what all its variants ensure. -/
theorem ensures_choice {variants : List (String × Variant α)}
    (h : ∀ v ∈ variants, v.2.Ensures P) : Ensures (choice variants).fromText P := by
  have hname := ensures_variantName h
  refine ensures_bind fun next => ?_
  split
  · refine ensures_bind fun _ => hname.bind fun v hv => ensures_bind fun _ => ?_
    cases v with
    | plain x =>
      have hx : Ensures (pure x) P := ensures_pure hv
      exact ensures_bind fun _ => hx.bind fun _ => ensures_closing
    | withFields f => exact hv.bind fun _ => ensures_closing
  · refine hname.bind fun v hv => ?_
    split
    · exact ensures_pure hv
    · exact ensures_unfitSomewhere _
  · exact ensures_flawAhead _
  · exact ensures_flawAhead _

/-- What is read from a whole text has what its form ensures. -/
theorem of_read {f : Form α} (h : Ensures f.fromText P) {text : String} {x : α}
    (hread : f.read text = .ok x) : P x := by
  obtain ⟨⟨y, c⟩, hwhole, rfl⟩ := exists_of_map_eq_ok hread
  have hall : Ensures (do
      let x ← f.fromText
      if (← Reader.peekBehindSpace).isSome then Reader.flawAhead .trailing
      return x) P := by
    refine h.bind fun x hx => ensures_bind fun next => ?_
    split
    · exact ensures_bind fun _ => ensures_pure hx
    · exact ensures_pure hx
  exact hall _ y c hwhole

end Form

end StyleBuild
