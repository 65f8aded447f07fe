import StyleBuild.Css.Sheet
import StyleBuild.Proofs.Css.Reading.Plain
import StyleBuild.Proofs.Css.Reading.Words
import StyleBuild.Theme.Reading

/-!
# The rules of utilities

The text of a utility's rule is read as one style rule for its class, with one declaration of its
property, if the name is one of a class without escapes and the value is plain
(`Theme.read_rule`). Font stacks are, unless a family name holds a backslash or the end of a line
(`isPlainValue_fontStack`).
-/

namespace StyleBuild

open Css

/-! ## Font stacks -/

/-- Whether a family name can be put between quotes as it is, its own quotes escaped. -/
def isQuotable (name : String) : Bool := name.toList.all fun c => c != '\\' && !isNewline c

/-- A character of a family name between quotes. -/
theorem readQuoted_familyChar {c : Char} (h : c ≠ '\\') (n : Nat) (rest : List Char) :
    readQuoted '"' (n + 1) (quoteFamilyChar c ++ rest) =
      if isNewline c then (false, [], c :: rest)
      else ((readQuoted '"' n rest).1, visible c :: (readQuoted '"' n rest).2.1,
        (readQuoted '"' n rest).2.2) := by
  rw [quoteFamilyChar]
  split
  · next hquote =>
    rw [hquote, List.cons_append, List.singleton_append, readQuoted_escape (by decide),
      readEscape_symbol (by decide)]
    rfl
  · next hquote => rw [List.singleton_append, readQuoted_cons h, if_neg hquote]

theorem readQuoted_family {cs rest : List Char} {n : Nat}
    (h : ∀ c ∈ cs, c ≠ '\\' ∧ isNewline c = false) (hn : cs.length < n) :
    readQuoted '"' n (cs.flatMap quoteFamilyChar ++ '"' :: rest) =
      (true, cs.map visible, rest) := by
  induction cs generalizing n with
  | nil =>
    obtain ⟨n, rfl⟩ : ∃ k, n = k + 1 := ⟨n - 1, by simp at hn; omega⟩
    exact readQuoted_cons (by decide) n rest
  | cons c cs ih =>
    obtain ⟨n, rfl⟩ : ∃ k, n = k + 1 := ⟨n - 1, by simp at hn; omega⟩
    obtain ⟨hb, hl⟩ := h c (by simp)
    rw [List.flatMap_cons, List.append_assoc, readQuoted_familyChar hb, if_neg (by simp [hl]),
      ih (fun c hc => h c (by simp [hc])) (by simpa using hn), List.map_cons]

theorem isWordChar_of_ascii {c : Char} (h : (c.isAlphanum || c == '-' || c == '_') = true) :
    isWordChar c = true := by
  have hzero : c.toNat ≠ 0 := by
    intro hc
    obtain rfl : c = '\x00' := Char.toNat_inj.1 hc
    exact absurd h (by decide)
  simp only [isWordChar, isNameChar, Bool.and_eq_true, Bool.or_eq_true, bne_iff_ne] at h ⊢
  tauto

/-- A family name that needs no quotes starts with a letter or an underscore, maybe behind a
dash. -/
theorem isPlainFamily_cases {name : String} (h : isPlainFamily name = true) :
    ∃ c cs, (name.toList = '-' :: c :: cs ∨ c ≠ '-' ∧ name.toList = c :: cs) ∧
      (c.isAlpha || c == '_') = true ∧
      ∀ d ∈ cs, (d.isAlphanum || d == '-' || d == '_') = true := by
  unfold isPlainFamily at h
  generalize name.toList = cs at h ⊢
  dsimp only at h
  split at h
  · cases h
  · next c rest hbody =>
    obtain ⟨hc, hrest⟩ := Bool.and_eq_true_iff.1 h
    refine ⟨c, rest, ?_, hc, List.all_eq_true.1 hrest⟩
    split at hbody
    · exact .inl (by rw [hbody])
    · refine .inr ⟨?_, hbody⟩
      rintro rfl
      cases hc

theorem isPlainFamily_isWord {name : String} (h : isPlainFamily name = true) :
    isWord name.toList = true := by
  obtain ⟨c, cs, hname, hc, hcs⟩ := isPlainFamily_cases h
  have hstart : isNameStart c = true := by
    rw [isNameStart, Bool.or_eq_true_iff.2 (.inl hc), Bool.true_or]
  have hchar : isWordChar c = true := by
    refine isWordChar_of_ascii ?_
    simp only [Char.isAlphanum, Bool.or_eq_true] at hc ⊢
    exact hc.imp_left fun hc => .inl (.inl hc)
  have hrest : cs.all isWordChar = true :=
    List.all_eq_true.2 fun d hd => isWordChar_of_ascii (hcs d hd)
  rcases hname with hname | ⟨hdash, hname⟩
  · have hdash : isWordChar '-' = true := by decide
    simp [hname, isWord, startsWord, hstart, hdash, hchar, hrest]
  · have hword : startsWord (c :: cs) = true := by
      cases cs <;> simp [startsWord, hdash, hstart]
    simp [hname, isWord, hword, hchar, hrest]

theorem length_le_quoted (cs : List Char) : cs.length ≤ (cs.flatMap quoteFamilyChar).length := by
  induction cs with
  | nil => rfl
  | cons c cs ih =>
    have hc : 1 ≤ (quoteFamilyChar c).length := by
      unfold quoteFamilyChar
      split <;> simp
    rw [List.flatMap_cons, List.length_append, List.length_cons]
    omega

/-- A family name in quotes is what is read between them. -/
theorem readToken_quotedFamily {name : String} (h : isPlainFamily name = false) (y : List Char) :
    readToken ((familyText name).toList ++ y) =
      (some (readString '"' (name.toList.flatMap quoteFamilyChar ++ '"' :: y)).1,
        (readString '"' (name.toList.flatMap quoteFamilyChar ++ '"' :: y)).2) := by
  have hshape : (familyText name).toList ++ y =
      '"' :: (name.toList.flatMap quoteFamilyChar ++ '"' :: y) := by
    simp [familyText, h]
  rw [hshape, readToken_quote]

/-- A family name in a font stack is one token. -/
theorem readToken_family {name : String} (h : isQuotable name = true)
    {y : List Char} (hy : Ends y) :
    ∃ t, (t = .ident name ∨ t = .quoted (String.ofList (name.toList.map visible))) ∧
      readToken ((familyText name).toList ++ y) = (some t, y) := by
  by_cases hplain : isPlainFamily name = true
  · rw [familyText, if_pos hplain]
    refine ⟨.ident name, .inl rfl, ?_⟩
    rw [readToken_word (isPlainFamily_isWord hplain) hy.breaksName.1 hy.breaksName.2,
      String.ofList_toList]
  · have hquotable : ∀ c ∈ name.toList, c ≠ '\\' ∧ isNewline c = false := by
      intro c hc
      simpa using List.all_eq_true.1 h c hc
    have hlen := length_le_quoted name.toList
    have htext :
        readQuoted '"' ((name.toList.flatMap quoteFamilyChar ++ '"' :: y).length + 1)
          (name.toList.flatMap quoteFamilyChar ++ '"' :: y) =
            (true, name.toList.map visible, y) :=
      readQuoted_family hquotable (by rw [List.length_append]; omega)
    refine ⟨_, .inr rfl, ?_⟩
    simp only [readToken_quotedFamily (by simpa using hplain), readString, htext, if_true]

theorem familyText_head (name : String) :
    ∃ c cs, (familyText name).toList = c :: cs ∧ isSpace c = false := by
  by_cases hplain : isPlainFamily name = true
  · rw [familyText, if_pos hplain]
    obtain ⟨hword, -⟩ := Bool.and_eq_true_iff.1 (isPlainFamily_isWord hplain)
    rcases startsWord_cases hword with ⟨c, cs, heq, -, hc⟩ | ⟨d, cs, heq, -⟩
    · exact ⟨c, cs, heq, isNameStart_isSpace hc⟩
    · exact ⟨'-', d :: cs, heq, by decide⟩
  · exact ⟨'"', _, by rw [familyText, if_neg hplain]; simp; rfl, by decide⟩

theorem lexes_family {name : String} (h : isQuotable name = true)
    {y : List Char} (hy : Ends y) :
    ∃ t, t.isPlain = true ∧
      Lexes y (familyText name).toList [(t, (familyText name).toList)] := by
  obtain ⟨t, ht, hread⟩ := readToken_family h hy
  obtain ⟨c, cs, hcs, -⟩ := familyText_head name
  rw [hcs] at hread ⊢
  exact ⟨t, by rcases ht with rfl | rfl <;> rfl, .token (v := []) hread .done⟩

theorem lexes_space {y u : List Char} {ts : List (Token × List Char)} (h : Lexes y u ts)
    (hu : ∀ d ∈ (u ++ y).head?, isSpace d = false) :
    Lexes y (' ' :: u) ((.blank " ", ' ' :: u) :: ts) := by
  have hspace : readToken ([' '] ++ (u ++ y)) = (some (.blank " "), u ++ y) :=
    readToken_blank (by simp) (by decide) hu
  exact .token hspace h

theorem lexes_fontStack {name : String} {names : List String}
    (h : ∀ n ∈ name :: names, isQuotable n = true) {y : List Char}
    (hy : Ends y) :
    ∃ ts, (∀ x ∈ ts, x.1.isPlain = true) ∧ Lexes y (fontStack (name :: names)).toList ts ∧
      ∀ z, ∀ d ∈ ((fontStack (name :: names)).toList ++ z).head?, isSpace d = false := by
  obtain ⟨c, cs, hcs, hc⟩ := familyText_head name
  induction names generalizing name c cs with
  | nil =>
    obtain ⟨t, ht, hlexes⟩ := lexes_family (h name (by simp)) hy
    exact ⟨_, by simpa using ht, hlexes, fun z d hd => by simp_all [fontStack]⟩
  | cons other names ih =>
    obtain ⟨d, ds, hds, hd⟩ := familyText_head other
    obtain ⟨ts, hts, hrest, hhead⟩ := ih (fun n hn => h n (by simp [hn])) d ds hds hd
    obtain ⟨t, ht, hfirst⟩ := lexes_family (h name (by simp))
      (y := ", ".toList ++ (fontStack (other :: names)).toList ++ y) (ends_cons (by decide))
    have hcomma : Lexes y (", ".toList ++ (fontStack (other :: names)).toList)
        ((.comma, _) :: (.blank " ", _) :: ts) :=
      .token (v := ' ' :: (fontStack (other :: names)).toList) rfl (lexes_space hrest (hhead y))
    have hshape : (fontStack (name :: other :: names)).toList = (familyText name).toList ++
        (", ".toList ++ (fontStack (other :: names)).toList) := by
      simp [fontStack, String.toList_intercalate]
    rw [hshape]
    refine ⟨_, ?_, hfirst.append hcomma, fun z d hd => by simp_all⟩
    simp only [List.map_cons, List.map_nil, List.cons_append, List.nil_append, List.mem_cons]
    rintro x (rfl | rfl | rfl | hx)
    · exact ht
    · rfl
    · rfl
    · exact hts x hx

/-- **Font stacks.** They are plain values if no family name holds a backslash or the end of a
line. -/
theorem isPlainValue_fontStack {names : List String}
    (h : ∀ n ∈ names, isQuotable n = true) :
    isPlainValue (fontStack names).toList = true := by
  rw [isPlainValue]
  rcases names with _ | ⟨name, names⟩
  · decide +kernel
  · obtain ⟨ts, hts, hlexes, hhead⟩ := lexes_fontStack h (ends_cons (c := ';') (y := []) rfl)
    rw [tokensBefore?_eq rfl (lexes_space hlexes (hhead [';']))]
    have hblank : (Token.blank " ").isPlain = true := rfl
    simpa [hblank] using fun t x hx => hts (t, x) hx

/-! ## Rules -/

/-- The inside of a utility's rule. -/
def Utility.body (u : Utility) : List Char :=
  "\n  ".toList ++ (u.property.toList ++ ([':'] ++ (' ' :: u.value.toList ++ ([';'] ++ ['\n']))))

/-- The rule of a utility up to its closing brace. -/
def Utility.core (u : Utility) : List Char :=
  ['.'] ++ (u.name.toList ++ ([' '] ++ '\x7b' :: (u.body ++ ['\x7d'])))

theorem Utility.toList_rule (u : Utility) : u.rule.toList = u.core ++ ['\n'] := by
  simp [rule, core, body]

theorem readSelectors_class (name : String) (stop p p' p'' : Position) (s : String) :
    readSelectors .top (.ofList stop
      [.token (.delim '.') p, .token (.ident name) p', .token (.blank s) p'']) =
        .ok [[.simple (.cls name)]] := by
  rfl

theorem styleFrom_plain {name : String} {q : Property} {cs : List Component}
    (hq : Property.ofName? name = some q) (h : ∀ c ∈ cs, c.isPlain = true)
    (p₁ p₂ p₃ p₄ p₅ : Position) (s s' : String) :
    ∃ d, d.property = .known q ∧ ∀ stop, styleFrom {} [] .nothing (.ofList stop
      ([.token (.blank s) p₁] ++ ([.token (.ident name) p₂] ++ ([.token .colon p₃] ++
        (cs ++ ([.token .semicolon p₄] ++ [.token (.blank s') p₅])))))) = .ok (⟨[d], []⟩, []) := by
  obtain ⟨d, hd, hproperty⟩ := readItem_plain hq h p₂ p₃ p₄
  refine ⟨d, hproperty, fun stop => ?_⟩
  have hflat : ∀ c ∈ Component.token .colon p₃ :: cs, c.isFlat = true := by
    intro c hc
    rcases List.mem_cons.1 hc with rfl | hc
    · rfl
    · exact Component.isPlain_isFlat (h c hc)
  have hline : styleFrom {} [] .nothing (.ofList stop (.token (.ident name) p₂ ::
      .token .colon p₃ :: cs ++ .token .semicolon p₄ :: [.token (.blank s') p₅])) = _ :=
    styleFrom_declaration hflat hd
  rw [List.singleton_append, Components.ofList, styleFrom]
  simpa [Components.ofList, styleFrom, addDeclaration, Block.push] using hline

/-- The inside of a utility's rule is a declaration. -/
theorem stands_body {u : Utility} {q : Property} (hproperty : isWord u.property.toList = true)
    (hq : Property.ofName? u.property = some q) (hvalue : isPlainValue u.value.toList = true)
    (p : Position) (y : List Char) :
    ∃ cs, Stands p u.body ('\x7d' :: y) cs ∧ ∃ d, d.property = .known q ∧
      ∀ stop, styleFrom {} [] .nothing (.ofList stop cs) = .ok (⟨[d], []⟩, []) := by
  have hindent := stands_blank (u := "\n  ".toList) (by decide) (by decide)
    (y := u.property.toList ++ ([':'] ++ (' ' :: u.value.toList ++ ([';'] ++ ['\n']))) ++
      '\x7d' :: y)
    (by obtain ⟨c, u, heq, hc, -⟩ := isWord_head hproperty; simp [heq, hc]) p
  have hword := stands_word hproperty
    (y := [':'] ++ (' ' :: u.value.toList ++ ([';'] ++ ['\n'])) ++ '\x7d' :: y)
    (breaksName_cons (by decide) (by decide)) (by simp)
  have hcolon := stands_mark (c := ':') (fun _ => rfl) (by simp) (by simp)
  have hsemicolon := stands_mark (c := ';') (fun _ => rfl) (by simp) (by simp)
  have hline := stands_blank (u := ['\n']) (by decide) (by decide) (y := '\x7d' :: y)
    (by simp; decide)
  obtain ⟨cs, hcs, hplain⟩ := stands_of_isPlainValue hvalue
    (y := [';'] ++ ['\n'] ++ '\x7d' :: y) (ends_cons rfl) _
  rw [String.ofList_toList] at hword
  exact ⟨_, hindent.append ((hword _).append ((hcolon _ _).append
    (hcs.append ((hsemicolon _ _).append (hline _))))), styleFrom_plain hq hplain _ _ _ _ _ _ _⟩

/-- A block behind a class is a style rule. -/
theorem rulesFrom_class {top : Bool} {progress : Progress} {done : List Rule} {stop : Position}
    {rest : List Component} {name : String} {body : Components} {block : Block}
    (hbody : styleFrom {} [] .nothing body = .ok (block, [])) (p₁ p₂ p₃ p₄ : Position)
    (s : String) :
    rulesFrom top progress done .nothing (.ofList stop
      ([.token (.delim '.') p₁] ++ ([.token (.ident name) p₂] ++ ([.token (.blank s) p₃] ++
        [.block (.plain .curly) p₄ body])) ++ rest)) =
      rulesFrom top .body (.style [[.simple (.cls name)]] block [] .none :: done) .nothing
        (.ofList stop rest) :=
  have hflat : ∀ c ∈ [Component.token (.ident name) p₂, .token (.blank s) p₃],
      c.isFlat = true := by
    simp [Component.isFlat]
  rulesFrom_style rfl hflat (readSelectors_class name p₄ p₁ p₂ p₃ s) hbody

/-- The rule of a utility is read as one style rule. -/
theorem stands_core {u : Utility} {q : Property} (hname : isWord u.name.toList = true)
    (hproperty : isWord u.property.toList = true) (hq : Property.ofName? u.property = some q)
    (hvalue : isPlainValue u.value.toList = true) (p : Position) (y : List Char) :
    ∃ cs, Stands p u.core y (.token (.delim '.') p :: cs) ∧ ∃ d, d.property = .known q ∧
      ∀ top progress done stop rest,
        rulesFrom top progress done .nothing
            (.ofList stop (.token (.delim '.') p :: cs ++ rest)) =
          rulesFrom top .body (.style [[.simple (.cls u.name)]] ⟨[d], []⟩ [] .none :: done) .nothing
            (.ofList stop rest) := by
  have hpoint : Stands p ['.'] (u.name.toList ++ ([' '] ++ '\x7b' :: (u.body ++ ['\x7d'])) ++ y)
      [.token (.delim '.') p] := by
    refine .token (by simp) (readToken_point ?_) (by simp) (by simp) p
    obtain ⟨c, cs, heq, -, hc⟩ := isWord_head hname
    simp [heq, hc]
  have hclass := stands_word hname (y := [' '] ++ '\x7b' :: (u.body ++ ['\x7d']) ++ y)
    (breaksName_cons (by decide) (by decide)) (by simp)
  have hspace := stands_blank (u := [' ']) (by decide) (by decide)
    (y := '\x7b' :: (u.body ++ ['\x7d']) ++ y) (by simp; decide)
  obtain ⟨cs, hcs, d, hd, hbody⟩ := stands_body hproperty hq hvalue _ y
  rw [String.ofList_toList] at hclass
  exact ⟨_, hpoint.append ((hclass _).append ((hspace _).append hcs.braces)), d, hd,
    fun _ _ _ _ _ => rulesFrom_class (hbody _) _ _ _ _ _⟩

/-! ## Utilities -/

/-- Whether a class name is read as itself where it is written without escapes behind other name
characters. -/
def isPlainName (name : String) : Bool := name.toList.all isWordChar

theorem utility_cases {t : Theme} {u : Utility} (hu : u ∈ t.utilities) :
    (∃ category names, (category, names) ∈ t.fonts.entries ∧
      u = ⟨"font-" ++ category, "font-family", fontStack names⟩) ∨
    ∃ token keyword, (token, keyword) ∈ t.markers.entries ∧
      u = ⟨"list-" ++ token, "list-style-type", keyword⟩ := by
  rcases List.mem_append.1 hu with hu | hu
  · obtain ⟨⟨category, names⟩, hmem, rfl⟩ := List.mem_map.1 hu
    exact .inl ⟨category, names, hmem, rfl⟩
  · obtain ⟨⟨token, keyword⟩, hmem, rfl⟩ := List.mem_map.1 hu
    exact .inr ⟨token, keyword, hmem, rfl⟩

theorem isWord_utility {t : Theme} {u : Utility} (hu : u ∈ t.utilities)
    (h : isPlainName u.name = true) : isWord u.name.toList = true := by
  have hstart : startsWord u.name.toList = true := by
    rcases utility_cases hu with ⟨category, names, -, rfl⟩ | ⟨token, keyword, -, rfl⟩ <;>
      simp [startsWord, isNameStart]
  rw [isWord, hstart, Bool.true_and]
  exact h

theorem property_utility {t : Theme} {u : Utility} (hu : u ∈ t.utilities) :
    isWord u.property.toList = true ∧ ∃ q, Property.ofName? u.property = some q := by
  have hfont : isWord "font-family".toList = true ∧
      Property.ofName? "font-family" = some .fontFamily := by decide +kernel
  have hlist : isWord "list-style-type".toList = true ∧
      Property.ofName? "list-style-type" = some .listStyleType := by decide +kernel
  rcases utility_cases hu with ⟨category, names, -, rfl⟩ | ⟨token, keyword, -, rfl⟩
  · exact ⟨hfont.1, _, hfont.2⟩
  · exact ⟨hlist.1, _, hlist.2⟩

/-- **The rule of a utility.** It is read as one style rule for the class, with one declaration of
the property, if the name is one of a class as it is and the value is plain, as it is for every
font stack without backslashes and ends of lines. -/
theorem Theme.read_rule {t : Theme} {u : Utility} (hu : u ∈ t.utilities)
    (hname : isPlainName u.name = true)
    (hvalue : isPlainValue u.value.toList = true ∨
      ∃ names, u.value = fontStack names ∧ ∀ n ∈ names, isQuotable n = true) :
    ∃ d, Sheet.read u.rule =
        .ok ⟨[], [.style [[.simple (.cls u.name)]] ⟨[d], []⟩ [] .none]⟩ ∧
      d.property = .ofName u.property := by
  have hplain : isPlainValue u.value.toList = true := by
    rcases hvalue with h | ⟨names, heq, h⟩
    · exact h
    · rw [heq]
      exact isPlainValue_fontStack h
  obtain ⟨hproperty, q, hq⟩ := property_utility hu
  obtain ⟨cs, hcore, d, hd, hrule⟩ := stands_core (isWord_utility hu hname) hproperty hq hplain
    ⟨0, 1, u.core ++ ['\n']⟩ (['\n'] ++ [])
  obtain ⟨stop, hcomponents⟩ := components_of_stands
    (hcore.append (stands_blank (u := ['\n']) (by decide) (by decide) (by simp) _))
  refine ⟨d, ?_, by rw [hd, PropertyId.ofName, hq]⟩
  have hlicenses : licenseComments (u.core ++ ['\n']) = [] := rfl
  have hcharset (cs : List Component) (p stop : Position) :
      (Components.ofList stop (.token (.delim '.') p :: cs)).dropCharset =
        .ofList stop (.token (.delim '.') p :: cs) := rfl
  rw [Sheet.read, Utility.toList_rule, hlicenses, readRules, hcomponents, List.cons_append,
    hcharset, ← List.cons_append]
  rw [hrule]
  rfl

/-- The utility of a font stack with a family name in which there are quotes. -/
def quotedUtility : Utility := ⟨"font-ui", "font-family", fontStack ["Open \"Sans\"", "Arial"]⟩

theorem Theme.read_rule_quoted :
    quotedUtility.rule = ".font-ui \x7b\n  font-family: \"Open \\\"Sans\\\"\", Arial;\n\x7d\n" ∧
    ∃ d, Sheet.read quotedUtility.rule =
        .ok ⟨[], [.style [[.simple (.cls "font-ui")]] ⟨[d], []⟩ [] .none]⟩ ∧
      d.property = .ofName "font-family" :=
  ⟨by decide +kernel, Theme.read_rule (t := Theme.empty.withFonts "ui" ["Open \"Sans\"", "Arial"])
    (u := quotedUtility) (by decide +kernel) (by decide +kernel)
    (.inr ⟨["Open \"Sans\"", "Arial"], rfl, by decide +kernel⟩)⟩

/-- A slash is no part of a class name that is written without escapes. -/
theorem Theme.read_rule_slash :
    (Value.readTheme (.map [(.text "fontFamily",
        .map [(.text "a/b", .list [.text "Arial"])])])).toOption.map Theme.utilities =
      some [⟨"font-a/b", "font-family", "Arial"⟩] ∧
    (Sheet.read (Utility.rule ⟨"font-a/b", "font-family", "Arial"⟩)).isOk = false :=
  ⟨by decide +kernel, by decide +kernel⟩

end StyleBuild
