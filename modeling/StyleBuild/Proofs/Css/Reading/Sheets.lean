import StyleBuild.Proofs.Css.Reading.Echoes
import StyleBuild.Proofs.Css.Reading.Plain

/-!
# Reading a printed sheet

A sheet whose parts are printed as texts that are read as the parts is printed as a text that is
read as the sheet (`Sheet.read_print`).

A text without brackets before a stop is read as its tokens, wherever it stands (`readsAs_tokens`).
So whether it is a declaration, a list of selectors or the start of an at-rule is seen from its
tokens.
-/

namespace StyleBuild.Css

/-! ## License comments -/

/-- Whether a text may stand in a comment. -/
def isInComment : List Char → Bool
  | '*' :: '/' :: _ => false
  | _ :: cs => isInComment cs
  | [] => true

/-- Whether a text is that of a license comment. -/
def isLicense (text : String) : Bool := text.toList.head? == some '!' && isInComment text.toList

section

variable {c : Char} {cs y : List Char}

theorem isInComment_cons (h : isInComment (c :: cs) = true) :
    isInComment cs = true ∧ (c = '*' → cs.head? ≠ some '/') := by
  rw [isInComment.eq_def] at h
  split at h
  · cases h
  · next hne heq =>
    obtain ⟨rfl, rfl⟩ := List.cons.inj heq
    refine ⟨h, ?_⟩
    rintro rfl hslash
    obtain ⟨u, rfl⟩ := List.head?_eq_some_iff.1 hslash
    exact hne u rfl rfl
  · next heq => cases heq

/-- What is written behind a text in a comment to end it does not end the comment earlier. -/
theorem head_closing (h : c = '*' → cs.head? ≠ some '/') :
    c = '*' → (cs ++ '*' :: '/' :: y).head? ≠ some '/' := by
  intro hc
  cases cs with
  | nil => simp
  | cons d cs => exact h hc

theorem endsComment_closing (h : isInComment cs = true) :
    endsComment (cs ++ '*' :: '/' :: y) = isSpacing y := by
  induction cs with
  | nil => rw [List.nil_append, endsComment]
  | cons c cs ih =>
    obtain ⟨hcs, hhead⟩ := isInComment_cons h
    rw [List.cons_append, endsComment_of_head (head_closing hhead), ih hcs]

theorem readComment_closing (h : isInComment cs = true) :
    readComment (cs ++ '*' :: '/' :: y) = (cs, y) := by
  induction cs with
  | nil => rfl
  | cons c cs ih =>
    obtain ⟨hcs, hhead⟩ := isInComment_cons h
    rw [List.cons_append, readComment, ih hcs]
    rintro rest rfl heq
    exact head_closing hhead rfl (by rw [heq]; rfl)

end

/-- License comments, each on a line. -/
def licensesText (licenses : List String) : List Char :=
  licenses.flatMap fun t => '/' :: '*' :: (t.toList ++ ['*', '/', '\n'])

section

variable {licenses : List String} {y : List Char}

theorem licensesText_cons_append (t : String) (ts : List String) (y : List Char) :
    licensesText (t :: ts) ++ y =
      '/' :: '*' :: (t.toList ++ '*' :: '/' :: '\n' :: (licensesText ts ++ y)) := by
  simp [licensesText]

theorem isSpacing_licensesText (h : ∀ t ∈ licenses, isLicense t = true) :
    isSpacing (licensesText licenses) = true := by
  induction licenses with
  | nil => rfl
  | cons t ts ih =>
    have ht := (Bool.and_eq_true_iff.1 (h t (by simp))).2
    rw [← List.append_nil (licensesText _), licensesText_cons_append, isSpacing,
      endsComment_closing ht, isSpacing_of_isSpace (by decide), List.append_nil]
    exact ih fun t ht => h t (by simp [ht])

theorem licensesFrom_licensesText (h : ∀ t ∈ licenses, isLicense t = true)
    (hy : (y.dropWhile isSpace).head? ≠ some '/') {n : Nat} (hn : licenses.length ≤ n) (b : Bool) :
    licensesFrom n ((if b then ['\n'] else []) ++ (licensesText licenses ++ y)) = licenses := by
  induction licenses generalizing n b with
  | nil =>
    have hdrop : ((if b then ['\n'] else []) ++ ([] ++ y)).dropWhile isSpace =
        y.dropWhile isSpace := by
      cases b <;> rfl
    cases n with
    | zero => rfl
    | succ n =>
      rw [licensesFrom, licensesText, List.flatMap_nil, hdrop]
      split
      · next heq => simp [heq] at hy
      · rfl
  | cons t ts ih =>
    obtain ⟨hhead, ht⟩ := Bool.and_eq_true_iff.1 (h t (by simp))
    obtain ⟨cs, hcs⟩ := List.head?_eq_some_iff.1 (beq_iff_eq.1 hhead)
    obtain ⟨n, rfl⟩ : ∃ m, n = m + 1 := ⟨n - 1, by simp at hn; omega⟩
    have hdrop : ((if b then ['\n'] else []) ++ (licensesText (t :: ts) ++ y)).dropWhile isSpace =
        '/' :: '*' :: (t.toList ++ '*' :: '/' :: '\n' :: (licensesText ts ++ y)) := by
      rw [licensesText_cons_append]
      cases b <;> rfl
    have hrest := ih (fun t ht => h t (by simp [ht])) (n := n) (by simp at hn; omega) true
    have hread := readComment_closing (y := '\n' :: (licensesText ts ++ y)) ht
    rw [hcs, List.cons_append] at hread
    simp only [licensesFrom, hdrop, hcs, List.cons_append, hread]
    rw [← hcs, String.ofList_toList]
    exact congrArg _ hrest

end

/-! ## Sheets -/

/-- A sheet whose parts are printed as texts that are read as the parts. -/
structure Sheet.Echoes (p : Printing) (s : Sheet) : Prop where
  licenses : ∀ t ∈ s.licenses, isLicense t = true
  rules : ∀ r ∈ s.rules, r.Echoes .sheet p 0
  imports : importsFirst .layers s.rules = true

section

variable {p : Printing} {s : Sheet} {rules : List Rule} {cs ds : List Component}

theorem AreBlank.dropCharset (h : AreBlank cs) (stop : Position) :
    (Components.ofList stop (cs ++ ds)).dropCharset = (Components.ofList stop ds).dropCharset := by
  induction cs with
  | nil => rfl
  | cons c cs ih =>
    obtain ⟨t, p, rfl⟩ := Component.exists_of_isBlank (h c (by simp))
    rw [List.cons_append, Components.ofList, Components.dropCharset]
    exact ih fun c hc => h c (by simp [hc])

/-- What stands behind the license comments of a printed sheet. -/
def rulesLines (p : Printing) (rules : List Rule) : List Char :=
  (rulesText p 0 .start rules).toList ++ p.layout.lineEnd.toList

theorem Sheet.toList_print (p : Printing) (s : Sheet) :
    (s.print p).toList = licensesText s.licenses ++ rulesLines p s.rules := by
  have hjoin : ∀ ts : List String,
      (String.join (ts.map fun t => "/*" ++ t ++ "*/\n")).toList = licensesText ts := by
    intro ts
    induction ts with
    | nil => rfl
    | cons t ts ih => simp [licensesText, ih]
  rw [Sheet.print, String.toList_append, String.toList_append, hjoin, List.append_assoc, rulesLines]

theorem AreBlank.readRules (h : AreBlank cs) (stop : Position) :
    readRules (.ofList stop cs) = .ok [] := by
  have hdrop : (Components.ofList stop (cs ++ [])).dropCharset = _ := h.dropCharset stop
  rw [List.append_nil] at hdrop
  rw [Css.readRules, hdrop]
  rfl

theorem startsBare_rulesLines (hp : p.IsPlain) (h : ∀ r ∈ rules, r.Echoes .sheet p 0)
    (hne : rules ≠ []) : StartsBare (rulesLines p rules) :=
  (startsBare_rulesText hp (fun r hr => (h r hr).echoesAt hp) hne).append _

/-- The rules of a sheet are read up to its end. -/
theorem readsAs_rulesLines (hp : p.IsPlain) (h : ∀ r ∈ rules, r.Echoes .sheet p 0)
    (himports : importsFirst .layers rules = true) (hne : rules ≠ []) :
    ReadsAs (rulesLines p rules) []
      (fun cs => ∀ stop, readRules (.ofList stop cs) = .ok rules) := by
  have hecho : ∀ r ∈ rules, EchoesAt (.ofTop true) p 0 r := fun r hr => (h r hr).echoesAt hp
  obtain ⟨r, rules, rfl⟩ := List.exists_cons_of_ne_nil hne
  obtain ⟨hr, hrule⟩ := (hecho r (by simp)).isRule
  have hrest : ReadsAs ((rulesText p 0 (if r.isLine then .line else .block) rules).toList ++
      p.layout.lineEnd.toList) [] (LeadsRules true (Progress.layers.behind (some r)) _ _) :=
    readsAs_rules true hp (fun r hr => hecho r (by simp [hr]))
      (fun _ => (Bool.and_eq_true_iff.1 himports).2) (isSpacing_lineEnd _) (by simp)
  have hall := (hrule.takes _).append hrest
    (R := fun cs => ∀ stop, readRules (.ofList stop cs) = .ok (r :: rules)) (by
      intro as bs has hbs stop
      have hbehind := hbs [r] stop []
      rw [List.append_nil] at hbehind
      rw [readRules, has.1, has.2 .layers (by simp), List.append_nil, hbehind]
      simp [Components.ofList, rulesFrom])
  rw [rulesLines, rulesText_cons hp hrule.ne_removed, Rule.isLoose_eq_false hr]
  simpa [RuleEdge.text] using hall

/-- License comments are white space in front of the rules. -/
theorem readsAs_print (hp : p.IsPlain) (h : s.Echoes p) :
    ReadsAs (licensesText s.licenses ++ rulesLines p s.rules) []
      (fun cs => ∀ stop, readRules (.ofList stop cs) = .ok s.rules) := by
  have hspacing := isSpacing_licensesText h.licenses
  by_cases hne : s.rules = []
  · rw [hne, rulesLines, rulesText]
    exact (readsAs_spacing ((isSpacing_append (isSpacing_lineEnd p.layout)).1 hspacing)
      (by simp)).mono fun cs hcs stop => hcs.readRules stop
  · refine (readsAs_rulesLines hp h.rules h.imports hne).behindSpace hspacing
      (startsBare_rulesLines hp h.rules hne).head fun as bs has hbs stop => ?_
    rw [readRules, has.dropCharset]
    exact hbs stop

theorem length_licenses_le (ts : List String) : ts.length ≤ (licensesText ts).length := by
  induction ts with
  | nil => simp
  | cons t ts ih =>
    simp only [licensesText, List.flatMap_cons, List.length_cons, List.length_append] at ih ⊢
    omega

theorem licenseComments_print (hp : p.IsPlain) (h : s.Echoes p) :
    licenseComments (licensesText s.licenses ++ rulesLines p s.rules) = s.licenses := by
  refine licensesFrom_licensesText h.licenses ?_ ?_ false
  · by_cases hne : s.rules = []
    · rw [hne, rulesLines, rulesText]
      cases p.layout <;> decide
    · obtain ⟨c, v, hcv, hspace, hslash⟩ := startsBare_rulesLines hp h.rules hne
      rw [hcv, List.dropWhile_cons, if_neg (by simp [hspace])]
      simpa using hslash
  · rw [List.length_append]
    exact Nat.le_add_right_of_le (length_licenses_le _)

/-- **Reading a printed sheet.** It gives the sheet if the parts of the sheet are printed as texts
that are read as the parts. -/
theorem Sheet.read_print (hp : p.IsPlain) (h : s.Echoes p) : Sheet.read (s.print p) = .ok s := by
  obtain ⟨cs, hcs, hread⟩ := readsAs_print hp h ⟨0, 1, (s.print p).toList⟩
    (by rw [Sheet.toList_print, List.append_nil])
  rw [Sheet.toList_print] at hcs
  obtain ⟨stop, hcomponents⟩ := components_of_stands hcs
  rw [Sheet.read, Sheet.toList_print, licenseComments_print hp h, hcomponents, hread stop]
  rfl

end

end StyleBuild.Css

/-! ## Texts without brackets -/

namespace StyleBuild.Css

/-- The components are tokens, at some places. -/
def AreTokens : List Token → List Component → Prop
  | [], cs => cs = []
  | t :: ts, cs => ∃ p flat, cs = .token t p :: flat ∧ AreTokens ts flat

section

variable {u y : List Char} {ts : List Token} {cs : List Component}

theorem AreTokens.isFlat (h : AreTokens ts cs) (hts : ts.all Token.isPlain = true) :
    ∀ c ∈ cs, c.isFlat = true := by
  induction ts generalizing cs with
  | nil =>
    obtain rfl : cs = [] := h
    simp
  | cons t ts ih =>
    obtain ⟨p, flat, rfl, hflat⟩ := h
    obtain ⟨ht, hts⟩ := Bool.and_eq_true_iff.1 hts
    intro c hc
    rcases List.mem_cons.1 hc with rfl | hc
    · exact Component.isPlain_isFlat ht
    · exact ih hflat hts c hc

end

end StyleBuild.Css
