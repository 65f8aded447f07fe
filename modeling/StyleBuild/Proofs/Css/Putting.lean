import StyleBuild.Proofs.Css.Places

/-!
# Rules put into a list

A rule that is added to a list under construction is merged into style rules before it
(`Built.merge?_cases`), put into the place of another rule, or put at the end (`Built.Put`). A style
rule at the end may take out an earlier one (`Built.pushed_pushStyle`). What is shown of a list with
a rule put into it is shown for all steps that put one.
-/

namespace StyleBuild.Css

variable {goal : Goal} {P : Rule → Prop} {path : List Frame}

/-! ## Setting a place -/

/-- Setting a place keeps what is said, if what was said at that place is said after. -/
theorem Has.set {rules : List Rule} {i : Nat} {r' : Rule} (h : Has P path rules)
    (hi : ∀ r, rules[i]? = some r → r.Holds P path → Has P path (rules.set i r')) :
    Has P path (rules.set i r') := by
  obtain ⟨r, hr, hP⟩ := h
  obtain ⟨j, hj, rfl⟩ := List.getElem_of_mem hr
  by_cases hij : i = j
  · subst hij
    exact hi _ (List.getElem?_eq_getElem hj) hP
  · exact ⟨rules[j], List.mem_of_getElem? (by rw [List.getElem?_set_ne hij,
      List.getElem?_eq_getElem hj]), hP⟩

theorem Has.set_of_holds {rules : List Rule} {i : Nat} {r r' : Rule} (hr : rules[i]? = some r)
    (h : Has P path rules ∨ r'.Holds P path) (hi : r.Holds P path → r'.Holds P path) :
    Has P path (rules.set i r') := by
  have hlt : i < rules.length := (List.getElem?_eq_some_iff.1 hr).1
  have hnew : r'.Holds P path → Has P path (rules.set i r') :=
    fun h => ⟨r', List.mem_set hlt _, h⟩
  rcases h with h | h
  · refine h.set fun x hx hP => hnew (hi ?_)
    obtain rfl := Option.some.inj (hr.symm.trans hx)
    exact hP
  · exact hnew h

theorem Has.of_set {rules : List Rule} {i : Nat} {r : Rule} (h : Has P path (rules.set i r)) :
    Has P path rules ∨ r.Holds P path := by
  obtain ⟨x, hx, h⟩ := h
  rcases List.mem_or_eq_of_mem_set hx with hx | rfl
  · exact .inl ⟨x, hx, h⟩
  · exact .inr h

theorem forall_mem_set {Q : Rule → Prop} {rules : List Rule} {r : Rule} (h : ∀ x ∈ rules, Q x)
    (hr : Q r) (i : Nat) : ∀ x ∈ rules.set i r, Q x := fun x hx =>
  (List.mem_or_eq_of_mem_set hx).elim (h x) (· ▸ hr)

/-! ## Merging style rules -/

theorem style?_eq_some {r : Rule} {s : Style} (h : r.style? = some s) : r = s.toRule := by
  unfold Rule.style? at h
  split at h
  · cases h
    rfl
  · cases h

section Merging

variable {last new s : Style}

/-- What merging two style rules can do: rules with equal selectors take the declarations of both,
rules with equal declarations the selectors of both, unless these differ in spellings only. -/
theorem Style.mergeInto?_cases {m : Merger} (h : last.mergeInto? goal new = some m) :
    new.rules = [] ∧ last.rules = [] ∧ m.kept.rules = [] ∧
      ((new.selectors == last.selectors) = true ∧ m.kept.selectors = last.selectors ∧
          m.kept.block = ((last.block.append new.block).normalize goal .merged []).1 ∨
        (new.block == last.block) = true ∧ m.kept.block = last.block ∧
          (isEquivalentList new.selectors last.selectors = true ∧
              m.kept.selectors = last.selectors ∨
            m.kept.selectors = last.selectors ++ new.selectors)) := by
  unfold mergeInto? at h
  dsimp only at h
  split at h
  · next hs =>
    simp only [Bool.and_eq_true, List.isEmpty_iff] at hs
    cases h
    exact ⟨hs.2.1, hs.2.2, hs.2.2, .inl ⟨hs.1.1, rfl, rfl⟩⟩
  · split at h
    · next hb =>
      simp only [Bool.and_eq_true, List.isEmpty_iff] at hb
      split at h
      · next he =>
        cases h
        exact ⟨hb.2.1, hb.2.2, hb.2.2, .inr ⟨hb.1, rfl, .inl ⟨he.2.2, rfl⟩⟩⟩
      · split at h
        · cases h
          exact ⟨hb.2.1, hb.2.2, hb.2.2, .inr ⟨hb.1, rfl, .inr rfl⟩⟩
        · cases h
    · cases h

namespace Built

/-- A style rule is merged into the one before it and on from there, or stays behind. -/
theorem settle_cons (goal : Goal) (last : Style) (r : Rule) (rules : List Rule) :
    (∃ s m, r = Style.toRule s ∧ s.mergeInto? goal last = some m ∧
        settle goal last (r :: rules) = settle goal m.kept rules) ∨
      settle goal last (r :: rules) = last.toRule :: r :: rules := by
  rw [settle]
  split
  · next m hm =>
    obtain ⟨s, hs, hm⟩ := Option.bind_eq_some_iff.1 hm
    exact .inl ⟨s, m, style?_eq_some hs, hm, rfl⟩
  · exact .inr rfl

theorem merge?_cases {b : Built} {m : Built × Style} (h : b.merge? goal s = some m) :
    ∃ last rest k, b.rules = Style.toRule last :: rest ∧ last.mergeInto? goal s = some k ∧
      m = ({ b with rules := settle goal k.kept rest }, k.left) := by
  unfold merge? at h
  split at h
  · cases h
  · next r rest hr =>
    obtain ⟨k, hk, rfl⟩ := Option.map_eq_some_iff.1 h
    obtain ⟨last, hlast, hk⟩ := Option.bind_eq_some_iff.1 hk
    exact ⟨last, rest, k, hr.trans (congrArg (· :: rest) (style?_eq_some hlast)), hk, rfl⟩

end Built

end Merging

namespace Built

variable {b b' : Built}

/-! ## Style rules at the end -/

/-- A place that has a key is that of a style rule with this key. -/
theorem exists_of_hasKey {k : List Selector × List PropertyId} {j : Nat}
    (h : b.hasKey k j = true) :
    ∃ t : Style, b.rules[b.rules.length - 1 - j]? = some t.toRule ∧ (t.key == k) = true := by
  unfold hasKey at h
  split at h
  · next t ht =>
    obtain ⟨r, hr, hstyle⟩ := Option.bind_eq_some_iff.1 ht
    obtain rfl := style?_eq_some hstyle
    unfold at? at hr
    split at hr
    · exact ⟨t, hr, h⟩
    · cases hr
  · cases h

/-- What putting a style rule at the end makes of a list. -/
inductive Pushed (b : Built) (s : Style) : Built → Prop
  | nested (h : s.rules ≠ []) : Pushed b s (b.push s.toRule)
  /-- The key is noted. -/
  | noted {keys : List ((List Selector × List PropertyId) × Nat)} (h : s.rules = [])
      (hkeys : ∀ k ∈ keys, k.1 = s.key ∨ k ∈ b.keys) :
      Pushed b s { b with rules := s.toRule :: b.rules, keys }
  /-- The key is noted, and a rule is taken out that has it at a place noted for it. -/
  | overriding {keys : List ((List Selector × List PropertyId) × Nat)}
      {k : (List Selector × List PropertyId) × Nat} {i : Nat} {t : Style} (h : s.rules = [])
      (hkeys : ∀ k ∈ keys, k.1 = s.key ∨ k ∈ b.keys) (hmem : k ∈ b.keys)
      (hk : (k.1 == s.key) = true) (hi : (s.toRule :: b.rules)[i]? = some t.toRule)
      (ht : (t.key == s.key) = true) :
      Pushed b s { b with rules := (s.toRule :: b.rules).set i .removed, keys }

theorem pushed_pushStyle (b : Built) (s : Style) : b.Pushed s (b.pushStyle s) := by
  unfold pushStyle
  dsimp only
  split
  · next h => exact .nested (by simpa using h)
  · next h =>
    have h : s.rules = [] := by simpa using h
    split
    · next k j hfind =>
      split at hfind
      · cases hfind
      have hkey := List.find?_some hfind
      rw [Bool.and_eq_true] at hkey
      obtain ⟨t, hi, ht⟩ := exists_of_hasKey hkey.2
      refine .overriding h (fun k' hk' => ?_) (List.mem_of_find?_eq_some hfind) hkey.1 hi ht
      exact (List.mem_cons.1 hk').imp (congrArg Prod.fst) fun h => (List.mem_filter.1 h).1
    · exact .noted h fun k' hk' => (List.mem_cons.1 hk').imp_left (congrArg Prod.fst)

/-! ## Rules at the end or in the place of others -/

/-- A rule is put into a list, in the place of one with some property or at the end. -/
inductive Put (b : Built) (old : Rule → Prop) (r : Rule) : Built → Prop
  | place {i : Nat} {x : Rule} (hi : b.rules[i]? = some x) (hx : old x) :
      Put b old r { b with rules := b.rules.set i r }
  | behind : Put b old r (b.push r)

namespace Put

variable {old : Rule → Prop} {r : Rule}

theorem upgrades_eq (h : b.Put old r b') : b'.upgrades = b.upgrades := by
  cases h <;> rfl

theorem keys_eq (h : b.Put old r b') : b'.keys = b.keys := by
  cases h <;> rfl

theorem mem (h : b.Put old r b') : r ∈ b'.rules := by
  cases h with
  | place hi => exact List.mem_set (List.getElem?_eq_some_iff.1 hi).1 _
  | behind => exact List.mem_cons_self

theorem has (h : b.Put old r b') (hr : r.Holds P path) : Has P path b'.rules := ⟨r, h.mem, hr⟩

theorem forall_mem {Q : Rule → Prop} (h : b.Put old r b') (hb : ∀ x ∈ b.rules, Q x) (hr : Q r) :
    ∀ x ∈ b'.rules, Q x := by
  cases h with
  | place => exact forall_mem_set hb hr _
  | behind => exact List.forall_mem_cons.2 ⟨hr, hb⟩

theorem of_has (h : b.Put old r b') (hhas : Has P path b'.rules) :
    Has P path b.rules ∨ r.Holds P path := by
  cases h with
  | place => exact Has.of_set hhas
  | behind => exact (Has.cons_iff.1 hhas).symm

/-- What a list says it still says if the new rule says what those say in the place of which it may
come. -/
theorem keeps (h : b.Put old r b') (hold : ∀ x, old x → x.Holds P path → r.Holds P path)
    (hhas : Has P path b.rules) : Has P path b'.rules := by
  cases h with
  | place hi hx => exact Has.set_of_holds hi (.inl hhas) (hold _ hx)
  | behind => exact Has.cons_iff.2 (.inr hhas)

end Put

theorem put_replaceOr (b : Built) (test : Rule → Bool) (r : Rule) :
    b.Put (test · = true) r (b.replaceOr test r) := by
  unfold replaceOr
  split
  · next i hi =>
    obtain ⟨hlt, htest, -⟩ := List.findIdx?_eq_some_iff_getElem.1 hi
    exact .place (List.getElem?_eq_getElem hlt) htest
  · exact .behind

end Built

/-! ## Layers -/

/-- The block of a layer that is found is one of that layer. -/
theorem getElem?_of_findLayer {name : LayerName} {rules : List Rule} {i : Nat}
    (h : findLayer name rules = some i) : ∃ old, rules[i]? = some (.layer (some name) old) := by
  obtain ⟨hi, hlayer, -⟩ := List.findIdx?_eq_some_iff_getElem.1 h
  have hp : rules.takeWhile (fun r => !r.isImport) <+: rules := List.takeWhile_prefix _
  rw [hp.getElem hi] at hlayer
  have hget := List.getElem?_eq_getElem (Nat.lt_of_lt_of_le hi hp.length_le)
  unfold isLayerBlock at hlayer
  split at hlayer
  · next n old hr =>
    obtain rfl : n = name := eq_of_beq hlayer
    exact ⟨old, hget.trans (congrArg some hr)⟩
  · cases hlayer

namespace Built

/-- The block of a layer goes behind the rules of an earlier one. -/
theorem put_addLayer (b : Built) (name : LayerName) (rules : List Rule) :
    ∃ old, (old = [] ∨ Rule.layer (some name) old ∈ b.rules) ∧
      b.Put (· = .layer (some name) old) (.layer (some name) (old ++ rules))
        (b.addLayer name rules) := by
  unfold addLayer
  split
  · next i hi =>
    obtain ⟨old, hr⟩ := getElem?_of_findLayer hi
    rw [hr]
    exact ⟨old, .inr (List.mem_of_getElem? hr), .place hr rfl⟩
  · exact ⟨[], .inl rfl, .behind⟩

/-- Declaring a layer adds an empty block of it. -/
theorem declareLayer_eq (b : Built) (name : LayerName) :
    b.declareLayer name = b.addLayer name [] := by
  unfold declareLayer addLayer
  split
  · next i hi =>
    obtain ⟨old, hr⟩ := getElem?_of_findLayer hi
    rw [hr]
    dsimp only
    obtain ⟨hlt, hr⟩ := List.getElem?_eq_some_iff.1 hr
    rw [List.append_nil, ← hr, List.set_getElem_self]
  · rfl

end Built

end StyleBuild.Css
