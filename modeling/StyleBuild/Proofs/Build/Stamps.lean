import Mathlib.Data.String.Basic
import StyleBuild.Proofs.Except
import StyleBuild.Proofs.Text.Numerals
import StyleBuild.Time.Instant
import StyleBuild.Uuid

/-!
# Stamps

A build is stamped with its identifier and with instants. An instant is read back from its text
(`Instant.read_text`), whatever its year, its fraction of a second and leap second, and so is an
identifier (`Uuid.read_text`).
-/

namespace StyleBuild

/-! ## Instants -/

namespace Instant

variable {ds rest : List Char} {c : Char} {n width low high : Nat}

theorem isBlank_of_isDigit (h : c.isDigit = true) : isBlank c = false := by
  have hbounds : 48 ≤ c.toNat ∧ c.toNat ≤ 57 := by
    simp only [Char.isDigit, Bool.and_eq_true, decide_eq_true_eq, ge_iff_le,
      UInt32.le_iff_toNat_le] at h
    exact h
  simp only [isBlank, Bool.or_eq_false_iff, Bool.and_eq_false_iff, decide_eq_false_iff_not,
    beq_eq_false_iff_ne]
  omega

/-- A numeral is read if it is as wide as it may be, or if no digit stands behind it. -/
theorem readNumeral_append (hne : ds ≠ []) (hds : ∀ c ∈ ds, c.isDigit = true)
    (hlen : ds.length ≤ width)
    (hend : ds.length = width ∨ ∀ c ∈ rest.head?, c.isDigit = false) :
    readNumeral width (ds ++ rest) = .ok (valueOfDigits 10 ds, rest) := by
  have htake : ((ds ++ rest).take width).takeWhile Char.isDigit = ds := by
    rw [List.take_append, List.take_of_length_le hlen]
    refine takeWhile_append_of_head hds fun c hc => ?_
    rcases hend with hend | hend
    · rw [hend, Nat.sub_self] at hc
      cases hc
    · rw [List.head?_take] at hc
      split at hc
      · cases hc
      · exact hend c hc
  obtain ⟨d, ds', rfl⟩ := List.exists_cons_of_ne_nil hne
  unfold readNumeral
  rw [htake]
  change Except.ok (valueOfDigits 10 (d :: ds'), (d :: ds' ++ rest).drop (d :: ds').length) = _
  rw [List.drop_left]

theorem paddedDigits_ne_nil : paddedDigits 10 width n ≠ [] := by
  rw [paddedDigits]
  exact List.append_ne_nil_of_right_ne_nil _ Nat.toDigits_ne_nil

theorem readNumeral_paddedDigits (hwidth : 0 < width) (hn : n < 10 ^ width) :
    readNumeral width (paddedDigits 10 width n ++ rest) = .ok (n, rest) := by
  have hlen := length_paddedDigits (b := 10) (by decide) hwidth hn
  rw [readNumeral_append paddedDigits_ne_nil (fun c hc => isDigit_of_mem_paddedDigits hc) hlen.le
    (.inl hlen), valueOfDigits_paddedDigits (by decide) (by decide)]

theorem isDigit_of_paddedDigits_eq (h : paddedDigits 10 width n ++ rest = c :: ds) :
    c.isDigit = true := by
  have hne : paddedDigits 10 width n ≠ [] := paddedDigits_ne_nil
  obtain ⟨d, ds', hds⟩ := List.exists_cons_of_ne_nil hne
  rw [hds] at h
  rw [← (List.cons.inj h).1]
  exact isDigit_of_mem_paddedDigits (hds ▸ List.mem_cons_self ..)

theorem dropWhile_paddedDigits :
    (paddedDigits 10 width n ++ rest).dropWhile isBlank = paddedDigits 10 width n ++ rest := by
  cases hds : paddedDigits 10 width n ++ rest with
  | nil => rfl
  | cons d ds =>
    have hd := isBlank_of_isDigit (isDigit_of_paddedDigits_eq hds)
    rw [List.dropWhile_cons_of_neg (by simp [hd])]

theorem readPart_paddedDigits (hlow : low ≤ n) (hhigh : n ≤ high) (h : high < 100) :
    readPart low high (paddedDigits 10 2 n ++ rest) = .ok (n, rest) := by
  rw [readPart, dropWhile_paddedDigits, readNumeral_paddedDigits (by decide) (by omega)]
  exact if_pos ⟨hlow, hhigh⟩

theorem readMark_cons (h : isBlank c = false) : readMark c (c :: rest) = .ok rest := by
  rw [readMark, List.dropWhile_cons_of_neg (by simp [h])]
  exact if_pos rfl

/-! ### Years -/

theorem toList_yearText (year : Int) :
    (yearText year).toList =
      if 0 ≤ year ∧ year ≤ 9999 then paddedDigits 10 4 year.natAbs
      else (if year < 0 then '-' else '+') :: paddedDigits 10 4 year.natAbs := by
  by_cases hshort : 0 ≤ year ∧ year ≤ 9999
  · rw [yearText, if_pos hshort, if_pos hshort, toList_decimalPadded]
  · by_cases hneg : year < 0 <;>
      simp [yearText, hshort, hneg, toList_decimalPadded]

theorem readYear_yearText {year : Int} (h : Date.firstYear ≤ year ∧ year ≤ Date.lastYear) :
    readYear ((yearText year).toList ++ '-' :: rest) = .ok (year, '-' :: rest) := by
  rw [Date.firstYear, Date.lastYear] at h
  have hcheck : ∀ y : Int, y = year → checkYear y ('-' :: rest) = .ok (year, '-' :: rest) := by
    rintro y rfl
    exact if_pos (by omega)
  rw [toList_yearText]
  split
  · next hshort =>
    have hnumeral : readNumeral 4 (paddedDigits 10 4 year.natAbs ++ '-' :: rest) =
        .ok (year.natAbs, '-' :: rest) := readNumeral_paddedDigits (by decide) (by omega)
    have hvalue : (year.natAbs : Int) = year := Int.natAbs_of_nonneg hshort.1
    unfold readYear
    rw [dropWhile_paddedDigits]
    split
    · next heq => exact absurd (isDigit_of_paddedDigits_eq heq) (by decide)
    · next heq => exact absurd (isDigit_of_paddedDigits_eq heq) (by decide)
    · rw [bind_eq_ok hnumeral]
      exact hcheck _ hvalue
  · next hlong =>
    have hnumeral : readNumeral (paddedDigits 10 4 year.natAbs ++ '-' :: rest).length.succ
        (paddedDigits 10 4 year.natAbs ++ '-' :: rest) = .ok (year.natAbs, '-' :: rest) := by
      rw [readNumeral_append paddedDigits_ne_nil (fun c hc => isDigit_of_mem_paddedDigits hc) _
        (.inr (by simp)), valueOfDigits_paddedDigits (by decide) (by decide)]
      rw [List.length_append]
      omega
    split
    · next hneg =>
      refine (bind_eq_ok hnumeral).trans ?_
      exact hcheck _ (by omega)
    · next hpos =>
      refine (bind_eq_ok hnumeral).trans ?_
      exact hcheck _ (by omega)

/-! ### Fractions -/

theorem readFraction_paddedDigits {k m : Nat} (hpos : 0 < k) (hk : k ≤ 9) (hm : m < 10 ^ k) :
    readFraction ('.' :: (paddedDigits 10 k m ++ 'Z' :: rest)) =
      .ok (m * Nat.pow 10 (9 - k), 'Z' :: rest) := by
  have hlen := length_paddedDigits (b := 10) (by decide) hpos hm
  have hnumeral : readNumeral 9 (paddedDigits 10 k m ++ 'Z' :: rest) = .ok (m, 'Z' :: rest) := by
    rw [readNumeral_append paddedDigits_ne_nil (fun c hc => isDigit_of_mem_paddedDigits hc)
      (by omega) (.inr (by simp)), valueOfDigits_paddedDigits (by decide) (by decide)]
  refine (bind_eq_ok hnumeral).trans ?_
  have hplaces : (paddedDigits 10 k m ++ 'Z' :: rest).length - ('Z' :: rest).length = k := by
    rw [List.length_append]
    omega
  change Except.ok (m * Nat.pow 10 (9 - ((paddedDigits 10 k m ++ 'Z' :: rest).length -
    ('Z' :: rest).length)), ('Z' :: rest).dropWhile Char.isDigit) = _
  rw [hplaces]
  rfl

theorem readFraction_fractionText (hn : n < 1000000000) :
    readFraction ((fractionText n).toList ++ 'Z' :: rest) = .ok (n, 'Z' :: rest) := by
  have hpoint : ".".toList = ['.'] := by simp
  -- a fraction of `k` digits is written when the digits behind them are zeros
  have hread : ∀ k m, 0 < k → k ≤ 9 → m < 10 ^ k → m * Nat.pow 10 (9 - k) = n →
      readFraction (("." ++ decimalPadded k m).toList ++ 'Z' :: rest) = .ok (n, 'Z' :: rest) := by
    rintro k m hpos hk hm rfl
    rw [String.toList_append, toList_decimalPadded, hpoint]
    exact readFraction_paddedDigits hpos hk hm
  unfold fractionText
  split
  · next h =>
    rw [h]
    rfl
  · split
    · exact hread 3 _ (by decide) (by decide) (by omega) (by norm_num; omega)
    · split
      · exact hread 6 _ (by decide) (by decide) (by omega) (by norm_num; omega)
      · exact hread 9 _ (by decide) (by decide) (by omega) (by norm_num)

/-! ### The whole -/

theorem toList_text (t : Instant) :
    t.text.toList = (yearText t.date.year).toList ++
      '-' :: (paddedDigits 10 2 t.date.month ++ '-' :: (paddedDigits 10 2 t.date.day ++
      'T' :: (paddedDigits 10 2 (t.second / 3600) ++
      ':' :: (paddedDigits 10 2 (t.second / 60 % 60) ++
      ':' :: (paddedDigits 10 2 (t.second % 60 + if t.nano < 1000000000 then 0 else 1) ++
      ((fractionText (t.nano - (if t.nano < 1000000000 then 0 else 1) * 1000000000)).toList ++
        ['Z'])))))) := by
  simp [text, toList_decimalPadded]

theorem ofLocal_self (t : Instant) : ofLocal t.date t.second t.nano 0 = .ok t := by
  have hsecond := t.second_lt
  have hpos : ¬(t.second : Int) - 0 * 60 < 0 := by omega
  have hday : ¬86400 ≤ (t.second : Int) - 0 * 60 := by omega
  have hmod : (((t.second : Int) - 0 * 60) % 86400).toNat = t.second := by omega
  unfold ofLocal
  simp only [hpos, hday, hmod, if_false, t.second_lt, t.nano_lt, and_self, dite_true]

/-- **Instants are read back from their texts.** -/
theorem read_text (t : Instant) : read t.text = .ok t := by
  have hdate := t.date.valid
  simp only [Date.isDate, Bool.and_eq_true, decide_eq_true_eq] at hdate
  obtain ⟨⟨⟨⟨⟨hfirst, hlast⟩, hmonth⟩, hmonth'⟩, hday⟩, hday'⟩ := hdate
  have hdays : Date.daysIn t.date.year t.date.month ≤ 31 := by
    unfold Date.daysIn
    split_ifs <;> decide
  have hsecond := t.second_lt
  -- a leap second is written as the sixtieth, with the rest of its nanoseconds
  obtain ⟨leap, hleap, hnano, hnano', hsixty, hleap'⟩ : ∃ leap,
      (if t.nano < 1000000000 then 0 else 1) = leap ∧
        leap * 1000000000 ≤ t.nano ∧ t.nano - leap * 1000000000 < 1000000000 ∧
        t.second % 60 + leap ≤ 60 ∧ (t.second % 60 + leap) / 60 = leap := by
    have hnano := t.nano_lt
    refine ⟨_, rfl, ?_⟩
    split <;> omega
  rw [read, toList_text, hleap]
  refine (bind_eq_ok (readYear_yearText ⟨hfirst, hlast⟩)).trans ?_
  refine (bind_eq_ok (readMark_cons (by decide))).trans ?_
  refine (bind_eq_ok (readPart_paddedDigits hmonth hmonth' (by decide))).trans ?_
  refine (bind_eq_ok (readMark_cons (by decide))).trans ?_
  refine (bind_eq_ok (readPart_paddedDigits hday (by omega) (by decide))).trans ?_
  refine (bind_eq_ok (show readBetween ('T' :: _) = .ok _ from rfl)).trans ?_
  refine (bind_eq_ok (readPart_paddedDigits (by omega) (by omega) (by decide))).trans ?_
  refine (bind_eq_ok (readMark_cons (by decide))).trans ?_
  refine (bind_eq_ok (readPart_paddedDigits (by omega) (by omega) (by decide))).trans ?_
  refine (bind_eq_ok (readMark_cons (by decide))).trans ?_
  refine (bind_eq_ok (readPart_paddedDigits (by omega) (by omega) (by decide))).trans ?_
  refine (bind_eq_ok (readFraction_fractionText (by omega))).trans ?_
  refine (bind_eq_ok (show readOffset _ = .ok (0, []) from rfl)).trans ?_
  have htotal : t.second / 3600 * 3600 + t.second / 60 % 60 * 60 +
      (t.second % 60 + leap - (t.second % 60 + leap) / 60) = t.second := by omega
  have hnanos : t.nano - leap * 1000000000 + (t.second % 60 + leap) / 60 * 1000000000 =
      t.nano := by omega
  have hrange : ¬(minutesOfDay ≤ 0 ∨ 0 ≤ -minutesOfDay) := by decide
  simp only [List.any_nil, Date.of?_self, htotal, hnanos, hrange, if_false]
  exact ofLocal_self t

end Instant

/-! ## Identifiers -/

namespace Uuid

variable {g : List Char} {gs : List (List Char)} {ns : List Nat} {cs : List Char}

theorem splitHyphens_cons {c : Char} (hc : c ≠ '-') (hcs : splitHyphens cs = g :: gs) :
    splitHyphens (c :: cs) = (c :: g) :: gs := by
  unfold splitHyphens
  rw [hcs]
  split
  · exact absurd rfl hc
  · next heq => cases heq; rfl
  · next heq => cases heq

theorem splitHyphens_append (h : '-' ∉ g) (rest : List Char) :
    splitHyphens (g ++ '-' :: rest) = g :: splitHyphens rest := by
  induction g with
  | nil => rfl
  | cons c g ih =>
    rw [List.mem_cons, not_or] at h
    exact splitHyphens_cons (Ne.symm h.1) (ih h.2)

theorem splitHyphens_eq (h : '-' ∉ g) : splitHyphens g = [g] := by
  induction g with
  | nil => rfl
  | cons c g ih =>
    rw [List.mem_cons, not_or] at h
    exact splitHyphens_cons (Ne.symm h.1) (ih h.2)

/-- Groups without hyphens are found again between hyphens. -/
theorem splitHyphens_intercalate (hne : gs ≠ []) (h : ∀ g ∈ gs, '-' ∉ g) :
    splitHyphens (['-'].intercalate gs) = gs := by
  induction gs with
  | nil => exact absurd rfl hne
  | cons g gs ih =>
    rw [List.forall_mem_cons] at h
    cases gs with
    | nil => simpa [List.intercalate] using splitHyphens_eq h.1
    | cons g' gs =>
      rw [List.intercalate_cons_cons, List.append_assoc, List.singleton_append,
        splitHyphens_append h.1, ih (List.cons_ne_nil _ _) h.2]

theorem map_length_cut (h : ns.sum ≤ cs.length) : (cut ns cs).map List.length = ns := by
  induction ns generalizing cs with
  | nil => rfl
  | cons n ns ih =>
    rw [List.sum_cons] at h
    rw [cut, List.map_cons, ih (by rw [List.length_drop]; omega), List.length_take,
      Nat.min_eq_left (by omega)]

theorem flatten_cut (h : ns.sum = cs.length) : (cut ns cs).flatten = cs := by
  induction ns generalizing cs with
  | nil => exact (List.length_eq_zero_iff.1 h.symm).symm
  | cons n ns ih =>
    rw [List.sum_cons] at h
    rw [cut, List.flatten_cons, ih (by rw [List.length_drop]; omega), List.take_append_drop]

theorem mem_of_mem_cut (hg : g ∈ cut ns cs) : ∀ c ∈ g, c ∈ cs := by
  induction ns generalizing cs with
  | nil => cases hg
  | cons n ns ih =>
    rcases List.mem_cons.1 hg with rfl | hg
    · exact fun c hc => List.mem_of_mem_take hc
    · exact fun c hc => List.mem_of_mem_drop (ih hg c hc)

theorem utf8Len_eq_length (h : ∀ c ∈ cs, c.utf8Size = 1) : String.utf8Len cs = cs.length := by
  induction cs with
  | nil => rfl
  | cons c cs ih =>
    rw [List.forall_mem_cons] at h
    rw [String.utf8Len_cons, ih h.2, h.1, List.length_cons]

theorem utf8Size_of_isHexDigit {c : Char} (h : isHexDigit c = true) : c.utf8Size = 1 := by
  rw [Char.utf8Size_eq_one_iff]
  unfold isHexDigit digitValue? at h
  split at h
  · next hc => exact UInt32.le_trans hc.2 (by decide)
  · split at h
    · next hc => exact UInt32.le_trans hc.2 (by decide)
    · split at h
      · next hc => exact UInt32.le_trans hc.2 (by decide)
      · cases h

theorem length_intercalate (hne : gs ≠ []) :
    (['-'].intercalate gs).length + 1 = gs.flatten.length + gs.length := by
  induction gs with
  | nil => exact absurd rfl hne
  | cons g gs ih =>
    cases gs with
    | nil => simp [List.intercalate]
    | cons g' gs =>
      have hrest := ih (List.cons_ne_nil _ _)
      rw [List.intercalate_cons_cons]
      simp only [List.length_append, List.length_cons, List.length_nil, List.flatten_cons] at *
      omega

theorem mem_intercalate {c : Char} (h : c ∈ ['-'].intercalate gs) :
    c = '-' ∨ ∃ g ∈ gs, c ∈ g := by
  induction gs with
  | nil => cases h
  | cons g gs ih =>
    cases gs with
    | nil => exact .inr ⟨g, List.mem_singleton_self g, by simpa [List.intercalate] using h⟩
    | cons g' gs =>
      rw [List.intercalate_cons_cons, List.append_assoc, List.mem_append, List.mem_append] at h
      rcases h with h | h | h
      · exact .inr ⟨g, List.mem_cons_self .., h⟩
      · exact .inl (List.mem_singleton.1 h)
      · obtain hc | ⟨g'', hg, hc⟩ := ih h
        · exact .inl hc
        · exact .inr ⟨g'', List.mem_cons_of_mem _ hg, hc⟩

theorem toList_text (u : Uuid) :
    u.text.toList = ['-'].intercalate (cut groups (paddedDigits 16 32 u.value)) := by
  have hhyphen : "-".toList = ['-'] := by simp
  rw [text, String.toList_intercalate, hhyphen, List.map_map, toList_hexPadded]
  simp [Function.comp_def]

/-- **Identifiers are read back from their texts.** -/
theorem read_text (u : Uuid) : read u.text = .ok u := by
  have hlen : (paddedDigits 16 32 u.value).length = 32 :=
    length_paddedDigits (by decide) (by decide) (by simpa using u.value_lt)
  have hhex : ∀ g ∈ cut groups (paddedDigits 16 32 u.value), ∀ c ∈ g, isHexDigit c = true :=
    fun g hg c hc => isHexDigit_of_mem_paddedDigits (mem_of_mem_cut hg c hc)
  have hlengths : (cut groups (paddedDigits 16 32 u.value)).map List.length = groups :=
    map_length_cut (by rw [hlen]; decide)
  have hflatten : (cut groups (paddedDigits 16 32 u.value)).flatten = paddedDigits 16 32 u.value :=
    flatten_cut (by rw [hlen]; decide)
  have hne : cut groups (paddedDigits 16 32 u.value) ≠ [] := List.cons_ne_nil _ _
  have hparts : splitHyphens u.text.toList = cut groups (paddedDigits 16 32 u.value) := by
    rw [toList_text]
    refine splitHyphens_intercalate hne fun g hg hmem => ?_
    exact absurd (hhex g hg '-' hmem) (by decide)
  have hfound : ofGroups? u.text.toList = some u := by
    have hall : (paddedDigits 16 32 u.value).all isHexDigit = true :=
      List.all_eq_true.2 fun c hc => isHexDigit_of_mem_paddedDigits hc
    have hvalue : valueOfDigits 16 (paddedDigits 16 32 u.value) % Nat.pow 2 128 = u.value := by
      rw [valueOfDigits_paddedDigits (by decide) (by decide)]
      exact Nat.mod_eq_of_lt u.value_lt
    rw [ofGroups?, hparts, if_pos hlengths, hflatten, ofDigits?, if_pos ⟨hlen, hall⟩]
    simp only [hvalue]
  have hsize : u.text.utf8ByteSize = 36 := by
    have hlong := length_intercalate hne
    rw [hflatten, hlen] at hlong
    have hascii : ∀ c ∈ u.text.toList, c.utf8Size = 1 := by
      intro c hc
      rw [toList_text] at hc
      rcases mem_intercalate hc with rfl | ⟨g, hg, hc⟩
      · rfl
      · exact utf8Size_of_isHexDigit (hhex g hg c hc)
    have hbytes := String.utf8ByteSize_ofList u.text.toList
    have hcount : (cut groups (paddedDigits 16 32 u.value)).length = 5 := rfl
    rw [String.ofList_toList, utf8Len_eq_length hascii, toList_text] at hbytes
    omega
  unfold read
  simp only [hsize, hfound]

end Uuid

end StyleBuild
