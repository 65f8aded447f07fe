import Mathlib.Tactic.IntervalCases
import StyleBuild.Text.Digits

/-!
# Numerals

The numeral of a number has that number as its value (`valueOfDigits_toDigits`), and zeros in front
of it do not change that (`valueOfDigits_paddedDigits`). A numeral starts with a zero only if it is
that of zero (`head?_toDigits_ne_zero`), so it is never taken for one with an idle zero.
-/

namespace StyleBuild

variable {b d n width : Nat} {c : Char}

/-! ## Digits -/

theorem takeWhile_append_of_head {p : Char → Bool} {ds rest : List Char}
    (hds : ∀ c ∈ ds, p c = true) (hrest : ∀ c ∈ rest.head?, p c = false) :
    (ds ++ rest).takeWhile p = ds := by
  rw [List.takeWhile_append_of_pos hds]
  cases rest with
  | nil => rw [List.takeWhile_nil, List.append_nil]
  | cons c rest =>
    rw [List.takeWhile_cons_of_neg (by simpa using hrest c rfl), List.append_nil]

theorem digitValue?_digitChar (h : d < 16) : digitValue? (Nat.digitChar d) = some d := by
  interval_cases d <;> rfl

theorem exists_of_mem_toDigits (hb : 1 < b) (hc : c ∈ Nat.toDigits b n) :
    ∃ d < b, c = Nat.digitChar d := by
  induction n using Nat.strongRecOn with
  | _ n ih =>
    rw [Nat.toDigits_eq_if hb] at hc
    split at hc
    · next hlt => exact ⟨n, hlt, List.mem_singleton.1 hc⟩
    · next hge =>
      rcases List.mem_append.1 hc with hc | hc
      · exact ih (n / b) (Nat.div_lt_self (by omega) hb) hc
      · exact ⟨n % b, Nat.mod_lt n (by omega), List.mem_singleton.1 hc⟩

theorem isHexDigit_of_mem_toDigits (hc : c ∈ Nat.toDigits 16 n) : isHexDigit c = true := by
  obtain ⟨d, hd, rfl⟩ := exists_of_mem_toDigits (by decide) hc
  rw [isHexDigit, digitValue?_digitChar hd]
  rfl

/-- Only the numeral of zero starts with a zero. -/
theorem head?_toDigits_ne_zero (hb : 1 < b) (hmost : b ≤ 16) (hn : 0 < n) :
    (Nat.toDigits b n).head? ≠ some '0' := by
  induction n using Nat.strongRecOn with
  | _ n ih =>
    rw [Nat.toDigits_eq_if hb]
    split
    · next hlt =>
      intro h
      have hzero : digitValue? n.digitChar = some 0 := by rw [Option.some.inj h]; rfl
      rw [digitValue?_digitChar (by omega)] at hzero
      exact hn.ne' (Option.some.inj hzero)
    · next hge =>
      rw [List.head?_append, Option.or_of_isSome (List.isSome_head?.2 Nat.toDigits_ne_nil)]
      exact ih (n / b) (Nat.div_lt_self hn hb) (Nat.div_pos (by omega) (by omega))

/-! ## Values -/

theorem valueOfDigits_append_singleton (b : Nat) (cs : List Char) (c : Char) :
    valueOfDigits b (cs ++ [c]) = valueOfDigits b cs * b + (digitValue? c).getD 0 := by
  rw [valueOfDigits, List.foldl_append]
  rfl

/-- The value of the numeral of a number. -/
theorem valueOfDigits_toDigits (hb : 1 < b) (hmost : b ≤ 16) (n : Nat) :
    valueOfDigits b (Nat.toDigits b n) = n := by
  induction n using Nat.strongRecOn with
  | _ n ih =>
    rw [Nat.toDigits_eq_if hb]
    split
    · next hlt =>
      change 0 * b + (digitValue? n.digitChar).getD 0 = n
      rw [digitValue?_digitChar (by omega), Option.getD_some, Nat.zero_mul, Nat.zero_add]
    · next hge =>
      have hdigit : n % b < 16 := (Nat.mod_lt n (by omega)).trans_le hmost
      rw [valueOfDigits_append_singleton, ih (n / b) (Nat.div_lt_self (by omega) hb),
        digitValue?_digitChar hdigit, Option.getD_some, Nat.mul_comm]
      exact Nat.div_add_mod n b

/-! ## Zeros in front -/

/-- The digits of a number, with zeros in front up to a width. -/
def paddedDigits (b width n : Nat) : List Char :=
  List.replicate (width - (Nat.toDigits b n).length) '0' ++ Nat.toDigits b n

theorem toList_decimalPadded (width n : Nat) :
    (decimalPadded width n).toList = paddedDigits 10 width n := by
  rw [decimalPadded, String.toList_ofList]
  rfl

theorem toList_hexPadded (width n : Nat) :
    (hexPadded width n).toList = paddedDigits 16 width n := by
  rw [hexPadded, String.toList_ofList]
  rfl

theorem valueOfDigits_replicate_append (b k : Nat) (cs : List Char) :
    valueOfDigits b (List.replicate k '0' ++ cs) = valueOfDigits b cs := by
  induction k with
  | zero => rfl
  | succ k ih =>
    rw [← ih]
    have hzero : 0 * b + (digitValue? '0').getD 0 = 0 := by rw [Nat.zero_mul]; rfl
    rw [List.replicate_succ, List.cons_append, valueOfDigits, List.foldl_cons, hzero]
    rfl

theorem valueOfDigits_paddedDigits (hb : 1 < b) (hmost : b ≤ 16) (width n : Nat) :
    valueOfDigits b (paddedDigits b width n) = n := by
  rw [paddedDigits, valueOfDigits_replicate_append, valueOfDigits_toDigits hb hmost]

theorem length_paddedDigits (hb : 1 < b) (hwidth : 0 < width) (h : n < b ^ width) :
    (paddedDigits b width n).length = width := by
  have hle := (Nat.length_toDigits_le_iff hb hwidth).2 h
  rw [paddedDigits, List.length_append, List.length_replicate]
  omega

theorem mem_paddedDigits (hc : c ∈ paddedDigits b width n) : c = '0' ∨ c ∈ Nat.toDigits b n := by
  rcases List.mem_append.1 hc with hc | hc
  · exact .inl (List.mem_replicate.1 hc).2
  · exact .inr hc

theorem isDigit_of_mem_paddedDigits (hc : c ∈ paddedDigits 10 width n) : c.isDigit = true := by
  rcases mem_paddedDigits hc with rfl | hc
  · rfl
  · exact Nat.isDigit_of_mem_toDigits (by decide) (by decide) hc

theorem isHexDigit_of_mem_paddedDigits (hc : c ∈ paddedDigits 16 width n) :
    isHexDigit c = true := by
  rcases mem_paddedDigits hc with rfl | hc
  · rfl
  · exact isHexDigit_of_mem_toDigits hc

end StyleBuild
