import Mathlib.Data.List.DropRight
import StyleBuild.Proofs.Build.Agreement
import StyleBuild.Proofs.Regex.Searching

/-!
# Classes in files

Content is read leniently, so that a file may hold any bytes. A byte below 128 stands for its
character, wherever it stands, and all other bytes together make characters beyond ASCII
(`readLenient_cons`). So the standard extractor finds the runs of bytes of class names
(`runs_readLenient`), and a scan finds those of the files that it reads
(`Extractor.mem_classes_standard`).
-/

namespace StyleBuild

namespace Utf8

/-! ## Lenient reading -/

/-- A character of several bytes has a code of 128 at least, whatever bytes follow. -/
theorem lead?_bounds {b : UInt8} {l : Lead} (h : lead? b = some l) :
    0x80 ≤ b.toNat ∧ 0x80 ≤ l.low ∧
      ∃ n, l.count = n + 1 ∧ 0x80 ≤ (l.bits * 64 + (l.low - 0x80)) * 64 ^ n := by
  unfold lead? at h
  dsimp only at h
  split_ifs at h <;> obtain rfl := Option.some.inj h <;> refine ⟨by omega, by simp, ?_⟩
  · exact ⟨0, rfl, by simp only [pow_zero]; omega⟩
  · exact ⟨1, rfl, by simp⟩
  · exact ⟨1, rfl, by simp⟩
  · exact ⟨1, rfl, by simp only [pow_one]; omega⟩
  · exact ⟨2, rfl, by simp⟩
  · exact ⟨2, rfl, by simp only [Nat.reducePow]; omega⟩
  · exact ⟨2, rfl, by simp⟩

/-- Bytes that go on with a character are 128 at least, and the first of them bounds its code. -/
theorem follow_spec (bits high n : Nat) {low : Nat} (hlow : 0x80 ≤ low) (bs : List UInt8) :
    ∃ skipped, bs = skipped ++ (follow bits low high n bs).2 ∧
      (∀ b ∈ skipped, 0x80 ≤ b.toNat) ∧
      ∀ code ∈ (follow bits low high n bs).1, bits * 64 ^ n ≤ code := by
  induction n generalizing bits low high bs with
  | zero => exact ⟨[], rfl, by simp, by simp [follow]⟩
  | succ n ih =>
    cases bs with
    | nil => exact ⟨[], rfl, by simp, by simp [follow]⟩
    | cons b bs =>
      unfold follow
      split
      · next hb =>
        obtain ⟨skipped, hskipped, hall, hcode⟩ :=
          ih (bits * 64 + (b.toNat - 0x80)) 0xBF (Nat.le_refl 0x80) bs
        refine ⟨b :: skipped, by rw [List.cons_append, ← hskipped],
          List.forall_mem_cons.2 ⟨Nat.le_trans hlow hb.1, hall⟩, fun code hc => ?_⟩
        calc bits * 64 ^ (n + 1) = bits * 64 * 64 ^ n := by rw [Nat.pow_succ]; ring
          _ ≤ (bits * 64 + (b.toNat - 0x80)) * 64 ^ n :=
            Nat.mul_le_mul_right _ (Nat.le_add_right _ _)
          _ ≤ code := hcode code hc
      · exact ⟨[], rfl, by simp, by simp⟩

/-- A byte below 128 is read as its character. -/
theorem readLenient_cons_ascii {b : UInt8} (h : b.toNat < 0x80) (bs : List UInt8) :
    readLenient (b :: bs) = Char.ofNat b.toNat :: readLenient bs := by
  rw [readLenient, pieces, if_pos h]
  rfl

theorem toNat_ofNat_beyond {code : Nat} (h : 0x80 ≤ code) :
    (Char.ofNat code).toNat = 0 ∨ 0x80 ≤ (Char.ofNat code).toNat := by
  rw [Char.toNat_ofNat]
  split
  · exact .inr h
  · exact .inl rfl

/-- A byte from 128 on is read as one character beyond ASCII, maybe with more such bytes. -/
theorem readLenient_cons_beyond {b : UInt8} (h : ¬b.toNat < 0x80) (bs : List UInt8) :
    ∃ c skipped rest, readLenient (b :: bs) = c :: readLenient rest ∧ bs = skipped ++ rest ∧
      (∀ x ∈ skipped, 0x80 ≤ x.toNat) ∧ (c.toNat = 0 ∨ 0x80 ≤ c.toNat) := by
  rw [readLenient, pieces, if_neg h]
  cases hl : lead? b with
  | none => exact ⟨'\uFFFD', [], bs, rfl, rfl, by simp, .inr (by decide)⟩
  | some l =>
    obtain ⟨-, hlow, n, hn, hbits⟩ := lead?_bounds hl
    cases bs with
    | nil =>
      exact ⟨'\uFFFD', [], [], by simp [hn, follow, readLenient], rfl, by simp, .inr (by decide)⟩
    | cons x bs =>
      simp only [hn, follow]
      split
      · next hx =>
        obtain ⟨skipped, hskipped, hall, hcode⟩ :=
          follow_spec (l.bits * 64 + (x.toNat - 0x80)) 0xBF n (Nat.le_refl 0x80) bs
        refine ⟨_, x :: skipped, _, rfl, by rw [List.cons_append, ← hskipped],
          List.forall_mem_cons.2 ⟨Nat.le_trans hlow hx.1, hall⟩, ?_⟩
        cases hf : (follow (l.bits * 64 + (x.toNat - 0x80)) 0x80 0xBF n bs).1 with
        | none => exact .inr (by decide)
        | some code =>
          refine toNat_ofNat_beyond ?_
          calc 0x80 ≤ (l.bits * 64 + (l.low - 0x80)) * 64 ^ n := hbits
            _ ≤ (l.bits * 64 + (x.toNat - 0x80)) * 64 ^ n :=
              Nat.mul_le_mul_right _ (Nat.add_le_add_left (Nat.sub_le_sub_right hx.1 _) _)
            _ ≤ code := hcode code hf
      · exact ⟨'\uFFFD', [], x :: bs, rfl, rfl, by simp, .inr (by decide)⟩

end Utf8

/-! ## Bytes of class names -/

/-- The bytes of class names: letters, digits, underscores, dashes, slashes and colons. -/
def isClassByte (b : UInt8) : Bool :=
  let n := b.toNat
  (65 ≤ n && n ≤ 90) || (97 ≤ n && n ≤ 122) || (48 ≤ n && n ≤ 57) || n == 95 || n == 45 ||
    n == 47 || n == 58

/-- The text of bytes, each of which stands for a character. -/
def asciiText (bs : List UInt8) : List Char := bs.map fun b => Char.ofNat b.toNat

/-- Bytes without the colons at their end. -/
def dropColons (bs : List UInt8) : List UInt8 := bs.rdropWhile (· == 58)

/-- Bytes name a class: one of their runs of bytes of class names, without the colons at its
end. -/
def NamesClass (bytes : List UInt8) (name : String) : Prop :=
  ∃ run, IsRun isClassByte bytes run ∧ dropColons run ≠ [] ∧
    name = String.ofList (asciiText (dropColons run))

namespace Extractor

theorem contains_classChars (c : Char) : classChars.contains c = true ↔
    (65 ≤ c.toNat ∧ c.toNat ≤ 90) ∨ (97 ≤ c.toNat ∧ c.toNat ≤ 122) ∨
      (48 ≤ c.toNat ∧ c.toNat ≤ 57) ∨ c.toNat = 95 ∨ c.toNat = 45 ∨ c.toNat = 47 ∨
        c.toNat = 58 := by
  simp [CharSet.contains, CharSet.inRanges, classChars]
  omega

theorem isClassByte_iff (b : UInt8) : isClassByte b = true ↔
    (65 ≤ b.toNat ∧ b.toNat ≤ 90) ∨ (97 ≤ b.toNat ∧ b.toNat ≤ 122) ∨
      (48 ≤ b.toNat ∧ b.toNat ≤ 57) ∨ b.toNat = 95 ∨ b.toNat = 45 ∨ b.toNat = 47 ∨
        b.toNat = 58 := by
  simp [isClassByte, or_assoc]

theorem toNat_ofNat_byte (b : UInt8) : (Char.ofNat b.toNat).toNat = b.toNat := by
  have h := b.toNat_lt
  rw [Char.toNat_ofNat, if_pos]
  exact .inl (by omega)

/-- A byte below 128 is one of class names exactly if its character is. -/
theorem contains_ofNat (b : UInt8) :
    classChars.contains (Char.ofNat b.toNat) = isClassByte b := by
  rw [Bool.eq_iff_iff, contains_classChars, isClassByte_iff, toNat_ofNat_byte]

theorem isClassByte_beyond {b : UInt8} (h : 0x80 ≤ b.toNat) : isClassByte b = false := by
  rw [Bool.eq_false_iff, Ne, isClassByte_iff]
  omega

theorem contains_beyond {c : Char} (h : c.toNat = 0 ∨ 0x80 ≤ c.toNat) :
    classChars.contains c = false := by
  rw [Bool.eq_false_iff, Ne, contains_classChars]
  omega

theorem isClassByte_lt {b : UInt8} (h : isClassByte b = true) : b.toNat < 0x80 := by
  rw [isClassByte_iff] at h
  omega

/-- The run at the front of what is read is that of the bytes, and reading goes on behind it. -/
theorem split_readLenient (bs : List UInt8) :
    (Utf8.readLenient bs).takeWhile classChars.contains = asciiText (bs.takeWhile isClassByte) ∧
      (Utf8.readLenient bs).dropWhile classChars.contains =
        Utf8.readLenient (bs.dropWhile isClassByte) := by
  induction bs with
  | nil => simp [Utf8.readLenient, Utf8.pieces, asciiText]
  | cons b bs ih =>
    by_cases hb : isClassByte b = true
    · have hc : classChars.contains (Char.ofNat b.toNat) = true := (contains_ofNat b).trans hb
      rw [Utf8.readLenient_cons_ascii (isClassByte_lt hb), List.takeWhile_cons_of_pos hc,
        List.dropWhile_cons_of_pos hc, List.takeWhile_cons_of_pos hb,
        List.dropWhile_cons_of_pos hb, ih.1, ih.2]
      exact ⟨rfl, rfl⟩
    · have hhead : ∀ c ∈ (Utf8.readLenient (b :: bs)).head?, classChars.contains c = false := by
        by_cases hascii : b.toNat < 0x80
        · rw [Utf8.readLenient_cons_ascii hascii]
          rintro _ ⟨⟩
          rw [contains_ofNat]
          simpa using hb
        · obtain ⟨c, skipped, rest, hread, -, -, hc⟩ := Utf8.readLenient_cons_beyond hascii bs
          rw [hread]
          rintro _ ⟨⟩
          exact contains_beyond hc
      rw [(dropWhile_of_head hhead).1, (dropWhile_of_head hhead).2, List.takeWhile_cons_of_neg hb,
        List.dropWhile_cons_of_neg hb]
      exact ⟨rfl, rfl⟩

/-- What is read from bytes has the runs of the bytes. -/
theorem runs_readLenient (bs : List UInt8) :
    runs classChars.contains (Utf8.readLenient bs) = (runs isClassByte bs).map asciiText := by
  induction hn : bs.length using Nat.strong_induction_on generalizing bs with
  | _ n ih =>
    subst hn
    cases bs with
    | nil => simp [Utf8.readLenient, Utf8.pieces, runs]
    | cons b bs =>
      by_cases hb : isClassByte b = true
      · have hc : classChars.contains (Char.ofNat b.toNat) = true := (contains_ofNat b).trans hb
        obtain ⟨htake, hdrop⟩ := split_readLenient bs
        have hlen := (List.dropWhile_suffix (l := bs) isClassByte).length_le
        rw [Utf8.readLenient_cons_ascii (isClassByte_lt hb), runs_cons_pos hc, runs_cons_pos hb,
          htake, hdrop, ih _ (Nat.lt_succ_of_le hlen) _ rfl]
        rfl
      · have hb : isClassByte b = false := by simpa using hb
        rw [runs_cons_neg hb]
        by_cases hascii : b.toNat < 0x80
        · rw [Utf8.readLenient_cons_ascii hascii, runs_cons_neg ((contains_ofNat b).trans hb),
            ih _ (Nat.lt_succ_self _) _ rfl]
        · obtain ⟨c, skipped, rest, hread, rfl, hskipped, hc⟩ :=
            Utf8.readLenient_cons_beyond hascii bs
          have hlen : rest.length < (b :: (skipped ++ rest)).length := by
            simp only [List.length_cons, List.length_append]
            omega
          rw [hread, runs_cons_neg (contains_beyond hc), ih _ hlen _ rfl,
            runs_append_neg fun x hx => isClassByte_beyond (hskipped x hx)]

/-! ## Classes -/

theorem trimColons_asciiText (bs : List UInt8) :
    trimColons (asciiText bs) = asciiText (dropColons bs) := by
  have hcolon (b : UInt8) : (Char.ofNat b.toNat == ':') = (b == 58) := by
    have hchar : Char.ofNat b.toNat = ':' ↔ b.toNat = 58 := by
      rw [← Char.toNat_inj, toNat_ofNat_byte]
      rfl
    rw [Bool.eq_iff_iff, beq_iff_eq, beq_iff_eq, hchar, ← UInt8.toNat_inj]
    rfl
  simp only [trimColons, asciiText, dropColons, List.rdropWhile, ← List.map_reverse,
    List.dropWhile_map, Function.comp_def, hcolon]

theorem mem_tokens_standard (bytes : List UInt8) (name : String) :
    name ∈ standard.tokens (String.ofList (Utf8.readLenient bytes)) ↔ NamesClass bytes name := by
  have htokens : standard.tokens (String.ofList (Utf8.readLenient bytes)) =
      ((((runs isClassByte bytes).map asciiText).map trimColons).filter (!·.isEmpty)).map
        String.ofList := by
    rw [tokens, standard, String.toList_ofList, Regex.tokens_plus_oneOf, runs_readLenient]
  have hnonempty (bs : List UInt8) : (!(asciiText bs).isEmpty) = true ↔ bs ≠ [] := by
    cases bs <;> simp [asciiText]
  simp only [htokens, List.map_map, List.mem_map, List.mem_filter, Function.comp, NamesClass,
    ← mem_runs_iff]
  constructor
  · rintro ⟨_, ⟨⟨run, hrun, rfl⟩, hne⟩, rfl⟩
    rw [trimColons_asciiText] at hne ⊢
    exact ⟨run, hrun, (hnonempty _).1 hne, rfl⟩
  · rintro ⟨run, hrun, hne, rfl⟩
    refine ⟨_, ⟨⟨run, hrun, rfl⟩, ?_⟩, by rw [trimColons_asciiText]⟩
    rw [trimColons_asciiText]
    exact (hnonempty _).2 hne

end Extractor

/-! ## Scans -/

/-- The classes in files are those of what is read from each of them. -/
theorem Scan.mem_readFiles {t : FileTree} {e : Extractor} {found classes : NameSet} {index : Index}
    (h : readFiles t e found index = .ok classes) (name : String) :
    name ∈ classes ↔ name ∈ found ∨ ∃ path ∈ index.map Prod.fst, ∃ bytes,
      t.read path = .ok bytes ∧ name ∈ e.tokens (String.ofList (Utf8.readLenient bytes)) := by
  induction index generalizing found with
  | nil =>
    cases h
    simp
  | cons entry index ih =>
    obtain ⟨path, pattern⟩ := entry
    unfold readFiles at h
    cases hread : t.read path with
    | error cause => simp [hread] at h
    | ok bytes =>
      simp only [hread] at h
      rw [ih h, NameSet.mem_insertAll]
      simp only [List.map_cons, List.exists_mem_cons_iff, hread, Except.ok.injEq, exists_eq_left']
      tauto

/-- The classes of a scan are those of the files that it reads. -/
theorem ContentSource.mem_classes_scan {s : ContentSource} {t : FileTree} {base : String}
    {found : Scan} (h : (s.scan t base).result = .ok found) (name : String) :
    name ∈ found.classes ↔ ∃ path ∈ found.files, ∃ bytes, t.read path = .ok bytes ∧
      name ∈ s.extractor.tokens (String.ofList (Utf8.readLenient bytes)) := by
  unfold scan at h
  rcases hfind : Scan.find t base {} s.patterns with ⟨f, _ | fault⟩
  · simp only [hfind] at h
    cases hclasses : Scan.readFiles t s.extractor .empty f.index with
    | error fault => simp [hclasses] at h
    | ok classes =>
      simp only [hclasses, Except.ok.injEq] at h
      subst h
      rw [Scan.mem_readFiles hclasses]
      exact or_iff_right List.not_mem_nil
  · simp [hfind] at h

/-- **The classes of a file are told by its bytes.** The standard extractor is the one of its
pattern. In what is read from bytes, be they text or not, it finds their runs of bytes of class
names, without the colons at the end of each, and nothing else; so all other bytes separate classes
and do nothing else. A scan finds the classes of the files that it reads. -/
theorem Extractor.mem_classes_standard :
    Extractor.read "[A-Za-z0-9_\\-/:]+" = .ok .standard ∧
    (∀ bytes name, name ∈ standard.classes (String.ofList (Utf8.readLenient bytes)) ↔
      NamesClass bytes name) ∧
    ∀ (s : ContentSource) (t : FileTree) (base : String) (found : Scan),
      s.extractor = .standard → (s.scan t base).result = .ok found → ∀ name,
        (name ∈ found.classes ↔ ∃ path ∈ found.files, ∃ bytes, t.read path = .ok bytes ∧
          NamesClass bytes name) := by
  refine ⟨read_standard, fun bytes name => ?_, fun s t base found hs hfound name => ?_⟩
  · rw [classes, NameSet.mem_ofList, mem_tokens_standard]
  · simp only [ContentSource.mem_classes_scan hfound, hs, mem_tokens_standard]

/-- A file in which a broken character stands between two classes, and colons stand behind the
second one and on their own. -/
def brokenPage : List UInt8 := [97, 0xE2, 0x82, 98, 58, 0xFF, 58]

theorem Extractor.mem_classes_standard_page :
    let found : Scan := { files := ["a.html"], classes := ⟨["a", "b"]⟩ }
    (ContentSource.scan ⟨["a.html"], .standard⟩ (.ofPage brokenPage) ".").result = .ok found ∧
      ∀ name, name ∈ found.classes ↔ ∃ path ∈ found.files, ∃ bytes,
        (FileTree.ofPage brokenPage).read path = .ok bytes ∧ NamesClass bytes name := by
  intro found
  have hbytes : Utf8.readLenient brokenPage = "a\uFFFDb:\uFFFD:".toList := by cbv
  have hclasses : NameSet.ofList (standard.tokens (String.ofList "a\uFFFDb:\uFFFD:".toList)) =
      ⟨["a", "b"]⟩ := by decide +kernel
  have hfound : (ContentSource.scan ⟨["a.html"], .standard⟩ (.ofPage brokenPage) ".").result =
      .ok found := by
    rw [FileTree.scan_ofPage, hbytes, hclasses]
  exact ⟨hfound, mem_classes_standard.2.2 _ _ _ _ rfl hfound⟩

end StyleBuild
