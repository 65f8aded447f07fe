import StyleBuild.Json.Basic
import StyleBuild.Proofs.Text.Numerals
import StyleBuild.Proofs.Theme.Declaring

/-!
# Reading JSON as a document

A JSON value is the root of a document (`Json.document`): names and texts are quoted there, and all
else is plain. What is read from such a node follows no alias (`Gives`).

Plain data that was read from a document is no deeper than the document allows and has integers that
fit (`Value.Fits`). If it has names for keys and no floating-point numbers (`Value.Plain`), then it
is JSON, and reading the JSON gives it back (`Value.Plain.exists_shown`).
-/

namespace StyleBuild

/-! ## JSON as nodes -/

mutual

/-- A JSON value as a node. -/
def Json.node : Json → Yaml.Node
  | .null => .scalar {} "null" true
  | .bool b => .scalar {} (boolText b) true
  | .number n => .scalar {} n.jsonText true
  | .text s => .scalar {} s false
  | .array js => .sequence {} (Json.itemNodes js)
  | .object es => .mapping {} (Json.entryNodes es)

/-- The nodes of items. -/
def Json.itemNodes : List Json → List Yaml.Node
  | [] => []
  | j :: js => j.node :: Json.itemNodes js

/-- The nodes of entries. -/
def Json.entryNodes : List (String × Json) → List (Yaml.Node × Yaml.Node)
  | [] => []
  | (name, j) :: es => (.scalar {} name false, j.node) :: Json.entryNodes es

end

/-- The document of a JSON value. -/
def Json.document (j : Json) : Yaml.Document := .ofRoot j.node

namespace Yaml

/-! ## Integers -/

section Integers

variable {s : String} {c : Char} {cs : List Char} {m : Nat}

/-- Whether a character can start an integer as it is printed. -/
def StartsInteger (c : Char) : Prop := c = '-' ∨ c.isDigit = true

instance : DecidablePred StartsInteger := fun _ => inferInstanceAs (Decidable (_ ∨ _))

/-- A text that starts like an integer is none of some words that do not. -/
theorem contains_eq_false (hs : s.toList = c :: cs) (hc : StartsInteger c) {words : List String}
    (h : ∀ w ∈ words, (w.toList.head?.any fun d => StartsInteger d) = false) :
    words.contains s = false := by
  rw [Bool.eq_false_iff]
  intro hcontains
  have hword := h s (List.contains_iff_mem.1 hcontains)
  rw [hs, List.head?_cons, Option.any_some, decide_eq_false_iff_not] at hword
  exact hword hc

theorem dropStart_eq_none {start : List Char} (hc : c ∈ start) (hnot : c ∉ cs) :
    dropStart start cs = none := by
  have hprefix : start.isPrefixOf cs = false := by
    rw [Bool.eq_false_iff]
    intro h
    exact hnot ((List.isPrefixOf_iff_prefix.1 h).subset hc)
  rw [dropStart, hprefix]
  rfl

theorem hasIdleZero_toDigits (m : Nat) : hasIdleZero (Nat.toDigits 10 m) = false := by
  have hdigit : ∀ c ∈ Nat.toDigits 10 m, c.isDigit = true := fun c hc =>
    Nat.isDigit_of_mem_toDigits (by decide) (by decide) hc
  rcases Nat.eq_zero_or_pos m with rfl | hpos
  · rfl
  · have hhead := head?_toDigits_ne_zero (b := 10) (by decide) (by decide) hpos
    rcases hcs : Nat.toDigits 10 m with _ | ⟨c, cs⟩
    · rfl
    · rw [hcs] at hdigit hhead
      have hc := hdigit c (List.mem_cons_self ..)
      have hne : c ≠ '0' := fun h => hhead (by rw [h]; rfl)
      have hplus : c ≠ '+' := by rintro rfl; exact absurd hc (by decide)
      have hminus : c ≠ '-' := by rintro rfl; exact absurd hc (by decide)
      simp [hasIdleZero, hne, hplus, hminus]

theorem readDigits_toDigits (m : Nat) : readDigits 10 (Nat.toDigits 10 m) = some m := by
  have hall : (Nat.toDigits 10 m).all (fun c => (digitValue? c).any (· < 10)) = true := by
    rw [List.all_eq_true]
    intro c hc
    obtain ⟨d, hd, rfl⟩ := exists_of_mem_toDigits (by decide) hc
    rw [digitValue?_digitChar (by omega)]
    exact decide_eq_true hd
  have hempty : (Nat.toDigits 10 m).isEmpty = false :=
    List.isEmpty_eq_false_iff.2 Nat.toDigits_ne_nil
  rw [readDigits, hall, hempty, valueOfDigits_toDigits (by decide) (by decide)]
  rfl

theorem readMagnitude_toDigits {limit : Nat} (h : m ≤ limit) :
    readMagnitude limit (Nat.toDigits 10 m) = some m := by
  have hnot : ∀ c : Char, c.isDigit = false → c ∉ Nat.toDigits 10 m := by
    intro c hc hmem
    rw [Nat.isDigit_of_mem_toDigits (by decide) (by decide) hmem] at hc
    cases hc
  have hx : dropStart ['0', 'x'] (Nat.toDigits 10 m) = none :=
    dropStart_eq_none (by decide) (hnot 'x' rfl)
  have ho : dropStart ['0', 'o'] (Nat.toDigits 10 m) = none :=
    dropStart_eq_none (by decide) (hnot 'o' rfl)
  have hb : dropStart ['0', 'b'] (Nat.toDigits 10 m) = none :=
    dropStart_eq_none (by decide) (hnot 'b' rfl)
  simp [readMagnitude, hx, ho, hb, hasIdleZero_toDigits, readDigits_toDigits, h]

theorem toList_integerText (n : Int) :
    (integerText n).toList =
      if n < 0 then '-' :: Nat.toDigits 10 n.natAbs else Nat.toDigits 10 n.natAbs := by
  by_cases hneg : n < 0 <;> simp [integerText, decimalText, hneg]

/-- An integer that fits is read back from its numeral. -/
theorem readInteger_integerText {n : Int} (h : fitsWord n = true) :
    readInteger (integerText n).toList = some n := by
  have hbounds : -(Nat.pow 2 63 : Int) ≤ n ∧ n < Nat.pow 2 64 := by
    simpa only [fitsWord, Bool.and_eq_true, decide_eq_true_eq] using h
  norm_num at hbounds
  rw [toList_integerText]
  split
  · next hneg =>
    have habs : n.natAbs ≤ Nat.pow 2 127 := by norm_num; omega
    rw [readInteger, readMagnitude_toDigits habs]
    change some (-(n.natAbs : Int)) = some n
    congr 1
    omega
  · next hpos =>
    have habs : n.natAbs ≤ Nat.pow 2 128 - 1 := by norm_num; omega
    have hdigit : ∀ c ∈ Nat.toDigits 10 n.natAbs, c.isDigit = true := fun c hc =>
      Nat.isDigit_of_mem_toDigits (by decide) (by decide) hc
    unfold readInteger
    split
    · next heq => exact absurd (hdigit '-' (by rw [heq]; simp)) (by decide)
    · next heq => exact absurd (hdigit '+' (by rw [heq]; simp)) (by decide)
    · rw [readMagnitude_toDigits habs, Option.map_some]
      congr 1
      exact Int.natAbs_of_nonneg (by omega)

theorem startsInteger_integerText (n : Int) :
    ∃ c cs, (integerText n).toList = c :: cs ∧ StartsInteger c := by
  rw [toList_integerText]
  split
  · exact ⟨'-', _, rfl, .inl rfl⟩
  · obtain ⟨c, cs, hcs⟩ :=
      List.exists_cons_of_ne_nil (Nat.toDigits_ne_nil (b := 10) (n := n.natAbs))
    refine ⟨c, cs, hcs, .inr ?_⟩
    exact Nat.isDigit_of_mem_toDigits (by decide) (by decide) (hcs ▸ List.mem_cons_self ..)

theorem Scalar.ofPlain_integerText {n : Int} (h : fitsWord n = true) :
    Scalar.ofPlain (integerText n) = .integer n := by
  obtain ⟨c, cs, hs, hc⟩ := startsInteger_integerText n
  have hempty : (integerText n).isEmpty = false := by
    rw [Bool.eq_false_iff]
    intro he
    rw [String.isEmpty_iff.1 he] at hs
    cases hs
  have hnull : isNull (integerText n) = false := contains_eq_false hs hc (by decide)
  have htrue : ["true", "True", "TRUE"].contains (integerText n) = false :=
    contains_eq_false hs hc (by decide)
  have hfalse : ["false", "False", "FALSE"].contains (integerText n) = false :=
    contains_eq_false hs hc (by decide)
  have hbool : readBool (integerText n) = none := by rw [readBool, htrue, hfalse]; rfl
  simp only [Scalar.ofPlain, hempty, hnull, hbool, readInteger_integerText h]
  rfl

end Integers

/-! ## What is read -/

theorem forall_mem_of_forall₂ {α β : Type} {R : α → β → Prop} {P : β → Prop} {xs : List α}
    {ys : List β} (h : List.Forall₂ R xs ys) (hP : ∀ x ∈ xs, ∀ y, R x y → P y) :
    ∀ y ∈ ys, P y := by
  induction h with
  | nil => exact nofun
  | cons hxy _ ih =>
    rw [List.forall_mem_cons] at hP
    rw [List.forall_mem_cons]
    exact ⟨hP.1 _ hxy, ih hP.2⟩

theorem exists_forall₂ {α β : Type} {R : α → β → Prop} {xs : List α} (h : ∀ x ∈ xs, ∃ y, R x y) :
    ∃ ys, List.Forall₂ R xs ys := by
  induction xs with
  | nil => exact ⟨[], .nil⟩
  | cons x xs ih =>
    rw [List.forall_mem_cons] at h
    obtain ⟨y, hy⟩ := h.1
    obtain ⟨ys, hys⟩ := ih h.2
    exact ⟨y :: ys, .cons hy hys⟩

theorem forall₂_of_common {α β γ : Type} {R : α → γ → Prop} {S : β → γ → Prop} {T : α → β → Prop}
    {xs : List α} {ys : List β} {zs : List γ} (hx : List.Forall₂ R xs zs)
    (hy : List.Forall₂ S ys zs) (h : ∀ x y z, R x z → S y z → T x y) : List.Forall₂ T xs ys := by
  induction hx generalizing ys with
  | nil =>
    cases hy
    exact .nil
  | cons hxz _ ih =>
    cases hy with
    | cons hyz hys => exact .cons (h _ _ _ hxz hyz) (ih hys)

section Reads

variable {α β : Type} {r : Read α} {f : α → Read β} {a : α} {b : β}

/-- Reading gives a value, for some number of aliases followed before. -/
def Reads (r : Read α) (a : α) : Prop := ∃ n m, r n = .ok (a, m)

/-- Reading gives a value and follows no alias. -/
def Gives (r : Read α) (a : α) : Prop := ∀ n, r n = .ok (a, n)

theorem Reads.of_bind (h : Reads (r >>= f) b) : ∃ a, Reads r a ∧ Reads (f a) b := by
  obtain ⟨n, m, h⟩ := h
  obtain ⟨a, k, hr, hf⟩ := exists_of_bind_eq_read h
  exact ⟨a, ⟨n, k, hr⟩, k, m, hf⟩

theorem Reads.of_pure {a' : α} (h : Reads (pure a : Read α) a') : a' = a := by
  obtain ⟨n, m, h⟩ := h
  cases h
  rfl

theorem Reads.of_locate {s : Spot} (h : Reads (s.locate r) a) : Reads r a := by
  obtain ⟨n, m, h⟩ := h
  exact ⟨n, m, Spot.locate_eq_ok.1 h⟩

theorem not_reads_mismatch {m : Mismatch} : ¬Reads (mismatch m) a := nofun

theorem Reads.of_mapM {f : α → Read β} {xs : List α} {ys : List β} (h : Reads (xs.mapM f) ys) :
    List.Forall₂ (fun x y => Reads (f x) y) xs ys := by
  induction xs generalizing ys with
  | nil =>
    rw [List.mapM_nil] at h
    rw [h.of_pure]
    exact .nil
  | cons x xs ih =>
    rw [List.mapM_cons] at h
    obtain ⟨y, hy, h⟩ := h.of_bind
    obtain ⟨rest, hrest, h⟩ := h.of_bind
    rw [h.of_pure]
    exact .cons hy (ih hrest)

theorem gives_pure (a : α) : Gives (pure a) a := fun _ => rfl

theorem Gives.bind (hr : Gives r a) (hf : Gives (f a) b) : Gives (r >>= f) b := fun n =>
  (bind_eq_read (hr n)).trans (hf n)

theorem Gives.map (hr : Gives r a) (g : α → β) : Gives (g <$> r) (g a) := by
  rw [map_eq_pure_bind]
  exact hr.bind (gives_pure _)

theorem Gives.locate (hr : Gives r a) (s : Spot) : Gives (s.locate r) a := fun n =>
  Spot.locate_eq_ok.2 (hr n)

theorem Gives.mapM {f : α → Read β} {xs : List α} {ys : List β}
    (h : List.Forall₂ (fun x y => Gives (f x) y) xs ys) : Gives (xs.mapM f) ys := by
  induction h with
  | nil => exact gives_pure []
  | cons hx _ ih =>
    rw [List.mapM_cons]
    exact hx.bind (ih.bind (gives_pure _))

end Reads

namespace Spot

variable {s t : Spot} {depth : Nat}

theorem target_eq_pure (h : ∀ mark a, s.node ≠ .alias mark a) : s.target = pure s := by
  unfold target
  split
  · next mark a hnode => exact absurd hnode (h mark a)
  · rfl

theorem depth_of_target (h : Reads s.target t) : t.depth = s.depth := by
  by_cases halias : ∃ mark a, s.node = .alias mark a
  · obtain ⟨mark, a, hnode⟩ := halias
    simp only [target, hnode] at h
    obtain ⟨n, -, h⟩ := h.of_bind
    by_cases hmany : s.document.root.events * 100 ≤ n
    · rw [if_pos hmany] at h
      obtain ⟨_, hthrow, -⟩ := h.of_bind
      exact absurd hthrow nofun
    · rw [if_neg hmany] at h
      obtain ⟨_, -, h⟩ := h.of_bind
      split at h
      · rw [h.of_pure]
      · exact absurd h nofun
  · rw [target_eq_pure fun mark a hnode => halias ⟨mark, a, hnode⟩] at h
    rw [h.of_pure]

theorem depth_of_below (h : Reads s.below depth) : s.depth = depth + 1 := by
  unfold below at h
  cases hdepth : s.depth with
  | zero =>
    rw [hdepth] at h
    obtain ⟨n, m, hread⟩ := h
    cases hread
  | succ d =>
    rw [hdepth] at h
    dsimp only at h
    rw [h.of_pure]

theorem depth_of_mem_items {ns : List Node} (h : t ∈ s.items depth ns) : t.depth = depth := by
  obtain ⟨e, -, rfl⟩ := List.mem_map.1 h
  rfl

theorem depth_of_mem_entries {es : List (Node × Node)} {p : Spot × Spot}
    (h : p ∈ s.entries depth es) : p.1.depth = depth ∧ p.2.depth = depth := by
  obtain ⟨e, -, rfl⟩ := List.mem_map.1 h
  exact ⟨rfl, rfl⟩

/-- A spot holds a JSON value, and `depth` levels may follow below it. -/
def Shows (s : Spot) (j : Json) (depth : Nat) : Prop := s.node = j.node ∧ s.depth = depth

/-- The spots of entries that hold a name and a JSON value each. -/
def ShowEntries (ps : List (Spot × Spot)) (es : List (String × Json)) (depth : Nat) : Prop :=
  List.Forall₂ (fun p e => p.1.Shows (.text e.1) depth ∧ p.2.Shows e.2 depth) ps es

theorem shows_items (s : Spot) (depth : Nat) (js : List Json) :
    List.Forall₂ (fun t j => t.Shows j depth) (s.items depth (Json.itemNodes js)) js := by
  rw [items]
  generalize 0 = start
  induction js generalizing start with
  | nil => exact .nil
  | cons j js ih => exact .cons ⟨rfl, rfl⟩ (ih (start + 1))

theorem showEntries_entries (s : Spot) (depth : Nat) (es : List (String × Json)) :
    ShowEntries (s.entries depth (Json.entryNodes es)) es depth := by
  induction es with
  | nil => exact .nil
  | cons e es ih => exact .cons ⟨⟨rfl, rfl⟩, rfl, rfl⟩ ih

namespace Shows

variable {α : Type} {j : Json} {name expected : String} {js : List Json} {es : List (String × Json)}
  {a : α}

theorem target (h : s.Shows j depth) : Gives s.target s := by
  have halias : ∀ mark a, s.node ≠ .alias mark a := by
    rw [h.1]
    cases j <;> exact nofun
  rw [target_eq_pure halias]
  exact gives_pure s

theorem textWith {read : String → Read α} (h : s.Shows (.text name) depth)
    (hread : Gives (read name) a) : Gives (s.textWith expected read) a := by
  refine h.target.bind (Gives.locate ?_ s)
  rw [h.1]
  exact hread

theorem text (h : s.Shows (.text name) depth) : Gives s.text name := h.textWith (gives_pure name)

theorem below (h : s.Shows j (depth + 1)) : Gives s.below depth := by
  intro n
  rw [Spot.below, h.2]
  rfl

theorem list {read : List Spot → Read α} (h : s.Shows (.array js) (depth + 1))
    (hread : ∀ ts, List.Forall₂ (fun t j => t.Shows j depth) ts js → Gives (read ts) a) :
    Gives (s.list read) a := by
  refine h.target.bind (Gives.locate ?_ s)
  rw [h.1]
  exact h.below.bind (hread _ (shows_items s depth js))

theorem map {read : List (Spot × Spot) → Read α} (h : s.Shows (.object es) (depth + 1))
    (hread : ∀ ps, ShowEntries ps es depth → Gives (read ps) a) :
    Gives (s.map expected read) a := by
  refine h.target.bind (Gives.locate ?_ s)
  rw [h.1]
  exact h.below.bind (hread _ (showEntries_entries s depth es))

theorem optional_text {read : Spot → Read α} (h : s.Shows (.text name) depth)
    (hread : Gives (read s) a) : Gives (s.optional read) (some a) := by
  refine h.target.bind ?_
  rw [h.1]
  exact hread.map some

theorem optional_object {read : Spot → Read α} (h : s.Shows (.object es) depth)
    (hread : Gives (read s) a) : Gives (s.optional read) (some a) := by
  refine h.target.bind ?_
  rw [h.1]
  exact hread.map some

end Shows

end Spot

end Yaml

/-! ## Plain data -/

namespace Value

open Yaml

/-- Data without floating-point numbers whose maps have texts for keys. -/
inductive Plain : Value → Prop where
  | null : Plain .null
  | bool (b : Bool) : Plain (.bool b)
  | integer (n : Int) : Plain (.number (.integer n))
  | text (s : String) : Plain (.text s)
  | list {vs : List Value} (h : ∀ v ∈ vs, Plain v) : Plain (.list vs)
  | map {es : List (String × Value)} (h : ∀ e ∈ es, Plain e.2) :
    Plain (.map (es.map fun e => (.text e.1, e.2)))

/-- Data with integers that fit and no more than some levels of lists and maps. -/
inductive Fits : Nat → Value → Prop where
  | null {depth : Nat} : Fits depth .null
  | bool {depth : Nat} (b : Bool) : Fits depth (.bool b)
  | integer {depth : Nat} {n : Int} (h : fitsWord n = true) : Fits depth (.number (.integer n))
  | float {depth : Nat} (x : Binary64) : Fits depth (.number (.float x))
  | text {depth : Nat} (s : String) : Fits depth (.text s)
  | list {depth : Nat} {vs : List Value} (h : ∀ v ∈ vs, Fits depth v) :
    Fits (depth + 1) (.list vs)
  | map {depth : Nat} {es : List (Value × Value)} (hkeys : ∀ e ∈ es, Fits depth e.1)
    (hvalues : ∀ e ∈ es, Fits depth e.2) : Fits (depth + 1) (.map es)

variable {v : Value} {depth : Nat}

theorem fits_of_readScalarValue {l : Label} {text : String} {isPlain : Bool}
    (h : Reads (readScalarValue l text isPlain) v) (depth : Nat) : v.Fits depth := by
  unfold readScalarValue at h
  split at h
  · exact absurd h not_reads_mismatch
  · rw [h.of_pure]; exact .null
  · rw [h.of_pure]; exact .bool _
  · split at h
    · next hword => rw [h.of_pure]; exact .integer hword
    · exact absurd h not_reads_mismatch
  · rw [h.of_pure]; exact .float _
  · rw [h.of_pure]; exact .text _

theorem fits_of_readValueTo {bound : Nat} {s : Spot} (hbound : bound = s.depth + 1)
    (h : Reads (readValueTo bound s) v) : v.Fits s.depth := by
  induction bound generalizing s v with
  | zero => exact absurd hbound nofun
  | succ bound ih =>
    obtain ⟨t, ht, h⟩ := h.of_bind
    have hdepth := Spot.depth_of_target ht
    have h := h.of_locate
    split at h
    · exact absurd h not_reads_mismatch
    · split at h
      · exact fits_of_readScalarValue h _
      · obtain ⟨depth, hbelow, h⟩ := h.of_bind
        have hlevel := Spot.depth_of_below hbelow
        obtain ⟨vs, hvs, h⟩ := h.of_bind
        rw [h.of_pure, ← hdepth, hlevel]
        refine .list (forall_mem_of_forall₂ hvs.of_mapM fun x hx w hw => ?_)
        have hitem := Spot.depth_of_mem_items hx
        exact hitem ▸ ih (by omega) hw
      · obtain ⟨depth, hbelow, h⟩ := h.of_bind
        have hlevel := Spot.depth_of_below hbelow
        obtain ⟨es, hes, h⟩ := h.of_bind
        rw [h.of_pure, ← hdepth, hlevel]
        have hentries : ∀ e ∈ es, e.1.Fits depth ∧ e.2.Fits depth := by
          refine forall_mem_of_forall₂ hes.of_mapM fun p hp e he => ?_
          obtain ⟨hkey, hvalue⟩ := Spot.depth_of_mem_entries hp
          obtain ⟨k, hk, he⟩ := he.of_bind
          obtain ⟨w, hw, he⟩ := he.of_bind
          rw [he.of_pure]
          exact ⟨hkey ▸ ih (by omega) hk, hvalue ▸ ih (by omega) hw⟩
        exact .map (fun e he => (hentries e he).1) fun e he => (hentries e he).2
      · rw [h.of_pure]; exact .null
      · rw [h.of_pure]; exact .null

/-- Data that is read at a spot is no deeper than the spot allows. -/
theorem fits_of_value {s : Spot} (h : Reads s.value v) : v.Fits s.depth :=
  fits_of_readValueTo rfl h

/-- Some data is a JSON value, and reading the JSON value gives it back. -/
def Shown (v : Value) (j : Json) (depth : Nat) : Prop :=
  v.toJson = .ok j ∧ ∀ s : Spot, s.Shows j depth → Gives s.value v

theorem itemsToJson_eq_ok {vs : List Value} {js : List Json}
    (h : List.Forall₂ (fun v j => v.toJson = .ok j) vs js) : itemsToJson vs = .ok js := by
  induction h with
  | nil => rfl
  | cons hv _ ih => rw [itemsToJson, bind_eq_ok hv, bind_eq_ok ih]; rfl

theorem entriesToJson_eq_ok {es : List (String × Value)} {js : List (String × Json)}
    (h : List.Forall₂ (fun e j => j.1 = e.1 ∧ e.2.toJson = .ok j.2) es js) :
    entriesToJson (es.map fun e => (.text e.1, e.2)) = .ok js := by
  induction h with
  | nil => rfl
  | cons he _ ih =>
    obtain ⟨hname, hv⟩ := he
    rw [List.map_cons, entriesToJson, bind_eq_ok (show keyName (.text _) = .ok _ from rfl),
      bind_eq_ok hv, bind_eq_ok ih, ← hname]
    rfl

theorem gives_scalar {s : Spot} {j : Json} {text : String} {isPlain : Bool}
    (hs : s.Shows j depth) (hj : j.node = .scalar {} text isPlain)
    (h : Gives (readScalarValue {} text isPlain) v) : Gives s.value v := by
  refine hs.target.bind (Gives.locate ?_ s)
  rw [hs.1, hj]
  exact h

theorem gives_list {s : Spot} {js : List Json} {vs : List Value}
    (hs : s.Shows (.array js) (depth + 1)) (h : List.Forall₂ (fun v j => v.Shown j depth) vs js) :
    Gives s.value (.list vs) := by
  have hitems : List.Forall₂ (fun t v => Gives (readValueTo s.depth t) v)
      (s.items depth (Json.itemNodes js)) vs := by
    refine forall₂_of_common (s.shows_items depth js) h fun t v j ht hv => ?_
    rw [hs.2, ← ht.2]
    exact hv.2 t ht
  refine hs.target.bind (Gives.locate ?_ s)
  rw [hs.1]
  exact hs.below.bind ((Gives.mapM hitems).bind (gives_pure _))

theorem gives_map {s : Spot} {js : List (String × Json)} {es : List (String × Value)}
    (hs : s.Shows (.object js) (depth + 1))
    (h : List.Forall₂ (fun e j => j.1 = e.1 ∧ e.2.Shown j.2 depth) es js) :
    Gives s.value (.map (es.map fun e => (.text e.1, e.2))) := by
  have hentries : List.Forall₂ (fun p e => Gives (do
        return (← readValueTo s.depth p.1, ← readValueTo s.depth p.2) : Read (Value × Value))
        (Value.text e.1, e.2))
      (s.entries depth (Json.entryNodes js)) es := by
    refine forall₂_of_common (s.showEntries_entries depth js) h fun p e j hp he => ?_
    obtain ⟨hkey, hvalue⟩ := hp
    obtain ⟨hname, hshown⟩ := he
    have hk : Gives p.1.value (.text e.1) := gives_scalar hkey rfl (hname ▸ gives_pure _)
    have hv := hshown.2 p.2 hvalue
    rw [Spot.value, hkey.2, ← hs.2] at hk
    rw [Spot.value, hvalue.2, ← hs.2] at hv
    exact hk.bind (hv.bind (gives_pure _))
  refine hs.target.bind (Gives.locate ?_ s)
  rw [hs.1]
  exact hs.below.bind ((Gives.mapM (List.forall₂_map_right_iff.2 hentries)).bind (gives_pure _))

/-- Plain data that a spot allows is a JSON value, and reading the JSON value gives it back. -/
theorem Plain.exists_shown (h : v.Plain) (hfits : v.Fits depth) : ∃ j, v.Shown j depth := by
  induction h generalizing depth with
  | null => exact ⟨.null, rfl, fun s hs => gives_scalar hs rfl (gives_pure _)⟩
  | bool b =>
    refine ⟨.bool b, rfl, fun s hs => gives_scalar hs rfl ?_⟩
    cases b <;> exact gives_pure _
  | integer n =>
    cases hfits with
    | integer hword =>
      refine ⟨.number (.integer n), rfl, fun s hs => gives_scalar hs rfl ?_⟩
      have hread : readScalar none (integerText n) true = .ok (.integer n) := by
        rw [← Scalar.ofPlain_integerText hword]
        rfl
      intro k
      simp only [readScalarValue, Number.jsonText, hread, hword]
      rfl
  | text t => exact ⟨.text t, rfl, fun s hs => gives_scalar hs rfl (gives_pure _)⟩
  | @list vs _ ih =>
    cases hfits with
    | list hvs =>
      obtain ⟨js, hjs⟩ := exists_forall₂ fun v hv => ih v hv (hvs v hv)
      refine ⟨.array js, ?_, fun s hs => gives_list hs hjs⟩
      rw [toJson, itemsToJson_eq_ok (hjs.imp fun _ _ hshown => hshown.1)]
      rfl
  | @map es _ ih =>
    cases hfits with
    | @map depth _ _ hvalues =>
      have hexists : ∀ e ∈ es, ∃ j : String × Json, j.1 = e.1 ∧ e.2.Shown j.2 depth := by
        intro e he
        obtain ⟨j, hj⟩ := ih e he (hvalues _ (List.mem_map_of_mem he))
        exact ⟨(e.1, j), rfl, hj⟩
      obtain ⟨js, hjs⟩ := exists_forall₂ hexists
      refine ⟨.object js, ?_, fun s hs => gives_map hs hjs⟩
      rw [toJson, entriesToJson_eq_ok (hjs.imp fun _ _ h => ⟨h.1, h.2.1⟩)]
      rfl

end Value

end StyleBuild
