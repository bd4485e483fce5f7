import Notebook.Proofs.Unicode.Case

/-!
# Lower case twice

A text in lower case is its own lower case (`Notebook.Unicode.lowercase_lowercase`). This is a
matter of the tables: no run of the mapping holds an image of a run
(`Notebook.Unicode.image?_of_mem_lowercaseRuns`), so the image of a character is kept one by one
(`Notebook.Unicode.lowercaseChar_of_mem`). The one character whose image depends on what is around
it is the capital sigma, and it is nobody's image. Nor is a character of the first 128 an image,
unless it is a letter or kept (`Notebook.Unicode.mem_lowercase_iff`).

Writing the letters `A` to `Z` small beforehand does not show either
(`Notebook.Unicode.lowercase_asciiLowercase`): a letter is cased and not ignored in both cases, so
that a sigma ends a word as it did.
-/

namespace Notebook.Unicode

/-! ### Small letters -/

theorem toLower_toLower (c : Char) : c.toLower.toLower = c.toLower := by
  by_contra hagain
  have hcapital := (toNat_of_toLower_ne hagain).1
  have hchanged : c.toLower ≠ c := fun hc => hagain (by rw [hc, hc])
  have hsmall := (toNat_of_toLower_ne hchanged).2
  omega

/-- Only capital letters change. -/
theorem toLower_of_lt {c : Char} (h : 90 < c.toNat) : c.toLower = c := by
  by_contra hne
  have hcapital := (toNat_of_toLower_ne hne).1
  omega

/-- What is no letter is written small in itself alone. -/
theorem toLower_eq_iff {c d : Char} (hd : d.isAlpha = false) : c.toLower = d ↔ c = d := by
  have hself : d.toLower = d := by
    by_contra hne
    rw [(isAlpha_of_toLower_ne hne).1] at hd
    cases hd
  constructor
  · intro h
    rcases isAlpha_of_toLower (h.trans hself.symm) with hc | ⟨-, hletter⟩
    · exact hc
    · rw [hd] at hletter
      cases hletter
  · rintro rfl
    exact hself

/-- A class of characters with all letters in it, or with none, does not see how letters are
written. -/
theorem class_toLower {p : Char → Bool} {b : Bool} (hp : ∀ c : Char, c.isAlpha = true → p c = b)
    (c : Char) : p c.toLower = p c := by
  by_cases hc : c.toLower = c
  · rw [hc]
  · obtain ⟨hletter, hlower⟩ := isAlpha_of_toLower_ne hc
    rw [hp _ hlower, hp _ hletter]

theorem isAscii_of_isAlpha {c : Char} (h : c.isAlpha = true) : isAscii c = true := by
  rw [isAlpha_iff] at h
  exact decide_eq_true (by omega)

theorem isAscii_toLower (c : Char) : isAscii c.toLower = isAscii c :=
  class_toLower (fun _ => isAscii_of_isAlpha) c

theorem toLower_of_not_isAscii {c : Char} (h : ¬isAscii c = true) : c.toLower = c := by
  by_contra hne
  exact h (isAscii_of_isAlpha (isAlpha_of_toLower_ne hne).1)

theorem isCased_toLower (c : Char) : isCased c.toLower = isCased c :=
  class_toLower (fun _ h => by rw [isCased, if_pos (isAscii_of_isAlpha h), h]) c

/-! ### Runs -/

namespace CaseRun

variable {run other : CaseRun} {code image : Nat}

/-- The image of the first code point of a run. -/
def low (run : CaseRun) : Nat := (run.first + run.distance).toNat

/-- The image of the last code point of a run. -/
def high (run : CaseRun) : Nat := (run.last + run.distance).toNat

/-- The code points that a run holds. -/
def codes (run : CaseRun) : List Nat :=
  List.range' run.first ((run.last - run.first) / run.stride + 1) run.stride

theorem image?_eq_some_iff : run.image? code = some image ↔
    (run.first ≤ code ∧ code ≤ run.last ∧ (code - run.first) % run.stride = 0) ∧
      (code + run.distance).toNat = image := by
  rw [image?, Option.ite_none_right_eq_some, Option.some.injEq]

theorem bounds_of_image? (h : run.image? code = some image) :
    run.low ≤ image ∧ image ≤ run.high := by
  obtain ⟨⟨hfirst, hlast, -⟩, rfl⟩ := image?_eq_some_iff.mp h
  unfold low high
  omega

theorem mem_codes_of_image? (h : run.image? code = some image) : code ∈ run.codes := by
  obtain ⟨⟨hfirst, hlast, hstride⟩, -⟩ := image?_eq_some_iff.mp h
  refine List.mem_range'.mpr ⟨(code - run.first) / run.stride, ?_, ?_⟩
  · exact Nat.lt_succ_of_le (Nat.div_le_div_right (by omega))
  · rw [Nat.mul_div_cancel' (Nat.dvd_of_mod_eq_zero hstride)]
    omega

end CaseRun

/-- A set of numbers, as the number that has its bits there. -/
def bitsOf (ns : List Nat) : Nat := ns.foldr (fun n bits => 1 <<< n ||| bits) 0

theorem testBit_bitsOf {ns : List Nat} {n : Nat} (h : n ∈ ns) : (bitsOf ns).testBit n = true := by
  induction h with
  | head ns =>
    change (1 <<< n ||| bitsOf ns).testBit n = true
    rw [Nat.testBit_or, Nat.one_shiftLeft, Nat.testBit_two_pow_self, Bool.true_or]
  | @tail m ns _ ih =>
    change (1 <<< m ||| bitsOf ns).testBit n = true
    rw [Nat.testBit_or, ih, Bool.or_true]

/-- All code points that some runs hold. -/
def heldBits (runs : List CaseRun) : Nat := runs.foldr (fun run bits => bitsOf run.codes ||| bits) 0

theorem testBit_heldBits {runs : List CaseRun} {run : CaseRun} (hrun : run ∈ runs) {code : Nat}
    (hcode : code ∈ run.codes) : (heldBits runs).testBit code = true := by
  induction hrun with
  | head runs =>
    change (bitsOf run.codes ||| heldBits runs).testBit code = true
    rw [Nat.testBit_or, testBit_bitsOf hcode, Bool.true_or]
  | @tail first runs _ ih =>
    change (bitsOf first.codes ||| heldBits runs).testBit code = true
    rw [Nat.testBit_or, ih, Bool.or_true]

/-- **No run of the mapping to lower case holds an image.** -/
theorem image?_of_mem_lowercaseRuns {run other : CaseRun} (hrun : run ∈ lowercaseRuns)
    (hother : other ∈ lowercaseRuns) {code image : Nat} (h : run.image? code = some image) :
    other.image? image = none := by
  -- bits, as the comparison of each run with each other one is slow
  have hall : (lowercaseRuns.all fun run => run.codes.all fun code =>
      !(heldBits lowercaseRuns).testBit (code + run.distance).toNat) = true := by
    decide +kernel
  have hcodes := List.all_eq_true.mp hall run hrun
  have hfree := List.all_eq_true.mp hcodes code (CaseRun.mem_codes_of_image? h)
  rw [(CaseRun.image?_eq_some_iff.mp h).2, Bool.not_eq_true'] at hfree
  by_contra hheld
  obtain ⟨again, hagain⟩ := Option.ne_none_iff_exists'.mp hheld
  have hset := testBit_heldBits hother (CaseRun.mem_codes_of_image? hagain)
  rw [hfree] at hset
  cases hset

/-- An image is a character, of the first 128 a small letter only, and it is not expanded. -/
theorem image_of_mem_lowercaseRuns {run : CaseRun} (hrun : run ∈ lowercaseRuns) {code image : Nat}
    (h : run.image? code = some image) : image.isValidChar ∧
      (128 ≤ image ∨ 97 ≤ image ∧ image ≤ 122) ∧ lowercaseExpansions.lookup image = none := by
  have hall : (lowercaseRuns.all fun run =>
      (Nat.blt run.high 0xD800 || Nat.blt 0xDFFF run.low && Nat.blt run.high 0x110000) &&
        (Nat.ble 128 run.low || Nat.ble 97 run.low && Nat.ble run.high 122) &&
        (Nat.blt run.high 0x130 || Nat.blt 0x130 run.low)) = true := by
    decide +kernel
  have hbounds := CaseRun.bounds_of_image? h
  have hrun := List.all_eq_true.mp hall run hrun
  simp only [Bool.and_eq_true, Bool.or_eq_true, Nat.blt_eq, Nat.ble_eq] at hrun
  refine ⟨by unfold Nat.isValidChar; omega, by omega, ?_⟩
  rw [lowercaseExpansions, List.lookup_cons, beq_false_of_ne (by omega)]
  rfl

theorem toNat_ofNat_of_isValidChar {n : Nat} (h : n.isValidChar) : (Char.ofNat n).toNat = n := by
  rw [Char.ofNat, dif_pos h]
  rfl

/-! ### One character -/

/-- The character of an image of a run is kept. -/
theorem lowercaseChar_ofNat {run : CaseRun} (hrun : run ∈ lowercaseRuns) {code image : Nat}
    (h : run.image? code = some image) : lowercaseChar (Char.ofNat image) = [Char.ofNat image] := by
  obtain ⟨hvalid, hsmall, hlookup⟩ := image_of_mem_lowercaseRuns hrun h
  have hnat := toNat_ofNat_of_isValidChar hvalid
  rw [lowercaseChar]
  split
  · next hascii => rw [toLower_of_lt (by omega)]
  · have hruns : lowercaseRuns.findSome? (·.image? image) = none :=
      List.findSome?_eq_none_iff.mpr fun other hother =>
        image?_of_mem_lowercaseRuns hrun hother h
    rw [mapCase, hnat, hlookup, hruns]

/-- The characters of an expansion are kept. -/
theorem lowercaseChar_of_expansion : ∀ entry ∈ lowercaseExpansions, ∀ code ∈ entry.2,
    lowercaseChar (Char.ofNat code) = [Char.ofNat code] := by
  decide +kernel

/-- **The image of a character is kept.** -/
theorem lowercaseChar_of_mem {c d : Char} (h : d ∈ lowercaseChar c) : lowercaseChar d = [d] := by
  unfold lowercaseChar at h
  split at h
  · next hascii =>
    obtain rfl := List.mem_singleton.mp h
    rw [lowercaseChar, if_pos ((isAscii_toLower c).trans hascii), toLower_toLower]
  · next hascii =>
    unfold mapCase at h
    split at h
    · next codes hcodes =>
      obtain ⟨before, after, hentries, -⟩ := List.lookup_eq_some_iff.mp hcodes
      obtain ⟨code, hcode, rfl⟩ := List.mem_map.mp h
      exact lowercaseChar_of_expansion _ (hentries ▸ List.mem_append_right _ (.head _)) code hcode
    · next hlookup =>
      split at h
      · next image himage =>
        obtain rfl := List.mem_singleton.mp h
        obtain ⟨run, hrun, himage⟩ := List.exists_of_findSome?_eq_some himage
        exact lowercaseChar_ofNat hrun himage
      · next hruns =>
        obtain rfl := List.mem_singleton.mp h
        rw [lowercaseChar, if_neg hascii, mapCase, hlookup, hruns]

/-! ### A text -/

theorem lowercaseAfter_of_forall {before s : List Char} (h : ∀ c ∈ s, lowercaseChar c = [c]) :
    lowercaseAfter before s = s := by
  induction s generalizing before with
  | nil => rfl
  | cons c s ih =>
    obtain ⟨hc, hs⟩ := List.forall_mem_cons.mp h
    have hsigma : c ≠ 'Σ' := by
      rintro rfl
      exact absurd hc (by decide)
    rw [lowercaseAfter, if_neg hsigma, hc, ih hs, List.singleton_append]

theorem forall_mem_lowercaseAfter (before s : List Char) :
    ∀ d ∈ lowercaseAfter before s, lowercaseChar d = [d] := by
  induction s generalizing before with
  | nil => simp [lowercaseAfter]
  | cons c s ih =>
    have hsmall : lowercaseChar 'ς' = ['ς'] ∧ lowercaseChar 'σ' = ['σ'] := by decide
    rw [lowercaseAfter, List.forall_mem_append]
    refine ⟨fun d hd => ?_, ih _⟩
    split at hd
    · obtain rfl := List.mem_singleton.mp hd
      split
      · exact hsmall.1
      · exact hsmall.2
    · exact lowercaseChar_of_mem hd

/-- **A text is in lower case** when each of its characters is. -/
theorem lowercase_eq_self_iff {s : List Char} :
    lowercase s = s ↔ ∀ c ∈ s, lowercaseChar c = [c] :=
  ⟨fun h => h ▸ forall_mem_lowercaseAfter [] s, lowercaseAfter_of_forall⟩

/-- The letters `a` to `z` stay. -/
theorem lowercase_of_isLower {s : List Char} (h : ∀ c ∈ s, c.isLower = true) : lowercase s = s := by
  refine lowercase_eq_self_iff.mpr fun c hc => ?_
  have hletter : c.isAlpha = true := Bool.or_eq_true_iff.mpr (.inr (h c hc))
  have hlower : (decide (c.val ≥ 97) && decide (c.val ≤ 122)) = true := h c hc
  have hsmall : 97 ≤ c.toNat ∧ c.toNat ≤ 122 := by
    simpa only [ge_iff_le, UInt32.le_iff_toNat_le, Bool.and_eq_true, decide_eq_true_eq,
      UInt32.reduceToNat, Char.toNat] using hlower
  rw [lowercaseChar, if_pos (isAscii_of_isAlpha hletter), toLower_of_lt (by omega)]

/-- **A text in lower case stays.** -/
theorem lowercase_lowercase (s : List Char) : lowercase (lowercase s) = lowercase s :=
  lowercase_eq_self_iff.mpr (forall_mem_lowercaseAfter [] s)

/-! ### Small letters beforehand -/

theorem lowercaseChar_toLower (c : Char) : lowercaseChar c.toLower = lowercaseChar c := by
  by_cases hc : isAscii c = true
  · rw [lowercaseChar, lowercaseChar, if_pos ((isAscii_toLower c).trans hc), if_pos hc,
      toLower_toLower]
  · rw [toLower_of_not_isAscii hc]

theorem reachesCased_asciiLowercase (s : List Char) :
    reachesCased (asciiLowercase s) = reachesCased s := by
  have hranges : ∀ range ∈ caseIgnorable,
      range.2 < 65 ∨ 90 < range.1 ∧ range.2 < 97 ∨ 122 < range.1 := by decide +kernel
  have hignorable := class_toLower fun _ => not_contains_of_isAlpha hranges
  have hdrop : (asciiLowercase s).dropWhile caseIgnorable.contains =
      asciiLowercase (s.dropWhile caseIgnorable.contains) := by
    rw [asciiLowercase, List.dropWhile_map, Function.comp_def]
    simp only [hignorable]
    rfl
  unfold reachesCased
  rw [hdrop]
  cases s.dropWhile caseIgnorable.contains with
  | nil => rfl
  | cons c rest => exact isCased_toLower c

theorem lowercaseAfter_asciiLowercase (before s : List Char) :
    lowercaseAfter (asciiLowercase before) (asciiLowercase s) = lowercaseAfter before s := by
  induction s generalizing before with
  | nil => rfl
  | cons c s ih =>
    have hends : endsWord (asciiLowercase before) (asciiLowercase s) = endsWord before s := by
      rw [endsWord, endsWord, reachesCased_asciiLowercase, reachesCased_asciiLowercase]
    have hrest : lowercaseAfter (c.toLower :: asciiLowercase before) (asciiLowercase s) =
        lowercaseAfter (c :: before) s := ih (c :: before)
    have hsigma : c.toLower = 'Σ' ↔ c = 'Σ' := toLower_eq_iff (by decide)
    change lowercaseAfter (asciiLowercase before) (c.toLower :: asciiLowercase s) = _
    simp only [lowercaseAfter, hsigma, hends, hrest, lowercaseChar_toLower]

/-- **Small letters beforehand do not show** in the lower case of a text. -/
theorem lowercase_asciiLowercase (s : List Char) : lowercase (asciiLowercase s) = lowercase s :=
  lowercaseAfter_asciiLowercase [] s

theorem asciiLowercase_asciiLowercase (s : List Char) :
    asciiLowercase (asciiLowercase s) = asciiLowercase s := by
  rw [asciiLowercase, asciiLowercase, List.map_map]
  exact List.map_congr_left fun c _ => toLower_toLower c

theorem equalIgnoringAsciiCase_iff {s t : List Char} :
    equalIgnoringAsciiCase s t = true ↔ asciiLowercase s = asciiLowercase t := beq_iff_eq

/-- Texts that differ in the case of letters alone are the same in lower case. -/
theorem lowercase_congr {s t : List Char} (h : asciiLowercase s = asciiLowercase t) :
    lowercase s = lowercase t := by
  rw [← lowercase_asciiLowercase, h, lowercase_asciiLowercase]

/-! ### Characters that are no letters -/

theorem mem_asciiLowercase_iff {s : List Char} {d : Char} (hd : d.isAlpha = false) :
    d ∈ asciiLowercase s ↔ d ∈ s := by
  rw [asciiLowercase, List.mem_map]
  constructor
  · rintro ⟨c, hc, hlower⟩
    rwa [← (toLower_eq_iff hd).mp hlower]
  · exact fun h => ⟨d, h, (toLower_eq_iff hd).mpr rfl⟩

/-- What the tables make of another character is a letter if it is one of the first 128. -/
theorem isAlpha_of_mem_mapCase {c d : Char}
    (h : d ∈ mapCase lowercaseExpansions lowercaseRuns c) (hascii : isAscii d = true)
    (hne : d ≠ c) : d.isAlpha = true := by
  unfold mapCase at h
  split at h
  · next codes hcodes =>
    obtain ⟨before, after, hentries, -⟩ := List.lookup_eq_some_iff.mp hcodes
    obtain ⟨code, hcode, rfl⟩ := List.mem_map.mp h
    have hletters : ∀ entry ∈ lowercaseExpansions, ∀ code ∈ entry.2,
        isAscii (Char.ofNat code) = true → (Char.ofNat code).isAlpha = true := by decide
    exact hletters _ (hentries ▸ List.mem_append_right _ (.head _)) code hcode hascii
  split at h
  · next image himage =>
    obtain ⟨run, hrun, himage⟩ := List.exists_of_findSome?_eq_some himage
    obtain rfl := List.mem_singleton.mp h
    obtain ⟨hvalid, hsmall, -⟩ := image_of_mem_lowercaseRuns hrun himage
    have hnat := toNat_ofNat_of_isValidChar hvalid
    have hlt : (Char.ofNat image).toNat < 128 := of_decide_eq_true hascii
    exact isAlpha_iff.mpr (by omega)
  · exact absurd (List.mem_singleton.mp h) hne

/-- A character of the first 128 that is no letter is the image of itself alone. -/
theorem mem_lowercaseChar_iff {c d : Char} (hascii : isAscii d = true) (hd : d.isAlpha = false) :
    d ∈ lowercaseChar c ↔ d = c := by
  constructor
  · intro h
    unfold lowercaseChar at h
    split at h
    · exact ((toLower_eq_iff hd).mp (List.mem_singleton.mp h).symm).symm
    · by_contra hne
      cases hd.symm.trans (isAlpha_of_mem_mapCase h hascii hne)
  · rintro rfl
    rw [lowercaseChar, if_pos hascii, (toLower_eq_iff hd).mpr rfl]
    exact List.mem_singleton_self d

/-- **Lower case keeps what is no letter**, and brings nothing of this kind. -/
theorem mem_lowercase_iff {s : List Char} {d : Char} (hascii : isAscii d = true)
    (hd : d.isAlpha = false) : d ∈ lowercase s ↔ d ∈ s := by
  have hafter : ∀ before, d ∈ lowercaseAfter before s ↔ d ∈ s := by
    induction s with
    | nil => exact fun _ => Iff.rfl
    | cons c s ih =>
      intro before
      rw [lowercaseAfter, List.mem_append, ih, List.mem_cons]
      refine or_congr ?_ Iff.rfl
      split
      · next hc =>
        -- no form of the sigma is one of the first 128 characters
        have hsigmas : ∀ sigma ∈ ['Σ', 'ς', 'σ'], isAscii sigma = false := by simp [isAscii]
        have hne : ∀ sigma ∈ ['Σ', 'ς', 'σ'], d ≠ sigma := by
          rintro sigma hsigma rfl
          rw [hsigmas d hsigma] at hascii
          cases hascii
        rw [hc, List.mem_singleton]
        split <;> simp [hne]
      · exact mem_lowercaseChar_iff hascii hd
  exact hafter []

end Notebook.Unicode
