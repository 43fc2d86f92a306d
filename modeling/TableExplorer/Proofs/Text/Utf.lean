import Mathlib.Data.List.TakeWhile
import TableExplorer.Text.Utf

/-!
# Texts that are written in UTF-8

A character is written in one to four octets, and the first of them says how many follow. The scan
of octets reads each character back from its octets, so a text that is written in UTF-8 is the text
that every reader of octets gets.

Main results: `lossyUtf8_toUTF8`, `decodeDocument?_toUTF8` and `decodeDocument?_mark`.
-/

namespace TableExplorer.Text

/-! ## Octets of a text -/

theorem toList_loop (octets : ByteArray) (i : Nat) (r : List UInt8) :
    ByteArray.toList.loop octets i r = r.reverse ++ octets.data.toList.drop i := by
  fun_induction ByteArray.toList.loop octets i r with
  | case1 i r hi ih =>
    have hlength : i < octets.data.toList.length := by simpa using hi
    have hget : octets.get! i = octets.data[i]! := by cases octets; rfl
    rw [ih, List.drop_eq_getElem_cons hlength, hget, getElem!_pos octets.data i hi]
    simp
  | case2 i r hi =>
    rw [List.drop_eq_nil_of_le (by simpa using Nat.le_of_not_lt hi), List.append_nil]

theorem toList_eq_data (octets : ByteArray) : octets.toList = octets.data.toList := by
  rw [ByteArray.toList, toList_loop]
  simp

theorem toList_toUTF8 (s : String) :
    s.toUTF8.toList = s.toList.flatMap String.utf8EncodeChar := by
  have hs : s.toUTF8 = s.toList.utf8Encode := by
    rw [← String.toByteArray_ofList, String.ofList_toList]
    rfl
  rw [toList_eq_data, hs, List.utf8Encode, List.toList_data_toByteArray]

theorem fromUTF8?_toUTF8 (s : String) : String.fromUTF8? s.toUTF8 = some s := by
  simp [String.fromUTF8?, s.isValidUTF8, String.fromUTF8]

/-- A text of characters with one octet each. -/
theorem size_of_single {cs : List Char} (h : ∀ c ∈ cs, c.utf8Size = 1) :
    (String.ofList cs).utf8ByteSize = cs.length := by
  have hlength : (cs.flatMap String.utf8EncodeChar).length = cs.length := by
    rw [List.length_flatMap, List.map_congr_left fun c hc =>
      (String.length_utf8EncodeChar c).trans (h c hc), List.map_const', List.sum_replicate_nat,
      Nat.mul_one]
  have hoctets := congrArg List.length (toList_toUTF8 (String.ofList cs))
  rw [String.toList_ofList, hlength, toList_eq_data] at hoctets
  exact hoctets

/-! ## One character -/

theorem scalar_toNat (c : Char) : scalar c.toNat = c := by
  have hc : ¬(0xd800 ≤ c.toNat ∧ c.toNat ≤ 0xdfff) := by
    have := c.valid
    simp only [UInt32.isValidChar, Nat.isValidChar] at this
    change ¬(0xd800 ≤ c.val.toNat ∧ c.val.toNat ≤ 0xdfff)
    omega
  rw [scalar, if_neg hc, Char.ofNat_toNat]

/-- An octet that continues a sequence adds six bits. -/
theorem continueSequence_octet {count bits low high x : Nat} (hx : x < 64) (hlow : low ≤ x + 128)
    (hhigh : x + 128 ≤ high) (rest : List UInt8) :
    continueSequence (count + 1) bits low high (UInt8.ofNat (x + 128) :: rest) =
      continueSequence count (bits * 64 + x) 0x80 0xbf rest := by
  have hoctet : (UInt8.ofNat (x + 128)).toNat = x + 128 := by
    simp
    omega
  rw [continueSequence, hoctet, if_pos ⟨hlow, hhigh⟩, Nat.add_sub_cancel]

/-- A first octet with its promise, and what follows it, make a character. -/
theorem scanUtf8_of_lead {b : Nat} {lead : Lead} {octets rest : List UInt8} {code : Nat}
    (hb : b < 256) (hlead : lead? false b = some lead)
    (hcode : continueSequence lead.following lead.bits lead.low lead.high octets =
      (some code, rest)) (fuel : Nat) :
    scanUtf8 false (fuel + 1) (UInt8.ofNat b :: octets) =
      some (scalar code) :: scanUtf8 false fuel rest := by
  have hoctet : (UInt8.ofNat b).toNat = b := by
    simp
    omega
  rw [scanUtf8, hoctet, hlead]
  simp only [hcode, Option.map_some]

theorem lead?_two {x : Nat} (hlow : 2 ≤ x) (hhigh : x < 32) :
    lead? false (x + 192) = some { following := 1, bits := x } := by
  unfold lead?
  rw [if_neg (by omega), if_neg (by omega), if_pos (by omega), Nat.add_sub_cancel]

theorem lead?_three {x y : Nat} (hx : x < 16) (hy : y < 64) (hshort : x = 0 → 32 ≤ y)
    (hsurrogate : x = 13 → y < 32) :
    ∃ lead, lead? false (x + 224) = some lead ∧ lead.following = 2 ∧ lead.bits = x ∧
      lead.low ≤ y + 128 ∧ y + 128 ≤ lead.high := by
  unfold lead?
  rw [if_neg (by omega), if_neg (by omega), if_neg (by omega)]
  by_cases h0 : x + 224 = 0xe0
  · rw [if_pos h0]
    exact ⟨_, rfl, rfl, by dsimp only; omega, by dsimp only; omega, by dsimp only; omega⟩
  · rw [if_neg h0]
    by_cases hd : x + 224 = 0xed
    · rw [if_pos (by simp [hd])]
      exact ⟨_, rfl, rfl, by dsimp only; omega, by dsimp only; omega, by dsimp only; omega⟩
    · rw [if_neg (by simp [hd]), if_pos (by omega)]
      exact ⟨_, rfl, rfl, by dsimp only; omega, by dsimp only; omega, by dsimp only; omega⟩

theorem lead?_four {x y : Nat} (hx : x ≤ 4) (hy : y < 64) (hshort : x = 0 → 16 ≤ y)
    (hlong : x = 4 → y < 16) :
    ∃ lead, lead? false (x + 240) = some lead ∧ lead.following = 3 ∧ lead.bits = x ∧
      lead.low ≤ y + 128 ∧ y + 128 ≤ lead.high := by
  unfold lead?
  rw [if_neg (by omega), if_neg (by omega), if_neg (by omega), if_neg (by omega),
    if_neg (by simp), if_neg (by omega)]
  by_cases h0 : x + 240 = 0xf0
  · rw [if_pos h0]
    exact ⟨_, rfl, rfl, by dsimp only; omega, by dsimp only; omega, by dsimp only; omega⟩
  · rw [if_neg h0]
    by_cases h4 : x + 240 < 0xf4
    · rw [if_pos h4]
      exact ⟨_, rfl, rfl, by dsimp only; omega, by dsimp only; omega, by dsimp only; omega⟩
    · rw [if_neg h4, if_pos (by omega)]
      exact ⟨_, rfl, rfl, by dsimp only; omega, by dsimp only; omega, by dsimp only; omega⟩

/-- **A character is read back from its octets.** -/
theorem scanUtf8_encodeChar (c : Char) (rest : List UInt8) (fuel : Nat) :
    scanUtf8 false (fuel + 1) (String.utf8EncodeChar c ++ rest) =
      some c :: scanUtf8 false fuel rest := by
  have hvalid : c.toNat < 0xd800 ∨ 0xdfff < c.toNat ∧ c.toNat < 0x110000 := c.valid
  suffices hscan : scanUtf8 false (fuel + 1) (String.utf8EncodeChar c ++ rest) =
      some (scalar c.toNat) :: scanUtf8 false fuel rest by
    rwa [scalar_toNat] at hscan
  unfold String.utf8EncodeChar
  have hvalue : c.val.toNat = c.toNat := rfl
  simp only [hvalue]
  generalize c.toNat = n at *
  by_cases hone : n ≤ 127
  · rw [if_pos hone]
    have hlead : lead? false n = some { following := 0, bits := n } := by
      rw [lead?, if_pos (by omega)]
    exact scanUtf8_of_lead (by omega) hlead rfl fuel
  rw [if_neg hone]
  by_cases htwo : n ≤ 2047
  · rw [if_pos htwo, Nat.mod_eq_of_lt (by omega : n / 64 < 32), List.cons_append]
    refine scanUtf8_of_lead (by omega) (lead?_two (by omega) (by omega)) ?_ fuel
    rw [List.cons_append, continueSequence_octet (by omega) (by dsimp only; omega)
      (by dsimp only; omega), Nat.div_add_mod']
    rfl
  rw [if_neg htwo]
  by_cases hthree : n ≤ 65535
  · obtain ⟨lead, hlead, hfollowing, hbits, hlow, hhigh⟩ := lead?_three (x := n / 4096)
      (y := n / 64 % 64) (by omega) (by omega) (by omega) (by omega)
    rw [if_pos hthree, Nat.mod_eq_of_lt (by omega : n / 4096 < 16), List.cons_append]
    refine scanUtf8_of_lead (by omega) hlead ?_ fuel
    have hcode : (n / 4096 * 64 + n / 64 % 64) * 64 + n % 64 = n := by omega
    rw [hfollowing, hbits, List.cons_append, continueSequence_octet (by omega) hlow hhigh,
      List.cons_append, continueSequence_octet (by omega) (by omega) (by omega), hcode]
    rfl
  · obtain ⟨lead, hlead, hfollowing, hbits, hlow, hhigh⟩ := lead?_four (x := n / 262144)
      (y := n / 4096 % 64) (by omega) (by omega) (by omega) (by omega)
    rw [if_neg hthree, Nat.mod_eq_of_lt (by omega : n / 262144 < 8), List.cons_append]
    refine scanUtf8_of_lead (by omega) hlead ?_ fuel
    have hcode : ((n / 262144 * 64 + n / 4096 % 64) * 64 + n / 64 % 64) * 64 + n % 64 = n := by
      omega
    rw [hfollowing, hbits, List.cons_append, continueSequence_octet (by omega) hlow hhigh,
      List.cons_append, continueSequence_octet (by omega) (by omega) (by omega),
      List.cons_append, continueSequence_octet (by omega) (by omega) (by omega), hcode]
    rfl

/-! ## Whole texts -/

theorem scanUtf8_encode (cs : List Char) {fuel : Nat} (hfuel : cs.length ≤ fuel) :
    scanUtf8 false fuel (cs.flatMap String.utf8EncodeChar) = cs.map some := by
  induction cs generalizing fuel with
  | nil => cases fuel <;> rfl
  | cons c cs ih =>
    cases fuel with
    | zero => simp at hfuel
    | succ fuel =>
      rw [List.flatMap_cons, scanUtf8_encodeChar, ih (by simpa using hfuel), List.map_cons]

theorem length_le_encode (cs : List Char) :
    cs.length ≤ (cs.flatMap String.utf8EncodeChar).length := by
  induction cs with
  | nil => simp
  | cons c cs ih =>
    have hc := c.utf8Size_pos
    rw [List.flatMap_cons, List.length_append, String.length_utf8EncodeChar, List.length_cons]
    omega

/-- **A text in UTF-8 is read back.** -/
theorem lossyUtf8_toUTF8 (s : String) : lossyUtf8 s.toUTF8.toList = s := by
  rw [toList_toUTF8, lossyUtf8, scanUtf8_encode _ (length_le_encode _), List.map_map]
  simp [Function.comp_def]

/-! ## Documents -/

/-- The octets of a character are below 248, and not zero unless the character is NUL. -/
theorem bounds_of_mem_encodeChar {c : Char} {b : UInt8} (hb : b ∈ String.utf8EncodeChar c) :
    b.toNat < 248 ∧ (c ≠ '\x00' → b ≠ 0) := by
  have hvalid : c.toNat < 0x110000 := by
    have hc : c.toNat < 0xd800 ∨ 0xdfff < c.toNat ∧ c.toNat < 0x110000 := c.valid
    omega
  have hnul : c ≠ '\x00' → c.toNat ≠ 0 := by
    intro hc hzero
    exact hc (Char.toNat_inj.1 hzero)
  have hvalue : c.val.toNat = c.toNat := rfl
  simp only [String.utf8EncodeChar, hvalue] at hb
  generalize c.toNat = n at *
  have hoctet : ∃ x, b = UInt8.ofNat x ∧ x < 248 ∧ (n ≠ 0 → x ≠ 0) := by
    split at hb
    · rw [List.mem_singleton] at hb
      exact ⟨n, hb, by omega, id⟩
    · split at hb
      · rw [List.mem_cons, List.mem_singleton] at hb
        rcases hb with hb | hb
        · exact ⟨_, hb, by omega, by omega⟩
        · exact ⟨_, hb, by omega, by omega⟩
      · split at hb
        · rw [List.mem_cons, List.mem_cons, List.mem_singleton] at hb
          rcases hb with hb | hb | hb
          · exact ⟨_, hb, by omega, by omega⟩
          · exact ⟨_, hb, by omega, by omega⟩
          · exact ⟨_, hb, by omega, by omega⟩
        · rw [List.mem_cons, List.mem_cons, List.mem_cons, List.mem_singleton] at hb
          rcases hb with hb | hb | hb | hb
          · exact ⟨_, hb, by omega, by omega⟩
          · exact ⟨_, hb, by omega, by omega⟩
          · exact ⟨_, hb, by omega, by omega⟩
          · exact ⟨_, hb, by omega, by omega⟩
  obtain ⟨x, rfl, hx, hzero⟩ := hoctet
  have htoNat : (UInt8.ofNat x).toNat = x := by
    simp
    omega
  refine ⟨by omega, fun hc h => hzero (hnul hc) ?_⟩
  rw [← htoNat, h]
  rfl

theorem head_of_mark {cs : List Char} {rest : List UInt8}
    (h : cs.flatMap String.utf8EncodeChar = 0xef :: 0xbb :: 0xbf :: rest) :
    cs.head? = some '\ufeff' := by
  have hscan := scanUtf8_encode cs (Nat.le_refl cs.length)
  cases cs with
  | nil => cases h
  | cons c cs =>
    have hmark := scanUtf8_encodeChar '\ufeff' rest cs.length
    have hoctets : String.utf8EncodeChar '\ufeff' = [0xef, 0xbb, 0xbf] := by decide
    rw [hoctets] at hmark
    rw [h, List.length_cons] at hscan
    have hsame := hmark.symm.trans hscan
    rw [List.map_cons] at hsame
    rw [List.head?_cons, (List.cons.inj hsame).1]

/-- Without a zero among the first two octets, no other encoding shows. -/
theorem unmarked_eq_utf8 {octets : List UInt8} (hlow : ∀ b ∈ octets.take 2, b ≠ 0) :
    Encoding.unmarked octets = .utf8 0 := by
  unfold Encoding.unmarked
  split
  · simp_all
  · simp_all
  · rfl

/-- Octets show another encoding by a mark or by a zero among the first two. -/
theorem detect_eq_utf8 {octets : List UInt8} (hlow : ∀ b ∈ octets.take 2, b ≠ 0)
    (hhigh : ∀ b ∈ octets, b.toNat < 248) (hmark : ∀ rest, octets ≠ 0xef :: 0xbb :: 0xbf :: rest) :
    Encoding.detect octets = .utf8 0 := by
  have hmarks : ∀ m ∈ Encoding.marks, 0xfe ∈ m.1 ∨ m.1 = [0xef, 0xbb, 0xbf] := by decide
  have hnone : (Encoding.marks.find? fun m => m.1.isPrefixOf octets) = none := by
    rw [List.find?_eq_none]
    intro m hm hprefix
    obtain ⟨rest, hrest⟩ := List.isPrefixOf_iff_prefix.1 hprefix
    rcases hmarks m hm with hfe | hutf8
    · have hmem : 0xfe ∈ octets := hrest ▸ List.mem_append_left rest hfe
      exact absurd (hhigh _ hmem) (by decide)
    · rw [hutf8] at hrest
      exact hmark rest hrest.symm
  rw [Encoding.detect, hnone]
  exact unmarked_eq_utf8 hlow

theorem zero_not_mem_toUTF8 {s : String} (h : '\x00' ∉ s.toList) : 0 ∉ s.toUTF8.toList := by
  rw [toList_toUTF8]
  intro hzero
  obtain ⟨c, hc, hb⟩ := List.mem_flatMap.1 hzero
  refine (bounds_of_mem_encodeChar hb).2 ?_ rfl
  rintro rfl
  exact h hc

/-- A text shows that it is written in UTF-8, unless it begins with a byte order mark or one of its
first two octets is zero. -/
theorem detect_encode {cs : List Char} (hmark : cs.head? ≠ some '\ufeff')
    (hzero : 0 ∉ (cs.flatMap String.utf8EncodeChar).take 2) :
    Encoding.detect ((cs.flatMap String.utf8EncodeChar).take 4) = .utf8 0 := by
  refine detect_eq_utf8 (fun b hb => ?_) (fun b hb => ?_) (fun rest h => hmark ?_)
  · rw [List.take_take, Nat.min_eq_left (by decide)] at hb
    rintro rfl
    exact hzero hb
  · obtain ⟨c, -, hb⟩ := List.mem_flatMap.1 (List.mem_of_mem_take hb)
    exact (bounds_of_mem_encodeChar hb).1
  · have hall := List.take_append_drop 4 (cs.flatMap String.utf8EncodeChar)
    rw [h] at hall
    exact head_of_mark hall.symm

theorem toList_extract_four (octets : ByteArray) :
    (octets.extract 0 4).toList = octets.toList.take 4 := by
  rw [toList_eq_data, toList_eq_data]
  simp

/-- **Such a text is read back** from its document. -/
theorem decodeDocument?_toUTF8 {s : String} (hmark : s.toList.head? ≠ some '\ufeff')
    (hzero : 0 ∉ s.toUTF8.toList.take 2) : decodeDocument? s.toUTF8 = some s := by
  rw [toList_toUTF8] at hzero
  rw [decodeDocument?, toList_extract_four, toList_toUTF8, detect_encode hmark hzero]
  simp only [utf8?, fromUTF8?_toUTF8]

theorem detect_mark (rest : List UInt8) :
    Encoding.detect (0xef :: 0xbb :: 0xbf :: rest) = .utf8 3 := by
  have hfound : (Encoding.marks.find? fun m => m.1.isPrefixOf (0xef :: 0xbb :: 0xbf :: rest)) =
      some ([0xef, 0xbb, 0xbf], .utf8 3) := rfl
  rw [Encoding.detect, hfound]

/-- A byte order mark is no part of the text behind it. -/
theorem decodeDocument?_mark (s : String) : decodeDocument? ("\ufeff" ++ s).toUTF8 = some s := by
  have hsize : "\ufeff".toUTF8.size = 3 := by decide +kernel
  have hoctets : ("\ufeff" ++ s).toUTF8 = "\ufeff".toUTF8 ++ s.toUTF8 := String.toByteArray_append
  have hlist : ("\ufeff" ++ s).toUTF8.toList = 0xef :: 0xbb :: 0xbf :: s.toUTF8.toList := by
    rw [toList_toUTF8, toList_toUTF8, String.toList_append]
    rfl
  have hrest : ("\ufeff" ++ s).toUTF8.extract 3 ("\ufeff" ++ s).toUTF8.size = s.toUTF8 := by
    rw [hoctets, ByteArray.size_append, ← hsize]
    exact ByteArray.extract_append_eq_right rfl rfl
  rw [decodeDocument?, toList_extract_four, hlist, List.take_succ_cons, List.take_succ_cons,
    List.take_succ_cons, detect_mark]
  simp only [hrest, utf8?, fromUTF8?_toUTF8]

end TableExplorer.Text
