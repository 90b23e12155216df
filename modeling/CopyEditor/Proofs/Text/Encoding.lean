import CopyEditor.Text.Encoding
import Mathlib.Data.List.TakeWhile

/-!
Decoding and encoding are inverse. A text that was decoded from some bytes is encoded by these bytes
and no others (`Encoding.encode_of_decode`), and no two texts have the same bytes
(`Encoding.encode_inj`).

For UTF-8 the proof follows the decoder byte by byte. What it holds of a character of several bytes
determines the bytes that it has taken (`Partial.Taken`), and the last of them completes the
encoding of the character that it then decodes (`Partial.Taken.encoded`).
-/

set_option autoImplicit false
set_option relaxedAutoImplicit false

namespace CopyEditor

namespace Utf8

/-- The bytes that were taken of the character that is being read. The bounds of a second byte keep
out overlong forms, surrogates and what lies beyond the last code point. -/
inductive Partial.Taken : Partial → Bytes → Prop
  | ofTwo {a : UInt8} : 0xc2 ≤ a.toNat → a.toNat ≤ 0xdf →
      Taken ⟨a, 1, 1, a.toNat - 0xc0, 0x80, 0xbf⟩ [a]
  | ofThree {a : UInt8} : 0xe0 ≤ a.toNat → a.toNat ≤ 0xef →
      Taken ⟨a, 1, 2, a.toNat - 0xe0, if a.toNat = 0xe0 then 0xa0 else 0x80,
        if a.toNat = 0xed then 0x9f else 0xbf⟩ [a]
  | twoOfThree {a b : UInt8} : 0xe0 ≤ a.toNat → a.toNat ≤ 0xef →
      (if a.toNat = 0xe0 then 0xa0 else 0x80) ≤ b.toNat →
      b.toNat ≤ (if a.toNat = 0xed then 0x9f else 0xbf) →
      Taken ⟨a, 2, 1, (a.toNat - 0xe0) * 64 + (b.toNat - 0x80), 0x80, 0xbf⟩ [a, b]
  | ofFour {a : UInt8} : 0xf0 ≤ a.toNat → a.toNat ≤ 0xf4 →
      Taken ⟨a, 1, 3, a.toNat - 0xf0, if a.toNat = 0xf0 then 0x90 else 0x80,
        if a.toNat = 0xf4 then 0x8f else 0xbf⟩ [a]
  | twoOfFour {a b : UInt8} : 0xf0 ≤ a.toNat → a.toNat ≤ 0xf4 →
      (if a.toNat = 0xf0 then 0x90 else 0x80) ≤ b.toNat →
      b.toNat ≤ (if a.toNat = 0xf4 then 0x8f else 0xbf) →
      Taken ⟨a, 2, 2, (a.toNat - 0xf0) * 64 + (b.toNat - 0x80), 0x80, 0xbf⟩ [a, b]
  | threeOfFour {a b c : UInt8} : 0xf0 ≤ a.toNat → a.toNat ≤ 0xf4 →
      (if a.toNat = 0xf0 then 0x90 else 0x80) ≤ b.toNat →
      b.toNat ≤ (if a.toNat = 0xf4 then 0x8f else 0xbf) →
      0x80 ≤ c.toNat → c.toNat ≤ 0xbf →
      Taken ⟨a, 3, 1, ((a.toNat - 0xf0) * 64 + (b.toNat - 0x80)) * 64 + (c.toNat - 0x80), 0x80,
        0xbf⟩ [a, b, c]

/-- The code points of characters are all but the surrogates. -/
theorem toNat_ofNat_of_scalar {n : Nat} (h : n < 0xd800 ∨ 0xdfff < n ∧ n < 0x110000) :
    (Char.ofNat n).val.toNat = n := by
  have hvalid : n.isValidChar := h
  rw [Char.ofNat, dif_pos hvalid]
  rfl

theorem ofNat_eq {n : Nat} (byte : UInt8) (h : n = byte.toNat) : UInt8.ofNat n = byte := by
  rw [h, UInt8.ofNat_toNat]

namespace Partial.Taken

variable {p : Partial} {begun : Bytes} {byte : UInt8}

theorem of_start? (h : start? byte = some p) : Taken p [byte] := by
  simp only [start?, Bool.and_eq_true, decide_eq_true_eq] at h
  by_cases htwo : 0xc2 ≤ byte.toNat ∧ byte.toNat ≤ 0xdf
  · rw [if_pos htwo] at h
    obtain rfl := Option.some_inj.mp h
    exact .ofTwo htwo.1 htwo.2
  rw [if_neg htwo] at h
  by_cases hthree : 0xe0 ≤ byte.toNat ∧ byte.toNat ≤ 0xef
  · rw [if_pos hthree] at h
    obtain rfl := Option.some_inj.mp h
    exact .ofThree hthree.1 hthree.2
  rw [if_neg hthree] at h
  by_cases hfour : 0xf0 ≤ byte.toNat ∧ byte.toNat ≤ 0xf4
  · rw [if_pos hfour] at h
    obtain rfl := Option.some_inj.mp h
    exact .ofFour hfour.1 hfour.2
  · rw [if_neg hfour] at h
    cases h

/-- A further byte within the bounds, while more are to come. -/
theorem next (h : Taken p begun) (hlow : p.low ≤ byte.toNat) (hhigh : byte.toNat ≤ p.high)
    (hleft : p.left ≠ 1) :
    Taken ⟨p.first, p.taken + 1, p.left - 1, p.value * 64 + (byte.toNat - 0x80), 0x80, 0xbf⟩
      (begun ++ [byte]) := by
  cases h with
  | ofTwo | twoOfThree | threeOfFour => exact absurd rfl hleft
  | ofThree hfirst hlast => exact .twoOfThree hfirst hlast hlow hhigh
  | ofFour hfirst hlast => exact .twoOfFour hfirst hlast hlow hhigh
  | twoOfFour hfirst hlast hsecond hsecond' =>
    exact .threeOfFour hfirst hlast hsecond hsecond' hlow hhigh

/-- The last byte completes the encoding of a character. -/
theorem encoded (h : Taken p begun) (hlow : p.low ≤ byte.toNat) (hhigh : byte.toNat ≤ p.high)
    (hleft : p.left = 1) :
    String.utf8EncodeChar (Char.ofNat (p.value * 64 + (byte.toNat - 0x80))) = begun ++ [byte] := by
  cases h with
  | ofThree | ofFour | twoOfFour => cases hleft
  | @ofTwo a hfirst hlast =>
    dsimp only at hlow hhigh ⊢
    have hvalue :=
      toNat_ofNat_of_scalar (n := (a.toNat - 0xc0) * 64 + (byte.toNat - 0x80)) (by omega)
    rw [String.utf8EncodeChar, hvalue, if_neg (by omega), if_pos (by omega),
      ofNat_eq a (by omega), ofNat_eq byte (by omega)]
    rfl
  | @twoOfThree a b hfirst hlast hsecond hsecond' =>
    dsimp only at hlow hhigh ⊢
    -- neither an overlong form nor a surrogate
    have hlong : 0x20 ≤ (a.toNat - 0xe0) * 64 + (b.toNat - 0x80) := by
      split_ifs at hsecond <;> omega
    have hscalar : (a.toNat - 0xe0) * 64 + (b.toNat - 0x80) < 0x360 ∨
        0x37f < (a.toNat - 0xe0) * 64 + (b.toNat - 0x80) := by
      split_ifs at hsecond hsecond' <;> omega
    have hbytes : 0x80 ≤ b.toNat ∧ b.toNat ≤ 0xbf := by
      split_ifs at hsecond hsecond' <;> omega
    have hvalue := toNat_ofNat_of_scalar
      (n := ((a.toNat - 0xe0) * 64 + (b.toNat - 0x80)) * 64 + (byte.toNat - 0x80)) (by omega)
    rw [String.utf8EncodeChar, hvalue, if_neg (by omega), if_neg (by omega), if_pos (by omega),
      ofNat_eq a (by omega), ofNat_eq b (by omega),
      ofNat_eq byte (by omega)]
    rfl
  | @threeOfFour a b c hfirst hlast hsecond hsecond' hthird hthird' =>
    dsimp only at hlow hhigh ⊢
    -- neither an overlong form nor beyond the last code point
    have hlong : 0x10 ≤ (a.toNat - 0xf0) * 64 + (b.toNat - 0x80) := by
      split_ifs at hsecond <;> omega
    have hscalar : (a.toNat - 0xf0) * 64 + (b.toNat - 0x80) < 0x110 := by
      split_ifs at hsecond hsecond' <;> omega
    have hbytes : 0x80 ≤ b.toNat ∧ b.toNat ≤ 0xbf := by
      split_ifs at hsecond hsecond' <;> omega
    have hvalue := toNat_ofNat_of_scalar
      (n := (((a.toNat - 0xf0) * 64 + (b.toNat - 0x80)) * 64 + (c.toNat - 0x80)) * 64 +
        (byte.toNat - 0x80)) (by omega)
    rw [String.utf8EncodeChar, hvalue, if_neg (by omega), if_neg (by omega), if_neg (by omega),
      ofNat_eq a (by omega), ofNat_eq b (by omega),
      ofNat_eq c (by omega), ofNat_eq byte (by omega)]
    rfl

end Partial.Taken

theorem utf8EncodeChar_of_lt {byte : UInt8} (h : byte.toNat < 0x80) :
    String.utf8EncodeChar (Char.ofNat byte.toNat) = [byte] := by
  have hvalue := toNat_ofNat_of_scalar (n := byte.toNat) (by omega)
  rw [String.utf8EncodeChar, hvalue, if_pos (by omega), ofNat_eq byte rfl]

/-- The decoded characters, the bytes taken of the current one and the bytes to come are, in this
order, the encoding of the text. -/
theorem flatMap_of_decodeFrom {bytes begun : Bytes} {position : Nat} {current : Option Partial}
    {decoded text : Text} (hbegun : ∀ p ∈ current, p.Taken begun)
    (hnone : current = none → begun = [])
    (h : decodeFrom position current decoded bytes = .ok text) :
    decoded.reverse.flatMap String.utf8EncodeChar ++ begun ++ bytes =
      text.flatMap String.utf8EncodeChar := by
  induction bytes generalizing position current decoded begun with
  | nil =>
    cases current with
    | none =>
      obtain rfl := Except.ok.inj h
      simp [hnone rfl]
    | some p => cases h
  | cons byte bytes ih =>
    cases current with
    | none =>
      obtain rfl := hnone rfl
      simp only [decodeFrom] at h
      split at h
      · next hbyte =>
        rw [← ih (by simp) (fun _ ↦ rfl) h]
        simp [utf8EncodeChar_of_lt hbyte]
      · split at h
        · cases h
        · next p hp =>
          have hone : ∀ q ∈ some p, q.Taken [byte] := by
            rintro q ⟨⟩
            exact .of_start? hp
          rw [← ih hone (by simp) h]
          simp
    | some p =>
      have hp := hbegun p rfl
      simp only [decodeFrom, Bool.and_eq_true, decide_eq_true_eq] at h
      split at h
      · next hbounds =>
        split at h
        · next hleft =>
          rw [← ih (by simp) (fun _ ↦ rfl) h]
          simp [hp.encoded hbounds.1 hbounds.2 hleft]
        · next hleft =>
          have hmore : ∀ q ∈ some (⟨p.first, p.taken + 1, p.left - 1,
              p.value * 64 + (byte.toNat - 0x80), 0x80, 0xbf⟩ : Partial),
              q.Taken (begun ++ [byte]) := by
            rintro q ⟨⟩
            exact hp.next hbounds.1 hbounds.2 hleft
          rw [← ih hmore (by simp) h]
          simp
      · cases h

end Utf8

namespace Encoding

variable {encoding : Encoding} {bytes : Bytes} {text text' : Text}

/-- Exactly the texts that fit are encoded, a byte for each character. -/
theorem encodeNarrow_eq_ok_iff {size : Nat} : encodeNarrow encoding size text = .ok bytes ↔
    (∀ c ∈ text, c.toNat < size) ∧ text.map (fun c ↦ UInt8.ofNat c.toNat) = bytes := by
  unfold encodeNarrow
  dsimp only
  split
  · next hfits =>
    rw [List.dropWhile_eq_nil_iff] at hfits
    simp only [decide_eq_true_eq] at hfits
    simp only [Except.ok.injEq]
    exact ⟨fun h ↦ ⟨hfits, h⟩, fun h ↦ h.2⟩
  · next first rest hrest =>
    have hfirst := List.head?_dropWhile_not (fun c : Char ↦ decide (c.toNat < size)) text
    rw [hrest] at hfirst
    have hmem : first ∈ text := (List.dropWhile_suffix _).subset (hrest ▸ List.mem_cons_self ..)
    constructor
    · intro h
      cases h
    · intro h
      exact absurd (h.1 first hmem) (of_decide_eq_false hfirst)

theorem map_ofNat_map {size : Nat}
    (h : ∀ byte ∈ bytes, byte.toNat < size) :
    (∀ c ∈ bytes.map fun byte ↦ Char.ofNat byte.toNat, c.toNat < size) ∧
      (bytes.map fun byte ↦ Char.ofNat byte.toNat).map (fun c ↦ UInt8.ofNat c.toNat) = bytes := by
  have hvalue (byte : UInt8) : (Char.ofNat byte.toNat).toNat = byte.toNat :=
    Utf8.toNat_ofNat_of_scalar (.inl (Nat.lt_trans byte.toNat_lt (by decide)))
  constructor
  · intro c hc
    obtain ⟨byte, hbyte, rfl⟩ := List.mem_map.mp hc
    rw [hvalue]
    exact h byte hbyte
  · simp [List.map_map, Function.comp_def, hvalue]

theorem of_decodeAsciiFrom {position : Nat} {decoded : Text}
    (h : decodeAsciiFrom position decoded bytes = .ok text) :
    (∀ byte ∈ bytes, byte.toNat < 0x80) ∧
      text = decoded.reverse ++ bytes.map fun byte ↦ Char.ofNat byte.toNat := by
  induction bytes generalizing position decoded with
  | nil =>
    obtain rfl := Except.ok.inj h
    simp
  | cons byte bytes ih =>
    simp only [decodeAsciiFrom] at h
    split at h
    · next hbyte =>
      obtain ⟨hbytes, rfl⟩ := ih h
      exact ⟨List.forall_mem_cons.mpr ⟨hbyte, hbytes⟩, by simp⟩
    · cases h

/-- What was decoded is encoded by the bytes that it was decoded from. -/
theorem encode_of_decode (h : encoding.decode bytes = .ok text) :
    encoding.encode text = .ok bytes := by
  cases encoding with
  | utf8 =>
    have hnone : ∀ p ∈ (none : Option Utf8.Partial), p.Taken [] := by simp
    have hbytes := Utf8.flatMap_of_decodeFrom hnone (fun _ ↦ rfl) h
    exact congrArg Except.ok hbytes.symm
  | latin1 =>
    obtain rfl := Except.ok.inj h
    exact encodeNarrow_eq_ok_iff.mpr (map_ofNat_map fun byte _ ↦ byte.toNat_lt)
  | ascii =>
    obtain ⟨hbytes, rfl⟩ := of_decodeAsciiFrom h
    exact encodeNarrow_eq_ok_iff.mpr (map_ofNat_map hbytes)

theorem flatMap_utf8EncodeChar_inj
    (h : text.flatMap String.utf8EncodeChar = text'.flatMap String.utf8EncodeChar) :
    text = text' := by
  rw [← String.ofList_inj, ← String.toByteArray_inj, String.toByteArray_ofList,
    String.toByteArray_ofList]
  exact List.toByteArray_inj.mpr h

/-- The bytes of a narrow encoding are the code points of the text. -/
theorem eq_map_of_encodeNarrow {size : Nat} (hsize : size ≤ 256)
    (h : encodeNarrow encoding size text = .ok bytes) :
    text = bytes.map fun byte ↦ Char.ofNat byte.toNat := by
  obtain ⟨hfits, rfl⟩ := encodeNarrow_eq_ok_iff.mp h
  have hkept : ∀ c ∈ text, Char.ofNat (UInt8.ofNat c.toNat).toNat = c := by
    intro c hc
    have hsmall : c.toNat < 256 := Nat.lt_of_lt_of_le (hfits c hc) hsize
    rw [UInt8.toNat_ofNat', Nat.mod_eq_of_lt hsmall, Char.ofNat_toNat]
  rw [List.map_map]
  exact ((List.map_congr_left hkept).trans (List.map_id text)).symm

/-- No two texts have the same bytes. -/
theorem encode_inj (h : encoding.encode text = .ok bytes) (h' : encoding.encode text' = .ok bytes) :
    text = text' := by
  cases encoding with
  | utf8 => exact flatMap_utf8EncodeChar_inj (Except.ok.inj (h.trans h'.symm))
  | latin1 =>
    exact (eq_map_of_encodeNarrow (Nat.le_refl _) h).trans
      (eq_map_of_encodeNarrow (Nat.le_refl _) h').symm
  | ascii =>
    exact (eq_map_of_encodeNarrow (by decide) h).trans (eq_map_of_encodeNarrow (by decide) h').symm

end Encoding

end CopyEditor
