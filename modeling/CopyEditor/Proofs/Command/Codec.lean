import CopyEditor.Command.Run
import CopyEditor.Proofs.Text.Encoding

/-!
Whether an encoding gives back what it reads and reads back what it gives. Neither is assumed of a
codec. In UTF-8, Latin-1 and ASCII a text has no other bytes than those that it is read from
(`isExact_builtIn`). This is not so where a byte order mark is put before every text but may be
missing where it is read (`not_isExact_signedUtf8`); still, no text that was written there is read
as another (`readsBack_builtIn`).
-/

set_option autoImplicit false
set_option relaxedAutoImplicit false

namespace CopyEditor.Command.Session

variable {encoding : NamedCodec} {name text text' : Text} {bytes : Bytes}

/-- A text that was read from some bytes is written as these bytes. -/
def IsExact (encoding : NamedCodec) : Prop :=
  ∀ bytes text, decode encoding bytes = .ok text → encode encoding text = .ok bytes

/-- Bytes that a text is written as are not read as another text. -/
def ReadsBack (encoding : NamedCodec) : Prop :=
  ∀ text bytes text', encode encoding text = .ok bytes → decode encoding bytes = .ok text' →
    text' = text

theorem encode_eq_ok_iff :
    encode encoding text = .ok bytes ↔
      ∃ codec, encoding.codec? = some codec ∧ codec.encode text = .ok bytes := by
  unfold encode
  cases encoding.codec? with
  | none => simp
  | some codec => cases hencode : codec.encode text <;> simp [hencode]

/-- No bytes are no characters; the codec reads the rest. -/
theorem decode_eq_ok_iff :
    decode encoding bytes = .ok text ↔
      bytes = [] ∧ text = [] ∨
        bytes ≠ [] ∧ ∃ codec, encoding.codec? = some codec ∧ codec.decode bytes = .ok text := by
  cases bytes with
  | nil => simp [decode, eq_comm]
  | cons byte rest =>
    cases hcodec : encoding.codec? with
    | none => simp [decode, hcodec]
    | some codec => cases hdecode : codec.decode (byte :: rest) <;> simp [decode, hcodec, hdecode]

/-- A codec that reads no bytes as no characters need not be asked whether there are any. -/
theorem decode_eq_ok_iff_of_nil {codec : Codec} (hcodec : encoding.codec? = some codec)
    (hnil : codec.decode [] = .ok []) :
    decode encoding bytes = .ok text ↔ codec.decode bytes = .ok text := by
  rw [decode_eq_ok_iff, hcodec]
  cases bytes with
  | nil => simp [hnil, eq_comm]
  | cons byte rest => simp

theorem decode_of_nil (known : Encoding) : (Codec.of known).decode [] = .ok [] := by
  cases known <;> rfl

theorem isExact_of {known : Encoding} (h : encoding.codec? = some (.of known)) :
    IsExact encoding := by
  intro bytes text hdecode
  rw [decode_eq_ok_iff_of_nil h (decode_of_nil known)] at hdecode
  exact encode_eq_ok_iff.mpr ⟨_, h, Encoding.encode_of_decode hdecode⟩

theorem readsBack_of {known : Encoding} (h : encoding.codec? = some (.of known)) :
    ReadsBack encoding := by
  intro text bytes text' hencode hdecode
  rw [decode_eq_ok_iff_of_nil h (decode_of_nil known)] at hdecode
  obtain ⟨codec, hcodec, hencode⟩ := encode_eq_ok_iff.mp hencode
  obtain rfl := Option.some_inj.mp (h.symm.trans hcodec)
  exact Encoding.encode_inj (Encoding.encode_of_decode hdecode) hencode

theorem readsBack_signedUtf8 (h : encoding.codec? = some .signedUtf8) : ReadsBack encoding := by
  intro text bytes text' hencode hdecode
  rw [decode_eq_ok_iff_of_nil h rfl] at hdecode
  obtain ⟨codec, hcodec, hencode⟩ := encode_eq_ok_iff.mp hencode
  obtain rfl := Option.some_inj.mp (h.symm.trans hcodec)
  obtain ⟨rest, hrest, rfl⟩ : ∃ rest, Encoding.utf8.encode text = .ok rest ∧
      Codec.utf8Mark ++ rest = bytes := ⟨_, rfl, Except.ok.inj hencode⟩
  have hmark : Codec.utf8Mark.isPrefixOf (Codec.utf8Mark ++ rest) = true := by simp
  have hread : Encoding.utf8.decode rest = .ok text' := by
    simpa only [Codec.signedUtf8, if_pos hmark, List.drop_left] using hdecode
  exact Encoding.encode_inj (Encoding.encode_of_decode hread) hrest

/-- A name of UTF-8, Latin-1 or ASCII leads to an exact encoding. -/
theorem isExact_builtIn (h : (Encoding.ofName? name).isSome) :
    IsExact ⟨name, Codecs.builtIn name⟩ := by
  obtain ⟨known, hknown⟩ := Option.isSome_iff_exists.mp h
  have hcodec : Codecs.builtIn name = some (.of known) := by simp only [Codecs.builtIn, hknown]
  exact isExact_of hcodec

theorem readsBack_builtIn (name : Text) : ReadsBack ⟨name, Codecs.builtIn name⟩ := by
  cases hname : Encoding.ofName? name with
  | some known =>
    have hcodec : Codecs.builtIn name = some (.of known) := by simp only [Codecs.builtIn, hname]
    exact readsBack_of hcodec
  | none =>
    by_cases hsigned : Encoding.normalName name = "utf_8_sig".toList
    · exact readsBack_signedUtf8 (by simp only [Codecs.builtIn, hname, if_pos hsigned])
    · intro text bytes text' hencode
      obtain ⟨codec, hcodec, -⟩ := encode_eq_ok_iff.mp hencode
      simp only [Codecs.builtIn, hname, if_neg hsigned] at hcodec
      cases hcodec

/-- A text without a byte order mark gets one. -/
theorem not_isExact_signedUtf8 : ¬IsExact ⟨"utf-8-sig".toList, some .signedUtf8⟩ := by
  intro h
  have hwritten := h [97] ['a'] (by decide)
  revert hwritten
  decide

end CopyEditor.Command.Session
