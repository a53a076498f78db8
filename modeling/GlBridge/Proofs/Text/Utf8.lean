import GlBridge.Text.Bytes

/-!
# Texts survive as bytes

`Text.decode?` takes back what `Text.encode` did, and nothing else (`Text.decode_eq_some_iff`).
Besides, the bytes of a text without control characters hold no control byte
(`Text.noControl_encode`): the bytes beyond ASCII all have their highest bit set, so a control byte
can only come from a control character. It is for this reason that a line of text can end with a
newline byte.
-/

namespace GlBridge.Text

/-- The bytes as the library has them. -/
theorem toByteArray_encode (s : String) : (encode s).toByteArray = s.toByteArray := by
  -- a text is kept as the bytes of its characters
  conv => rhs; rw [← String.ofList_toList (s := s), String.toByteArray_ofList]
  -- both sides are the encodings of the characters one after the other
  rfl

/-- **What was encoded can be decoded.** -/
@[simp] theorem decode_encode (s : String) : decode? (encode s) = some s := by
  have hvalid : (encode s).toByteArray.IsValidUTF8 := toByteArray_encode s ▸ s.isValidUTF8
  unfold decode? String.fromUTF8?
  rw [dif_pos hvalid]
  exact congrArg some (String.toByteArray_inj.1 (toByteArray_encode s))

/-- **What can be decoded was encoded.** -/
theorem decode_eq_some_iff {bytes : Bytes} {s : String} :
    decode? bytes = some s ↔ encode s = bytes := by
  constructor
  · intro h
    unfold decode? String.fromUTF8? at h
    -- decoding looks at whether the bytes are well-formed, and then only gives them another name
    split at h
    next hvalid =>
      obtain rfl := Option.some.inj h
      exact List.toByteArray_inj.1 (toByteArray_encode _)
    next => cases h
  · rintro rfl
    exact decode_encode s

/-- Texts with the same bytes are the same. -/
@[simp] theorem encode_inj {s s' : String} : encode s = encode s' ↔ s = s' := by
  rw [← decode_eq_some_iff, decode_encode, Option.some.injEq, eq_comm]

/-- What cannot be decoded is the encoding of no text. -/
theorem decode_eq_none_iff {bytes : Bytes} : decode? bytes = none ↔ ∀ s, encode s ≠ bytes := by
  simp only [Option.eq_none_iff_forall_ne_some, ne_eq, decode_eq_some_iff]

/-- A number that fits into a byte is that byte. -/
theorem le_toNat_ofNat {n : Nat} (hlow : 0x20 ≤ n) (hhigh : n < 0x100) :
    0x20 ≤ (UInt8.ofNat n).toNat := by
  rw [UInt8.toNat_ofNat_of_lt' hhigh]
  exact hlow

/-- A character that is no control character has no control byte in its encoding. -/
theorem noControl_encodeChar {c : Char} (h : 0x20 ≤ c.toNat) :
    ∀ b ∈ String.utf8EncodeChar c, 0x20 ≤ b.toNat := by
  have hv : 0x20 ≤ c.val.toNat := h
  intro b hb
  unfold String.utf8EncodeChar at hb
  simp only at hb
  split at hb
  · -- one byte, which is the character
    obtain rfl := List.mem_singleton.1 hb
    exact le_toNat_ofNat hv (by omega)
  · -- two to four bytes, each of them at least 0x80
    split at hb
    · simp only [List.mem_cons, List.not_mem_nil, or_false] at hb
      rcases hb with rfl | rfl <;> exact le_toNat_ofNat (by omega) (by omega)
    · split at hb
      · simp only [List.mem_cons, List.not_mem_nil, or_false] at hb
        rcases hb with rfl | rfl | rfl <;> exact le_toNat_ofNat (by omega) (by omega)
      · simp only [List.mem_cons, List.not_mem_nil, or_false] at hb
        rcases hb with rfl | rfl | rfl | rfl <;> exact le_toNat_ofNat (by omega) (by omega)

/-- **A text without control characters has no control bytes.** -/
theorem noControl_encode {s : String} (h : ∀ c ∈ s.toList, 0x20 ≤ c.toNat) :
    ∀ b ∈ encode s, 0x20 ≤ b.toNat := by
  intro b hb
  obtain ⟨c, hc, hbc⟩ := List.mem_flatMap.1 hb
  exact noControl_encodeChar (h c hc) b hbc

end GlBridge.Text
