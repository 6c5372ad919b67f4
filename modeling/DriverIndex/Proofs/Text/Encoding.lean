import DriverIndex.Proofs.Text.Utf8

/-!
# Decoding what was encoded

The bytes of a character take the decoder through the character and back to where nothing is pending: the first byte announces how many follow, and the second lies in the range that the first allows because the encoding is the shortest one and no character is a surrogate. So decoding gives back every text that was encoded, and encoding loses nothing.
-/

namespace DriverIndex.Text.Utf8

namespace Decoder

variable {units : List (Option Char)}

/-- What `lead` decides, as numbers. -/
theorem lead_ofNat (units : List (Option Char)) {n : Nat} (hbyte : n < 256) : lead units (UInt8.ofNat n) =
    if n < 0x80 then ⟨.nothing, some (Char.ofNat n) :: units⟩
    else if n < 0xC2 then ⟨.nothing, none :: units⟩
    else if n < 0xE0 then ⟨.character 1 0x80 0xBF (n - 0xC0), units⟩
    else if n = 0xE0 then ⟨.character 2 0xA0 0xBF 0, units⟩
    else if n = 0xED then ⟨.character 2 0x80 0x9F 0xD, units⟩
    else if n < 0xF0 then ⟨.character 2 0x80 0xBF (n - 0xE0), units⟩
    else if n = 0xF0 then ⟨.character 3 0x90 0xBF 0, units⟩
    else if n < 0xF4 then ⟨.character 3 0x80 0xBF (n - 0xF0), units⟩
    else if n = 0xF4 then ⟨.character 3 0x80 0x8F 4, units⟩
    else ⟨.nothing, none :: units⟩ := by
  simp only [lead, UInt8.lt_iff_toNat_lt, ← UInt8.toNat_inj, UInt8.reduceToNat, UInt8.toNat_ofNat_of_lt' hbyte]

theorem feed_continuation {missing value rest : Nat} {low high : UInt8} (hrest : rest < 64)
    (hlow : low.toNat ≤ rest + 0x80) (hhigh : rest + 0x80 ≤ high.toNat) :
    (⟨.character missing low high value, units⟩ : Decoder).feed (UInt8.ofNat (rest + 0x80)) =
      if missing ≤ 1 then ⟨.nothing, some (Char.ofNat (value * 64 + rest)) :: units⟩
      else ⟨.character (missing - 1) 0x80 0xBF (value * 64 + rest), units⟩ := by
  have hsize : rest + 0x80 < 256 := by omega
  have hbyte : (UInt8.ofNat (rest + 0x80)).toNat = rest + 0x80 := UInt8.toNat_ofNat_of_lt' hsize
  have hfits : low ≤ UInt8.ofNat (rest + 0x80) ∧ UInt8.ofNat (rest + 0x80) ≤ high := by
    rw [UInt8.le_iff_toNat_le, UInt8.le_iff_toNat_le, hbyte]
    exact ⟨hlow, hhigh⟩
  split_ifs with hmissing
  · rw [feed_last hfits hmissing, hbyte, Nat.add_sub_cancel]
  · rw [feed_more hfits hmissing, hbyte, Nat.add_sub_cancel]

theorem lead_two {first : Nat} (hlow : 2 ≤ first) (hhigh : first < 32) (units : List (Option Char)) :
    lead units (UInt8.ofNat (first + 0xC0)) = ⟨.character 1 0x80 0xBF first, units⟩ := by
  rw [lead_ofNat units (by omega), if_neg (by omega), if_neg (by omega), if_pos (by omega), Nat.add_sub_cancel]

/-- The second byte is not too low, which would be a longer encoding than needed, and not that of a surrogate. -/
theorem lead_three {first second : Nat} (hfirst : first < 16) (hsecond : second < 64) (hlow : first = 0 → 32 ≤ second)
    (hhigh : first = 13 → second < 32) (units : List (Option Char)) :
    ∃ low high, lead units (UInt8.ofNat (first + 0xE0)) = ⟨.character 2 low high first, units⟩ ∧
      low.toNat ≤ second + 0x80 ∧ second + 0x80 ≤ high.toNat := by
  rw [lead_ofNat units (by omega), if_neg (by omega), if_neg (by omega), if_neg (by omega)]
  by_cases hzero : first = 0
  · subst hzero
    exact ⟨0xA0, 0xBF, rfl, Nat.add_le_add_right (hlow rfl) 0x80, Nat.add_le_add_right (Nat.le_of_lt_succ hsecond) 0x80⟩
  rw [if_neg (by omega)]
  by_cases hsurrogate : first = 13
  · subst hsurrogate
    exact ⟨0x80, 0x9F, rfl, Nat.le_add_left .., Nat.add_le_add_right (Nat.le_of_lt_succ (hhigh rfl)) 0x80⟩
  rw [if_neg (by omega), if_pos (by omega), Nat.add_sub_cancel]
  exact ⟨0x80, 0xBF, rfl, Nat.le_add_left .., Nat.add_le_add_right (Nat.le_of_lt_succ hsecond) 0x80⟩

theorem lead_four {first second : Nat} (hfirst : first < 5) (hsecond : second < 64) (hlow : first = 0 → 16 ≤ second)
    (hhigh : first = 4 → second < 16) (units : List (Option Char)) :
    ∃ low high, lead units (UInt8.ofNat (first + 0xF0)) = ⟨.character 3 low high first, units⟩ ∧
      low.toNat ≤ second + 0x80 ∧ second + 0x80 ≤ high.toNat := by
  rw [lead_ofNat units (by omega), if_neg (by omega), if_neg (by omega), if_neg (by omega), if_neg (by omega),
    if_neg (by omega), if_neg (by omega)]
  by_cases hzero : first = 0
  · subst hzero
    exact ⟨0x90, 0xBF, rfl, Nat.add_le_add_right (hlow rfl) 0x80, Nat.add_le_add_right (Nat.le_of_lt_succ hsecond) 0x80⟩
  rw [if_neg (by omega)]
  by_cases hlast : first = 4
  · subst hlast
    exact ⟨0x80, 0x8F, rfl, Nat.le_add_left .., Nat.add_le_add_right (Nat.le_of_lt_succ (hhigh rfl)) 0x80⟩
  rw [if_pos (by omega), Nat.add_sub_cancel]
  exact ⟨0x80, 0xBF, rfl, Nat.le_add_left .., Nat.add_le_add_right (Nat.le_of_lt_succ hsecond) 0x80⟩

theorem foldl_feed_encodeChar (c : Char) (units : List (Option Char)) :
    (String.utf8EncodeChar c).foldl feed ⟨.nothing, units⟩ = ⟨.nothing, some c :: units⟩ := by
  have hvalid : c.val.toNat < 0xD800 ∨ 0xDFFF < c.val.toNat ∧ c.val.toNat < 0x110000 := c.valid
  have hchar : Char.ofNat c.val.toNat = c := Char.ofNat_toNat c
  have h80 : (0x80 : UInt8).toNat = 0x80 := rfl
  have hBF : (0xBF : UInt8).toNat = 0xBF := rfl
  rw [String.utf8EncodeChar]
  generalize c.val.toNat = code at hvalid hchar
  have hrest : code % 64 < 64 := Nat.mod_lt _ (by omega)
  split_ifs with hone htwo hthree
  · rw [List.foldl_cons, feed_nothing, lead_ofNat units (by omega), if_pos (by omega), hchar, List.foldl_nil]
  · have hvalue : code / 64 % 32 * 64 + code % 64 = code := by omega
    rw [List.foldl_cons, feed_nothing, lead_two (by omega) (by omega), List.foldl_cons,
      feed_continuation hrest (by omega) (by omega), if_pos (by omega), hvalue, hchar, List.foldl_nil]
  · have hvalue : (code / 4096 % 16 * 64 + code / 64 % 64) * 64 + code % 64 = code := by omega
    have hmiddle : code / 64 % 64 < 64 := Nat.mod_lt _ (by omega)
    obtain ⟨low, high, hlead, hlow, hhigh⟩ :=
      lead_three (Nat.mod_lt (code / 4096) (by omega : 0 < 16)) hmiddle (by omega) (by omega) units
    rw [List.foldl_cons, feed_nothing, hlead, List.foldl_cons, feed_continuation hmiddle hlow hhigh, if_neg (by omega),
      List.foldl_cons, feed_continuation hrest (by omega) (by omega), if_pos (by omega), hvalue, hchar, List.foldl_nil]
  · have hvalue : ((code / 262144 % 8 * 64 + code / 4096 % 64) * 64 + code / 64 % 64) * 64 + code % 64 = code := by omega
    have hsecond : code / 4096 % 64 < 64 := Nat.mod_lt _ (by omega)
    have hthird : code / 64 % 64 < 64 := Nat.mod_lt _ (by omega)
    obtain ⟨low, high, hlead, hlow, hhigh⟩ :=
      lead_four (by omega : code / 262144 % 8 < 5) hsecond (by omega) (by omega) units
    rw [List.foldl_cons, feed_nothing, hlead, List.foldl_cons, feed_continuation hsecond hlow hhigh, if_neg (by omega),
      List.foldl_cons, feed_continuation hthird (by omega) (by omega), if_neg (by omega), List.foldl_cons,
      feed_continuation hrest (by omega) (by omega), if_pos (by omega), hvalue, hchar, List.foldl_nil]

theorem foldl_feed_encode (text : List Char) (units : List (Option Char)) :
    (encode text).foldl feed ⟨.nothing, units⟩ = ⟨.nothing, (text.map some).reverse ++ units⟩ := by
  induction text generalizing units with
  | nil => rfl
  | cons c text ih =>
    rw [encode, List.flatMap_cons, ← encode, List.foldl_append, foldl_feed_encodeChar, ih, List.map_cons,
      List.reverse_cons, List.append_assoc]
    rfl

end Decoder

/-- What was encoded is decoded. -/
theorem decodeLossy_encode (text : List Char) : decodeLossy (encode text) = text := by
  have hunits : units (encode text) = text.map some := by
    rw [units, Decoder.start, Decoder.foldl_feed_encode, Decoder.close, List.append_nil, List.reverse_reverse]
  rw [decodeLossy, hunits, List.map_map]
  exact List.map_id text

theorem encode_injective : Function.Injective encode :=
  Function.LeftInverse.injective decodeLossy_encode

end DriverIndex.Text.Utf8
