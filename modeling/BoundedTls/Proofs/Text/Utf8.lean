import BoundedTls.Text.Utf8

/-!
# Reading back what was encoded

The bytes of a text fall into units that are its characters, so the lenient reading, which never
fails, gives back every text that was encoded.
-/

namespace BoundedTls.Text.Utf8

/-! ## Bytes of a character -/

theorem toNat_ofNat_of_lt {n : Nat} (h : n < 256) : (UInt8.ofNat n).toNat = n :=
  Nat.mod_eq_of_lt h

@[simp] theorem isContinuation_ofNat (n : Nat) :
    isContinuation (UInt8.ofNat (n % 64 + 128)) = true := by
  have hbyte : (UInt8.ofNat (n % 64 + 128)).toNat = n % 64 + 128 := toNat_ofNat_of_lt (by omega)
  simp only [isContinuation, UInt8.le_iff_toNat_le, hbyte, Bool.and_eq_true, decide_eq_true_eq]
  exact ⟨Nat.le_add_left _ _, show n % 64 + 128 ≤ 191 by omega⟩

@[simp] theorem payload_ofNat (n : Nat) : payload (UInt8.ofNat (n % 64 + 128)) = n % 64 := by
  rw [payload, toNat_ofNat_of_lt (by omega)]
  omega

/-- The second byte of a character, in numbers. -/
theorem secondAllowed_ofNat {a n : Nat} (ha : a < 256)
    (hE0 : a = 0xE0 → 0x20 ≤ n % 64) (hED : a = 0xED → n % 64 < 0x20)
    (hF0 : a = 0xF0 → 0x10 ≤ n % 64) (hF4 : a = 0xF4 → n % 64 < 0x10) :
    secondAllowed (UInt8.ofNat a) (UInt8.ofNat (n % 64 + 128)) = true := by
  have hfirst (b : UInt8) : UInt8.ofNat a = b ↔ a = b.toNat := by
    rw [← UInt8.toNat_inj, toNat_ofNat_of_lt ha]
  have hsecond : (UInt8.ofNat (n % 64 + 128)).toNat = n % 64 + 128 := toNat_ofNat_of_lt (by omega)
  simp only [secondAllowed, hfirst, UInt8.le_iff_toNat_le, hsecond, isContinuation_ofNat,
    UInt8.reduceToNat]
  split
  · simp only [Bool.and_eq_true, decide_eq_true_eq]; omega
  · split
    · simp only [Bool.and_eq_true, decide_eq_true_eq]; omega
    · split
      · simp only [Bool.and_eq_true, decide_eq_true_eq]; omega
      · split
        · simp only [Bool.and_eq_true, decide_eq_true_eq]; omega
        · rfl

section

variable {v : Nat} (rest : List UInt8)

theorem front_one (h : v < 0x80) : front (UInt8.ofNat v) rest = ⟨some (Char.ofNat v), 1⟩ := by
  have hfirst : (UInt8.ofNat v).toNat = v := toNat_ofNat_of_lt (by omega)
  simp only [front, hfirst, if_pos h]

theorem front_two (hlow : 0x80 ≤ v) (hhigh : v < 0x800) :
    front (UInt8.ofNat (v / 64 % 32 + 192)) (UInt8.ofNat (v % 64 + 128) :: rest) =
      ⟨some (Char.ofNat v), 2⟩ := by
  have hfirst : (UInt8.ofNat (v / 64 % 32 + 192)).toNat = v / 64 + 192 := by
    rw [toNat_ofNat_of_lt (by omega)]
    omega
  have hvalue : (v / 64 + 192 - 0xC0) * 64 + v % 64 = v := by omega
  simp only [front, hfirst]
  rw [if_neg (by omega), if_pos (by simp only [Bool.and_eq_true, decide_eq_true_eq]; omega)]
  simp only [isContinuation_ofNat, payload_ofNat, if_true, hvalue]

/-- Surrogates are no characters. -/
theorem front_three (hlow : 0x800 ≤ v) (hhigh : v < 0x10000) (hchar : v < 0xD800 ∨ 0xDFFF < v) :
    front (UInt8.ofNat (v / 4096 % 16 + 224))
        (UInt8.ofNat (v / 64 % 64 + 128) :: UInt8.ofNat (v % 64 + 128) :: rest) =
      ⟨some (Char.ofNat v), 3⟩ := by
  have hbyte : v / 4096 % 16 + 224 = v / 4096 + 224 := by omega
  have hfirst : (UInt8.ofNat (v / 4096 + 224)).toNat = v / 4096 + 224 := toNat_ofNat_of_lt (by omega)
  have hallowed : secondAllowed (UInt8.ofNat (v / 4096 + 224)) (UInt8.ofNat (v / 64 % 64 + 128)) =
      true := by
    apply secondAllowed_ofNat <;> omega
  have hvalue : ((v / 4096 + 224 - 0xE0) * 64 + v / 64 % 64) * 64 + v % 64 = v := by omega
  rw [hbyte]
  simp only [front, hfirst]
  rw [if_neg (by omega), if_neg (by simp only [Bool.and_eq_true, decide_eq_true_eq]; omega),
    if_pos (by simp only [Bool.and_eq_true, decide_eq_true_eq]; omega)]
  simp only [hallowed, isContinuation_ofNat, payload_ofNat, if_true, hvalue]

theorem front_four (hlow : 0x10000 ≤ v) (hhigh : v < 0x110000) :
    front (UInt8.ofNat (v / 262144 % 8 + 240))
        (UInt8.ofNat (v / 4096 % 64 + 128) :: UInt8.ofNat (v / 64 % 64 + 128) ::
          UInt8.ofNat (v % 64 + 128) :: rest) =
      ⟨some (Char.ofNat v), 4⟩ := by
  have hbyte : v / 262144 % 8 + 240 = v / 262144 + 240 := by omega
  have hfirst : (UInt8.ofNat (v / 262144 + 240)).toNat = v / 262144 + 240 :=
    toNat_ofNat_of_lt (by omega)
  have hallowed :
      secondAllowed (UInt8.ofNat (v / 262144 + 240)) (UInt8.ofNat (v / 4096 % 64 + 128)) = true := by
    apply secondAllowed_ofNat <;> omega
  have hvalue : (((v / 262144 + 240 - 0xF0) * 64 + v / 4096 % 64) * 64 + v / 64 % 64) * 64 +
      v % 64 = v := by omega
  rw [hbyte]
  simp only [front, hfirst]
  rw [if_neg (by omega), if_neg (by simp only [Bool.and_eq_true, decide_eq_true_eq]; omega),
    if_neg (by simp only [Bool.and_eq_true, decide_eq_true_eq]; omega),
    if_pos (by simp only [Bool.and_eq_true, decide_eq_true_eq]; omega)]
  simp only [hallowed, isContinuation_ofNat, payload_ofNat, if_true, hvalue]

end

/-- The bytes of a character are one unit, whatever follows them. -/
theorem front_encodeChar (c : Char) (rest : List UInt8) :
    ∃ first tail, String.utf8EncodeChar c = first :: tail ∧
      front first (tail ++ rest) = ⟨some c, tail.length + 1⟩ := by
  have hchar : Char.ofNat c.toNat = c := Char.ofNat_toNat c
  have hvalid : c.toNat < 0xD800 ∨ 0xDFFF < c.toNat ∧ c.toNat < 0x110000 := c.valid
  have hval : c.val.toNat = c.toNat := rfl
  unfold String.utf8EncodeChar
  simp only [hval]
  generalize c.toNat = v at *
  rw [← hchar]
  -- The number of bytes grows with the number of the character.
  split
  · exact ⟨_, [], rfl, front_one rest (by omega)⟩
  · split
    · exact ⟨_, [_], rfl, front_two rest (by omega) (by omega)⟩
    · split
      · exact ⟨_, [_, _], rfl, front_three rest (by omega) (by omega) (by omega)⟩
      · exact ⟨_, [_, _, _], rfl, front_four rest (by omega) (by omega)⟩

/-! ## Texts -/

theorem unitsAfter_skip (tail rest : List UInt8) :
    unitsAfter tail.length (tail ++ rest) = unitsAfter 0 rest := by
  induction tail with
  | nil => rfl
  | cons b tail ih => simpa [unitsAfter] using ih

theorem units_encodeChar (c : Char) (rest : List UInt8) :
    units (String.utf8EncodeChar c ++ rest) = some c :: units rest := by
  obtain ⟨first, tail, hbytes, hfront⟩ := front_encodeChar c rest
  rw [hbytes, List.cons_append, units, unitsAfter]
  simp only [hfront, Nat.add_sub_cancel, unitsAfter_skip]
  rfl

theorem units_chars (chars : List Char) :
    units (chars.flatMap String.utf8EncodeChar) = chars.map some := by
  induction chars with
  | nil => rfl
  | cons c chars ih => rw [List.flatMap_cons, units_encodeChar, ih, List.map_cons]

/-- The bytes of an array from an index on go behind those that were collected. -/
theorem toList_loop (bytes : ByteArray) (i : Nat) (collected : List UInt8) :
    ByteArray.toList.loop bytes i collected = collected.reverse ++ bytes.data.toList.drop i := by
  fun_induction ByteArray.toList.loop bytes i collected with
  | case1 i collected hi ih =>
    have hlist : i < bytes.data.toList.length := hi
    rw [ih, List.drop_eq_getElem_cons hlist]
    simp [ByteArray.get!, hi]
  | case2 i collected hi =>
    have hend : bytes.data.toList.length ≤ i := Nat.le_of_not_lt hi
    rw [List.drop_eq_nil_of_le hend, List.append_nil]

theorem encode_eq (s : String) : encode s = s.toList.flatMap String.utf8EncodeChar := by
  rw [encode, String.toUTF8, ← String.utf8Encode_toList, List.utf8Encode, ByteArray.toList,
    toList_loop, List.data_toByteArray]
  rfl

/-- **Every text is read back.** -/
theorem decodeLossy_encode (s : String) : decodeLossy (encode s) = s.toList := by
  rw [decodeLossy, encode_eq, units_chars, List.map_map]
  exact List.map_id _

end BoundedTls.Text.Utf8
