import OlapClient.Text.Utf8

namespace OlapClient.Utf8

/-!
# Texts and their bytes

* `front_encodeChar` — the bytes of a character, with whatever follows them, begin with it.
* `decode_encode`, `lossyString_encodeString`, `string?_encodeString` — the bytes of a text are read
  as that text.
* `ascii_mem_encode` — an ASCII byte stands among the bytes of a text only for its character.
* `size_append`, `size_toList` — how many bytes a text takes.
-/

/-! ### Leading bytes -/

section Lead

variable {b d : UInt8}

theorem lead?_two (h : 0xC2 ≤ b.toNat ∧ b.toNat ≤ 0xDF) : lead? b = some ⟨1, 0x80, 0xBF⟩ := by
  unfold lead?
  rw [if_pos ⟨UInt8.le_iff_toNat_le.2 h.1, UInt8.le_iff_toNat_le.2 h.2⟩]

/-- The leading byte of three announces two more, of which the first is in its range. -/
theorem lead?_three (h : 0xE0 ≤ b.toNat ∧ b.toNat ≤ 0xEF) (h1 : 0x80 ≤ d.toNat ∧ d.toNat ≤ 0xBF)
    (hlow : b.toNat = 0xE0 → 0xA0 ≤ d.toNat) (hhigh : b.toNat = 0xED → d.toNat ≤ 0x9F) :
    ∃ lead, lead? b = some lead ∧ lead.more = 2 ∧ ¬(d < lead.low ∨ lead.high < d) := by
  simp only [lead?, UInt8.le_iff_toNat_le, UInt8.lt_iff_toNat_lt, ← UInt8.toNat_inj,
    UInt8.reduceToNat]
  rw [if_neg (by omega)]
  by_cases hE0 : b.toNat = 0xE0
  · rw [if_pos hE0]
    have := hlow hE0
    exact ⟨_, rfl, rfl, by simp only [UInt8.reduceToNat]; omega⟩
  rw [if_neg hE0]
  by_cases hEC : 0xE1 ≤ b.toNat ∧ b.toNat ≤ 0xEC
  · rw [if_pos hEC]
    exact ⟨_, rfl, rfl, by simp only [UInt8.reduceToNat]; omega⟩
  rw [if_neg hEC]
  by_cases hED : b.toNat = 0xED
  · rw [if_pos hED]
    have := hhigh hED
    exact ⟨_, rfl, rfl, by simp only [UInt8.reduceToNat]; omega⟩
  rw [if_neg hED, if_pos (by omega)]
  exact ⟨_, rfl, rfl, by simp only [UInt8.reduceToNat]; omega⟩

/-- The leading byte of four announces three more, of which the first is in its range. -/
theorem lead?_four (h : 0xF0 ≤ b.toNat ∧ b.toNat ≤ 0xF4) (h1 : 0x80 ≤ d.toNat ∧ d.toNat ≤ 0xBF)
    (hlow : b.toNat = 0xF0 → 0x90 ≤ d.toNat) (hhigh : b.toNat = 0xF4 → d.toNat ≤ 0x8F) :
    ∃ lead, lead? b = some lead ∧ lead.more = 3 ∧ ¬(d < lead.low ∨ lead.high < d) := by
  simp only [lead?, UInt8.le_iff_toNat_le, UInt8.lt_iff_toNat_lt, ← UInt8.toNat_inj,
    UInt8.reduceToNat]
  rw [if_neg (by omega), if_neg (by omega), if_neg (by omega), if_neg (by omega),
    if_neg (by omega)]
  by_cases hF0 : b.toNat = 0xF0
  · rw [if_pos hF0]
    have := hlow hF0
    exact ⟨_, rfl, rfl, by simp only [UInt8.reduceToNat]; omega⟩
  rw [if_neg hF0]
  by_cases hF3 : 0xF1 ≤ b.toNat ∧ b.toNat ≤ 0xF3
  · rw [if_pos hF3]
    exact ⟨_, rfl, rfl, by simp only [UInt8.reduceToNat]; omega⟩
  rw [if_neg hF3, if_pos (by omega)]
  have := hhigh (by omega)
  exact ⟨_, rfl, rfl, by simp only [UInt8.reduceToNat]; omega⟩

end Lead

/-! ### Characters -/

/-- A byte with a marker and some bits of a code point. -/
theorem toNat_ofNat_add {n m : Nat} (h : n + m < 256) : (UInt8.ofNat (n + m)).toNat = n + m := by
  rw [UInt8.toNat_ofNat', Nat.mod_eq_of_lt h]

theorem isContinuation_mark (n : Nat) : isContinuation (UInt8.ofNat (n % 64 + 128)) = true := by
  have hn : (UInt8.ofNat (n % 64 + 128)).toNat = n % 64 + 128 := toNat_ofNat_add (by omega)
  simp only [isContinuation, Bool.and_eq_true, decide_eq_true_eq, UInt8.le_iff_toNat_le, hn,
    UInt8.reduceToNat]
  omega

theorem payload_mark (n : Nat) : payload (UInt8.ofNat (n % 64 + 128)) = n % 64 := by
  rw [payload, toNat_ofNat_add (by omega)]
  omega

section Front

variable {n : Nat} (rest : Bytes)

theorem front_one (h : n ≤ 0x7F) : front (UInt8.ofNat n :: rest) = .char (Char.ofNat n) rest := by
  have h0 : (UInt8.ofNat n).toNat = n := by
    rw [UInt8.toNat_ofNat']
    omega
  have hlt : UInt8.ofNat n < 0x80 := by
    rw [UInt8.lt_iff_toNat_lt, h0]
    exact Nat.lt_succ_of_le h
  simp only [front, if_pos hlt, h0]

/-- A byte with a marker is no character of its own. -/
theorem not_ofNat_add_lt {m k : Nat} (hk : 0x80 ≤ k) (h : m + k < 256) :
    ¬UInt8.ofNat (m + k) < 0x80 := by
  rw [UInt8.lt_iff_toNat_lt, toNat_ofNat_add h]
  simp only [UInt8.reduceToNat]
  omega

theorem front_two (hlow : 0x80 ≤ n) (hhigh : n ≤ 0x7FF) :
    front (UInt8.ofNat (n / 64 % 32 + 192) :: UInt8.ofNat (n % 64 + 128) :: rest) =
      .char (Char.ofNat n) rest := by
  have h0 : (UInt8.ofNat (n / 64 % 32 + 192)).toNat = n / 64 + 192 := by
    rw [toNat_ofNat_add (by omega)]
    omega
  have h1 : (UInt8.ofNat (n % 64 + 128)).toNat = n % 64 + 128 := toNat_ofNat_add (by omega)
  have hge := not_ofNat_add_lt (m := n / 64 % 32) (k := 192) (by decide) (by omega)
  have hlead := lead?_two (b := UInt8.ofNat (n / 64 % 32 + 192)) (by omega)
  have hrange : ¬(UInt8.ofNat (n % 64 + 128) < 0x80 ∨ 0xBF < UInt8.ofNat (n % 64 + 128)) := by
    simp only [UInt8.lt_iff_toNat_lt, h1, UInt8.reduceToNat]
    omega
  -- five bits of the code point stand in the first byte, and six in each other one
  have hvalue : (n / 64 + 192) % 32 * 64 + n % 64 = n := by omega
  simp only [front, if_neg hge, hlead, if_neg hrange, if_true, payload_mark, h0, hvalue]

/-- Three bytes; the code points of surrogates are no characters. -/
theorem front_three (hlow : 0x800 ≤ n) (hhigh : n ≤ 0xFFFF) (hvalid : n < 0xD800 ∨ 0xDFFF < n) :
    front (UInt8.ofNat (n / 4096 % 16 + 224) :: UInt8.ofNat (n / 64 % 64 + 128) ::
      UInt8.ofNat (n % 64 + 128) :: rest) = .char (Char.ofNat n) rest := by
  have h0 : (UInt8.ofNat (n / 4096 % 16 + 224)).toNat = n / 4096 + 224 := by
    rw [toNat_ofNat_add (by omega)]
    omega
  have h1 : (UInt8.ofNat (n / 64 % 64 + 128)).toNat = n / 64 % 64 + 128 :=
    toNat_ofNat_add (by omega)
  have hge := not_ofNat_add_lt (m := n / 4096 % 16) (k := 224) (by decide) (by omega)
  obtain ⟨lead, hlead, hmore, hrange⟩ := lead?_three (b := UInt8.ofNat (n / 4096 % 16 + 224))
    (d := UInt8.ofNat (n / 64 % 64 + 128)) (by omega) (by omega) (by omega) (by omega)
  have hvalue : (n / 4096 + 224) % 16 * 4096 + n / 64 % 64 * 64 + n % 64 = n := by omega
  simp only [front, if_neg hge, hlead, if_neg hrange, hmore, isContinuation_mark, payload_mark,
    h0, hvalue]
  simp

theorem front_four (hlow : 0x10000 ≤ n) (hhigh : n < 0x110000) :
    front (UInt8.ofNat (n / 262144 % 8 + 240) :: UInt8.ofNat (n / 4096 % 64 + 128) ::
      UInt8.ofNat (n / 64 % 64 + 128) :: UInt8.ofNat (n % 64 + 128) :: rest) =
        .char (Char.ofNat n) rest := by
  have h0 : (UInt8.ofNat (n / 262144 % 8 + 240)).toNat = n / 262144 + 240 := by
    rw [toNat_ofNat_add (by omega)]
    omega
  have h1 : (UInt8.ofNat (n / 4096 % 64 + 128)).toNat = n / 4096 % 64 + 128 :=
    toNat_ofNat_add (by omega)
  have hge := not_ofNat_add_lt (m := n / 262144 % 8) (k := 240) (by decide) (by omega)
  obtain ⟨lead, hlead, hmore, hrange⟩ := lead?_four (b := UInt8.ofNat (n / 262144 % 8 + 240))
    (d := UInt8.ofNat (n / 4096 % 64 + 128)) (by omega) (by omega) (by omega) (by omega)
  have hvalue : (n / 262144 + 240) % 8 * 262144 + n / 4096 % 64 * 4096 + n / 64 % 64 * 64
      + n % 64 = n := by
    omega
  simp only [front, if_neg hge, hlead, if_neg hrange, hmore, isContinuation_mark, payload_mark,
    h0, hvalue]
  simp

end Front

/-- The bytes of a character, with whatever follows them, begin with that character. -/
theorem front_encodeChar (c : Char) (rest : Bytes) :
    front (String.utf8EncodeChar c ++ rest) = .char c rest := by
  have hc : Char.ofNat c.val.toNat = c := Char.ofNat_toNat c
  -- a character is no surrogate and at most the last code point
  have hvalid : c.val.toNat < 0xD800 ∨ (0xDFFF < c.val.toNat ∧ c.val.toNat < 0x110000) := c.valid
  unfold String.utf8EncodeChar
  dsimp only
  split
  · have hfront := front_one rest ‹_›
    rwa [hc] at hfront
  split
  · have hfront := front_two rest (n := c.val.toNat) (by omega) ‹_›
    rwa [hc] at hfront
  split
  · have hfront := front_three rest (n := c.val.toNat) (by omega) ‹_› (by omega)
    rwa [hc] at hfront
  · have hfront := front_four rest (n := c.val.toNat) (by omega) (by omega)
    rwa [hc] at hfront

/-! ### Texts -/

@[simp] theorem encode_nil : encode [] = [] := rfl

theorem encode_cons (c : Char) (cs : List Char) :
    encode (c :: cs) = String.utf8EncodeChar c ++ encode cs := rfl

@[simp] theorem encode_append (cs ds : List Char) : encode (cs ++ ds) = encode cs ++ encode ds :=
  List.flatMap_append

theorem decodeFrom_encode (index : Nat) (cs : List Char) :
    decodeFrom index (encode cs) = .ok cs := by
  induction cs generalizing index with
  | nil => unfold decodeFrom; rfl
  | cons c cs ih =>
    unfold decodeFrom
    have hfront := front_encodeChar c (encode cs)
    rw [← encode_cons] at hfront
    split <;> rename_i heq <;> rw [hfront] at heq <;> cases heq
    rw [ih]
    rfl

/-- The bytes of a text are read as that text. -/
theorem decode_encode (cs : List Char) : decode (encode cs) = .ok cs :=
  decodeFrom_encode 0 cs

theorem decodeLossy_encode (cs : List Char) : decodeLossy (encode cs) = cs := by
  induction cs with
  | nil => unfold decodeLossy; rfl
  | cons c cs ih =>
    unfold decodeLossy
    have hfront := front_encodeChar c (encode cs)
    rw [← encode_cons] at hfront
    split <;> rename_i heq <;> rw [hfront] at heq <;> cases heq
    rw [ih]

/-- The bytes of a string are read as that string. -/
theorem lossyString_encodeString (s : String) : lossyString (encodeString s) = s := by
  rw [lossyString, encodeString, decodeLossy_encode, String.ofList_toList]

theorem string?_encodeString (s : String) : string? (encodeString s) = some s := by
  rw [string?, encodeString, decode_encode]
  exact congrArg some (String.ofList_toList)

/-! ### ASCII -/

/-- An ASCII character is one byte. -/
theorem encodeChar_ascii {c : Char} (h : c.toNat < 0x80) :
    String.utf8EncodeChar c = [UInt8.ofNat c.toNat] := by
  have hle : c.val.toNat ≤ 0x7F := Nat.lt_succ_iff.1 h
  unfold String.utf8EncodeChar
  dsimp only
  rw [if_pos hle]
  rfl

/-- The bytes of any other character are no ASCII bytes: each carries a marker. -/
theorem le_of_mem_encodeChar {c : Char} (h : 0x80 ≤ c.toNat) {b : UInt8}
    (hb : b ∈ String.utf8EncodeChar c) : 0x80 ≤ b.toNat := by
  have hn : ¬c.val.toNat ≤ 0x7F := Nat.not_le.2 h
  have hmark : ∀ n m, 0x80 ≤ m → n + m < 256 → 0x80 ≤ (UInt8.ofNat (n + m)).toNat := by
    intro n m hm hlt
    rw [toNat_ofNat_add hlt]
    omega
  unfold String.utf8EncodeChar at hb
  dsimp only at hb
  rw [if_neg hn] at hb
  split at hb
  · simp only [List.mem_cons, List.not_mem_nil, or_false] at hb
    rcases hb with rfl | rfl <;> exact hmark _ _ (by omega) (by omega)
  split at hb
  · simp only [List.mem_cons, List.not_mem_nil, or_false] at hb
    rcases hb with rfl | rfl | rfl <;> exact hmark _ _ (by omega) (by omega)
  · simp only [List.mem_cons, List.not_mem_nil, or_false] at hb
    rcases hb with rfl | rfl | rfl | rfl <;> exact hmark _ _ (by omega) (by omega)

/-- An ASCII byte of a character is that character. -/
theorem eq_of_mem_encodeChar {c : Char} {b : UInt8} (hb : b ∈ String.utf8EncodeChar c)
    (h : b.toNat < 0x80) : c = Char.ofNat b.toNat := by
  by_cases hc : c.toNat < 0x80
  · rw [encodeChar_ascii hc, List.mem_singleton] at hb
    have htoNat : b.toNat = c.toNat := by
      rw [hb, UInt8.toNat_ofNat']
      omega
    rw [htoNat, Char.ofNat_toNat]
  · have := le_of_mem_encodeChar (Nat.not_lt.1 hc) hb
    omega

/-- An ASCII byte stands among the bytes of a text only for its character. -/
theorem ascii_mem_encode {cs : List Char} {b : UInt8} (hb : b ∈ encode cs) (h : b.toNat < 0x80) :
    Char.ofNat b.toNat ∈ cs := by
  obtain ⟨c, hc, hin⟩ := List.mem_flatMap.1 hb
  rwa [← eq_of_mem_encodeChar hin h]

theorem encode_ne_nil {cs : List Char} (h : cs ≠ []) : encode cs ≠ [] := by
  cases cs with
  | nil => exact absurd rfl h
  | cons c cs =>
    intro hnil
    exact String.utf8EncodeChar_ne_nil (List.append_eq_nil_iff.1 hnil).1

/-! ### Sizes -/

theorem size_append (cs ds : List Char) : size (cs ++ ds) = size cs + size ds := by
  induction cs with
  | nil => exact (Nat.zero_add _).symm
  | cons c cs ih =>
    show c.utf8Size + size (cs ++ ds) = c.utf8Size + size cs + size ds
    rw [ih, Nat.add_assoc]

theorem size_toList (s : String) : size s.toList = s.utf8ByteSize := by
  rw [← String.ofList_toList (s := s), String.toList_ofList]
  induction s.toList with
  | nil => rfl
  | cons c cs ih =>
    show c.utf8Size + size cs = _
    rw [String.ofList_cons, String.utf8ByteSize_append, String.utf8ByteSize_singleton, ih]

end OlapClient.Utf8
