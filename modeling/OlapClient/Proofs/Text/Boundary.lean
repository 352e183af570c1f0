import OlapClient.Proofs.Text.Utf8

namespace OlapClient.Utf8

/-!
# Where bytes of a text can be cut

A byte sequence may be cut in front of a byte that begins a character. Cutting the bytes of a text
there cuts the text.

* `encodeChar_eq_cons` — which bytes of a character are continuation bytes.
* `cutAt?`, `cutAt?_encode_iff` — cutting bytes, and that it cuts the text.
* `length_encode_ascii`, `head?_encode_iff` — bytes of ASCII characters.
-/

/-! ### Bytes of a character -/

/-- Of the bytes of a character all but the first are continuation bytes. -/
theorem encodeChar_eq_cons (c : Char) :
    ∃ b bs, String.utf8EncodeChar c = b :: bs ∧ isContinuation b = false ∧
      ∀ d ∈ bs, isContinuation d = true := by
  have hfirst : ∀ n < 256, n < 0x80 ∨ 0xC0 ≤ n → isContinuation (UInt8.ofNat n) = false := by
    intro n hlt hmark
    simp only [isContinuation, Bool.and_eq_false_iff, decide_eq_false_iff_not,
      UInt8.le_iff_toNat_le, UInt8.toNat_ofNat', UInt8.reduceToNat]
    omega
  unfold String.utf8EncodeChar
  dsimp only
  split
  · exact ⟨_, [], rfl, hfirst _ (by omega) (by omega), by simp⟩
  -- the other bytes carry the marker of a continuation
  split
  · refine ⟨_, _, rfl, hfirst _ (by omega) (by omega), ?_⟩
    simp only [List.mem_cons, List.not_mem_nil, or_false]
    rintro d rfl
    exact isContinuation_mark _
  split
  · refine ⟨_, _, rfl, hfirst _ (by omega) (by omega), ?_⟩
    simp only [List.mem_cons, List.not_mem_nil, or_false]
    rintro d (rfl | rfl) <;> exact isContinuation_mark _
  · refine ⟨_, _, rfl, hfirst _ (by omega) (by omega), ?_⟩
    simp only [List.mem_cons, List.not_mem_nil, or_false]
    rintro d (rfl | rfl | rfl) <;> exact isContinuation_mark _

variable {cs : List Char} {bs left right : Bytes} {c : Char} {count : Nat}

/-- A text begins with no continuation byte. -/
theorem isContinuation_head?_encode {b : UInt8} (hb : b ∈ (encode cs).head?) :
    isContinuation b = false := by
  cases cs with
  | nil => cases hb
  | cons c cs =>
    obtain ⟨first, bs, heq, hfirst, -⟩ := encodeChar_eq_cons c
    rw [encode_cons, heq] at hb
    cases hb
    exact hfirst

/-! ### Cutting -/

/-- Cut a byte sequence in two. There is no result inside a character, nor beyond the end. -/
def cutAt? (count : Nat) (bs : Bytes) : Option (Bytes × Bytes) :=
  if count ≤ bs.length ∧ (bs.drop count).head?.all (!isContinuation ·) = true then
    some (bs.take count, bs.drop count)
  else none

theorem cutAt?_eq_some :
    cutAt? count bs = some (left, right) ↔
      bs = left ++ right ∧ left.length = count ∧ ∀ b ∈ right.head?, isContinuation b = false := by
  simp only [cutAt?, Option.all_eq_true, Bool.not_eq_true']
  constructor
  · intro h
    split at h
    · rename_i hthere
      obtain ⟨rfl, rfl⟩ := Prod.mk.inj (Option.some.inj h)
      exact ⟨(List.take_append_drop _ _).symm, List.length_take_of_le hthere.1, hthere.2⟩
    · cases h
  · rintro ⟨rfl, rfl, hhead⟩
    have hright : (left ++ right).drop left.length = right := List.drop_left
    rw [hright, List.take_left, if_pos]
    exact ⟨by rw [List.length_append]; omega, hhead⟩

/-- Two parts of the bytes of a text, the second of which begins with no continuation byte, are the
bytes of two parts of the text. -/
theorem exists_of_encode_eq_append (h : encode cs = left ++ right)
    (hhead : ∀ b ∈ right.head?, isContinuation b = false) :
    ∃ ds es, cs = ds ++ es ∧ left = encode ds ∧ right = encode es := by
  induction cs generalizing left with
  | nil =>
    obtain ⟨rfl, rfl⟩ := List.append_eq_nil_iff.1 h.symm
    exact ⟨[], [], rfl, rfl, rfl⟩
  | cons c cs ih =>
    rw [encode_cons] at h
    rcases List.append_eq_append_iff.1 h with ⟨left', rfl, hbehind⟩ | ⟨mid, hchar, rfl⟩
    · obtain ⟨ds, es, rfl, rfl, rfl⟩ := ih hbehind
      exact ⟨c :: ds, es, rfl, rfl, rfl⟩
    · -- the second part begins with the character, behind it, or within it
      obtain ⟨b, bs, heq, -, hmore⟩ := encodeChar_eq_cons c
      rw [heq] at hchar
      cases left with
      | nil => exact ⟨[], c :: cs, rfl, rfl, by rw [encode_cons, heq, hchar]; rfl⟩
      | cons b' left =>
        obtain ⟨rfl, rfl⟩ := List.cons.inj hchar
        cases mid with
        | nil => exact ⟨[c], cs, rfl, by simp [encode, heq], rfl⟩
        | cons d mid =>
          have hd := hmore d (List.mem_append_right left List.mem_cons_self)
          rw [hhead d rfl] at hd
          cases hd

/-- **The bytes of a text are cut** where the text is: between two characters, or at an end. -/
theorem cutAt?_encode_iff :
    cutAt? count (encode cs) = some (left, right) ↔
      ∃ ds es, cs = ds ++ es ∧ (encode ds).length = count ∧ left = encode ds ∧
        right = encode es := by
  rw [cutAt?_eq_some]
  constructor
  · rintro ⟨heq, hlength, hhead⟩
    obtain ⟨ds, es, rfl, rfl, rfl⟩ := exists_of_encode_eq_append heq hhead
    exact ⟨ds, es, rfl, hlength, rfl, rfl⟩
  · rintro ⟨ds, es, rfl, hlength, rfl, rfl⟩
    exact ⟨encode_append ds es, hlength, fun _ => isContinuation_head?_encode⟩

theorem cutAt?_encode (cs ds : List Char) :
    cutAt? (encode cs).length (encode (cs ++ ds)) = some (encode cs, encode ds) :=
  cutAt?_encode_iff.2 ⟨cs, ds, rfl, rfl, rfl, rfl⟩

/-! ### ASCII texts -/

theorem length_encode_ascii (h : ∀ c ∈ cs, c.toNat < 0x80) : (encode cs).length = cs.length := by
  induction cs with
  | nil => rfl
  | cons c cs ih =>
    have hcs : ∀ d ∈ cs, d.toNat < 0x80 := fun d hd => h d (List.mem_cons_of_mem c hd)
    rw [encode_cons, encodeChar_ascii (h c List.mem_cons_self), List.length_append, ih hcs]
    exact Nat.add_comm _ _

/-- The bytes of a text begin with an ASCII character if the text does. -/
theorem head?_encode_iff (hc : c.toNat < 0x80) :
    (encode cs).head? = some (UInt8.ofNat c.toNat) ↔ cs.head? = some c := by
  cases cs with
  | nil => simp
  | cons d cs =>
    obtain ⟨b, bs, heq, -⟩ := encodeChar_eq_cons d
    rw [encode_cons, heq]
    show some b = some (UInt8.ofNat c.toNat) ↔ some d = some c
    rw [Option.some.injEq, Option.some.injEq]
    constructor
    · rintro rfl
      have hbyte : (UInt8.ofNat c.toNat).toNat = c.toNat := by
        rw [UInt8.toNat_ofNat']
        omega
      have hin : UInt8.ofNat c.toNat ∈ String.utf8EncodeChar d := by
        rw [heq]
        exact List.mem_cons_self
      rw [eq_of_mem_encodeChar hin (by omega), hbyte, Char.ofNat_toNat]
    · rintro rfl
      rw [encodeChar_ascii hc] at heq
      exact (List.cons.inj heq).1.symm

end OlapClient.Utf8
