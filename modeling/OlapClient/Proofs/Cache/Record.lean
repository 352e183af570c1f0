import OlapClient.Proofs.Cache.Recording

namespace OlapClient.Cache

/-!
# Records and their bytes

A record begins with two lengths, each ahead of what it is the length of. Reading one back trusts
neither: a length that goes past the end makes the whole no record. So the bytes that are read as a
record are those that writing it gives, and no others.

* `ofNat64_toNat` — eight bytes are the ones that their number is written with.
* `claimed` — how far a length says that its field goes.
* `takeWithLength_eq`, `takeWithLength_eq_some` — what is taken behind a length, and when.
* `Record.decode?_eq_some_iff` — what is read as a record, by what writing gives.
* `Record.decode?_take` — a record that is cut off is none.
* `splitOff`, `Record.guarded` — reading in steps that have no result beyond the end.
* `Record.guarded_eq` — every step has one.
* `records_read_exactly` — the whole of it.
-/

/-! ### Lengths in eight bytes -/

/-- The last byte that a number is written with. -/
theorem byteAt_concat_zero (n : Nat) (b : UInt8) : byteAt (n * 256 + b.toNat) 0 = b := by
  have hone : (n * 256 + b.toNat) / Nat.pow 256 0 = n * 256 + b.toNat := Nat.div_one _
  apply UInt8.toNat_inj.1
  rw [byteAt, hone, UInt8.toNat_ofNat', Nat.mul_add_mod_self_right]
  exact Nat.mod_eq_of_lt b.toNat_lt

/-- The bytes before the last one. -/
theorem byteAt_concat_succ (n k : Nat) (b : UInt8) :
    byteAt (n * 256 + b.toNat) (k + 1) = byteAt n k := by
  have hpow : Nat.pow 256 (k + 1) = 256 * Nat.pow 256 k := Nat.mul_comm _ _
  have hdigit : (n * 256 + b.toNat) / 256 = n := by
    have := b.toNat_lt
    omega
  rw [byteAt, byteAt, hpow, ← Nat.div_div_eq_div_mul, hdigit]

/-- Eight bytes are the ones that their number is written with. -/
theorem ofNat64_toNat {bs : Bytes} (h : bs.length = 8) : Bytes.ofNat64 (Bytes.toNat bs) = bs := by
  match bs, h with
  | [a, b, c, d, e, f, g, i], _ =>
    -- the number is taken apart from its last digit on
    simp only [Bytes.ofNat64, Bytes.toNat, List.foldl_cons, List.foldl_nil, byteAt_concat_succ,
      byteAt_concat_zero]

/-- Eight bytes spell no more than 64 bits hold. -/
theorem toNat_lt {bs : Bytes} (h : bs.length = 8) : Bytes.toNat bs < 18446744073709551616 := by
  match bs, h with
  | [a, b, c, d, e, f, g, i], _ =>
    have ha := a.toNat_lt
    have hb := b.toNat_lt
    have hc := c.toNat_lt
    have hd := d.toNat_lt
    have he := e.toNat_lt
    have hf := f.toNat_lt
    have hg := g.toNat_lt
    have hi := i.toNat_lt
    simp only [Bytes.toNat, List.foldl_cons, List.foldl_nil]
    omega

/-! ### One length and what it is of -/

theorem length_withLength (bs : Bytes) : (withLength bs).length = 8 + bs.length := by
  rw [withLength, List.length_append]
  rfl

/-- How many bytes a length and what it is of take, going by the length. -/
def claimed (bs : Bytes) : Nat :=
  8 + Bytes.toNat (bs.take 8)

section
variable {bs payload rest : Bytes}

/-- Something is taken if the bytes that the length speaks of are there. -/
theorem takeWithLength_eq (bs : Bytes) :
    takeWithLength bs =
      if bs.length < claimed bs then none
      else some ((bs.drop 8).take (Bytes.toNat (bs.take 8)), bs.drop (claimed bs)) := by
  unfold takeWithLength claimed
  by_cases hheader : bs.length < 8
  · rw [if_pos hheader, if_pos (by omega)]
  · rw [if_neg hheader]
    dsimp only
    rw [List.length_drop, List.drop_drop]
    by_cases hpayload : bs.length - 8 < Bytes.toNat (bs.take 8)
    · rw [if_pos hpayload, if_pos (by omega)]
    · rw [if_neg hpayload, if_neg (by omega)]

/-- What is taken stands behind its own length. -/
theorem takeWithLength_eq_some :
    takeWithLength bs = some (payload, rest) ↔
      Writable payload ∧ bs = withLength payload ++ rest := by
  constructor
  · intro h
    rw [takeWithLength_eq] at h
    split at h
    · cases h
    · rename_i hthere
      unfold claimed at h hthere
      obtain ⟨rfl, rfl⟩ := Prod.mk.inj (Option.some.inj h)
      have hheader : (bs.take 8).length = 8 := by
        rw [List.length_take]
        omega
      -- the length of what was taken is the number in front of it
      have hlength : ((bs.drop 8).take (Bytes.toNat (bs.take 8))).length =
          Bytes.toNat (bs.take 8) := by
        rw [List.length_take, List.length_drop]
        omega
      refine ⟨?_, ?_⟩
      · rw [Writable, hlength]
        exact toNat_lt hheader
      · rw [withLength, hlength, ofNat64_toNat hheader, ← List.drop_drop, List.append_assoc,
          List.take_append_drop, List.take_append_drop]
  · rintro ⟨hpayload, rfl⟩
    exact takeWithLength_append hpayload rest

end

/-! ### Records -/

namespace Record

variable {d : Bytes} {r : Record}

/-- **What is read as a record** is what writing it gives. -/
theorem decode?_eq_some_iff :
    decode? d = some r ↔ Writable r.url ∧ Writable r.request ∧ d = r.encode := by
  constructor
  · intro h
    unfold decode? at h
    split at h
    · cases h
    · rename_i url tail hurl
      split at h
      · cases h
      · rename_i request response hrequest
        obtain rfl := Option.some.inj h
        obtain ⟨hlong, rfl⟩ := takeWithLength_eq_some.1 hurl
        obtain ⟨hlong', rfl⟩ := takeWithLength_eq_some.1 hrequest
        exact ⟨hlong, hlong', (List.append_assoc _ _ _).symm⟩
  · rintro ⟨hurl, hrequest, rfl⟩
    exact decode?_encode hurl hrequest

theorem decode?_eq_none_iff :
    decode? d = none ↔ ∀ r : Record, Writable r.url → Writable r.request → d ≠ r.encode := by
  rw [Option.eq_none_iff_forall_ne_some]
  constructor
  · intro h r hurl hrequest heq
    exact h r (decode?_eq_some_iff.2 ⟨hurl, hrequest, heq⟩)
  · intro h r hsome
    obtain ⟨hurl, hrequest, heq⟩ := decode?_eq_some_iff.1 hsome
    exact h r hurl hrequest heq

/-- A record is refused exactly if one of its two lengths goes past the end. -/
theorem decode?_eq_none_iff_claimed :
    decode? d = none ↔
      d.length < claimed d ∨ (d.drop (claimed d)).length < claimed (d.drop (claimed d)) := by
  unfold decode?
  rw [takeWithLength_eq]
  by_cases hurl : d.length < claimed d
  · rw [if_pos hurl]
    exact ⟨fun _ => .inl hurl, fun _ => rfl⟩
  · rw [if_neg hurl]
    dsimp only
    rw [takeWithLength_eq]
    by_cases hrequest : (d.drop (claimed d)).length < claimed (d.drop (claimed d))
    · rw [if_pos hrequest]
      exact ⟨fun _ => .inr hrequest, fun _ => rfl⟩
    · rw [if_neg hrequest]
      exact ⟨fun h => (by cases h), fun h => (h.elim hurl hrequest).elim⟩

theorem encode_inj {r' : Record} (hurl : Writable r.url) (hrequest : Writable r.request)
    (hurl' : Writable r'.url) (hrequest' : Writable r'.request) (h : r.encode = r'.encode) :
    r = r' := by
  have hread := decode?_encode hurl hrequest
  rw [h, decode?_encode hurl' hrequest'] at hread
  exact (Option.some.inj hread).symm

/-- What is left of a record that is cut off before the end of its request is no record: the fields
that it would have are those of the record itself, which are longer. -/
theorem decode?_take {count : Nat} (hurl : Writable r.url) (hrequest : Writable r.request)
    (hcount : count < 16 + r.url.length + r.request.length) :
    decode? (r.encode.take count) = none := by
  rw [Option.eq_none_iff_forall_ne_some]
  intro cut hcut
  obtain ⟨hurl', hrequest', heq⟩ := decode?_eq_some_iff.1 hcut
  let whole : Record := ⟨cut.url, cut.request, cut.response ++ r.encode.drop count⟩
  have hwhole : r.encode = whole.encode := by
    calc r.encode = r.encode.take count ++ r.encode.drop count := (List.take_append_drop _ _).symm
      _ = cut.encode ++ r.encode.drop count := by rw [heq]
      _ = whole.encode := List.append_assoc _ _ _
  have hsame : r = whole := encode_inj hurl hrequest hurl' hrequest' hwhole
  have hlength := congrArg List.length heq
  rw [List.length_take, encode, encode, List.length_append, List.length_append, List.length_append,
    List.length_append, length_withLength, length_withLength, length_withLength, length_withLength,
    ← congrArg Record.url hsame, ← congrArg Record.request hsame] at hlength
  omega

end Record

/-! ### Reading in guarded steps -/

/-- Split off the first bytes of a sequence. There is no result if it does not have as many. -/
def splitOff (count : Nat) (bs : Bytes) : Option (Bytes × Bytes) :=
  if count ≤ bs.length then some (bs.take count, bs.drop count) else none

/-- Take a byte sequence that its length precedes, by splitting off both. The outer result is missing
if a split has none. -/
def takeGuarded (bs : Bytes) : Option (Option (Bytes × Bytes)) :=
  if bs.length < 8 then some none
  else
    (splitOff 8 bs).bind fun (header, rest) =>
      if rest.length < Bytes.toNat header then some none
      else (splitOff (Bytes.toNat header) rest).map some

/-- Read a record by splitting. The outer result is missing if a split has none. -/
def Record.guarded (bs : Bytes) : Option (Option Record) :=
  (takeGuarded bs).bind fun
    | none => some none
    | some (url, rest) =>
      (takeGuarded rest).map fun
        | none => none
        | some (request, response) => some ⟨url, request, response⟩

theorem takeGuarded_eq (bs : Bytes) : takeGuarded bs = some (takeWithLength bs) := by
  unfold takeGuarded takeWithLength splitOff
  split
  · rfl
  · rename_i hheader
    rw [if_pos (Nat.not_lt.1 hheader), Option.bind_some]
    dsimp only
    split
    · rfl
    · rename_i hpayload
      rw [if_pos (Nat.not_lt.1 hpayload), Option.map_some]

/-- No split goes past the end, whatever the lengths say. -/
theorem Record.guarded_eq (bs : Bytes) : Record.guarded bs = some (Record.decode? bs) := by
  unfold guarded decode?
  rw [takeGuarded_eq, Option.bind_some]
  cases takeWithLength bs with
  | none => rfl
  | some taken =>
    dsimp only
    refine (congrArg (Option.map _) (takeGuarded_eq taken.2)).trans ?_
    cases takeWithLength taken.2 <;> rfl

/-! ### The whole -/

/-- **Records are read exactly.** The bytes that are read as a record are those that writing it
gives; two records are never written alike; all other bytes are refused, among them those in which
one of the lengths goes past the end, and what is left of a record that was cut off before the end of
its request; and no step of reading goes past the end. -/
theorem records_read_exactly :
    (∀ d r, Record.decode? d = some r ↔ Writable r.url ∧ Writable r.request ∧ d = r.encode) ∧
    (∀ r r' : Record, Writable r.url → Writable r.request → Writable r'.url → Writable r'.request →
      r.encode = r'.encode → r = r') ∧
    (∀ d, Record.decode? d = none ↔
      ∀ r : Record, Writable r.url → Writable r.request → d ≠ r.encode) ∧
    (∀ d, Record.decode? d = none ↔
      d.length < claimed d ∨ (d.drop (claimed d)).length < claimed (d.drop (claimed d))) ∧
    (∀ r : Record, Writable r.url → Writable r.request →
      ∀ count < 16 + r.url.length + r.request.length,
        Record.decode? (r.encode.take count) = none) ∧
    ∀ d, Record.guarded d = some (Record.decode? d) :=
  ⟨fun _ _ => Record.decode?_eq_some_iff, fun _ _ => Record.encode_inj,
    fun _ => Record.decode?_eq_none_iff, fun _ => Record.decode?_eq_none_iff_claimed,
    fun _ hurl hrequest _ => Record.decode?_take hurl hrequest, Record.guarded_eq⟩

/-- A record of 23 bytes, the lengths of its fields in their places. It is read back, one byte less
than its first 19 is no record, and neither is it with all bits of its first length set. -/
theorem records_read_exactly_layout :
    let r : Record := ⟨[117], [114, 113], [114, 101, 115, 112]⟩
    r.encode = [0, 0, 0, 0, 0, 0, 0, 1, 117, 0, 0, 0, 0, 0, 0, 0, 2, 114, 113,
      114, 101, 115, 112] ∧
    Record.decode? r.encode = some r ∧ Record.decode? (r.encode.take 18) = none ∧
    Record.decode? (List.replicate 8 255 ++ r.encode.drop 8) = none := by
  intro r
  obtain ⟨hread, -, -, hrefused, hcut, -⟩ := records_read_exactly
  have hurl : Writable r.url := by simp [Writable, r]
  have hrequest : Writable r.request := by simp [Writable, r]
  refine ⟨by decide, (hread _ r).2 ⟨hurl, hrequest, rfl⟩, hcut r hurl hrequest 18 (by decide), ?_⟩
  exact (hrefused _).2 (.inl (by decide))

end OlapClient.Cache
