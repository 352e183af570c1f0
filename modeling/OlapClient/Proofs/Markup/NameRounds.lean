import OlapClient.Proofs.Markup.NameGroup
import OlapClient.Proofs.Text.Boundary

namespace OlapClient.Markup

open Utf8

/-!
# Element names in bytes

Reading the bytes of an element name goes in rounds. A round finds the next `_x`, cuts the name
there, and goes on behind the group that begins at this place, or else behind the `_x`. Bytes may be
cut in front of a character only. No round makes any other cut, the rounds come to an end, and what
they put out are the bytes of the name that is read.

* `bytesGroup?`, `readCandidate`, `nameRound` — one round and its parts.
* `nameRounds` — rounds until no `_x` is left.
* `bytesGroup?_encode` — the group that is found in bytes is that of the text.
* `nameRound_encode` — one round is a step of reading the name.
* `nameRounds_encode` — enough rounds read the name.
* `names_read_exactly` — the whole of it.
-/

/-! ### One round -/

/-- Where `_x` first stands among bytes. -/
def findMark? : Bytes → Option Nat
  | [] => none
  | b :: bs => if b = 0x5F ∧ bs.head? = some 0x78 then some 0 else (findMark? bs).map (· + 1)

/-- The character that a group at the front of bytes stands for: four bytes behind `_x` are the
digits of a character, and an underscore follows them. -/
def bytesGroup? (candidate : Bytes) : Option Char := do
  let (_, tail) ← cutAt? 2 candidate
  let (digits, after) ← cutAt? 4 tail
  match decode digits with
  | .ok [a, b, c, d] => if after.head? = some 0x5F then (fourHex? a b c d).bind scalar? else none
  | _ => none

/-- What is put out for bytes that begin with `_x`, and what is left of them: what stands behind a
group, or else behind the `_x`. -/
def readCandidate (candidate : Bytes) : Option (Bytes × Bytes) :=
  match bytesGroup? candidate with
  | some c => (cutAt? 7 candidate).map fun (_, rest) => (String.utf8EncodeChar c, rest)
  | none => cutAt? 2 candidate

/-- One round: what it puts out, and what is left to read. The inner result is missing if there is
no `_x` any more, the outer one if bytes are cut where they must not be. -/
def nameRound (bs : Bytes) : Option (Option (Bytes × Bytes)) :=
  match findMark? bs with
  | none => some none
  | some start => do
    let (before, candidate) ← cutAt? start bs
    let (out, rest) ← readCandidate candidate
    some (some (before ++ out, rest))

/-- What rounds put out until there is no `_x` any more. There is no result if a round has none, or
if they do not come to an end. -/
def nameRounds : Nat → Bytes → Option Bytes
  | 0, _ => none
  | rounds + 1, bs =>
    match nameRound bs with
    | none => none
    | some none => some bs
    | some (some (out, rest)) => (nameRounds rounds rest).map (out ++ ·)

variable {cs rest : List Char} {c d : Char}

theorem findMark?_append {bs : Bytes} (h : ∀ b ∈ bs, b ≠ 0x5F) (more : Bytes) :
    findMark? (bs ++ more) = (findMark? more).map (· + bs.length) := by
  induction bs with
  | nil => exact Option.map_id'.symm
  | cons b bs ih =>
    have hb : ¬(b = 0x5F ∧ (bs ++ more).head? = some 0x78) := fun hmark => h b (by simp) hmark.1
    rw [List.cons_append, findMark?, if_neg hb, ih fun d hd => h d (List.mem_cons_of_mem b hd),
      Option.map_map]
    rfl

/-- The first `_x` stands behind a character that is not the beginning of one. -/
theorem findMark?_encode_cons (h : ¬(d = '_' ∧ cs.head? = some 'x')) :
    findMark? (encode (d :: cs)) =
      (findMark? (encode cs)).map (· + (String.utf8EncodeChar d).length) := by
  by_cases hd : d = '_'
  · subst hd
    have hx : ¬(encode cs).head? = some (UInt8.ofNat 'x'.toNat) := by
      rw [head?_encode_iff (by decide)]
      exact fun hx => h ⟨rfl, hx⟩
    show findMark? (0x5F :: encode cs) = _
    rw [findMark?, if_neg fun hmark => hx hmark.2]
    rfl
  · apply findMark?_append
    rintro b hb rfl
    exact hd (eq_of_mem_encodeChar hb (by decide))

/-- A text has no `_x`, and then it is read as it is, or it is read as it is up to the first one. -/
theorem mark_cases (cs : List Char) :
    (findMark? (encode cs) = none ∧ unescapeName cs = cs) ∨
    ∃ before rest, cs = before ++ '_' :: 'x' :: rest ∧
      findMark? (encode cs) = some (encode before).length ∧
      unescapeName cs = before ++ unescapeName ('_' :: 'x' :: rest) := by
  -- by induction on the text: `_x` begins it, or what is found stands behind its first character
  induction cs with
  | nil => exact .inl ⟨rfl, unescapeName_nil⟩
  | cons d cs ih =>
    by_cases hmark : d = '_' ∧ cs.head? = some 'x'
    · obtain ⟨rfl, hx⟩ := hmark
      obtain ⟨rest, rfl⟩ := List.head?_eq_some_iff.1 hx
      exact .inr ⟨[], rest, rfl, rfl, rfl⟩
    · have hread : unescapeName (d :: cs) = d :: unescapeName cs :=
        unescapeName_kept fun hbegins => hmark hbegins.mark
      rw [findMark?_encode_cons hmark, hread]
      rcases ih with ⟨hfind, hplain⟩ | ⟨before, rest, rfl, hfind, hbehind⟩
      · exact .inl ⟨by rw [hfind]; rfl, by rw [hplain]⟩
      · refine .inr ⟨d :: before, rest, rfl, ?_, by rw [hbehind]; rfl⟩
        rw [hfind, encode_cons, List.length_append, Nat.add_comm]
        rfl

/-- The bytes behind `_x` are those of the text behind it. -/
theorem cutAt?_mark (cs : List Char) :
    cutAt? 2 (encode ('_' :: 'x' :: cs)) = some (encode ['_', 'x'], encode cs) :=
  cutAt?_encode ['_', 'x'] cs

/-- A group that is found in bytes is one of the text. -/
theorem exists_of_bytesGroup? (h : bytesGroup? (encode ('_' :: 'x' :: cs)) = some c) :
    ∃ rest, nameGroup? cs = some (c, rest) := by
  rw [bytesGroup?, cutAt?_mark, Option.bind_eq_bind, Option.bind_some] at h
  obtain ⟨⟨digits, after⟩, hcut, hfound⟩ := Option.bind_eq_some_iff.1 h
  -- the text is cut where its bytes are, so the digits are characters of it
  obtain ⟨ds, es, rfl, -, rfl, rfl⟩ := cutAt?_encode_iff.1 hcut
  dsimp only at hfound
  rw [decode_encode] at hfound
  split at hfound
  · rename_i a b c d heq
    cases heq
    split at hfound
    · rename_i hhead
      have hmark : es.head? = some '_' := (head?_encode_iff (by decide)).1 hhead
      obtain ⟨rest, rfl⟩ := List.head?_eq_some_iff.1 hmark
      obtain ⟨n, hn, hscalar⟩ := Option.bind_eq_some_iff.1 hfound
      refine ⟨rest, nameGroup?_eq_some.2 ⟨[a, b, c, d], ?_, rfl⟩⟩
      rw [scalar?_eq_some.1 hscalar]
      exact fourHex?_eq_some.1 hn
    · cases hfound
  · cases hfound

/-- A group of the text is found in its bytes. -/
theorem bytesGroup?_of_nameGroup? (h : nameGroup? cs = some (c, rest)) :
    bytesGroup? (encode ('_' :: 'x' :: cs)) = some c := by
  obtain ⟨digits, hspells, rfl⟩ := nameGroup?_eq_some.1 h
  obtain ⟨a₃, a₂, a₁, a₀, rfl⟩ := hspells.exists_eq
  -- four digits are four bytes
  have hcut : cutAt? 4 (encode ([a₃, a₂, a₁, a₀] ++ '_' :: rest)) =
      some (encode [a₃, a₂, a₁, a₀], encode ('_' :: rest)) :=
    cutAt?_encode_iff.2 ⟨_, _, rfl, length_encode_ascii hspells.ascii, rfl, rfl⟩
  have hhead : (encode ('_' :: rest)).head? = some 0x5F := rfl
  rw [bytesGroup?, cutAt?_mark, Option.bind_eq_bind, Option.bind_some]
  dsimp only
  rw [hcut, Option.bind_some]
  dsimp only
  rw [decode_encode]
  dsimp only
  rw [if_pos hhead, fourHex?_eq_some.2 hspells, Option.bind_some, scalar?_eq_some]

/-- **The group that is found in bytes** is the one of the text. -/
theorem bytesGroup?_encode (cs : List Char) :
    bytesGroup? (encode ('_' :: 'x' :: cs)) = (nameGroup? cs).map (·.1) := by
  apply Option.ext
  intro c
  constructor
  · intro h
    obtain ⟨rest, hgroup⟩ := exists_of_bytesGroup? h
    rw [hgroup]
    rfl
  · intro h
    obtain ⟨⟨_, rest⟩, hgroup, rfl⟩ := Option.map_eq_some_iff.1 h
    exact bytesGroup?_of_nameGroup? hgroup

/-- What is put out for a text that begins with `_x`, and what is left of it. -/
theorem readCandidate_encode (cs : List Char) :
    ∃ out rest, readCandidate (encode ('_' :: 'x' :: cs)) = some (encode out, encode rest) ∧
      unescapeName ('_' :: 'x' :: cs) = out ++ unescapeName rest ∧
      (encode rest).length + 2 ≤ (encode ('_' :: 'x' :: cs)).length := by
  rw [readCandidate, bytesGroup?_encode]
  cases hgroup : nameGroup? cs with
  | none =>
    have hhere : ¬BeginsGroup ('_' :: 'x' :: cs) := by simp [beginsGroup_mark, hgroup]
    -- behind the underscore no group begins either, as none begins with an `x`
    have hx : ¬BeginsGroup ('x' :: cs) := fun hbegins => absurd hbegins.mark.1 (by decide)
    refine ⟨['_', 'x'], cs, cutAt?_mark cs, ?_, ?_⟩
    · rw [unescapeName_kept hhere, unescapeName_kept hx]
      rfl
    · exact Nat.le_refl _
  | some found =>
    obtain ⟨c, rest⟩ := found
    obtain ⟨digits, hspells, rfl⟩ := nameGroup?_eq_some.1 hgroup
    have his : IsGroup ('_' :: 'x' :: (digits ++ ['_'])) c := ⟨digits, hspells, rfl⟩
    have htext : '_' :: 'x' :: (digits ++ '_' :: rest) =
        '_' :: 'x' :: (digits ++ ['_']) ++ rest := by
      simp
    have hlength : (encode ('_' :: 'x' :: (digits ++ ['_']))).length = 7 := by
      rw [length_encode_ascii his.ascii, his.length_eq]
    rw [htext]
    refine ⟨[c], rest, ?_, unescapeName_group his rest, ?_⟩
    · have hcut := cutAt?_encode ('_' :: 'x' :: (digits ++ ['_'])) rest
      rw [hlength] at hcut
      have hout : encode [c] = String.utf8EncodeChar c := List.append_nil _
      show (cutAt? 7 _).map _ = _
      rw [hcut, hout]
      rfl
    · rw [encode_append, List.length_append, hlength]
      omega

/-- What one round puts out is what a step of reading the text puts out, and what it leaves are the
bytes of what that step leaves. -/
theorem nameRound_encode (cs : List Char) :
    (nameRound (encode cs) = some none ∧ unescapeName cs = cs) ∨
    ∃ out rest, nameRound (encode cs) = some (some (encode out, encode rest)) ∧
      unescapeName cs = out ++ unescapeName rest ∧
      (encode rest).length + 2 ≤ (encode cs).length := by
  rcases mark_cases cs with ⟨hfind, hplain⟩ | ⟨before, behind, rfl, hfind, hread⟩
  · left
    rw [nameRound, hfind]
    exact ⟨rfl, hplain⟩
  · right
    obtain ⟨out, rest, hcandidate, hout, hshorter⟩ := readCandidate_encode behind
    refine ⟨before ++ out, rest, ?_, by rw [hread, hout, List.append_assoc], ?_⟩
    · have hcut := cutAt?_encode before ('_' :: 'x' :: behind)
      rw [encode_append before out]
      simp only [nameRound, hfind, hcut, hcandidate, Option.bind_eq_bind, Option.bind_some]
    · rw [encode_append, List.length_append]
      omega

/-- **Enough rounds** read the name: each leaves at least two bytes less to read. -/
theorem nameRounds_encode {rounds : Nat} (h : (encode cs).length < 2 * rounds) :
    nameRounds rounds (encode cs) = some (encode (unescapeName cs)) := by
  induction rounds generalizing cs with
  | zero => omega
  | succ rounds ih =>
    rcases nameRound_encode cs with ⟨hround, hplain⟩ | ⟨out, rest, hround, hread, hshorter⟩
    · rw [nameRounds, hround, hplain]
    · -- the round leaves two bytes less, for which one round less is enough
      rw [nameRounds, hround, hread, encode_append]
      dsimp only
      rw [ih (by omega), Option.map_some]

/-! ### The whole -/

/-- **Names are read exactly.** A name is read back from each of its written forms, whichever
characters of the basic plane have to be written as groups, and it has such a form. Reading the
bytes of a name comes to an end, within one round more than half as many as there are bytes, and
cuts no character. A name without groups is read as it is. And what is read is what replacing the
groups from left to right gives. -/
theorem names_read_exactly :
    (∀ special : Char → Prop, (∀ c, special c → c.toNat < 0x10000) → ∀ s : String,
      (∃ written : String, WrittenName special s.toList written.toList) ∧
      ∀ written : String, WrittenName special s.toList written.toList →
        unescapeNameString written = s) ∧
    (∀ (s : String) (rounds : Nat), (encodeString s).length < 2 * rounds →
      nameRounds rounds (encodeString s) = some (encodeString (unescapeNameString s))) ∧
    (∀ s : String, WithoutGroups s.toList → unescapeNameString s = s) ∧
    ∀ s shown : String, LeftToRight s.toList shown.toList ↔ unescapeNameString s = shown := by
  refine ⟨?_, ?_, ?_, ?_⟩
  · intro special hspecial s
    constructor
    · obtain ⟨written, h⟩ := exists_writtenName hspecial s.toList
      exact ⟨String.ofList written, by rwa [String.toList_ofList]⟩
    · intro written h
      rw [unescapeNameString, unescapeName_of_written h, String.ofList_toList]
  · intro s rounds h
    rw [encodeString, nameRounds_encode h, encodeString, unescapeNameString, String.toList_ofList]
  · intro s h
    rw [unescapeNameString, unescapeName_of_withoutGroups h, String.ofList_toList]
  · intro s shown
    rw [leftToRight_iff, unescapeNameString]
    constructor
    · intro h
      rw [h, String.ofList_toList]
    · rintro rfl
      rw [String.toList_ofList]

/-- A name with an underscore ahead of an `x` and two characters that have to be written as groups
is read back from digits of both cases. Five rounds are enough for eight bytes, of which the sixth
and the seventh are one character, and the digits of a surrogate make no group. -/
theorem names_read_exactly_brackets :
    let special : Char → Prop := fun c => c = '[' ∨ c = 'é'
    (∀ c, special c → c.toNat < 0x10000) ∧
    WrittenName special "_x[é".toList "_x005F_x_x005b__x00E9_".toList ∧
    unescapeNameString "_x005F_x_x005b__x00E9_" = "_x[é" ∧
    (encodeString "_x000é_").length < 2 * 5 ∧
    nameRounds 5 (encodeString "_x000é_") = some (encodeString (unescapeNameString "_x000é_")) ∧
    WithoutGroups "_xD800_".toList ∧ unescapeNameString "_xD800_" = "_xD800_" := by
  intro special
  obtain ⟨hback, hrounds, hplain, -⟩ := names_read_exactly
  have hspecial : ∀ c, special c → c.toNat < 0x10000 := by
    rintro c (rfl | rfl) <;> decide
  have hmark : IsGroup "_x005F_".toList '_' :=
    ⟨"005F".toList, ⟨_, _, _, _, 0, 0, 5, 15, rfl, by decide⟩, rfl⟩
  have hbracket : IsGroup "_x005b_".toList '[' :=
    ⟨"005b".toList, ⟨_, _, _, _, 0, 0, 5, 11, rfl, by decide⟩, rfl⟩
  have haccent : IsGroup "_x00E9_".toList 'é' :=
    ⟨"00E9".toList, ⟨_, _, _, _, 0, 0, 14, 9, rfl, by decide⟩, rfl⟩
  have hx : ¬(special 'x' ∨ ('x' = '_' ∧ ['[', 'é'].head? = some 'x')) := by
    rintro ((h | h) | ⟨h, -⟩) <;> exact absurd h (by decide)
  have hwritten : WrittenName special "_x[é".toList "_x005F_x_x005b__x00E9_".toList := by
    show WrittenName special ['_', 'x', '[', 'é']
      ("_x005F_".toList ++ 'x' :: ("_x005b_".toList ++ ("_x00E9_".toList ++ [])))
    exact .group (.inr ⟨rfl, rfl⟩) hmark (.kept hx
      (.group (.inl (.inl rfl)) hbracket (.group (.inl (.inr rfl)) haccent .nil)))
  have hlength : (encodeString "_x000é_").length < 2 * 5 := by decide
  have hnone : WithoutGroups "_xD800_".toList := by
    refine withoutGroups_cons.2 ⟨?_, withoutGroups_of_length (by decide)⟩
    show ¬BeginsGroup ('_' :: 'x' :: "D800_".toList)
    rw [beginsGroup_mark]
    decide
  exact ⟨hspecial, hwritten, (hback special hspecial _).2 _ hwritten, hlength,
    hrounds _ 5 hlength, hnone, hplain _ hnone⟩

end OlapClient.Markup
