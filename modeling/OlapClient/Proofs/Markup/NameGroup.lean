import OlapClient.Markup.ElementName

namespace OlapClient.Markup

/-!
# Groups in element names

A group `_xHHHH_` in an element name stands for the character of its four digits. Reading a name
puts in the character wherever a group begins, and goes on behind the group; any other character
stays. So groups are taken from left to right, and a name is read back from each of its written
forms, as long as these leave no underscore as it is that an `x` follows.

* `IsHexDigit`, `Spells`, `IsGroup` — digits of either case, and the groups of a character.
* `nameGroup?_eq_some` — what is taken for a group.
* `BeginsGroup`, `WithoutGroups`, `NoneBefore` — where a text has groups, and where it has none.
* `unescapeName_group`, `unescapeName_kept` — reading where a group begins, and where none does.
* `LeftToRight`, `leftToRight_iff` — reading from left to right.
* `WrittenName`, `unescapeName_of_written`, `exists_writtenName` — the written forms of a name.
-/

/-! ### Digits -/

/-- A hexadecimal digit, in either case, and its value. -/
def IsHexDigit (c : Char) (value : Nat) : Prop :=
  "0123456789abcdef".toList[value]? = some c ∨ "0123456789ABCDEF".toList[value]? = some c

instance (c : Char) (value : Nat) : Decidable (IsHexDigit c value) :=
  inferInstanceAs (Decidable (_ ∨ _))

/-- Four hexadecimal digits and the number that they spell, the most significant first. -/
def Spells (digits : List Char) (n : Nat) : Prop :=
  ∃ a b c d i j k l, digits = [a, b, c, d] ∧
    IsHexDigit a i ∧ IsHexDigit b j ∧ IsHexDigit c k ∧ IsHexDigit d l ∧
    n = i * 4096 + j * 256 + k * 16 + l

/-- A group for a character: `_x`, four digits that spell its code point, and `_`. -/
def IsGroup (group : List Char) (c : Char) : Prop :=
  ∃ digits, Spells digits c.toNat ∧ group = '_' :: 'x' :: (digits ++ ['_'])

/-- A character with a value as a digit is ASCII. -/
theorem toNat_lt_of_hexValue? {c : Char} {value : Nat} (h : hexValue? c = some value) :
    c.toNat < 0x80 := by
  have hle : ∀ {high : Char}, c ≤ high → c.toNat ≤ high.toNat := id
  unfold hexValue? at h
  split at h
  · exact Nat.lt_of_le_of_lt (hle (And.right ‹_›)) (by decide)
  split at h
  · exact Nat.lt_of_le_of_lt (hle (And.right ‹_›)) (by decide)
  split at h
  · exact Nat.lt_of_le_of_lt (hle (And.right ‹_›)) (by decide)
  · cases h

theorem hexValue?_eq_some {c : Char} {value : Nat} :
    hexValue? c = some value ↔ IsHexDigit c value := by
  constructor
  · intro h
    have hascii : ∀ n < 0x80, ∀ v ∈ hexValue? (Char.ofNat n), IsHexDigit (Char.ofNat n) v := by
      decide
    have hdigit := hascii c.toNat (toNat_lt_of_hexValue? h)
    rw [Char.ofNat_toNat] at hdigit
    exact hdigit value h
  · intro h
    have hlower : ∀ v < 16, ("0123456789abcdef".toList[v]?).bind hexValue? = some v := by decide
    have hupper : ∀ v < 16, ("0123456789ABCDEF".toList[v]?).bind hexValue? = some v := by decide
    rcases h with h | h
    · have hread := hlower value (List.getElem?_eq_some_iff.1 h).1
      rwa [h] at hread
    · have hread := hupper value (List.getElem?_eq_some_iff.1 h).1
      rwa [h] at hread

section
variable {a b c d : Char} {n : Nat}

theorem fourHex?_eq_some : fourHex? a b c d = some n ↔ Spells [a, b, c, d] n := by
  simp only [fourHex?, Option.bind_eq_bind, Option.bind_eq_some_iff, hexValue?_eq_some,
    Option.some.injEq]
  constructor
  · rintro ⟨i, hi, j, hj, k, hk, l, hl, rfl⟩
    exact ⟨a, b, c, d, i, j, k, l, rfl, hi, hj, hk, hl, rfl⟩
  · rintro ⟨_, _, _, _, i, j, k, l, heq, hi, hj, hk, hl, rfl⟩
    cases heq
    exact ⟨i, hi, j, hj, k, hk, l, hl, rfl⟩

theorem Spells.exists_eq {digits : List Char} (h : Spells digits n) :
    ∃ a b c d, digits = [a, b, c, d] := by
  obtain ⟨a, b, c, d, _, _, _, _, rfl, _⟩ := h
  exact ⟨a, b, c, d, rfl⟩

/-- Digits are ASCII. -/
theorem Spells.ascii {digits : List Char} (h : Spells digits n) :
    ∀ e ∈ digits, e.toNat < 0x80 := by
  obtain ⟨a, b, c, d, i, j, k, l, rfl, ha, hb, hc, hd, -⟩ := h
  have hdigit : ∀ {e : Char} {v : Nat}, IsHexDigit e v → e.toNat < 0x80 := fun he =>
    toNat_lt_of_hexValue? (hexValue?_eq_some.2 he)
  simp only [List.forall_mem_cons]
  exact ⟨hdigit ha, hdigit hb, hdigit hc, hdigit hd, by simp⟩

theorem scalar?_eq_some : scalar? n = some c ↔ c.toNat = n := by
  unfold scalar?
  constructor
  · intro h
    split at h
    · rename_i hvalid
      obtain rfl := Option.some.inj h
      rw [Char.ofNat, dif_pos (show n.isValidChar from hvalid)]
      rfl
    · cases h
  · rintro rfl
    have hvalid : c.toNat.isValidChar := c.valid
    rw [if_pos hvalid, Char.ofNat_toNat]

end

/-! ### Groups -/

variable {cs rest group : List Char} {c d : Char}

/-- What stands behind `_x` is taken for a group if it is the rest of one. -/
theorem nameGroup?_eq_some :
    nameGroup? cs = some (c, rest) ↔
      ∃ digits, Spells digits c.toNat ∧ cs = digits ++ '_' :: rest := by
  constructor
  · intro h
    unfold nameGroup? at h
    split at h
    · split at h
      · cases h
      · rename_i n hn
        obtain ⟨ch, hscalar, heq⟩ := Option.map_eq_some_iff.1 h
        obtain ⟨rfl, rfl⟩ := Prod.mk.inj heq
        rw [scalar?_eq_some] at hscalar
        subst hscalar
        exact ⟨_, fourHex?_eq_some.1 hn, rfl⟩
    · cases h
  · rintro ⟨digits, hspells, rfl⟩
    obtain ⟨e, f, g, h, rfl⟩ := hspells.exists_eq
    show nameGroup? (e :: f :: g :: h :: '_' :: rest) = _
    rw [nameGroup?, fourHex?_eq_some.2 hspells]
    show (scalar? c.toNat).map _ = _
    rw [scalar?_eq_some.2 rfl]
    rfl

theorem IsGroup.length_eq (h : IsGroup group c) : group.length = 7 := by
  obtain ⟨digits, hspells, rfl⟩ := h
  obtain ⟨_, _, _, _, rfl⟩ := hspells.exists_eq
  rfl

/-- The characters of a group are ASCII. -/
theorem IsGroup.ascii (h : IsGroup group c) : ∀ d ∈ group, d.toNat < 0x80 := by
  obtain ⟨digits, hspells, rfl⟩ := h
  simp only [List.forall_mem_cons, List.forall_mem_append]
  exact ⟨by decide, by decide, hspells.ascii, by decide, by simp⟩

/-- Whether a text begins with a group. -/
def BeginsGroup (cs : List Char) : Prop :=
  ∃ group c, IsGroup group c ∧ group <+: cs

/-- A group begins with `_x`. -/
theorem BeginsGroup.mark (h : BeginsGroup (d :: cs)) : d = '_' ∧ cs.head? = some 'x' := by
  obtain ⟨_, c, ⟨digits, -, rfl⟩, rest, heq⟩ := h
  obtain ⟨rfl, htail⟩ := List.cons.inj heq
  rw [← htail]
  exact ⟨rfl, rfl⟩

theorem beginsGroup_mark :
    BeginsGroup ('_' :: 'x' :: cs) ↔ (nameGroup? cs).isSome := by
  rw [Option.isSome_iff_exists]
  constructor
  · rintro ⟨_, c, ⟨digits, hspells, rfl⟩, rest, heq⟩
    refine ⟨(c, rest), nameGroup?_eq_some.2 ⟨digits, hspells, ?_⟩⟩
    simpa using heq.symm
  · rintro ⟨⟨c, rest⟩, hfound⟩
    obtain ⟨digits, hspells, rfl⟩ := nameGroup?_eq_some.1 hfound
    exact ⟨_, c, ⟨digits, hspells, rfl⟩, rest, by simp⟩

/-- A text in which no group stands. -/
def WithoutGroups (cs : List Char) : Prop :=
  ∀ group c, IsGroup group c → ¬group <:+: cs

theorem withoutGroups_of_length (h : cs.length < 7) : WithoutGroups cs := by
  intro group c hgroup hinfix
  have hle := hinfix.length_le
  rw [hgroup.length_eq] at hle
  exact absurd h (Nat.not_lt.2 hle)

theorem withoutGroups_cons :
    WithoutGroups (d :: cs) ↔ ¬BeginsGroup (d :: cs) ∧ WithoutGroups cs := by
  constructor
  · intro h
    refine ⟨?_, fun group c hgroup hinfix => h group c hgroup (List.infix_cons hinfix)⟩
    rintro ⟨group, c, hgroup, hprefix⟩
    exact h group c hgroup hprefix.isInfix
  · rintro ⟨hhere, hbehind⟩ group c hgroup hinfix
    rcases List.infix_cons_iff.1 hinfix with hprefix | hinfix
    · exact hhere ⟨group, c, hgroup, hprefix⟩
    · exact hbehind group c hgroup hinfix

/-- No group of a text begins before a place. -/
def NoneBefore (place : Nat) (cs : List Char) : Prop :=
  ∀ before group after c, IsGroup group c → cs = before ++ group ++ after → place ≤ before.length

theorem noneBefore_succ {place : Nat} :
    NoneBefore (place + 1) (d :: cs) ↔ ¬BeginsGroup (d :: cs) ∧ NoneBefore place cs := by
  constructor
  · intro h
    constructor
    · rintro ⟨group, c, hgroup, after, heq⟩
      exact absurd (h [] group after c hgroup heq.symm) (Nat.not_succ_le_zero _)
    · intro before group after c hgroup heq
      exact Nat.le_of_succ_le_succ (h (d :: before) group after c hgroup (congrArg (d :: ·) heq))
  · rintro ⟨hhere, hbehind⟩ before group after c hgroup heq
    cases before with
    | nil => exact absurd ⟨group, c, hgroup, after, heq.symm⟩ hhere
    | cons e before =>
      exact Nat.succ_le_succ (hbehind before group after c hgroup (List.cons.inj heq).2)

/-! ### Reading -/

theorem unescapeName_nil : unescapeName [] = [] := by
  rw [unescapeName]

/-- Where a group begins, its character is read, and the reading goes on behind it. -/
theorem unescapeName_group (h : IsGroup group c) (rest : List Char) :
    unescapeName (group ++ rest) = c :: unescapeName rest := by
  obtain ⟨digits, hspells, rfl⟩ := h
  have hfound : nameGroup? (digits ++ '_' :: rest) = some (c, rest) :=
    nameGroup?_eq_some.2 ⟨digits, hspells, rfl⟩
  have htext : '_' :: 'x' :: (digits ++ ['_']) ++ rest = '_' :: 'x' :: (digits ++ '_' :: rest) := by
    simp
  rw [htext, unescapeName]
  split
  · rename_i after heq
    rw [hfound] at heq
    cases heq
    rfl
  · rename_i heq
    rw [hfound] at heq
    cases heq

/-- Where no group begins, a character stands for itself. -/
theorem unescapeName_kept (h : ¬BeginsGroup (d :: cs)) :
    unescapeName (d :: cs) = d :: unescapeName cs := by
  have hplain : ∀ {e : Char} {es : List Char}, ¬(e = '_' ∧ es.head? = some 'x') →
      unescapeName (e :: es) = e :: unescapeName es := by
    intro e es hmark
    rw [unescapeName]
    rintro rest rfl rfl
    exact hmark ⟨rfl, rfl⟩
  by_cases hmark : d = '_' ∧ cs.head? = some 'x'
  · obtain ⟨rfl, hx⟩ := hmark
    obtain ⟨rest, rfl⟩ := List.head?_eq_some_iff.1 hx
    rw [beginsGroup_mark, Option.not_isSome_iff_eq_none] at h
    -- the `x` behind the underscore is put out with it, but it would be read as itself anyway
    rw [hplain (e := 'x') (by simp), unescapeName]
    split
    · rename_i heq
      rw [h] at heq
      cases heq
    · rfl
  · exact hplain hmark

/-- A name without groups is read as it is. -/
theorem unescapeName_of_withoutGroups (h : WithoutGroups cs) : unescapeName cs = cs := by
  induction cs with
  | nil => exact unescapeName_nil
  | cons d cs ih =>
    obtain ⟨hhere, hbehind⟩ := withoutGroups_cons.1 h
    rw [unescapeName_kept hhere, ih hbehind]

/-- Up to the first group all characters stand for themselves. -/
theorem unescapeName_before {before after : List Char} (hgroup : IsGroup group c)
    (hfirst : NoneBefore before.length (before ++ group ++ after)) :
    unescapeName (before ++ group ++ after) = before ++ c :: unescapeName after := by
  induction before with
  | nil => exact unescapeName_group hgroup after
  | cons d before ih =>
    rw [List.cons_append, List.cons_append, List.length_cons, noneBefore_succ] at hfirst
    obtain ⟨hhere, hbehind⟩ := hfirst
    show unescapeName (d :: (before ++ group ++ after)) = d :: (before ++ c :: unescapeName after)
    rw [unescapeName_kept hhere, ih hbehind]

/-! ### From left to right -/

/-- Reading from left to right: of all groups in a text the first one is replaced by its character,
and what stands behind it is read in the same way. Neither the characters of a group nor what was
put in for it are read again. -/
inductive LeftToRight : List Char → List Char → Prop
  | plain {cs : List Char} (none : WithoutGroups cs) : LeftToRight cs cs
  | group {before group after shown : List Char} {c : Char} (is : IsGroup group c)
      (first : NoneBefore before.length (before ++ group ++ after))
      (behind : LeftToRight after shown) :
      LeftToRight (before ++ group ++ after) (before ++ c :: shown)

/-- In front of what is read from left to right, a character stands for itself if no group begins
with it. -/
theorem LeftToRight.cons {shown : List Char} (hhere : ¬BeginsGroup (d :: cs))
    (h : LeftToRight cs shown) : LeftToRight (d :: cs) (d :: shown) := by
  cases h with
  | plain hnone => exact .plain (withoutGroups_cons.2 ⟨hhere, hnone⟩)
  | @group before group after shown c hgroup hfirst hbehind =>
    show LeftToRight (d :: before ++ group ++ after) (d :: before ++ c :: shown)
    exact .group hgroup (noneBefore_succ.2 ⟨hhere, hfirst⟩) hbehind

theorem leftToRight_unescapeName (cs : List Char) : LeftToRight cs (unescapeName cs) := by
  -- by induction on the length, as a group is left behind in one step
  induction hlength : cs.length using Nat.strongRecOn generalizing cs with
  | ind n ih =>
    subst hlength
    cases cs with
    | nil =>
      rw [unescapeName_nil]
      exact .plain (withoutGroups_of_length (by decide))
    | cons d cs =>
      by_cases hhere : BeginsGroup (d :: cs)
      · obtain ⟨group, c, hgroup, after, heq⟩ := hhere
        have hshorter : after.length < (d :: cs).length := by
          rw [← heq, List.length_append, hgroup.length_eq]
          omega
        have hfirst : NoneBefore 0 (group ++ after) := fun _ _ _ _ _ _ => Nat.zero_le _
        rw [← heq, unescapeName_group hgroup]
        show LeftToRight ([] ++ group ++ after) ([] ++ c :: unescapeName after)
        exact .group hgroup hfirst (ih _ hshorter after rfl)
      · rw [unescapeName_kept hhere]
        exact (ih _ (Nat.lt_succ_self _) cs rfl).cons hhere

/-- **A name is read from left to right.** -/
theorem leftToRight_iff {shown : List Char} : LeftToRight cs shown ↔ unescapeName cs = shown := by
  constructor
  · intro h
    induction h with
    | plain hnone => exact unescapeName_of_withoutGroups hnone
    | group hgroup hfirst _ ih => rw [unescapeName_before hgroup hfirst, ih]
  · rintro rfl
    exact leftToRight_unescapeName cs

-- an underscore belongs to one group only, and one that was put in begins none
example : unescapeNameString "_x0041_x0042_" = "Ax0042_" := by cbv
example : unescapeNameString "_x005F_x0041_" = "_x0041_" := by cbv

/-! ### Written names -/

/-- The written forms of a name in which certain characters have to be written as groups: these are,
and so is each underscore that an `x` follows; the others stand as they are. -/
inductive WrittenName (special : Char → Prop) : List Char → List Char → Prop
  | nil : WrittenName special [] []
  | group {c : Char} {cs group written : List Char}
      (needed : special c ∨ (c = '_' ∧ cs.head? = some 'x')) (is : IsGroup group c)
      (behind : WrittenName special cs written) : WrittenName special (c :: cs) (group ++ written)
  | kept {c : Char} {cs written : List Char}
      (needless : ¬(special c ∨ (c = '_' ∧ cs.head? = some 'x')))
      (behind : WrittenName special cs written) : WrittenName special (c :: cs) (c :: written)

section
variable {special : Char → Prop} {written : List Char}

/-- An `x` at the front of a written name is one of the name itself. -/
theorem WrittenName.head?_eq (h : WrittenName special cs written) (hx : written.head? = some 'x') :
    cs.head? = some 'x' := by
  cases h with
  | nil => exact hx
  | group _ hgroup _ =>
    -- a group begins with an underscore
    obtain ⟨digits, -, rfl⟩ := hgroup
    cases hx
  | kept _ _ => exact hx

/-- A name is read back from each of its written forms. -/
theorem unescapeName_of_written (h : WrittenName special cs written) :
    unescapeName written = cs := by
  induction h with
  | nil => exact unescapeName_nil
  | group _ hgroup _ ih => rw [unescapeName_group hgroup, ih]
  | @kept c cs written hneedless hbehind ih =>
    -- an underscore that is kept has no `x` behind it in the name, hence none in what is written
    have hhere : ¬BeginsGroup (c :: written) := by
      intro hbegins
      obtain ⟨hc, hx⟩ := hbegins.mark
      exact hneedless (.inr ⟨hc, hbehind.head?_eq hx⟩)
    rw [unescapeName_kept hhere, ih]

/-- Four digits are enough for any character of the basic plane. -/
theorem exists_isGroup (h : c.toNat < 0x10000) : ∃ group, IsGroup group c := by
  have hdigit : ∀ v < 16, IsHexDigit (hexDigit v) v := by decide
  have hlt : ∀ n, n % 16 < 16 := fun n => Nat.mod_lt n (by decide)
  refine ⟨_, _, ⟨_, _, _, _, _, _, _, _, rfl, hdigit _ (hlt (c.toNat / 4096)),
    hdigit _ (hlt (c.toNat / 256)), hdigit _ (hlt (c.toNat / 16)), hdigit _ (hlt c.toNat), ?_⟩, rfl⟩
  omega

/-- Every name has a written form, if only characters of the basic plane have to be written as
groups. -/
theorem exists_writtenName (hspecial : ∀ c, special c → c.toNat < 0x10000) (cs : List Char) :
    ∃ written, WrittenName special cs written := by
  induction cs with
  | nil => exact ⟨[], .nil⟩
  | cons c cs ih =>
    obtain ⟨written, hbehind⟩ := ih
    by_cases hneeded : special c ∨ (c = '_' ∧ cs.head? = some 'x')
    · have hlt : c.toNat < 0x10000 := by
        rcases hneeded with hc | ⟨rfl, -⟩
        · exact hspecial c hc
        · decide
      obtain ⟨group, hgroup⟩ := exists_isGroup hlt
      exact ⟨_, .group hneeded hgroup hbehind⟩
    · exact ⟨_, .kept hneeded hbehind⟩

end

end OlapClient.Markup
