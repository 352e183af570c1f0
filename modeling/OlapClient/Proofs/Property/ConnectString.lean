import OlapClient.Proofs.Property.Lookup
import OlapClient.Proofs.Result
import OlapClient.Proofs.Text.Ends
import OlapClient.Proofs.Text.Mark
import OlapClient.Property.ConnectString

namespace OlapClient.ConnectString

/-!
# Connect strings are read back

The written form of a property map is read as that map, provided that its names can stand in a
connect string. Any value can, since it is put in quotes where that is needed.

* `KeyName` — the names that a connect string can carry.
* `readQuoted_doubleQuotes`, `readValue_renderValue` — a written value is read back.
* `readSegment_render` — a key with a written value, in front of what follows a segment.
* `withoutScheme_append_mark` — the scheme is looked for in front of a mark that it does not have.
* `parse_of_pairs`, `parse_of_failure` — what is read of a text, by its segments.
* `following`, `pairs_following` — all pairs behind the first, each after its semicolon.
* `keyName_of_pairs` — what is read as a key can be written as one.
* `parse_render_iff` — which maps are read back.
-/

/-- The names that a connect string can carry: not empty, without blanks at the ends, and without
the characters that end a key. -/
structure KeyName (key : String) : Prop where
  ne_empty : key ≠ ""
  head_not_blank : ∀ c ∈ key.toList.head?, isBlank c = false
  last_not_blank : ∀ c ∈ key.toList.getLast?, isBlank c = false
  no_equals : '=' ∉ key.toList
  no_semicolon : ';' ∉ key.toList

/-- Whether a name begins with the scheme of connect strings, in any case. -/
def BeginsWithScheme (key : String) : Prop :=
  ∃ head tail : String, key = head ++ tail ∧ eqIgnoringCase head "jdbc:xmla:" = true

/-! ### Values -/

/-- What may follow a segment: nothing, or a semicolon. -/
def EndsSegment (rest : List Char) : Prop :=
  ∀ c ∈ rest.head?, c = ';'

variable {key value rest : List Char}

theorem EndsSegment.dropWhile_isBlank (h : EndsSegment rest) : rest.dropWhile isBlank = rest :=
  dropWhile_eq_self fun c hc => by rw [h c hc]; rfl

theorem EndsSegment.ne_quote (h : EndsSegment rest) : ∀ c ∈ rest.head?, c ≠ '"' := by
  intro c hc
  rw [h c hc]
  decide

theorem EndsSegment.takeWhile_semicolon (h : EndsSegment rest) :
    rest.takeWhile (· != ';') = [] ∧ rest.dropWhile (· != ';') = rest := by
  cases rest with
  | nil => exact ⟨rfl, rfl⟩
  | cons c rest =>
    rw [h c rfl]
    exact ⟨rfl, rfl⟩

@[simp] theorem doubleQuotes_cons_quote (text : List Char) :
    doubleQuotes ('"' :: text) = '"' :: '"' :: doubleQuotes text := rfl

theorem doubleQuotes_cons {c : Char} (h : c ≠ '"') (text : List Char) :
    doubleQuotes (c :: text) = c :: doubleQuotes text := by
  rw [doubleQuotes, List.flatMap_cons, if_neg h]
  rfl

/-- A text with its quotes written twice is read up to the quote that ends it, which no other quote
follows. -/
theorem readQuoted_doubleQuotes (text : List Char) (h : ∀ c ∈ rest.head?, c ≠ '"') :
    readQuoted (doubleQuotes text ++ '"' :: rest) = some (text, rest) := by
  induction text with
  | nil =>
    cases rest with
    | nil => rfl
    | cons c rest =>
      rw [doubleQuotes, List.flatMap_nil, List.nil_append, readQuoted]
      intro _ heq
      exact h c rfl (List.cons.inj heq).1
  | cons c text ih =>
    by_cases hc : c = '"'
    · rw [hc, doubleQuotes_cons_quote, List.cons_append, List.cons_append, readQuoted, ih]
      rfl
    · rw [doubleQuotes_cons hc, List.cons_append, readQuoted, ih]
      · rfl
      · intro _ hquote
        exact absurd hquote hc
      · exact hc

/-- A value that needs no quotes is written as it is. -/
theorem needsQuotes_eq_false (h : needsQuotes value = false) :
    ';' ∉ value ∧ '"' ∉ value ∧ (∀ c ∈ value.head?, isBlank c = false) ∧
      ∀ c ∈ value.getLast?, isBlank c = false := by
  simp only [needsQuotes, Bool.or_eq_false_iff, List.any_eq_false, Option.any_eq_false,
    beq_iff_eq, Bool.or_eq_true, not_or] at h
  obtain ⟨⟨hnone, hhead⟩, hlast⟩ := h
  refine ⟨fun hin => (hnone _ hin).1 rfl, fun hin => (hnone _ hin).2 rfl, fun c hc => ?_,
    fun c hc => ?_⟩
  · simpa using hhead c hc
  · simpa using hlast c hc

/-- A written value is read back, also behind blanks. -/
theorem readValue_renderValue (value : List Char) (h : EndsSegment rest) :
    readValue ((renderValue value ++ rest).dropWhile isBlank) = .ok (value, rest) := by
  unfold renderValue
  split
  · -- the opening quote is no blank
    have hblank : isBlank '"' = false := rfl
    rw [List.cons_append, List.cons_append, List.append_assoc, List.singleton_append,
      List.dropWhile_cons_of_neg (by simp [hblank]), readValue,
      readQuoted_doubleQuotes value h.ne_quote]
    dsimp only
    rw [h.dropWhile_isBlank]
    cases rest with
    | nil => rfl
    | cons c rest =>
      dsimp only
      rw [if_pos (h c rfl)]
  · rename_i hplain
    obtain ⟨hsemicolon, hquote, hhead, hlast⟩ := needsQuotes_eq_false (by simpa using hplain)
    have hdrop : (value ++ rest).dropWhile isBlank = value ++ rest := by
      refine dropWhile_eq_self fun c hc => ?_
      rw [List.head?_append] at hc
      cases hvalue : value.head? with
      | none =>
        rw [hvalue] at hc
        rw [h c hc]
        rfl
      | some d =>
        rw [hvalue] at hc
        cases hc
        exact hhead c hvalue
    obtain ⟨htake, hrest⟩ := h.takeWhile_semicolon
    have htakeAll : (value ++ rest).takeWhile (· != ';') = value := by
      rw [List.takeWhile_append_of_pos (bne_of_notMem hsemicolon), htake, List.append_nil]
    have hdropAll : (value ++ rest).dropWhile (· != ';') = rest := by
      rw [List.dropWhile_append_of_pos (bne_of_notMem hsemicolon), hrest]
    rw [hdrop, readValue, htakeAll, hdropAll, trimChars, trimBy_eq_self hhead hlast]
    -- no quote stands first
    intro quoted heq
    cases value with
    | nil =>
      rw [List.nil_append] at heq
      have := h '"' (by rw [heq]; rfl)
      exact absurd this (by decide)
    | cons c value =>
      rw [List.cons_append, List.cons.injEq] at heq
      rw [heq.1] at hquote
      exact hquote List.mem_cons_self

/-! ### Segments -/

/-- A key with a written value is read up to what follows the segment. The key is trimmed, and must
not be empty then. -/
theorem readSegment_render (hequals : '=' ∉ key) (hsemicolon : ';' ∉ key) (value : List Char)
    (h : EndsSegment rest) :
    readSegment (key ++ '=' :: (renderValue value ++ rest)) =
      if trimChars key = [] then .error ⟨key ++ '=' :: (renderValue value ++ rest), .emptyKey⟩
      else .ok ((String.ofList (trimChars key), String.ofList value), rest) := by
  have hkey : ∀ c ∈ key, (!endsKey c) = true := by
    intro c hc
    have h1 : c ≠ '=' := fun heq => hequals (heq ▸ hc)
    have h2 : c ≠ ';' := fun heq => hsemicolon (heq ▸ hc)
    simp [endsKey, h1, h2]
  have htake (tail : List Char) : (key ++ '=' :: tail).takeWhile (!endsKey ·) = key :=
    takeWhile_mark hkey rfl tail
  have hdrop (tail : List Char) : (key ++ '=' :: tail).dropWhile (!endsKey ·) = '=' :: tail :=
    dropWhile_mark hkey rfl tail
  simp only [readSegment, htake, hdrop, readValue_renderValue value h]

/-- A segment that is read has a key that can be written. -/
theorem keyName_of_readSegment {cs : List Char} {p : String × String}
    (h : readSegment cs = .ok (p, rest)) : KeyName p.1 := by
  unfold readSegment at h
  dsimp only at h
  split at h
  · split at h
    · cases h
    · rename_i hne
      split at h
      · cases h
      · cases h
        -- the key is part of what stands before the first character that ends one
        obtain ⟨front, back, hall, -⟩ := exists_trimBy isBlank (cs.takeWhile (!endsKey ·))
        have hin : ∀ c ∈ trimChars (cs.takeWhile (!endsKey ·)), endsKey c = false := by
          intro c hc
          have hmem : c ∈ cs.takeWhile (!endsKey ·) := by
            rw [hall]
            exact List.mem_append_right front (List.mem_append_left back hc)
          simpa using of_mem_takeWhile hmem
        refine ⟨fun hempty => hne ?_, ?_, ?_, ?_, ?_⟩
        · simpa using congrArg String.toList hempty
        all_goals rw [String.toList_ofList]
        · exact fun c hc => of_mem_head?_trimBy hc
        · exact fun c hc => of_mem_getLast?_trimBy hc
        · exact fun hc => absurd (hin _ hc) (by decide)
        · exact fun hc => absurd (hin _ hc) (by decide)
  · cases h

/-! ### Sequences of segments -/

theorem pairs_of_ok {cs cs' : List Char} {p : String × String} (hgap : cs.dropWhile isGap = cs')
    (hcs : cs' ≠ []) (h : readSegment cs' = .ok (p, rest)) :
    pairs cs = (pairs rest).map (p :: ·) := by
  rw [pairs]
  split
  · rename_i hnil
    exact absurd (hgap.symm.trans hnil) hcs
  · rename_i c tail hcons
    rw [hcons] at hgap
    subst hgap
    split <;> rename_i heq <;> rw [h] at heq <;> cases heq
    rfl

theorem pairs_of_error {cs cs' : List Char} {e : Failure} (hgap : cs.dropWhile isGap = cs')
    (hcs : cs' ≠ []) (h : readSegment cs' = .error e) : pairs cs = .error e := by
  rw [pairs]
  split
  · rename_i hnil
    exact absurd (hgap.symm.trans hnil) hcs
  · rename_i c tail hcons
    rw [hcons] at hgap
    subst hgap
    split <;> rename_i heq <;> rw [h] at heq <;> cases heq
    rfl

/-- Whatever is read has keys that can be written. -/
theorem keyName_of_pairs {cs : List Char} {ps : List (String × String)} (h : pairs cs = .ok ps) :
    ∀ p ∈ ps, KeyName p.1 := by
  fun_induction pairs cs generalizing ps with
  | case1 cs hgap =>
    cases h
    intro p hp
    cases hp
  | case2 cs c tail hgap e hsegment => cases h
  | case3 cs c tail hgap p rest hsegment _ ih =>
    obtain ⟨qs, hrest, rfl⟩ := Except.map_eq_ok h
    exact List.forall_mem_cons.2 ⟨keyName_of_readSegment hsegment, ih hrest⟩

section Written

variable {gap : List Char} {key value rest : List Char}

/-- In front of a key only what begins no key is passed over. -/
theorem dropWhile_isGap_key (hgap : ∀ c ∈ gap, isGap c = true) (key tail : List Char) :
    (gap ++ (key ++ '=' :: tail)).dropWhile isGap = key.dropWhile isGap ++ '=' :: tail := by
  have hequals : isGap '=' = false := rfl
  rw [List.dropWhile_append_of_pos hgap, List.dropWhile_append]
  split
  · rename_i hnil
    rw [List.isEmpty_iff.1 hnil, List.dropWhile_cons_of_neg (by simp [hequals])]
    rfl
  · rfl

/-- Behind a gap, a key with a written value is read, and what follows it. -/
theorem pairs_written (hgap : ∀ c ∈ gap, isGap c = true) (hequals : '=' ∉ key)
    (hsemicolon : ';' ∉ key) (value : List Char) (h : EndsSegment rest) {ps : List (String × String)}
    (hps : pairs rest = .ok ps) :
    pairs (gap ++ (key ++ '=' :: (renderValue value ++ rest))) =
      if trimChars (key.dropWhile isGap) = [] then
        .error ⟨key.dropWhile isGap ++ '=' :: (renderValue value ++ rest), .emptyKey⟩
      else .ok ((String.ofList (trimChars (key.dropWhile isGap)), String.ofList value) :: ps) := by
  have hpart : ∀ c, c ∉ key → c ∉ key.dropWhile isGap := fun c hc hin =>
    hc ((List.dropWhile_suffix isGap).subset hin)
  have hdrop := dropWhile_isGap_key hgap key (renderValue value ++ rest)
  have hsegment := readSegment_render (hpart _ hequals) (hpart _ hsemicolon) value h
  have hne : key.dropWhile isGap ++ '=' :: (renderValue value ++ rest) ≠ [] := by simp
  split at hsegment
  · rename_i hempty
    rw [if_pos hempty, pairs_of_error hdrop hne hsegment]
  · rename_i hname
    rw [if_neg hname, pairs_of_ok hdrop hne hsegment, hps]
    rfl

end Written

/-! ### Written maps -/

/-- Written properties, each behind a semicolon. -/
def following (ps : List (String × String)) : List Char :=
  ps.flatMap fun p => ';' :: renderPair p

theorem intercalate_eq_following (p : String × String) (ps : List (String × String)) :
    List.intercalate [';'] ((p :: ps).map renderPair) = renderPair p ++ following ps := by
  induction ps generalizing p with
  | nil => simp [following]
  | cons q ps ih =>
    rw [List.map_cons, List.map_cons, List.intercalate_cons_cons, ← List.map_cons, ih]
    simp [following]

theorem endsSegment_following (ps : List (String × String)) : EndsSegment (following ps) := by
  cases ps with
  | nil =>
    intro c hc
    cases hc
  | cons p ps =>
    intro c hc
    cases hc
    rfl

theorem KeyName.dropWhile_isGap {key : String} (h : KeyName key) :
    key.toList.dropWhile isGap = key.toList := by
  refine dropWhile_eq_self fun c hc => ?_
  have hsemicolon : c ≠ ';' := by
    rintro rfl
    exact h.no_semicolon (List.mem_of_mem_head? hc)
  simp [isGap, hsemicolon, h.head_not_blank c hc]

theorem KeyName.trimChars_eq {key : String} (h : KeyName key) : trimChars key.toList = key.toList :=
  trimBy_eq_self h.head_not_blank h.last_not_blank

/-- A property whose name can be written is read back, behind a gap and in front of others. -/
theorem pairs_renderPair {gap : List Char} (hgap : ∀ c ∈ gap, isGap c = true)
    {p : String × String} (hp : KeyName p.1) {rest : List Char} (h : EndsSegment rest)
    {ps : List (String × String)} (hps : pairs rest = .ok ps) :
    pairs (gap ++ (renderPair p ++ rest)) = .ok (p :: ps) := by
  have hname : p.1.toList ≠ [] := fun hnil => hp.ne_empty (String.toList_injective hnil)
  have hread := pairs_written hgap hp.no_equals hp.no_semicolon p.2.toList h hps
  rw [hp.dropWhile_isGap, hp.trimChars_eq, if_neg hname, String.ofList_toList,
    String.ofList_toList] at hread
  rw [renderPair, List.append_assoc]
  exact hread

theorem pairs_following {ps : List (String × String)} (h : ∀ p ∈ ps, KeyName p.1) :
    pairs (following ps) = .ok ps := by
  induction ps with
  | nil =>
    rw [following, List.flatMap_nil, pairs]
    rfl
  | cons p ps ih =>
    have htail := ih fun q hq => h q (List.mem_cons_of_mem p hq)
    have hgap : ∀ c ∈ [';'], isGap c = true := by simp [isGap]
    exact pairs_renderPair hgap (h p List.mem_cons_self) (endsSegment_following ps) htail

/-- Properties whose names can be written are read back in their order. -/
theorem pairs_intercalate {ps : List (String × String)} (h : ∀ p ∈ ps, KeyName p.1) :
    pairs (List.intercalate [';'] (ps.map renderPair)) = .ok ps := by
  cases ps with
  | nil =>
    rw [List.map_nil, List.intercalate_nil, pairs]
    rfl
  | cons p ps =>
    have htail := pairs_following fun q hq => h q (List.mem_cons_of_mem p hq)
    have hgap : ∀ c ∈ ([] : List Char), isGap c = true := by simp
    rw [intercalate_eq_following]
    exact pairs_renderPair hgap (h p List.mem_cons_self) (endsSegment_following ps) htail

/-! ### The scheme -/

theorem beginsWithScheme_iff {key : String} :
    BeginsWithScheme key ↔ (key.toList.take scheme.length).map lowerAscii = scheme := by
  have hscheme : (("jdbc:xmla:" : String).toList.map lowerAscii) = scheme := by decide
  have hlower (s t : String) :
      eqIgnoringCase s t = true ↔ s.toList.map lowerAscii = t.toList.map lowerAscii := by
    rw [eqIgnoringCase, beq_iff_eq, lowerString, lowerString, String.ofList_inj]
  unfold BeginsWithScheme
  constructor
  · rintro ⟨head, tail, rfl, heq⟩
    rw [hlower, hscheme] at heq
    have hlength : scheme.length = head.toList.length := by rw [← heq, List.length_map]
    rw [String.toList_append, hlength, List.take_left, heq]
  · intro heq
    refine ⟨String.ofList (key.toList.take scheme.length),
      String.ofList (key.toList.drop scheme.length), ?_, ?_⟩
    · rw [← String.ofList_append, List.take_append_drop, String.ofList_toList]
    · rw [hlower, hscheme, String.toList_ofList, heq]

variable {key tail : List Char}

/-- Up to a character that the scheme does not have, a text tells whether it begins with the scheme. -/
theorem withoutScheme_append_mark {mark : Char} (hmark : lowerAscii mark ∉ scheme)
    (cs tail : List Char) : withoutScheme (cs ++ mark :: tail) = withoutScheme cs ++ mark :: tail := by
  by_cases hlength : scheme.length ≤ cs.length
  · simp only [withoutScheme, List.take_append_of_le_length hlength,
      List.drop_append_of_le_length hlength]
    split <;> rfl
  · have hshort : (cs.take scheme.length).map lowerAscii ≠ scheme := by
      intro heq
      have := congrArg List.length heq
      rw [List.length_map, List.length_take] at this
      omega
    have hlong : ((cs ++ mark :: tail).take scheme.length).map lowerAscii ≠ scheme := by
      intro heq
      -- the mark would be one of the characters of the scheme
      have hin : mark ∈ (cs ++ mark :: tail).take scheme.length := by
        have hzero : scheme.length - cs.length ≠ 0 := by omega
        obtain ⟨n, hn⟩ := Nat.exists_eq_succ_of_ne_zero hzero
        rw [List.take_append, hn, List.take_succ_cons]
        exact List.mem_append_right _ List.mem_cons_self
      exact hmark (heq ▸ List.mem_map_of_mem hin)
    rw [withoutScheme, if_neg hlong, withoutScheme, if_neg hshort]

/-- A written property that does not begin with the scheme is read whole. -/
theorem withoutScheme_of_not_begins (h : (key.take scheme.length).map lowerAscii ≠ scheme) :
    withoutScheme (key ++ '=' :: tail) = key ++ '=' :: tail := by
  rw [withoutScheme_append_mark (by decide), withoutScheme, if_neg h]

theorem withoutScheme_of_begins (h : (key.take scheme.length).map lowerAscii = scheme)
    (tail : List Char) :
    scheme.length ≤ key.length ∧
      withoutScheme (key ++ '=' :: tail) = key.drop scheme.length ++ '=' :: tail := by
  constructor
  · have := congrArg List.length h
    rw [List.length_map, List.length_take] at this
    omega
  · rw [withoutScheme_append_mark (by decide), withoutScheme, if_pos h]

/-! ### Maps -/

theorem parse_eq_ok {input : String} {P : PropertyMap} (h : parse input = .ok P) :
    ∃ ps, pairs (withoutScheme input.toList) = .ok ps ∧ P = NameMap.ofPairs ps := by
  unfold parse at h
  dsimp only at h
  split at h
  · cases h
  · rename_i ps hps
    cases h
    exact ⟨ps, hps, rfl⟩

theorem parse_of_pairs {input : String} {ps : List (String × String)}
    (h : pairs (withoutScheme input.toList) = .ok ps) : parse input = .ok (NameMap.ofPairs ps) := by
  simp only [parse, h]

theorem parse_of_failure {input : String} {e : Failure}
    (h : pairs (withoutScheme input.toList) = .error e) :
    parse input = .error ⟨Utf8.size input.toList - Utf8.size e.rest, e.problem⟩ := by
  simp only [parse, h]

/-- The names of a map that was read can be written. -/
theorem keyName_of_parse {input : String} {P : PropertyMap} (h : parse input = .ok P) :
    ∀ key ∈ P, KeyName key := by
  obtain ⟨ps, hps, rfl⟩ := parse_eq_ok h
  intro key hkey
  obtain ⟨value, hvalue⟩ := NameMap.mem_iff_find?.1 hkey
  exact keyName_of_pairs hps _ (NameMap.mem_of_find?_ofPairs hvalue)

/-- A map whose names can be written and whose first one does not begin with the scheme is read
back. -/
theorem parse_render {P : PropertyMap} (hnames : ∀ key ∈ P, KeyName key)
    (hfirst : ∀ least, P.minKey? = some least → ¬ BeginsWithScheme least) :
    parse (render P) = .ok P := by
  have hpairs : ∀ p ∈ P.toList, KeyName p.1 := fun p hp =>
    hnames p.1 (NameMap.mem_iff_find?.2 ⟨p.2, NameMap.mem_toList_iff.1 hp⟩)
  have hwhole : withoutScheme (render P).toList = (render P).toList := by
    rw [render, String.toList_ofList]
    rw [NameMap.minKey?_eq_head?] at hfirst
    cases hlist : P.toList with
    | nil => rfl
    | cons p ps =>
      rw [hlist] at hfirst
      rw [intercalate_eq_following, renderPair, List.append_assoc]
      exact withoutScheme_of_not_begins fun h => hfirst p.1 rfl (beginsWithScheme_iff.2 h)
  have hread : pairs (withoutScheme (render P).toList) = .ok P.toList := by
    rw [hwhole, render, String.toList_ofList]
    exact pairs_intercalate hpairs
  rw [parse_of_pairs hread, NameMap.ofPairs_toList]

/-- A map whose first name begins with the scheme is not read back: the scheme is cut off, and no
name is left that is as long as the first one, and none of the others is it. -/
theorem parse_render_ne {P : PropertyMap} {least : String} (hnames : ∀ key ∈ P, KeyName key)
    (hleast : P.minKey? = some least) (h : BeginsWithScheme least) : parse (render P) ≠ .ok P := by
  intro hparse
  obtain ⟨ps, hread, hP⟩ := parse_eq_ok hparse
  rw [NameMap.minKey?_eq_head?] at hleast
  obtain ⟨p, hp, rfl⟩ := Option.map_eq_some_iff.1 hleast
  obtain ⟨others, hlist⟩ := List.head?_eq_some_iff.1 hp
  have hmem : ∀ q ∈ p :: others, KeyName q.1 := fun q hq =>
    hnames q.1 (NameMap.mem_iff_find?.2 ⟨q.2, NameMap.mem_toList_iff.1 (hlist ▸ hq)⟩)
  have hkey := hmem p List.mem_cons_self
  obtain ⟨hlength, hcut⟩ := withoutScheme_of_begins (beginsWithScheme_iff.1 h)
    (renderValue p.2.toList ++ following others)
  have hpart : ∀ c, c ∉ p.1.toList → c ∉ p.1.toList.drop scheme.length := fun c hc hin =>
    hc ((List.drop_suffix _ _).subset hin)
  have htail := pairs_following fun q hq => hmem q (List.mem_cons_of_mem p hq)
  have hgap : ∀ c ∈ ([] : List Char), isGap c = true := by simp
  have hcutRead := pairs_written hgap (hpart _ hkey.no_equals) (hpart _ hkey.no_semicolon)
    p.2.toList (endsSegment_following others) htail
  rw [render, String.toList_ofList, hlist, intercalate_eq_following, renderPair, List.append_assoc,
    List.cons_append, hcut, ← List.nil_append (List.drop _ _ ++ _), hcutRead] at hread
  split at hread
  · cases hread
  · cases hread
    -- the map has its first name, so one of the pairs that were read has it
    have hfind : P.find? p.1 = some p.2 := by
      rw [← NameMap.mem_toList_iff, hlist]
      exact List.mem_cons_self
    rw [hP] at hfind
    rcases List.mem_cons.1 (NameMap.mem_of_find?_ofPairs hfind) with heq | hin
    · have hshort := length_trimBy_le isBlank ((p.1.toList.drop scheme.length).dropWhile isGap)
      have hdrop := length_dropWhile_le isGap (p.1.toList.drop scheme.length)
      have hname := congrArg (·.toList.length) (Prod.mk.inj heq).1
      have hpositive : 0 < scheme.length := by decide
      simp only [String.toList_ofList, trimChars, List.length_drop] at hname hdrop
      omega
    · have hnodup := P.nodup_toList
      rw [hlist, List.map_cons, List.nodup_cons] at hnodup
      exact hnodup.1 (List.mem_map.2 ⟨_, hin, rfl⟩)

/-- **Connect strings are read back exactly where they can be.** A map is read back from its written
form if and only if all its names can be written and the first of them does not begin with the
scheme; its values may be any texts. Every map that was read has such names. -/
theorem parse_render_iff :
    (∀ P : PropertyMap, parse (render P) = .ok P ↔
      (∀ key ∈ P, KeyName key) ∧ ∀ least, P.minKey? = some least → ¬ BeginsWithScheme least) ∧
    ∀ (input : String) (P : PropertyMap), parse input = .ok P → ∀ key ∈ P, KeyName key := by
  refine ⟨fun P => ⟨fun h => ?_, fun h => parse_render h.1 h.2⟩, fun _ _ => keyName_of_parse⟩
  have hnames := keyName_of_parse h
  exact ⟨hnames, fun least hleast hscheme => parse_render_ne hnames hleast hscheme h⟩

example : parse (render ((∅ : PropertyMap).insert "JDBC:xmla:Server" "h")) =
    .ok ((∅ : PropertyMap).insert "Server" "h") := by
  decide +kernel

end OlapClient.ConnectString
