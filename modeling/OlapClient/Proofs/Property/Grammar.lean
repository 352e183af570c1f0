import Mathlib.Data.List.TakeWhile
import OlapClient.Proofs.Property.ConnectString

namespace OlapClient.ConnectString

/-!
# The grammar of connect strings

Which texts are connect strings, and which properties they spell, said without a reader.

* `Denotes` — a value as it may be written, plain or in quotes.
* `Segment` — a key, an equals sign, and a value.
* `Body` — segments between semicolons, with gaps before them and at the end.
* `Spells` — a body, behind the scheme where the text begins with it.
* `readValue_of_denotes`, `denotes_of_readValue`, … — each reader reads its part of the grammar, and
  nothing else.
* `pairs_of_segment`, `pairs_skip` — a segment, or a gap, in front of others.
* `pairs_of_body`, `body_of_pairs`, `spells_iff` — so do the readers of all segments.
* `parse_accepts_grammar` — what is accepted, and which map is returned.
-/

/-! ### The grammar -/

/-- A value as it is written and the text that it denotes. A plain value begins with neither a quote
nor a blank: the blanks behind the equals sign belong to no value. -/
inductive Denotes : List Char → List Char → Prop
  | plain {text : List Char} (hhead : ∀ c ∈ text.head?, c ≠ '"' ∧ isBlank c = false)
      (hsemicolon : ';' ∉ text) : Denotes text (trimChars text)
  | quoted (value : List Char) {blanks : List Char} (hblanks : ∀ c ∈ blanks, isBlank c = true) :
      Denotes ('"' :: (doubleQuotes value ++ '"' :: blanks)) value

/-- A segment as it is written and the property that it spells. -/
inductive Segment : List Char → String × String → Prop
  | property {key blanks text value : List Char} (hequals : '=' ∉ key) (hsemicolon : ';' ∉ key)
      (hname : trimChars key ≠ []) (hblanks : ∀ c ∈ blanks, isBlank c = true)
      (hvalue : Denotes text value) :
      Segment (key ++ '=' :: (blanks ++ text)) (String.ofList (trimChars key), String.ofList value)

/-- Segments between semicolons. Before each of them, and at the end, there may be a gap. -/
inductive Body : List Char → List (String × String) → Prop
  | gap {gap : List Char} (hgap : ∀ c ∈ gap, isGap c = true) : Body gap []
  | last {gap segment : List Char} {p : String × String} (hgap : ∀ c ∈ gap, isGap c = true)
      (hsegment : Segment segment p) : Body (gap ++ segment) [p]
  | more {gap segment rest : List Char} {p : String × String} {ps : List (String × String)}
      (hgap : ∀ c ∈ gap, isGap c = true) (hsegment : Segment segment p) (hrest : Body rest ps) :
      Body (gap ++ (segment ++ ';' :: rest)) (p :: ps)

/-- A connect string and the properties that it spells, from left to right. Where a text begins with
the scheme, that is no part of its first key. -/
inductive Spells : String → List (String × String) → Prop
  | behindScheme {head body : String} {ps : List (String × String)}
      (hscheme : eqIgnoringCase head "jdbc:xmla:" = true) (hbody : Body body.toList ps) :
      Spells (head ++ body) ps
  | plain {body : String} {ps : List (String × String)} (hscheme : ¬ BeginsWithScheme body)
      (hbody : Body body.toList ps) : Spells body ps

variable {cs rest : List Char} {p : String × String} {ps : List (String × String)}

/-! ### Values -/

theorem eq_of_readQuoted {text : List Char} (h : readQuoted cs = some (text, rest)) :
    cs = doubleQuotes text ++ '"' :: rest := by
  fun_induction readQuoted cs generalizing text rest with
  | case1 => cases h
  | case2 r ih =>
    obtain ⟨⟨t, u⟩, hr, heq⟩ := Option.map_eq_some_iff.1 h
    cases heq
    rw [ih hr]
    rfl
  | case3 r =>
    cases h
    rfl
  | case4 c r _ hc ih =>
    obtain ⟨⟨t, u⟩, hr, heq⟩ := Option.map_eq_some_iff.1 h
    cases heq
    rw [ih hr, doubleQuotes_cons hc]
    rfl

/-- Blanks in front of the end of a segment are passed over, and no quote stands first there. -/
theorem EndsSegment.behind_blanks (h : EndsSegment rest) {blanks : List Char}
    (hblanks : ∀ c ∈ blanks, isBlank c = true) :
    (blanks ++ rest).dropWhile isBlank = rest ∧ ∀ c ∈ (blanks ++ rest).head?, c ≠ '"' := by
  constructor
  · rw [List.dropWhile_append_of_pos hblanks, h.dropWhile_isBlank]
  · intro c hc hquote
    subst hquote
    cases blanks with
    | nil => exact h.ne_quote '"' hc rfl
    | cons b blanks =>
      cases hc
      exact absurd (hblanks _ List.mem_cons_self) (by decide)

/-- In front of the end of a segment, a written value is read. -/
theorem readValue_of_denotes {text value : List Char} (h : Denotes text value)
    (hrest : EndsSegment rest) : readValue (text ++ rest) = .ok (value, rest) := by
  cases h with
  | plain hhead hsemicolon =>
    have htake : (text ++ rest).takeWhile (· != ';') = text := by
      rw [List.takeWhile_append_of_pos (bne_of_notMem hsemicolon), hrest.takeWhile_semicolon.1,
        List.append_nil]
    have hdrop : (text ++ rest).dropWhile (· != ';') = rest := by
      rw [List.dropWhile_append_of_pos (bne_of_notMem hsemicolon), hrest.takeWhile_semicolon.2]
    rw [readValue, htake, hdrop]
    -- no quote stands first, neither in the text nor in what follows it
    intro quoted heq
    cases text with
    | nil => exact hrest.ne_quote '"' (by rw [← List.nil_append rest, heq]; rfl) rfl
    | cons c text => exact (hhead c rfl).1 (List.cons.inj heq).1
  | quoted _ hblanks =>
    obtain ⟨hdrop, hquote⟩ := hrest.behind_blanks hblanks
    rw [List.cons_append, List.append_assoc, List.cons_append, readValue,
      readQuoted_doubleQuotes value hquote]
    dsimp only
    rw [hdrop]
    cases rest with
    | nil => rfl
    | cons c rest =>
      dsimp only
      rw [if_pos (hrest c rfl)]

/-- No blank stands before a written value. -/
theorem Denotes.dropWhile_isBlank {text value : List Char} (h : Denotes text value)
    (hrest : EndsSegment rest) : (text ++ rest).dropWhile isBlank = text ++ rest := by
  cases h with
  | plain hhead _ =>
    cases text with
    | nil => exact hrest.dropWhile_isBlank
    | cons c text => exact dropWhile_eq_self fun d hd => (hhead d hd).2
  | quoted _ _ =>
    refine dropWhile_eq_self fun d hd => ?_
    cases hd
    rfl

/-- What is read as a value is a written value, in front of the end of a segment. -/
theorem denotes_of_readValue {value : List Char} (hhead : ∀ c ∈ cs.head?, isBlank c = false)
    (h : readValue cs = .ok (value, rest)) :
    ∃ text, cs = text ++ rest ∧ Denotes text value ∧ EndsSegment rest := by
  unfold readValue at h
  split at h
  · rename_i quoted
    split at h
    · cases h
    · rename_i text tail hquoted
      have hquotedText := eq_of_readQuoted hquoted
      have hblanks : ∀ c ∈ tail.takeWhile isBlank, isBlank c = true := fun c => of_mem_takeWhile
      have htail := List.takeWhile_append_dropWhile (p := isBlank) (l := tail)
      split at h
      · rename_i hnil
        cases h
        refine ⟨_, ?_, .quoted value hblanks, fun c hc => by cases hc⟩
        rw [hnil, List.append_nil] at htail
        rw [htail, hquotedText, List.append_nil]
      · rename_i c after hcons
        split at h
        · rename_i hsemicolon
          cases h
          refine ⟨_, ?_, .quoted value hblanks, fun d hd => ?_⟩
          · rw [hcons] at htail
            rw [List.cons_append, List.append_assoc, List.cons_append, htail, hquotedText]
          · cases hd
            exact hsemicolon
        · cases h
  · rename_i hplain
    cases h
    have htext := List.takeWhile_append_dropWhile (p := (· != ';')) (l := cs)
    refine ⟨cs.takeWhile (· != ';'), htext.symm, .plain (fun c hc => ?_) fun hin => ?_, ?_⟩
    · -- the text begins as the input does
      have hfirst : c ∈ cs.head? := by
        rw [← htext, List.head?_append, show (cs.takeWhile (· != ';')).head? = some c from hc]
        rfl
      refine ⟨fun hquote => ?_, hhead c hfirst⟩
      obtain ⟨tail, rfl⟩ := List.head?_eq_some_iff.1 hfirst
      exact hplain tail (by rw [hquote])
    · exact absurd (of_mem_takeWhile hin) (by decide)
    · intro c hc
      have hstop := of_mem_head?_dropWhile hc
      simpa using hstop

/-! ### Segments -/

/-- A key is trimmed to the same name whether or not its first blanks are taken for a gap. -/
theorem trimChars_dropWhile_isGap {key : List Char} (h : ';' ∉ key) :
    trimChars (key.dropWhile isGap) = trimChars key := by
  induction key with
  | nil => rfl
  | cons c key ih =>
    have hc : c ≠ ';' := fun heq => h (heq ▸ List.mem_cons_self)
    have hgap : isGap c = isBlank c := by simp [isGap, hc]
    by_cases hblank : isBlank c = true
    · rw [List.dropWhile_cons_of_pos (by rw [hgap, hblank]),
        ih fun hin => h (List.mem_cons_of_mem c hin)]
      simp only [trimChars, trimBy, List.dropWhile_cons_of_pos hblank]
    · rw [List.dropWhile_cons_of_neg (by rw [hgap]; exact hblank)]

/-- A character that ends no key, by what it is not. -/
theorem endsKey_eq_false {key : List Char} (hequals : '=' ∉ key) (hsemicolon : ';' ∉ key) :
    ∀ c ∈ key, (!endsKey c) = true := by
  intro c hc
  have hne : c ≠ '=' ∧ c ≠ ';' := ⟨fun h => hequals (h ▸ hc), fun h => hsemicolon (h ▸ hc)⟩
  simp [endsKey, hne.1, hne.2]

/-- No key has a character that ends one. -/
theorem notMem_key {d : Char} (hd : endsKey d = true) (cs : List Char) :
    d ∉ cs.takeWhile (!endsKey ·) := by
  intro hin
  have hstays := of_mem_takeWhile hin
  rw [hd] at hstays
  cases hstays

/-- In front of its end, a segment is read. -/
theorem readSegment_of_segment {segment : List Char} (h : Segment segment p)
    (hrest : EndsSegment rest) : readSegment (segment ++ rest) = .ok (p, rest) := by
  cases h with
  | @property key blanks text value hequals hsemicolon hname hblanks hvalue =>
    have hkey := endsKey_eq_false hequals hsemicolon
    have htake := takeWhile_mark hkey (show (!endsKey '=') = false from rfl)
      (blanks ++ text ++ rest)
    have hdrop := dropWhile_mark hkey (show (!endsKey '=') = false from rfl)
      (blanks ++ text ++ rest)
    -- a value begins with no blank, so all blanks are passed over before it
    have hbehind : (blanks ++ text ++ rest).dropWhile isBlank = text ++ rest := by
      rw [List.append_assoc, List.dropWhile_append_of_pos hblanks, hvalue.dropWhile_isBlank hrest]
    rw [List.append_assoc, List.cons_append]
    simp only [readSegment, htake, hdrop, if_neg hname, hbehind, readValue_of_denotes hvalue hrest]

/-- What is read as a segment is a segment, in front of its end. -/
theorem segment_of_readSegment (h : readSegment cs = .ok (p, rest)) :
    ∃ segment, cs = segment ++ rest ∧ Segment segment p ∧ EndsSegment rest := by
  unfold readSegment at h
  dsimp only at h
  split at h
  · rename_i after hafter
    split at h
    · cases h
    · rename_i hname
      split at h
      · cases h
      · rename_i value tail hvalue
        cases h
        obtain ⟨text, htext, hdenotes, hends⟩ :=
          denotes_of_readValue (fun c => of_mem_head?_dropWhile) hvalue
        have hblanks : ∀ c ∈ after.takeWhile isBlank, isBlank c = true := fun c => of_mem_takeWhile
        refine ⟨_, ?_, .property (notMem_key rfl cs) (notMem_key rfl cs) hname hblanks hdenotes,
          hends⟩
        calc cs = cs.takeWhile (!endsKey ·) ++ cs.dropWhile (!endsKey ·) :=
              List.takeWhile_append_dropWhile.symm
          _ = cs.takeWhile (!endsKey ·) ++ '=' :: after := by rw [hafter]
          _ = cs.takeWhile (!endsKey ·) ++
                '=' :: (after.takeWhile isBlank ++ after.dropWhile isBlank) := by
              rw [List.takeWhile_append_dropWhile]
          _ = _ := by
              rw [htext, List.append_assoc, List.cons_append, List.append_assoc]
  · cases h

/-! ### Bodies -/

/-- A segment begins with a character of its key, or with the equals sign. -/
theorem Segment.ne_semicolon {segment : List Char} (h : Segment segment p) :
    ∃ c tail, segment = c :: tail ∧ c ≠ ';' := by
  cases h with
  | @property key blanks text value hequals hsemicolon hname hblanks hvalue =>
    cases key with
    | nil => exact ⟨_, _, rfl, by decide⟩
    | cons c key => exact ⟨c, _, rfl, fun heq => hsemicolon (heq ▸ List.mem_cons_self)⟩

/-- A segment without what a gap may take of it. -/
theorem Segment.dropWhile_isGap {segment : List Char} (h : Segment segment p) (rest : List Char) :
    ∃ segment', (segment ++ rest).dropWhile isGap = segment' ++ rest ∧ Segment segment' p := by
  cases h with
  | @property key blanks text value hequals hsemicolon hname hblanks hvalue =>
    have htrim := trimChars_dropWhile_isGap hsemicolon
    have hpart : ∀ c, c ∉ key → c ∉ key.dropWhile isGap := fun c hc hin =>
      hc ((List.dropWhile_suffix isGap).subset hin)
    refine ⟨key.dropWhile isGap ++ '=' :: (blanks ++ text), ?_, ?_⟩
    · have hnil : ∀ c ∈ ([] : List Char), isGap c = true := fun c hc => by cases hc
      have hdrop := dropWhile_isGap_key hnil key (blanks ++ text ++ rest)
      rw [List.append_assoc, List.append_assoc]
      exact hdrop
    · rw [← htrim] at hname ⊢
      exact .property (hpart _ hequals) (hpart _ hsemicolon) hname hblanks hvalue

/-- Behind a gap, a segment is read in front of its end. -/
theorem pairs_of_segment {gap segment : List Char} (hgap : ∀ c ∈ gap, isGap c = true)
    (hsegment : Segment segment p) (hrest : EndsSegment rest) :
    pairs (gap ++ (segment ++ rest)) = (pairs rest).map (p :: ·) := by
  obtain ⟨segment', hdrop, hsegment'⟩ := hsegment.dropWhile_isGap rest
  obtain ⟨c, tail, rfl, -⟩ := hsegment'.ne_semicolon
  refine pairs_of_ok ?_ (List.cons_ne_nil c _) (readSegment_of_segment hsegment' hrest)
  rw [List.dropWhile_append_of_pos hgap, hdrop]
  rfl

theorem pairs_of_gap {gap : List Char} (hgap : ∀ c ∈ gap, isGap c = true) : pairs gap = .ok [] := by
  have hdrop : gap.dropWhile isGap = [] := List.dropWhile_eq_nil_iff.2 hgap
  rw [pairs]
  split
  · rfl
  · rename_i hcons
    rw [hdrop] at hcons
    cases hcons

theorem pairs_nil : pairs [] = .ok [] :=
  pairs_of_gap fun c hc => by cases hc

/-- A gap does not matter to what follows it. -/
theorem pairs_skip {gap : List Char} (hgap : ∀ c ∈ gap, isGap c = true) (cs : List Char) :
    pairs (gap ++ cs) = pairs cs := by
  have hdrop : (gap ++ cs).dropWhile isGap = cs.dropWhile isGap :=
    List.dropWhile_append_of_pos hgap
  by_cases hnil : cs.dropWhile isGap = []
  · rw [pairs_of_gap (List.dropWhile_eq_nil_iff.1 (hdrop.trans hnil)),
      pairs_of_gap (List.dropWhile_eq_nil_iff.1 hnil)]
  · cases hread : readSegment (cs.dropWhile isGap) with
    | error e => rw [pairs_of_error hdrop hnil hread, pairs_of_error rfl hnil hread]
    | ok found =>
      obtain ⟨p, rest⟩ := found
      rw [pairs_of_ok hdrop hnil hread, pairs_of_ok rfl hnil hread]

/-- A semicolon is a gap before whatever follows it. -/
theorem pairs_semicolon (cs : List Char) : pairs (';' :: cs) = pairs cs := by
  have hgap : ∀ c ∈ [';'], isGap c = true := by simp [isGap]
  exact pairs_skip hgap cs

/-- The pairs of a body are read. -/
theorem pairs_of_body (h : Body cs ps) : pairs cs = .ok ps := by
  induction h with
  | gap hgap => exact pairs_of_gap hgap
  | @last gap segment p hgap hsegment =>
    have hends : EndsSegment [] := fun c hc => by cases hc
    have hread := pairs_of_segment hgap hsegment hends
    rw [List.append_nil, pairs_nil] at hread
    exact hread
  | @more gap segment rest p ps hgap hsegment hrest ih =>
    have hends : EndsSegment (';' :: rest) := fun c hc => by
      cases hc
      rfl
    rw [pairs_of_segment hgap hsegment hends, pairs_semicolon, ih]
    rfl

/-- A semicolon before a body belongs to a gap of it. -/
theorem Body.of_semicolon (h : Body (';' :: cs) ps) : Body cs ps := by
  generalize htext : ';' :: cs = text at h
  cases h with
  | gap hgap =>
    subst htext
    exact .gap fun c hc => hgap c (List.mem_cons_of_mem _ hc)
  | @last gap segment p hgap hsegment =>
    obtain ⟨c, tail, rfl, hc⟩ := hsegment.ne_semicolon
    cases gap with
    | nil =>
      cases htext
      exact absurd rfl hc
    | cons g gap =>
      cases htext
      exact .last (fun c hc => hgap c (List.mem_cons_of_mem _ hc)) hsegment
  | @more gap segment rest p ps hgap hsegment hrest =>
    obtain ⟨c, tail, rfl, hc⟩ := hsegment.ne_semicolon
    cases gap with
    | nil =>
      cases htext
      exact absurd rfl hc
    | cons g gap =>
      cases htext
      exact .more (fun c hc => hgap c (List.mem_cons_of_mem _ hc)) hsegment hrest

/-- What is read is a body. -/
theorem body_of_pairs (h : pairs cs = .ok ps) : Body cs ps := by
  fun_induction pairs cs generalizing ps with
  | case1 cs hgap =>
    cases h
    exact .gap (List.dropWhile_eq_nil_iff.1 hgap)
  | case2 cs c tail hgap e hsegment => cases h
  | case3 cs c tail hgap p rest hread _ ih =>
    obtain ⟨qs, hrest, rfl⟩ := Except.map_eq_ok h
    obtain ⟨segment, hcons, hsegment, hends⟩ := segment_of_readSegment hread
    have hbody := ih hrest
    have hall : ∀ c ∈ cs.takeWhile isGap, isGap c = true := fun c => of_mem_takeWhile
    have hcs : cs = cs.takeWhile isGap ++ (segment ++ rest) := by
      rw [← hcons, ← hgap, List.takeWhile_append_dropWhile]
    rw [hcs]
    -- what follows the segment is nothing, or a semicolon and another body
    cases rest with
    | nil =>
      rw [pairs_nil] at hrest
      cases hrest
      rw [List.append_nil]
      exact .last hall hsegment
    | cons d rest =>
      have hd := hends d rfl
      subst hd
      exact .more hall hsegment hbody.of_semicolon

/-! ### Connect strings -/

theorem withoutScheme_append {head body : String} (h : eqIgnoringCase head "jdbc:xmla:" = true) :
    withoutScheme (head ++ body).toList = body.toList := by
  have hlower : head.toList.map lowerAscii = scheme := by
    have hscheme : ("jdbc:xmla:" : String).toList.map lowerAscii = scheme := by decide
    rw [eqIgnoringCase, beq_iff_eq, lowerString, lowerString, String.ofList_inj, hscheme] at h
    exact h
  have hlength : scheme.length = head.toList.length := by rw [← hlower, List.length_map]
  rw [String.toList_append, withoutScheme, hlength, List.take_left, if_pos hlower, List.drop_left]

theorem withoutScheme_eq_self {text : String} (h : ¬ BeginsWithScheme text) :
    withoutScheme text.toList = text.toList :=
  if_neg fun heq => h (beginsWithScheme_iff.2 heq)

/-- What stands behind the scheme is read as a body, be the scheme there or not. -/
theorem spells_iff {input : String} :
    Spells input ps ↔ pairs (withoutScheme input.toList) = .ok ps := by
  constructor
  · intro h
    cases h with
    | behindScheme hscheme hbody =>
      rw [withoutScheme_append hscheme]
      exact pairs_of_body hbody
    | plain hscheme hbody =>
      rw [withoutScheme_eq_self hscheme]
      exact pairs_of_body hbody
  · intro h
    by_cases hscheme : BeginsWithScheme input
    · obtain ⟨head, body, rfl, hhead⟩ := hscheme
      rw [withoutScheme_append hhead] at h
      exact .behindScheme hhead (body_of_pairs h)
    · rw [withoutScheme_eq_self hscheme] at h
      exact .plain hscheme (body_of_pairs h)

/-- **What is accepted is what the grammar spells.** A text is read as a map if and only if the
grammar spells properties with it, and the map is these properties put in from left to right; a text
spells them in one way only. So of the properties of a name the last one counts. -/
theorem parse_accepts_grammar :
    (∀ (input : String) (P : PropertyMap),
      parse input = .ok P ↔ ∃ ps, Spells input ps ∧ P = NameMap.ofPairs ps) ∧
    (∀ (input : String) (ps qs : List (String × String)),
      Spells input ps → Spells input qs → ps = qs) ∧
    ∀ (ps : List (String × String)) (name : String),
      (NameMap.ofPairs ps).find? name = (ps.reverse.find? (·.1 == name)).map Prod.snd := by
  refine ⟨fun input P => ⟨fun h => ?_, ?_⟩, fun input ps qs hps hqs => ?_,
    NameMap.find?_ofPairs_last⟩
  · obtain ⟨ps, hread, hP⟩ := parse_eq_ok h
    exact ⟨ps, spells_iff.2 hread, hP⟩
  · rintro ⟨ps, hspells, rfl⟩
    exact parse_of_pairs (spells_iff.1 hspells)
  · have hread := spells_iff.1 hps
    rw [spells_iff.1 hqs] at hread
    exact (Except.ok.inj hread).symm

/-- Quotes are doubled, a semicolon may stand between them, and the last `a` counts. -/
example : parse "JDBC:xmla: ; a = x=y ;b=\"p;\"\"q\" ;; a=" =
    .ok (((∅ : PropertyMap).insert "a" "").insert "b" "p;\"q") := by
  decide +kernel

end OlapClient.ConnectString
