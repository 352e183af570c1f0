import OlapClient.Proofs.Property.Grammar
import OlapClient.Proofs.Text.Utf8

namespace OlapClient.ConnectString

/-!
# The first problem of a connect string

A text that is no connect string is one up to some place, and there its problem is reported. The
position counts bytes from the beginning, the scheme included.

* `Front` — whole segments, each with its semicolon, in front of another one.
* `Opening` — a segment up to its value.
* `Fails` — a segment in two parts, of which the second begins with its problem.
* `Broken` — a text in two parts, of which the second begins with its first problem.
* `pairs_front` — behind whole segments, others are read as they are on their own.
* `exists_fails_of_pairs` — what is not read fails at the rest that the failure reports.
* `Broken.exists_parse` — what stands in front of a first problem is accepted.
* `rejected_at_first_problem` — where a problem is reported.
-/

/-- What may stand in front of a segment: a gap, or segments that each end with a semicolon, and a
gap. -/
inductive Front : List Char → List (String × String) → Prop
  | gap {gap : List Char} (hgap : ∀ c ∈ gap, isGap c = true) : Front gap []
  | more {gap segment front : List Char} {p : String × String} {ps : List (String × String)}
      (hgap : ∀ c ∈ gap, isGap c = true) (hsegment : Segment segment p)
      (hfront : Front (';' :: front) ps) : Front (gap ++ (segment ++ ';' :: front)) (p :: ps)

/-- A segment up to its value, and the name of its property. -/
inductive Opening : List Char → String → Prop
  | property {key blanks : List Char} (hequals : '=' ∉ key) (hsemicolon : ';' ∉ key)
      (hname : trimChars key ≠ []) (hblanks : ∀ c ∈ blanks, isBlank c = true) :
      Opening (key ++ '=' :: blanks) (String.ofList (trimChars key))

/-- A segment in two parts, of which the second begins with the problem: a key that a semicolon or
the end follows, an equals sign without a key, the quote of a value that does not end, or what is no
blank after a quoted value. -/
inductive Fails : List Char → List Char → Problem → Prop
  | missingEquals {c : Char} {key rest : List Char} (hc : isGap c = false) (hequals : '=' ∉ c :: key)
      (hsemicolon : ';' ∉ c :: key) (hrest : EndsSegment rest) :
      Fails [] (c :: key ++ rest) (.missingEquals (String.ofList (trimChars (c :: key))))
  | emptyKey (rest : List Char) : Fails [] ('=' :: rest) .emptyKey
  | unterminated {opening : List Char} {name : String} (hopening : Opening opening name)
      (value : List Char) : Fails opening ('"' :: doubleQuotes value) .unterminated
  | unexpected {opening blanks : List Char} {name : String} {c : Char}
      (hopening : Opening opening name) (value : List Char) (hblanks : ∀ c ∈ blanks, isBlank c = true)
      (hc : isGap c = false) (hquote : blanks = [] → c ≠ '"') (rest : List Char) :
      Fails (opening ++ '"' :: (doubleQuotes value ++ '"' :: blanks)) (c :: rest) (.unexpected c)

/-- A text in two parts, of which the second begins with its first problem. The scheme, where the
text begins with it, is part of the first. -/
inductive Broken : String → String → Problem → Prop
  | intro {start : String} {front inside after : List Char} {ps : List (String × String)}
      {problem : Problem}
      (hstart : eqIgnoringCase start "jdbc:xmla:" = true ∨
        start = "" ∧ ¬ BeginsWithScheme (String.ofList (front ++ inside) ++ String.ofList after))
      (hfront : Front front ps) (hfails : Fails inside after problem) :
      Broken (start ++ String.ofList (front ++ inside)) (String.ofList after) problem

/-- The character that a problem is reported at. -/
def Problem.firstChar? : Problem → Option Char
  | .missingEquals key => key.toList.head?
  | .emptyKey => some '='
  | .unterminated => some '"'
  | .unexpected c => some c

variable {cs opening inside after rest : List Char} {name : String} {problem : Problem} {e : Failure}
  {p : String × String} {ps : List (String × String)}

theorem isGap_eq_false {c : Char} : isGap c = false ↔ c ≠ ';' ∧ isBlank c = false := by
  simp [isGap]

/-! ### Whole segments -/

/-- Behind whole segments, others are read as they are on their own. -/
theorem pairs_front {front : List Char} (h : Front front ps) (cs : List Char) :
    pairs (front ++ cs) = (pairs cs).map (ps ++ ·) := by
  induction h with
  | gap hgap =>
    rw [pairs_skip hgap]
    cases pairs cs <;> rfl
  | @more gap segment front p ps hgap hsegment hfront ih =>
    have hends : EndsSegment (';' :: (front ++ cs)) := fun c hc => by
      cases hc
      rfl
    rw [List.append_assoc, List.append_assoc, List.cons_append,
      pairs_of_segment hgap hsegment hends, ← List.cons_append, ih]
    cases pairs cs <;> rfl

/-- A segment goes on from its opening with a written value. -/
theorem Opening.segment {text value : List Char} (h : Opening opening name)
    (hvalue : Denotes text value) : Segment (opening ++ text) (name, String.ofList value) := by
  cases h with
  | @property key blanks hequals hsemicolon hname hblanks =>
    rw [List.append_assoc, List.cons_append]
    exact .property hequals hsemicolon hname hblanks hvalue

/-- A segment alone is read. -/
theorem pairs_of_segment_alone {segment : List Char} (h : Segment segment p) :
    pairs segment = .ok [p] := by
  have hnone : ∀ c ∈ ([] : List Char), isGap c = true := fun c hc => by cases hc
  exact pairs_of_body (.last hnone h)

/-! ### Segments that are not read -/

/-- A quoted value that does not end has all its quotes doubled. -/
theorem exists_doubleQuotes_of_readQuoted (h : readQuoted cs = none) :
    ∃ value, cs = doubleQuotes value := by
  fun_induction readQuoted cs with
  | case1 => exact ⟨[], rfl⟩
  | case2 r ih =>
    obtain ⟨value, rfl⟩ := ih (Option.map_eq_none_iff.1 h)
    exact ⟨'"' :: value, rfl⟩
  | case3 r => cases h
  | case4 c r _ hc ih =>
    obtain ⟨value, rfl⟩ := ih (Option.map_eq_none_iff.1 h)
    exact ⟨c :: value, (doubleQuotes_cons hc value).symm⟩

/-- The quote that ends a value is not doubled. -/
theorem ne_quote_of_readQuoted {text : List Char} (h : readQuoted cs = some (text, rest)) :
    ∀ c ∈ rest.head?, c ≠ '"' := by
  fun_induction readQuoted cs generalizing text rest with
  | case1 => cases h
  | case2 r ih =>
    obtain ⟨⟨t, u⟩, hr, heq⟩ := Option.map_eq_some_iff.1 h
    cases heq
    exact ih hr
  | case3 r hsingle =>
    cases h
    intro c hc hquote
    obtain ⟨tail, rfl⟩ := List.head?_eq_some_iff.1 hc
    exact hsingle tail (by rw [hquote])
  | case4 c r _ _ ih =>
    obtain ⟨⟨t, u⟩, hr, heq⟩ := Option.map_eq_some_iff.1 h
    cases heq
    exact ih hr

/-- Behind an opening, what is not read as a value is a quoted one that goes wrong. -/
theorem exists_fails_of_readValue (hopening : Opening opening name) (h : readValue cs = .error e) :
    ∃ inside, opening ++ cs = inside ++ e.rest ∧ Fails inside e.rest e.problem := by
  unfold readValue at h
  split at h
  · rename_i quoted
    split at h
    · rename_i hquoted
      cases h
      obtain ⟨value, rfl⟩ := exists_doubleQuotes_of_readQuoted hquoted
      exact ⟨opening, rfl, .unterminated hopening value⟩
    · rename_i text tail hquoted
      have htext := eq_of_readQuoted hquoted
      have htail := List.takeWhile_append_dropWhile (p := isBlank) (l := tail)
      split at h
      · cases h
      · rename_i c after hafter
        split at h
        · cases h
        · rename_i hsemicolon
          cases h
          have hblank : isBlank c = false := of_mem_head?_dropWhile (by rw [hafter]; rfl)
          refine ⟨opening ++ '"' :: (doubleQuotes text ++ '"' :: tail.takeWhile isBlank), ?_,
            .unexpected hopening text (fun c => of_mem_takeWhile)
              (isGap_eq_false.2 ⟨hsemicolon, hblank⟩) (fun hnone => ?_) after⟩
          · rw [hafter] at htail
            simp only [htext, List.append_assoc, List.cons_append, htail]
          · rw [hnone, List.nil_append, hafter] at htail
            exact ne_quote_of_readQuoted hquoted c (by rw [← htail]; rfl)
  · cases h

/-- No key stands only in front of an equals sign. -/
theorem eq_equals_of_no_key {c : Char} {tail : List Char} (hc : isGap c = false)
    (h : trimChars ((c :: tail).takeWhile (!endsKey ·)) = []) : c = '=' := by
  obtain ⟨hsemicolon, hblank⟩ := isGap_eq_false.1 hc
  by_contra hequals
  -- otherwise the key begins with a character that is not trimmed off
  have hkey : (c :: tail).takeWhile (!endsKey ·) = c :: tail.takeWhile (!endsKey ·) :=
    List.takeWhile_cons_of_pos (by simp [endsKey, hsemicolon, hequals])
  have hhead := head?_trimBy hblank (tail.takeWhile (!endsKey ·))
  rw [← hkey, show trimBy isBlank _ = [] from h] at hhead
  cases hhead

/-- A key that no equals sign follows goes up to a semicolon or to the end. -/
theorem fails_of_missing_equals {c : Char} {tail : List Char} (hc : isGap c = false)
    (h : ∀ after, (c :: tail).dropWhile (!endsKey ·) ≠ '=' :: after) :
    Fails [] (c :: tail)
      (.missingEquals (String.ofList (trimChars ((c :: tail).takeWhile (!endsKey ·))))) := by
  have hrest : EndsSegment ((c :: tail).dropWhile (!endsKey ·)) := by
    intro d hd
    have hends : endsKey d = true := by simpa using of_mem_head?_dropWhile hd
    obtain ⟨after, hafter⟩ := List.head?_eq_some_iff.1 hd
    by_contra hsemicolon
    have hequals : d = '=' := by simpa [endsKey, hsemicolon] using hends
    exact h after (by rw [hafter, hequals])
  have hfirst : endsKey c = false := by
    by_contra hends
    have hstay : (c :: tail).dropWhile (!endsKey ·) = c :: tail :=
      List.dropWhile_cons_of_neg (by simpa using hends)
    exact (isGap_eq_false.1 hc).1 (hrest c (by rw [hstay]; rfl))
  have hkey : (c :: tail).takeWhile (!endsKey ·) = c :: tail.takeWhile (!endsKey ·) :=
    List.takeWhile_cons_of_pos (by simp [hfirst])
  have hequals := notMem_key (show endsKey '=' = true from rfl) (c :: tail)
  have hsemicolon := notMem_key (show endsKey ';' = true from rfl) (c :: tail)
  have hsplit := List.takeWhile_append_dropWhile (p := (!endsKey ·)) (l := c :: tail)
  rw [hkey] at hequals hsemicolon hsplit ⊢
  have hfails := Fails.missingEquals hc hequals hsemicolon hrest
  rwa [hsplit] at hfails

/-- What is not read as a segment fails at the rest that the failure reports. -/
theorem exists_fails_of_readSegment {c : Char} {tail : List Char} (hc : isGap c = false)
    (h : readSegment (c :: tail) = .error e) :
    ∃ inside, c :: tail = inside ++ e.rest ∧ Fails inside e.rest e.problem := by
  unfold readSegment at h
  dsimp only at h
  split at h
  · rename_i behind hbehind
    split at h
    · rename_i hname
      cases h
      cases eq_equals_of_no_key hc hname
      exact ⟨[], rfl, .emptyKey tail⟩
    · rename_i hname
      split at h
      · rename_i e' hvalue
        cases h
        have hblanks : ∀ d ∈ behind.takeWhile isBlank, isBlank d = true := fun d => of_mem_takeWhile
        have hopening := Opening.property (notMem_key rfl _) (notMem_key rfl _) hname hblanks
        obtain ⟨inside, hinside, hfails⟩ := exists_fails_of_readValue hopening hvalue
        refine ⟨inside, ?_, hfails⟩
        rw [← hinside, List.append_assoc, List.cons_append, List.takeWhile_append_dropWhile, ← hbehind,
          List.takeWhile_append_dropWhile]
      · cases h
  · rename_i hother
    cases h
    exact ⟨[], rfl, fails_of_missing_equals hc hother⟩

/-! ### Texts that are not read -/

/-- A segment begins with no semicolon, also one that fails. -/
theorem Fails.ne_semicolon (h : Fails inside after problem) :
    ∃ c tail, inside ++ after = c :: tail ∧ c ≠ ';' := by
  have hopens {opening : List Char} {name : String} (hopening : Opening opening name) :
      ∃ c tail, opening = c :: tail ∧ c ≠ ';' := by
    cases hopening with
    | @property key blanks hequals hsemicolon hname hblanks =>
      cases key with
      | nil => exact absurd rfl hname
      | cons c key => exact ⟨c, _, rfl, fun heq => hsemicolon (heq ▸ List.mem_cons_self)⟩
  cases h with
  | @missingEquals c key rest hc hequals hsemicolon hrest =>
    exact ⟨c, _, rfl, fun heq => hsemicolon (heq ▸ List.mem_cons_self)⟩
  | emptyKey rest => exact ⟨_, _, rfl, by decide⟩
  | unterminated hopening value =>
    obtain ⟨c, tail, rfl, hc⟩ := hopens hopening
    exact ⟨c, _, rfl, hc⟩
  | unexpected hopening value hblanks hc hquote rest =>
    obtain ⟨c, tail, rfl, hc⟩ := hopens hopening
    exact ⟨c, _, rfl, hc⟩

/-- What is not read fails, behind whole segments, at the rest that the failure reports. -/
theorem exists_fails_of_pairs (h : pairs cs = .error e) :
    ∃ front inside ps, cs = front ++ (inside ++ e.rest) ∧ Front front ps ∧
      Fails inside e.rest e.problem := by
  fun_induction pairs cs with
  | case1 cs hgap => cases h
  | case2 cs c tail hgap e' hread =>
    cases h
    have hc : isGap c = false := of_mem_head?_dropWhile (by rw [hgap]; rfl)
    obtain ⟨inside, hinside, hfails⟩ := exists_fails_of_readSegment hc hread
    refine ⟨cs.takeWhile isGap, inside, [], ?_, .gap fun c => of_mem_takeWhile, hfails⟩
    rw [← hinside, ← hgap, List.takeWhile_append_dropWhile]
  | case3 cs c tail hgap p rest hread _ ih =>
    obtain ⟨front, inside, ps, hrest, hfront, hfails⟩ := ih (Except.map_eq_error h)
    obtain ⟨segment, hcons, hsegment, hends⟩ := segment_of_readSegment hread
    obtain ⟨d, after, hd, hne⟩ := hfails.ne_semicolon
    cases front with
    | nil =>
      -- the segment that fails would begin with the semicolon that ends the one before
      rw [List.nil_append, hd] at hrest
      exact absurd (hends d (by rw [hrest]; rfl)) hne
    | cons f front =>
      have hf : f = ';' := hends f (by rw [hrest]; rfl)
      subst hf
      refine ⟨cs.takeWhile isGap ++ (segment ++ ';' :: front), inside, p :: ps, ?_,
        .more (fun c => of_mem_takeWhile) hsegment hfront, hfails⟩
      rw [List.append_assoc, List.append_assoc, List.cons_append, ← List.cons_append, ← hrest, ← hcons,
        ← hgap, List.takeWhile_append_dropWhile]

/-! ### What stands in front of a problem -/

/-- What a segment has in front of its problem is read: nothing, or a value that is empty or whole. -/
theorem Fails.exists_pairs (h : Fails inside after problem) : ∃ ps, pairs inside = .ok ps := by
  cases h with
  | missingEquals hc hequals hsemicolon hrest => exact ⟨[], pairs_nil⟩
  | emptyKey rest => exact ⟨[], pairs_nil⟩
  | unterminated hopening value =>
    have hempty : Denotes [] (trimChars []) :=
      .plain (fun c hc => by cases hc) (by simp)
    have hsegment := hopening.segment hempty
    rw [List.append_nil] at hsegment
    exact ⟨_, pairs_of_segment_alone hsegment⟩
  | unexpected hopening value hblanks hc hquote rest =>
    exact ⟨_, pairs_of_segment_alone (hopening.segment (.quoted value hblanks))⟩

/-- The character that a problem is reported at stands there. -/
theorem Fails.head?_eq (h : Fails inside after problem) :
    after.head? = problem.firstChar? ∧ after ≠ [] := by
  cases h with
  | @missingEquals c key rest hc hequals hsemicolon hrest =>
    refine ⟨?_, List.cons_ne_nil c _⟩
    rw [Problem.firstChar?, String.toList_ofList, trimChars, head?_trimBy (isGap_eq_false.1 hc).2,
      List.cons_append, List.head?_cons]
  | emptyKey rest => exact ⟨rfl, List.cons_ne_nil _ _⟩
  | unterminated hopening value => exact ⟨rfl, List.cons_ne_nil _ _⟩
  | unexpected hopening value hblanks hc hquote rest => exact ⟨rfl, List.cons_ne_nil _ _⟩

namespace Broken

variable {before after : String}

/-- What stands in front of a first problem is accepted. -/
theorem exists_parse (h : Broken before after problem) : ∃ P, parse before = .ok P := by
  cases h with
  | @intro start front inside after ps problem hstart hfront hfails =>
    obtain ⟨qs, hqs⟩ := hfails.exists_pairs
    have hread : pairs (front ++ inside) = .ok (ps ++ qs) := by
      rw [pairs_front hfront, hqs]
      rfl
    refine ⟨NameMap.ofPairs (ps ++ qs), parse_of_pairs ?_⟩
    rcases hstart with hscheme | ⟨rfl, hnone⟩
    · rw [withoutScheme_append hscheme, String.toList_ofList]
      exact hread
    · have hbefore : ¬ BeginsWithScheme (String.ofList (front ++ inside)) := by
        rintro ⟨head, tail, heq, hhead⟩
        exact hnone ⟨head, tail ++ String.ofList after, by rw [heq, String.append_assoc], hhead⟩
      rw [String.empty_append, withoutScheme_eq_self hbefore, String.toList_ofList]
      exact hread

theorem head?_eq (h : Broken before after problem) :
    after.toList.head? = problem.firstChar? ∧ after.toList ≠ [] := by
  cases h with
  | intro hstart hfront hfails =>
    rw [String.toList_ofList]
    exact hfails.head?_eq

end Broken

/-! ### Connect strings -/

/-- A text is the scheme, where it begins with it, and what is read. -/
theorem exists_start (input : String) :
    ∃ start body : String, input = start ++ body ∧ withoutScheme input.toList = body.toList ∧
      (eqIgnoringCase start "jdbc:xmla:" = true ∨ start = "" ∧ ¬ BeginsWithScheme body) := by
  by_cases h : BeginsWithScheme input
  · obtain ⟨head, body, rfl, hhead⟩ := h
    exact ⟨head, body, rfl, withoutScheme_append hhead, .inl hhead⟩
  · exact ⟨"", input, String.empty_append.symm, withoutScheme_eq_self h, .inr ⟨rfl, h⟩⟩

/-- A failure is reported at the bytes that stand in front of its rest. -/
theorem parse_eq_error {input : String} {e : Error} (h : parse input = .error e) :
    ∃ failure, pairs (withoutScheme input.toList) = .error failure ∧
      e = ⟨Utf8.size input.toList - Utf8.size failure.rest, failure.problem⟩ := by
  unfold parse at h
  dsimp only at h
  split at h
  · rename_i failure hpairs
    cases h
    exact ⟨failure, hpairs, rfl⟩
  · cases h

/-- A text that is rejected is broken where its problem is reported. -/
theorem exists_broken {input : String} {e : Error} (h : parse input = .error e) :
    ∃ before after : String, input = before ++ after ∧ before.utf8ByteSize = e.position ∧
      Broken before after e.problem := by
  obtain ⟨failure, hpairs, rfl⟩ := parse_eq_error h
  obtain ⟨start, body, rfl, hbody, hstart⟩ := exists_start input
  rw [hbody] at hpairs
  obtain ⟨front, inside, ps, hsplit, hfront, hfails⟩ := exists_fails_of_pairs hpairs
  have heq : body = String.ofList (front ++ inside) ++ String.ofList failure.rest := by
    rw [← String.ofList_append, List.append_assoc, ← hsplit, String.ofList_toList]
  subst heq
  refine ⟨start ++ String.ofList (front ++ inside), String.ofList failure.rest, ?_, ?_,
    .intro hstart hfront hfails⟩
  · rw [String.append_assoc]
  · simp only [Utf8.size_toList, String.utf8ByteSize_append]
    rw [← Utf8.size_toList (String.ofList failure.rest), String.toList_ofList]
    omega

/-- **A problem is reported where it begins.** A text that is rejected is accepted up to the position
of its problem, which lies within the text and between two characters. There stands the first
character of a key without an equals sign, the equals sign without a key, the quote that opens a value
without end, or the first character that is no blank after a quoted value. -/
theorem rejected_at_first_problem {input : String} {e : Error} (h : parse input = .error e) :
    e.position < input.utf8ByteSize ∧ String.Pos.Raw.IsValid input ⟨e.position⟩ ∧
      ∃ before after : String, input = before ++ after ∧ before.utf8ByteSize = e.position ∧
        (∃ P, parse before = .ok P) ∧ Broken before after e.problem ∧
        after.toList.head? = e.problem.firstChar? := by
  obtain ⟨before, after, rfl, hposition, hbroken⟩ := exists_broken h
  obtain ⟨hhead, hne⟩ := hbroken.head?_eq
  refine ⟨?_, ?_, before, after, rfl, hposition, hbroken.exists_parse, hbroken, hhead⟩
  · -- the rest has a character, which takes a byte at least
    obtain ⟨c, tail, hafter⟩ := List.exists_cons_of_ne_nil hne
    have hsize := Utf8.size_toList after
    rw [hafter] at hsize
    have hpos := c.utf8Size_pos
    have hcons : Utf8.size (c :: tail) = c.utf8Size + Utf8.size tail := rfl
    rw [String.utf8ByteSize_append]
    omega
  · rw [String.Pos.Raw.isValid_iff_exists_append, ← hposition]
    exact ⟨before, after, rfl, rfl⟩

/-- Behind the scheme, a doubled quote and a blank of two bytes, a mark follows a quoted value. -/
theorem rejected_at_first_problem_after_blank :
    let input := "JDBC:xmla:ä=\"1\"\"\" ; b=\"x\"\u00A0?;c"
    parse input = .error ⟨28, .unexpected '?'⟩ ∧
      28 < input.utf8ByteSize ∧ String.Pos.Raw.IsValid input ⟨28⟩ ∧
      ∃ before after : String, input = before ++ after ∧ before.utf8ByteSize = 28 ∧
        (∃ P, parse before = .ok P) ∧ Broken before after (.unexpected '?') ∧
        after.toList.head? = some '?' := by
  intro input
  have h : parse input = .error ⟨28, .unexpected '?'⟩ := by decide +kernel
  exact ⟨h, rejected_at_first_problem h⟩

end OlapClient.ConnectString
