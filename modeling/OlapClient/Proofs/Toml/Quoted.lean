import OlapClient.Proofs.Text.Ends
import OlapClient.Proofs.Text.Mark
import OlapClient.Toml.Quoted

namespace OlapClient.Toml

/-!
# Strings are read back

Every written form of a string is read as that string, whatever follows its closing quotes. Only
quotes may not follow them: the reader would take these for quotes of the string.

* `escapeChar_cases` — a character within double quotes stands for itself, or is an escape.
* `readQuoted_escapeLine`, `readLiteral_self` — the forms on one line.
* `quoteRun_escapeLines`, `quoteRun_of_not_triple` — no form has three quotes in a row before its end.
* `readQuotedLines_escapeLines`, `readLiteralLines_self` — the forms on several lines.
* `readString_write`, `readString_writeString` — a string in a form that fits it, and as a value.
* `return_notMem_writeString`, `return_notMem_writeKey` — no form has a carriage return in it.
-/

variable {c q : Char} {cs rest : List Char}

/-! ### Characters -/

theorem isControl_of_isText (h : isText c = true) : isControl c = false := by
  simp only [isText, Bool.and_eq_true, Bool.not_eq_true'] at h
  exact h.1

theorem isText_of_not_control (h : isControl c = false) (hc : c ≠ '\n') : isText c = true := by
  simp [isText, h, hc]

/-- The control characters have small numbers. -/
theorem toNat_lt_of_isControl (h : isControl c = true) : c.toNat < 0x80 := by
  simp only [isControl, Bool.or_eq_true, Bool.and_eq_true, decide_eq_true_eq, beq_iff_eq] at h
  omega

theorem hexValue?_upperAscii_hexDigit (d : Nat) (h : d < 16) :
    hexValue? (upperAscii (hexDigit d)) = some d := by
  revert d
  decide

/-- A number of sixteen bits is read from its four digits. -/
theorem hexNumber?_hexDigits4 {n : Nat} (h : n < 0x10000) : hexNumber? (hexDigits4 n) = some n := by
  have hdigit (m : Nat) : hexValue? (upperAscii (hexDigit (m % 16))) = some (m % 16) :=
    hexValue?_upperAscii_hexDigit _ (Nat.mod_lt m (by decide))
  simp only [hexNumber?, hexDigits4, List.map_cons, List.map_nil, List.foldlM_cons,
    List.foldlM_nil, hdigit, Option.map_some, Option.bind_eq_bind, Option.bind_some]
  refine congrArg some ?_
  omega

theorem scalar?_hexDigits4 (h : c.toNat < 0x10000) : scalar? (hexDigits4 c.toNat) = some c := by
  have hvalid : c.toNat.isValidChar := c.valid
  rw [scalar?, hexNumber?_hexDigits4 h, Option.bind_some, if_pos hvalid, Char.ofNat_toNat]

/-- What stands for a character within double quotes: an escape, which no blank and no line break
follows. -/
def Escapes (c : Char) (written : List Char) : Prop :=
  ∃ d e, written = '\\' :: d :: e ∧ isSpace d = false ∧ d ≠ '\n' ∧
    ∀ rest, readEscape (d :: (e ++ rest)) = some (c, rest)

theorem escapes_quote : Escapes '"' ['\\', '"'] :=
  ⟨'"', [], rfl, rfl, by decide, fun _ => rfl⟩

theorem escapes_newline : Escapes '\n' ['\\', 'n'] :=
  ⟨'n', [], rfl, rfl, by decide, fun _ => rfl⟩

/-- A character within double quotes stands for itself, or is an escape. -/
theorem escapeChar_cases (hc : c ≠ '\n') :
    (escapeChar c = [c] ∧ isText c = true ∧ c ≠ '\\') ∨ Escapes c (escapeChar c) := by
  by_cases hcontrol : isControl c = true
  · -- a control character has a letter of its own, or four digits
    right
    have hdigits : ∀ rest,
        readEscape ('u' :: (hexDigits4 c.toNat ++ rest)) = some (c, rest) := fun rest => by
      have hlt := toNat_lt_of_isControl hcontrol
      have hscalar := scalar?_hexDigits4 (c := c) (by omega)
      simp only [hexDigits4, List.map_cons, List.map_nil] at hscalar
      simp only [readEscape, hexDigits4, List.map_cons, List.map_nil, List.cons_append,
        List.nil_append, hscalar, Option.map_some]
    unfold escapeChar
    split
    · subst c; exact ⟨'b', [], rfl, rfl, by decide, fun _ => rfl⟩
    split
    · subst c; exact ⟨'t', [], rfl, rfl, by decide, fun _ => rfl⟩
    split
    · subst c; exact ⟨'f', [], rfl, rfl, by decide, fun _ => rfl⟩
    split
    · subst c; exact ⟨'r', [], rfl, rfl, by decide, fun _ => rfl⟩
    split
    · subst c; exact ⟨'\\', [], rfl, rfl, by decide, fun _ => rfl⟩
    exact ⟨'u', hexDigits4 c.toNat, rfl, rfl, by decide, hdigits⟩
  · rw [Bool.not_eq_true] at hcontrol
    by_cases htab : c = '\t'
    · subst c
      exact .inr ⟨'t', [], rfl, rfl, by decide, fun _ => rfl⟩
    by_cases hslash : c = '\\'
    · subst c
      exact .inr ⟨'\\', [], rfl, rfl, by decide, fun _ => rfl⟩
    refine .inl ⟨?_, isText_of_not_control hcontrol hc, hslash⟩
    have hback : c ≠ '\x08' := by rintro rfl; exact absurd hcontrol (by decide)
    have hfeed : c ≠ '\x0c' := by rintro rfl; exact absurd hcontrol (by decide)
    have hreturn : c ≠ '\r' := by rintro rfl; exact absurd hcontrol (by decide)
    simp [escapeChar, hback, htab, hfeed, hreturn, hslash, hcontrol]

/-! ### One line -/

theorem readQuoted_end (rest : List Char) : readQuoted ('"' :: rest) = some ([], rest) := by
  rw [readQuoted, if_pos rfl]

theorem readQuoted_plain (hquote : c ≠ '"') (hslash : c ≠ '\\') (htext : isText c = true)
    (rest : List Char) : readQuoted (c :: rest) = consRead c (readQuoted rest) := by
  rw [readQuoted, if_neg hquote, if_neg hslash, if_pos htext]

theorem readQuoted_escapes {written : List Char} (h : Escapes c written) (rest : List Char) :
    readQuoted (written ++ rest) = consRead c (readQuoted rest) := by
  obtain ⟨d, e, rfl, -, -, hread⟩ := h
  rw [List.cons_append, List.cons_append, readQuoted, if_neg (by decide), if_pos rfl]
  split
  · rename_i heq
    rw [hread] at heq
    cases heq
  · rename_i heq
    rw [hread] at heq
    cases heq
    rfl

/-- A string in double quotes on one line is read up to its closing quote. -/
theorem readQuoted_escapeLine (cs rest : List Char) :
    readQuoted (escapeLine cs ++ '"' :: rest) = some (cs, rest) := by
  induction cs with
  | nil => exact readQuoted_end rest
  | cons c cs ih =>
    have hline : escapeLine (c :: cs) =
        (if c = '\n' then ['\\', 'n'] else if c = '"' then ['\\', '"'] else escapeChar c) ++
          escapeLine cs := rfl
    rw [hline, List.append_assoc]
    by_cases hnewline : c = '\n'
    · subst c
      rw [if_pos rfl, readQuoted_escapes escapes_newline, ih]
      rfl
    by_cases hquote : c = '"'
    · subst c
      rw [if_neg hnewline, if_pos rfl, readQuoted_escapes escapes_quote, ih]
      rfl
    rw [if_neg hnewline, if_neg hquote]
    obtain ⟨hself, htext, hslash⟩ | hescapes := escapeChar_cases hnewline
    · rw [hself, List.singleton_append, readQuoted_plain hquote hslash htext, ih]
      rfl
    · rw [readQuoted_escapes hescapes, ih]
      rfl

/-- A string in single quotes on one line is read up to its closing quote. -/
theorem readLiteral_self (htext : ∀ c ∈ cs, isText c = true) (hquote : '\'' ∉ cs)
    (rest : List Char) : readLiteral (cs ++ '\'' :: rest) = some (cs, rest) := by
  induction cs with
  | nil => rfl
  | cons c cs ih =>
    have hc : c ≠ '\'' := fun heq => hquote (heq ▸ List.mem_cons_self)
    have htail := ih (fun d hd => htext d (List.mem_cons_of_mem c hd))
      fun hin => hquote (List.mem_cons_of_mem c hin)
    rw [List.cons_append, readLiteral, if_neg hc, if_pos (htext c List.mem_cons_self), htail]
    rfl

/-! ### Closing quotes -/

theorem takeWhile_replicate (count : Nat) {more : List Char} (h : ∀ c ∈ more.head?, c ≠ q) :
    (List.replicate count q ++ more).takeWhile (· == q) = List.replicate count q :=
  takeWhile_front (fun x hx => by simp [List.eq_of_mem_replicate hx])
    fun c hc => by simp [h c hc]

/-- Closing quotes may stand behind up to two quotes of the string. -/
theorem readClosing_replicate {count : Nat} (hcount : count ≤ 2) (hrest : ∀ c ∈ rest.head?, c ≠ q) :
    readClosing q (List.replicate count q ++ ([q, q, q] ++ rest)) =
      some (List.replicate count q, rest) := by
  have hall : List.replicate count q ++ ([q, q, q] ++ rest) =
      List.replicate (count + 3) q ++ rest := by
    rw [← List.append_assoc, show [q, q, q] = List.replicate 3 q from rfl,
      List.replicate_append_replicate]
  have hmin : min (count + 3) 5 = count + 3 := by omega
  have hdrop : (List.replicate (count + 3) q ++ rest).drop (count + 3) = rest := by
    rw [List.drop_append_of_le_length (by simp)]
    simp
  simp only [hall, readClosing, takeWhile_replicate (count + 3) hrest, List.length_replicate, hmin,
    hdrop, Nat.add_sub_cancel]
  rw [if_neg (by omega)]

/-- Two quotes close nothing. -/
theorem readClosing_eq_none {count : Nat} (hcount : count ≤ 2) {more : List Char}
    (hmore : ∀ c ∈ more.head?, c ≠ q) : readClosing q (List.replicate count q ++ more) = none := by
  simp only [readClosing, takeWhile_replicate count hmore, List.length_replicate]
  rw [if_pos (by omega)]

/-- What is written of a string begins with up to two quotes, and is only quotes if the string is. -/
def QuoteRun (q : Char) (cs written : List Char) : Prop :=
  ∃ count more, count ≤ 2 ∧ written = List.replicate count q ++ more ∧
    (∀ c ∈ more.head?, c ≠ q) ∧ (more = [] → cs = List.replicate count q)

theorem QuoteRun.of_head {written : List Char} (h : ∀ c ∈ written.head?, c ≠ q)
    (hne : written ≠ []) : QuoteRun q cs written :=
  ⟨0, written, by omega, rfl, h, fun hnil => absurd hnil hne⟩

/-- Closing quotes are found where nothing but up to two quotes is left of a string, and not before. -/
theorem QuoteRun.readClosing_cases {written : List Char} (h : QuoteRun q cs written)
    (hrest : ∀ c ∈ rest.head?, c ≠ q) :
    readClosing q (written ++ ([q, q, q] ++ rest)) = some (cs, rest) ∨
      readClosing q (written ++ ([q, q, q] ++ rest)) = none := by
  obtain ⟨count, more, hcount, rfl, hmore, hend⟩ := h
  cases more with
  | nil =>
    left
    rw [List.append_nil, readClosing_replicate hcount hrest, hend rfl]
  | cons b more =>
    right
    rw [List.append_assoc]
    exact readClosing_eq_none hcount hmore

/-! ### Several lines -/

/-- What stands for a character within three double quotes that is no quote. -/
theorem head_escapeChar_ne_quote (hquote : c ≠ '"') (rest : List Char) :
    (if c = '\n' then ['\n'] else escapeChar c) ++ rest ≠ [] ∧
      ∀ b ∈ ((if c = '\n' then ['\n'] else escapeChar c) ++ rest).head?, b ≠ '"' := by
  by_cases hnewline : c = '\n'
  · simp [hnewline]
  · obtain ⟨hself, -, -⟩ | ⟨d, e, hescape, -⟩ := escapeChar_cases hnewline
    · simp [hnewline, hself, hquote]
    · simp [hnewline, hescape]

/-- Each third quote in a row is escaped. -/
theorem quoteRun_escapeLines {quotes : Nat} (h : quotes ≤ 2) (cs : List Char) :
    ∃ count more, count + quotes ≤ 2 ∧ escapeLines quotes cs = List.replicate count '"' ++ more ∧
      (∀ c ∈ more.head?, c ≠ '"') ∧ (more = [] → cs = List.replicate count '"') := by
  induction cs generalizing quotes with
  | nil => exact ⟨0, [], by omega, rfl, by simp, fun _ => rfl⟩
  | cons c cs ih =>
    by_cases hquote : c = '"'
    · subst c
      by_cases htwo : quotes = 2
      · refine ⟨0, '\\' :: '"' :: escapeLines 0 cs, by omega, ?_, by simp, by simp⟩
        rw [escapeLines, if_pos rfl, if_pos htwo]
        rfl
      · obtain ⟨count, more, hcount, heq, hmore, hend⟩ := ih (show quotes + 1 ≤ 2 by omega)
        refine ⟨count + 1, more, by omega, ?_, hmore, fun hnil => ?_⟩
        · rw [escapeLines, if_pos rfl, if_neg htwo, heq]
          rfl
        · rw [hend hnil]
          rfl
    · obtain ⟨hne, hhead⟩ := head_escapeChar_ne_quote hquote (escapeLines 0 cs)
      refine ⟨0, _, by omega, ?_, hhead, fun hnil => absurd hnil hne⟩
      rw [escapeLines, if_neg hquote]
      rfl

theorem readQuotedLines_closing {r : List Char × List Char} (h : readClosing '"' cs = some r) :
    readQuotedLines cs = some r := by
  rw [readQuotedLines.eq_def, h]

theorem readQuotedLines_plain (hclosing : readClosing '"' (c :: rest) = none) (hslash : c ≠ '\\')
    (hcontrol : isControl c = false) :
    readQuotedLines (c :: rest) = consRead c (readQuotedLines rest) := by
  rw [readQuotedLines, hclosing]
  simp [hslash, hcontrol]

theorem readQuotedLines_escapes {written : List Char} (h : Escapes c written) (rest : List Char) :
    readQuotedLines (written ++ rest) = consRead c (readQuotedLines rest) := by
  obtain ⟨d, e, rfl, hspace, hnewline, hread⟩ := h
  have hclosing : readClosing '"' ('\\' :: d :: (e ++ rest)) = none := rfl
  have hline : afterLineEnd? (d :: (e ++ rest)) = none := by
    simp [afterLineEnd?, hspace, hnewline]
  rw [List.cons_append, List.cons_append, readQuotedLines, hclosing]
  simp only [if_true]
  split
  · rename_i heq
    rw [hline] at heq
    cases heq
  · split
    · rename_i heq
      rw [hread] at heq
      cases heq
    · rename_i heq
      rw [hread] at heq
      cases heq
      rfl

/-- A string in three double quotes is read up to its closing quotes, from behind up to two quotes of
its own. -/
theorem readQuotedLines_escapeLines {quotes : Nat} (h : quotes ≤ 2)
    (hrest : ∀ c ∈ rest.head?, c ≠ '"') (cs : List Char) :
    readQuotedLines (escapeLines quotes cs ++ (['"', '"', '"'] ++ rest)) = some (cs, rest) := by
  induction cs generalizing quotes with
  | nil => exact readQuotedLines_closing (readClosing_replicate (show 0 ≤ 2 by omega) hrest)
  | cons c cs ih =>
    have hrun : QuoteRun '"' (c :: cs) (escapeLines quotes (c :: cs)) := by
      obtain ⟨count, more, hcount, hrun⟩ := quoteRun_escapeLines h (c :: cs)
      exact ⟨count, more, by omega, hrun⟩
    obtain hclosing | hclosing := hrun.readClosing_cases hrest
    · exact readQuotedLines_closing hclosing
    · by_cases hquote : c = '"'
      · subst c
        by_cases htwo : quotes = 2
        · have hline : escapeLines quotes ('"' :: cs) = ['\\', '"'] ++ escapeLines 0 cs := by
            rw [escapeLines, if_pos rfl, if_pos htwo]
            rfl
          rw [hline, List.append_assoc, readQuotedLines_escapes escapes_quote, ih (by omega)]
          rfl
        · have hline : escapeLines quotes ('"' :: cs) = '"' :: escapeLines (quotes + 1) cs := by
            rw [escapeLines, if_pos rfl, if_neg htwo]
          rw [hline, List.cons_append] at hclosing ⊢
          rw [readQuotedLines_plain hclosing (by decide) rfl, ih (by omega)]
          rfl
      · have hline : escapeLines quotes (c :: cs) =
            (if c = '\n' then ['\n'] else escapeChar c) ++ escapeLines 0 cs := by
          rw [escapeLines, if_neg hquote]
        rw [hline, List.append_assoc] at hclosing ⊢
        by_cases hnewline : c = '\n'
        · subst c
          rw [if_pos rfl, List.singleton_append] at hclosing ⊢
          rw [readQuotedLines_plain hclosing (by decide) rfl, ih (by omega)]
          rfl
        rw [if_neg hnewline] at hclosing ⊢
        obtain ⟨hself, htext, hslash⟩ | hescapes := escapeChar_cases hnewline
        · rw [hself, List.singleton_append] at hclosing ⊢
          rw [readQuotedLines_plain hclosing hslash (isControl_of_isText htext), ih (by omega)]
          rfl
        · rw [readQuotedLines_escapes hescapes, ih (by omega)]
          rfl

/-- Where no quote stands three times in a row, no more than two stand first. -/
theorem quoteRun_of_not_triple (h : hasTriple q cs = false) : QuoteRun q cs cs := by
  rcases cs with _ | ⟨a, _ | ⟨b, _ | ⟨c, cs⟩⟩⟩
  · exact ⟨0, [], by omega, rfl, by simp, fun _ => rfl⟩
  · by_cases ha : a = q
    · exact ⟨1, [], by omega, by simp [ha], by simp, fun _ => by simp [ha]⟩
    · exact .of_head (by simpa using ha) (by simp)
  · by_cases ha : a = q
    · by_cases hb : b = q
      · exact ⟨2, [], by omega, by simp [ha, hb, List.replicate], by simp,
          fun _ => by simp [ha, hb, List.replicate]⟩
      · exact ⟨1, [b], by omega, by simp [ha], by simpa using hb, by simp⟩
    · exact .of_head (by simpa using ha) (by simp)
  · by_cases ha : a = q
    · by_cases hb : b = q
      · have hc : c ≠ q := by
          rintro rfl
          simp [hasTriple, ha, hb] at h
        exact ⟨2, c :: cs, by omega, by simp [ha, hb, List.replicate], by simpa using hc, by simp⟩
      · exact ⟨1, b :: c :: cs, by omega, by simp [ha], by simpa using hb, by simp⟩
    · exact .of_head (by simpa using ha) (by simp)

theorem hasTriple_tail (h : hasTriple q (c :: cs) = false) : hasTriple q cs = false := by
  rcases cs with _ | ⟨a, _ | ⟨b, cs⟩⟩
  · rfl
  · rfl
  · simp only [hasTriple, Bool.or_eq_false_iff] at h
    exact h.2

theorem readLiteralLines_closing {r : List Char × List Char} (h : readClosing '\'' cs = some r) :
    readLiteralLines cs = some r := by
  rw [readLiteralLines.eq_def, h]

/-- A string in three single quotes is read up to its closing quotes. -/
theorem readLiteralLines_self (hcontrol : ∀ c ∈ cs, isControl c = false)
    (htriple : hasTriple '\'' cs = false) (hrest : ∀ c ∈ rest.head?, c ≠ '\'') :
    readLiteralLines (cs ++ (['\'', '\'', '\''] ++ rest)) = some (cs, rest) := by
  induction cs with
  | nil => exact readLiteralLines_closing (readClosing_replicate (show 0 ≤ 2 by omega) hrest)
  | cons c cs ih =>
    obtain hclosing | hclosing := (quoteRun_of_not_triple htriple).readClosing_cases hrest
    · exact readLiteralLines_closing hclosing
    · have hc : isControl c = false := hcontrol c List.mem_cons_self
      have htail := ih (fun d hd => hcontrol d (List.mem_cons_of_mem c hd)) (hasTriple_tail htriple)
      rw [List.cons_append] at hclosing ⊢
      rw [readLiteralLines, hclosing]
      simp only [hc, htail]
      rfl

/-! ### Values -/

/-- What may follow a string: anything but a quote. -/
def EndsString (rest : List Char) : Prop :=
  ∀ c ∈ rest.head?, c ≠ '"' ∧ c ≠ '\''

theorem withoutBreak_of_head (h : ∀ c ∈ cs.head?, c ≠ '\n') : withoutBreak cs = cs := by
  unfold withoutBreak
  split
  · exact absurd rfl (h _ rfl)
  · rfl

/-- A line break is put before a string that has one, and taken off again. -/
theorem withoutBreak_leadingBreak {written : List Char}
    (h : '\n' ∉ cs → ∀ c ∈ written.head?, c ≠ '\n') :
    withoutBreak (leadingBreak cs ++ written) = written := by
  unfold leadingBreak
  split
  · rfl
  · rename_i hnone
    exact withoutBreak_of_head (h hnone)

/-- A string on several lines begins with a line break only if it has one. -/
theorem head_escapeLines (hnone : '\n' ∉ cs) (rest : List Char) :
    ∀ c ∈ (escapeLines 0 cs ++ (['"', '"', '"'] ++ rest)).head?, c ≠ '\n' := by
  rintro c hc rfl
  cases cs with
  | nil => cases hc
  | cons b cs =>
    have hb : b ≠ '\n' := fun heq => hnone (heq ▸ List.mem_cons_self)
    by_cases hquote : b = '"'
    · simp [escapeLines, hquote] at hc
    obtain ⟨hself, -, -⟩ | ⟨d, e, hescape, -⟩ := escapeChar_cases hb
    · simp [escapeLines, hquote, hb, hself] at hc
    · simp [escapeLines, hquote, hb, hescape] at hc

theorem readString_quote (h : ∀ more, cs ≠ '"' :: '"' :: more) :
    readString ('"' :: cs) = readQuoted cs := by
  unfold readString
  split
  · rename_i heq
    cases heq
    exact absurd rfl (h _)
  · rename_i heq
    cases heq
  · rename_i heq
    cases heq
    rfl
  · rename_i heq
    cases heq
  · rename_i hnone _
    exact absurd rfl (hnone cs)

theorem readString_apostrophe (h : ∀ more, cs ≠ '\'' :: '\'' :: more) :
    readString ('\'' :: cs) = readLiteral cs := by
  unfold readString
  split
  · rename_i heq
    cases heq
  · rename_i heq
    cases heq
    exact absurd rfl (h _)
  · rename_i heq
    cases heq
  · rename_i heq
    cases heq
    rfl
  · rename_i hnone
    exact absurd rfl (hnone cs)

/-- A string on one line does not begin with two quotes: the first would be escaped, and if the string
is empty no quote follows the one that closes it. -/
theorem escapeLine_ne_quotes (cs : List Char) (h : EndsString rest) (more : List Char) :
    escapeLine cs ++ '"' :: rest ≠ '"' :: '"' :: more := by
  intro heq
  cases cs with
  | nil =>
    have hrest : rest = '"' :: more := (List.cons.inj heq).2
    exact (h '"' (by rw [hrest]; rfl)).1 rfl
  | cons c cs =>
    have hline : escapeLine (c :: cs) =
        (if c = '\n' then ['\\', 'n'] else if c = '"' then ['\\', '"'] else escapeChar c) ++
          escapeLine cs := rfl
    rw [hline] at heq
    by_cases hnewline : c = '\n'
    · simp [hnewline] at heq
    by_cases hquote : c = '"'
    · simp [hquote] at heq
    obtain ⟨hself, -, -⟩ | ⟨d, e, hescape, -⟩ := escapeChar_cases hnewline
    · simp [hnewline, hquote, hself] at heq
    · simp [hnewline, hquote, hescape] at heq

theorem onOneLine_iff : onOneLine cs = true ↔ ∀ c ∈ cs, isText c = true := List.all_eq_true

theorem readString_literal (htext : onOneLine cs = true) (hquote : '\'' ∉ cs) (h : EndsString rest) :
    readString ('\'' :: (cs ++ '\'' :: rest)) = some (cs, rest) := by
  rw [readString_apostrophe, readLiteral_self (onOneLine_iff.1 htext) hquote]
  intro more heq
  cases cs with
  | nil =>
    have hrest : rest = '\'' :: more := (List.cons.inj heq).2
    exact (h '\'' (by rw [hrest]; rfl)).2 rfl
  | cons c cs => exact hquote ((List.cons.inj heq).1 ▸ List.mem_cons_self)

/-- The conditions under which a form can be read back. -/
def Form.Fits (form : Form) (cs : List Char) : Prop :=
  match form with
  | .quoted | .quotedLines => True
  | .literal => onOneLine cs = true ∧ '\'' ∉ cs
  | .literalLines => (∀ c ∈ cs, isControl c = false) ∧ hasTriple '\'' cs = false

theorem fits_valueForm (cs : List Char) : (valueForm cs).Fits cs := by
  unfold valueForm
  split
  · trivial
  split
  · rename_i hliteral
    simpa [Form.Fits] using hliteral
  split
  · trivial
  split
  · rename_i hlines
    simpa [Form.Fits] using hlines
  split <;> trivial

theorem fits_keyForm (cs : List Char) : (keyForm cs).Fits cs := by
  unfold keyForm
  split
  · trivial
  split
  · rename_i hliteral
    simpa [Form.Fits] using hliteral
  · trivial

/-- A string in a form that fits it is read up to its closing quotes. -/
theorem readString_write {form : Form} (hfits : form.Fits cs) (h : EndsString rest) :
    readString (form.write cs ++ rest) = some (cs, rest) := by
  cases form with
  | quoted =>
    have hwrite : Form.write .quoted cs ++ rest = '"' :: (escapeLine cs ++ '"' :: rest) := by
      simp [Form.write, Form.quotes, Form.content]
    rw [hwrite, readString_quote (escapeLine_ne_quotes cs h), readQuoted_escapeLine]
  | literal =>
    have hwrite : Form.write .literal cs ++ rest = '\'' :: (cs ++ '\'' :: rest) := by
      simp [Form.write, Form.quotes, Form.content]
    rw [hwrite, readString_literal hfits.1 hfits.2 h]
  | quotedLines =>
    have hwrite : Form.write .quotedLines cs ++ rest = '"' :: '"' :: '"' ::
        (leadingBreak cs ++ (escapeLines 0 cs ++ (['"', '"', '"'] ++ rest))) := by
      simp [Form.write, Form.quotes, Form.content]
    rw [hwrite, readString, withoutBreak_leadingBreak fun hnone => head_escapeLines hnone rest,
      readQuotedLines_escapeLines (by omega) fun c hc => (h c hc).1]
  | literalLines =>
    have hwrite : Form.write .literalLines cs ++ rest = '\'' :: '\'' :: '\'' ::
        (leadingBreak cs ++ (cs ++ (['\'', '\'', '\''] ++ rest))) := by
      simp [Form.write, Form.quotes, Form.content]
    have hbreak (hnone : '\n' ∉ cs) :
        ∀ c ∈ (cs ++ (['\'', '\'', '\''] ++ rest)).head?, c ≠ '\n' := by
      rintro c hc rfl
      cases cs with
      | nil => cases hc
      | cons b cs =>
        cases hc
        exact hnone List.mem_cons_self
    rw [hwrite, readString, withoutBreak_leadingBreak hbreak,
      readLiteralLines_self hfits.1 hfits.2 fun c hc => (h c hc).2]

/-- A string as a value is read up to its closing quotes. -/
theorem readString_writeString (s : String) (h : EndsString rest) :
    readString (writeString s ++ rest) = some (s.toList, rest) :=
  readString_write (fits_valueForm s.toList) h

/-! ### Carriage returns -/

theorem return_notMem_hexDigits4 (n : Nat) : '\r' ∉ hexDigits4 n := by
  have hdigit : ∀ d < 16, '\r' ≠ upperAscii (hexDigit d) := by decide
  simp only [hexDigits4, List.mem_map, List.mem_cons, List.not_mem_nil, or_false]
  rintro ⟨d, hd, heq⟩
  refine hdigit d ?_ heq.symm
  omega

theorem return_notMem_escapeChar (c : Char) : '\r' ∉ escapeChar c := by
  unfold escapeChar
  repeat' split
  all_goals try decide
  · simp [return_notMem_hexDigits4]
  · rename_i hreturn _ _
    simpa using Ne.symm hreturn

theorem return_notMem_escapeLine (cs : List Char) : '\r' ∉ escapeLine cs := by
  rw [escapeLine, List.mem_flatMap]
  rintro ⟨c, -, hc⟩
  split at hc
  · simp at hc
  split at hc
  · simp at hc
  · exact return_notMem_escapeChar c hc

theorem return_notMem_escapeLines (quotes : Nat) (cs : List Char) : '\r' ∉ escapeLines quotes cs := by
  induction cs generalizing quotes with
  | nil => simp [escapeLines]
  | cons c cs ih =>
    rw [escapeLines]
    split
    · split <;> simp [ih]
    · simp only [List.mem_append, not_or]
      refine ⟨?_, ih 0⟩
      split
      · simp
      · exact return_notMem_escapeChar c

theorem return_notMem_of_control (h : ∀ c ∈ cs, isControl c = false) : '\r' ∉ cs := fun hin =>
  absurd (h '\r' hin) (by decide)

theorem return_notMem_write {form : Form} (hfits : form.Fits cs) : '\r' ∉ form.write cs := by
  have hbreak : '\r' ∉ leadingBreak cs := by
    unfold leadingBreak
    split <;> simp
  have hquotes : '\r' ∉ form.quotes := by cases form <;> decide
  have hcontent : '\r' ∉ form.content cs := by
    cases form with
    | quoted => exact return_notMem_escapeLine cs
    | literal =>
      exact return_notMem_of_control fun c hc => isControl_of_isText (onOneLine_iff.1 hfits.1 c hc)
    | quotedLines => simp [Form.content, hbreak, return_notMem_escapeLines]
    | literalLines => simp [Form.content, hbreak, return_notMem_of_control hfits.1]
  simp [Form.write, hquotes, hcontent]

theorem return_notMem_writeString (s : String) : '\r' ∉ writeString s :=
  return_notMem_write (fits_valueForm s.toList)

theorem return_notMem_writeKey (s : String) : '\r' ∉ writeKey s := by
  unfold writeKey
  dsimp only
  split
  · rename_i hbare
    intro hin
    exact absurd (List.all_eq_true.1 hbare.2 '\r' hin) (by decide)
  · exact return_notMem_write (fits_keyForm s.toList)

end OlapClient.Toml
