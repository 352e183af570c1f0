import OlapClient.Markup.Tag
import OlapClient.Proofs.Soap.Envelope
import OlapClient.Proofs.Text.Ends
import OlapClient.Proofs.Text.Utf8

namespace OlapClient.Markup

/-!
# Escaped texts are read back

* `unescape_escape` — reading an escaped text puts the special characters back.
* `characters_encode_escape` — the same for its bytes.
* `isTrimmed` — a text without white space at its ends; escaping keeps it so.
* `trimSpaces` — a text without the white space at its ends.
-/

/-! ### References -/

/-- A reference is read as the character that it stands for. -/
theorem unescapeFrom_reference {total start : Nat} (name : List Char) {rest : List Char} {d : Char}
    (hname : ∀ c ∈ name, (!endsName c) = true) (hd : resolve start name = .ok d) :
    unescapeFrom total start ('&' :: (name ++ ';' :: rest)) =
      (unescapeFrom total (start + 2 + Utf8.size name) rest).map (d :: ·) := by
  have htake : (name ++ ';' :: rest).takeWhile (!endsName ·) = name :=
    takeWhile_mark hname rfl rest
  have hdrop : (name ++ ';' :: rest).dropWhile (!endsName ·) = ';' :: rest :=
    dropWhile_mark hname rfl rest
  rw [unescapeFrom, if_pos rfl]
  dsimp only
  split
  · rename_i after hafter
    rw [hdrop] at hafter
    cases hafter
    rw [htake, hd]
  · rename_i hnone
    exact absurd hdrop (hnone rest)

theorem unescapeFrom_plain {total start : Nat} {c : Char} {rest : List Char} (hc : c ≠ '&') :
    unescapeFrom total start (c :: rest) =
      (unescapeFrom total (start + c.utf8Size) rest).map (c :: ·) := by
  rw [unescapeFrom, if_neg hc]

/-- What stands for a character is read as that character. -/
theorem unescapeFrom_escapeChar (total start : Nat) (c : Char) (rest : List Char) :
    ∃ start', unescapeFrom total start (escapeChar c ++ rest) =
      (unescapeFrom total start' rest).map (c :: ·) := by
  rcases escapeChar_cases c with rfl | rfl | rfl | rfl | rfl | ⟨hc, -, hamp⟩
  · exact ⟨_, unescapeFrom_reference ['l', 't'] (by simp [endsName]) (by simp [resolve])⟩
  · exact ⟨_, unescapeFrom_reference ['g', 't'] (by simp [endsName]) (by simp [resolve])⟩
  · exact ⟨_, unescapeFrom_reference ['a', 'm', 'p'] (by simp [endsName]) (by simp [resolve])⟩
  · exact ⟨_, unescapeFrom_reference ['a', 'p', 'o', 's'] (by simp [endsName])
      (by simp [resolve])⟩
  · exact ⟨_, unescapeFrom_reference ['q', 'u', 'o', 't'] (by simp [endsName])
      (by simp [resolve])⟩
  · rw [hc]
    exact ⟨_, unescapeFrom_plain hamp⟩

theorem unescapeFrom_escape (total start : Nat) (cs : List Char) :
    unescapeFrom total start (escape cs) = .ok cs := by
  induction cs generalizing start with
  | nil =>
    show unescapeFrom total start [] = .ok []
    rw [unescapeFrom]
  | cons c cs ih =>
    obtain ⟨start', hstart⟩ := unescapeFrom_escapeChar total start c (escape cs)
    show unescapeFrom total start (escapeChar c ++ escape cs) = .ok (c :: cs)
    rw [hstart, ih]
    rfl

/-- Reading an escaped text puts the special characters back. -/
theorem unescape_escape (cs : List Char) : unescape (escape cs) = .ok cs :=
  unescapeFrom_escape _ 0 cs

/-- The bytes of an escaped text are read as that text. -/
theorem characters_encode_escape (cs : List Char) :
    characters (Utf8.encode (escape cs)) = .ok (String.ofList cs) := by
  simp only [characters, Utf8.decode_encode, unescape_escape]

/-! ### Characters of escaped texts -/

/-- The five characters that are written as references. -/
def specialChars : List Char :=
  ['<', '>', '&', '\'', '"']

/-- A character that is not special stands for itself. -/
theorem escapeChar_of_notMem {c : Char} (hc : c ∉ specialChars) : escapeChar c = [c] := by
  simp only [specialChars, List.mem_cons, List.not_mem_nil, or_false, not_or] at hc
  obtain ⟨h1, h2, h3, h4, h5⟩ := hc
  rw [escapeChar, if_neg h1, if_neg h2, if_neg h3, if_neg h4, if_neg h5]

/-- The characters of the five references. -/
theorem mem_of_mem_escapeChar {c d : Char} (hd : d ∈ specialChars) (hc : c ∈ escapeChar d) :
    c ∈ "&lt;&gt;&amp;&apos;&quot;".toList := by
  have hall : specialChars.flatMap escapeChar = "&lt;&gt;&amp;&apos;&quot;".toList := by decide
  rw [← hall]
  exact List.mem_flatMap.2 ⟨d, hd, hc⟩

/-- An escaped text has none of the characters that delimit tags and values. -/
theorem notMem_escape {c : Char} (hc : c ∈ ['<', '>', '\'', '"']) (cs : List Char) :
    c ∉ escape cs := by
  intro h
  obtain ⟨d, -, hin⟩ := List.mem_flatMap.1 h
  -- a reference has none of them, and a character that stands for itself is not special
  by_cases hd : d ∈ specialChars
  · have hreference := mem_of_mem_escapeChar hd hin
    simp only [List.mem_cons, List.not_mem_nil, or_false] at hc
    rcases hc with rfl | rfl | rfl | rfl <;> exact absurd hreference (by decide)
  · rw [escapeChar_of_notMem hd, List.mem_singleton] at hin
    rw [← hin] at hd
    simp only [List.mem_cons, List.not_mem_nil, or_false] at hc
    rcases hc with rfl | rfl | rfl | rfl <;> exact hd (by decide)

theorem escape_append (cs ds : List Char) : escape (cs ++ ds) = escape cs ++ escape ds :=
  List.flatMap_append

theorem escape_ne_nil {cs : List Char} (h : cs ≠ []) : escape cs ≠ [] := by
  cases cs with
  | nil => exact absurd rfl h
  | cons c cs =>
    intro hnil
    exact escapeChar_ne_nil c (List.append_eq_nil_iff.1 hnil).1

/-! ### White space at the ends -/

/-- White space as a character. -/
def isSpaceChar (c : Char) : Bool :=
  c == ' ' || c == '\t' || c == '\r' || c == '\n'

/-- Whether a text has no white space at its ends. -/
def isTrimmed (cs : List Char) : Bool :=
  cs.head?.all (!isSpaceChar ·) && cs.getLast?.all (!isSpaceChar ·)

/-- A text without the white space at its ends, which is what a reader leaves of it. -/
def trimSpaces (s : String) : String :=
  String.ofList (trimBy isSpaceChar s.toList)

theorem isTrimmed_trimSpaces (s : String) : isTrimmed (trimSpaces s).toList = true := by
  rw [trimSpaces, String.toList_ofList, isTrimmed, Bool.and_eq_true, Option.all_eq_true,
    Option.all_eq_true]
  refine ⟨fun c hc => ?_, fun c hc => ?_⟩
  · rw [of_mem_head?_trimBy hc]
    rfl
  · rw [of_mem_getLast?_trimBy hc]
    rfl

theorem trimSpaces_eq_self {s : String} (h : isTrimmed s.toList = true) : trimSpaces s = s := by
  simp only [isTrimmed, Bool.and_eq_true, Option.all_eq_true, Bool.not_eq_true'] at h
  rw [trimSpaces, trimBy_eq_self h.1 h.2, String.ofList_toList]

/-- A byte of white space belongs to white space. -/
theorem isSpaceChar_of_mem_encodeChar {c : Char} {b : UInt8} (hb : b ∈ String.utf8EncodeChar c)
    (h : isSpace b = true) : isSpaceChar c = true := by
  simp only [isSpace, Bool.or_eq_true, beq_iff_eq] at h
  rcases h with ((rfl | rfl) | rfl) | rfl <;>
    rw [Utf8.eq_of_mem_encodeChar hb (by decide)] <;> decide

/-- What stands for a character has white space only if that character is some. -/
theorem isSpaceChar_of_mem_escapeChar {c d : Char} (hd : d ∈ escapeChar c)
    (h : isSpaceChar d = true) : isSpaceChar c = true := by
  by_cases hc : c ∈ specialChars
  · have hnone : "&lt;&gt;&amp;&apos;&quot;".toList.all (!isSpaceChar ·) = true := by decide
    have hfalse : isSpaceChar d = false := by
      simpa using List.all_eq_true.1 hnone d (mem_of_mem_escapeChar hc hd)
    rw [hfalse] at h
    cases h
  · rw [escapeChar_of_notMem hc, List.mem_singleton] at hd
    rwa [← hd]

/-- White space stands for itself, and its bytes are white space. -/
theorem isSpace_of_mem_encode_escape {cs : List Char} (h : ∀ c ∈ cs, isSpaceChar c = true) :
    ∀ b ∈ Utf8.encode (escape cs), isSpace b = true := by
  intro b hb
  obtain ⟨d, hd, hbd⟩ := List.mem_flatMap.1 hb
  obtain ⟨c, hc, hdc⟩ := List.mem_flatMap.1 hd
  have hspace := h c hc
  simp only [isSpaceChar, Bool.or_eq_true, beq_iff_eq] at hspace
  rcases hspace with ((rfl | rfl) | rfl) | rfl <;>
    rw [escapeChar_of_notMem (by decide), List.mem_singleton] at hdc <;>
    rw [hdc, Utf8.encodeChar_ascii (by decide), List.mem_singleton] at hbd <;>
    rw [hbd] <;> rfl

/-- The bytes of what stands for a character are no white space if that character is none. -/
theorem isSpace_of_mem_escapeChar {c d : Char} {b : UInt8} (hc : isSpaceChar c = false)
    (hd : d ∈ escapeChar c) (hb : b ∈ String.utf8EncodeChar d) : isSpace b = false := by
  cases hspace : isSpace b with
  | false => rfl
  | true =>
    -- the byte would be a character of its own, and that one would stand for itself
    rw [isSpaceChar_of_mem_escapeChar hd (isSpaceChar_of_mem_encodeChar hb hspace)] at hc
    cases hc

/-- The bytes of an escaped text begin with white space only if the text does. -/
theorem isSpace_head?_escape {cs : List Char} (h : isTrimmed cs = true) {b : UInt8}
    (hb : b ∈ (Utf8.encode (escape cs)).head?) : isSpace b = false := by
  obtain ⟨d, hd, hbd⟩ := mem_head?_flatMap (fun _ => String.utf8EncodeChar_ne_nil) hb
  obtain ⟨c, hc, hdc⟩ := mem_head?_flatMap escapeChar_ne_nil hd
  simp only [isTrimmed, Bool.and_eq_true, Option.all_eq_true, Bool.not_eq_true'] at h
  exact isSpace_of_mem_escapeChar (h.1 c hc) hdc hbd

/-- The bytes of an escaped text end with white space only if the text does. -/
theorem isSpace_getLast?_escape {cs : List Char} (h : isTrimmed cs = true) {b : UInt8}
    (hb : b ∈ (Utf8.encode (escape cs)).getLast?) : isSpace b = false := by
  obtain ⟨d, hd, hbd⟩ := mem_getLast?_flatMap (fun _ => String.utf8EncodeChar_ne_nil) hb
  obtain ⟨c, hc, hdc⟩ := mem_getLast?_flatMap escapeChar_ne_nil hd
  simp only [isTrimmed, Bool.and_eq_true, Option.all_eq_true, Bool.not_eq_true'] at h
  exact isSpace_of_mem_escapeChar (h.2 c hc) hdc hbd

end OlapClient.Markup
