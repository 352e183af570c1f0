import OlapClient.Proofs.Markup.Characters
import OlapClient.Proofs.Markup.Cut
import OlapClient.Proofs.Markup.Written

namespace OlapClient.Markup

/-!
# Markups among character data

Comments, processing instructions and CDATA sections may stand among the character data of an
element. Each run of text around them is delivered by itself, without the white space at its ends.

* `Inset` — such a markup; `next_inset` reads it, whatever follows.
* `readFrom_run` — a run of text up to the next markup.
* `joined?` — the character data of some events, one behind the other; `Child.text` — that of an
  element.
* `ReadsBefore` — a place in a document: what stands before it is read as some events whatever
  follows. `exists_readsBefore` finds one behind every markup.
* `KeepsSpace` — that no white space is lost if a run is read in parts.
* `Edit` — a piece of character data and an inset in its place; `Edit.read_plain` and
  `Edit.read_marked` tell how each of the two documents is read.
-/

variable {opened inside : List Bytes} {front content rest raw : Bytes} {e : Event}
  {es fs : List Event} {failure : Option SyntaxError}

/-! ### Insets -/

section Pattern

variable {stem : Bytes} {mark : UInt8} (hmark : mark ∉ stem)
include hmark

/-- A pattern whose last byte stands nowhere else in it does not begin in what stands before it. -/
theorem prefix_of_prefix_append (hne : content ≠ [])
    (h : stem ++ [mark] <+: content ++ (stem ++ [mark] ++ rest)) : stem ++ [mark] <+: content := by
  rcases List.prefix_or_prefix_of_prefix h (List.prefix_append _ _) with hin | ⟨more, hmore⟩
  · exact hin
  cases more with
  | nil =>
    rw [List.append_nil] at hmore
    exact ⟨[], by rw [List.append_nil, hmore]⟩
  | cons b more =>
    -- the last byte would stand in the part of the pattern that goes on behind the content
    have hlast : (b :: more).getLast? = some mark := by
      have := congrArg List.getLast? hmore
      rwa [List.getLast?_append, List.getLast?_cons, Option.some_or, List.getLast?_concat,
        ← List.getLast?_cons] at this
    have hlength : (b :: more).length ≤ stem.length := by
      have hcontent := List.length_pos_iff.2 hne
      have := congrArg List.length hmore
      simp only [List.length_append, List.length_cons, List.length_nil] at this ⊢
      omega
    rw [← hmore, List.prefix_append_right_inj, hmore, List.append_assoc] at h
    have hstem : b :: more <+: stem :=
      List.prefix_of_prefix_length_le h (List.prefix_append _ _) hlength
    exact absurd (hstem.subset (List.mem_of_getLast? hlast)) hmark

/-- Such a pattern is first found behind a content that does not hold it. -/
theorem breakOn_content (h : ¬stem ++ [mark] <:+: content) (rest : Bytes) :
    breakOn (stem ++ [mark]) (content ++ (stem ++ [mark] ++ rest)) = some (content, rest) := by
  induction content with
  | nil =>
    obtain ⟨p, ps, hpattern⟩ := List.exists_cons_of_ne_nil (List.append_ne_nil_of_right_ne_nil stem
      (List.cons_ne_nil mark []))
    have hprefix : (p :: ps).isPrefixOf (p :: (ps ++ rest)) = true :=
      List.isPrefixOf_iff_prefix.2 (List.prefix_append (p :: ps) rest)
    rw [hpattern, List.nil_append, List.cons_append, breakOn, if_pos hprefix, ← List.cons_append,
      List.drop_left]
  | cons b content ih =>
    have hnot :
        ¬(stem ++ [mark]).isPrefixOf (b :: (content ++ (stem ++ [mark] ++ rest))) = true := by
      intro hprefix
      have hhere := List.isPrefixOf_iff_prefix.1 hprefix
      exact h (prefix_of_prefix_append hmark (List.cons_ne_nil b content) hhere).isInfix
    have hinner : ¬stem ++ [mark] <:+: content := fun hin =>
      h (hin.trans (List.suffix_cons b content).isInfix)
    rw [List.cons_append, breakOn, if_neg hnot, ih hinner]
    rfl

end Pattern

/-- A markup among character data. Its content does not hold what ends it. -/
inductive Inset where
  | comment (content : Bytes) (ends : ¬[0x2D, 0x2D, 0x3E] <:+: content)
  | instruction (content : Bytes) (nonempty : content ≠ []) (ends : 0x3E ∉ content)
  | cdata (content : Bytes) (ends : ¬[0x5D, 0x5D, 0x3E] <:+: content)

namespace Inset

/-- An inset as it is written. -/
def bytes : Inset → Bytes
  | .comment content _ => [0x3C, 0x21, 0x2D, 0x2D] ++ (content ++ [0x2D, 0x2D, 0x3E])
  | .instruction content _ _ => [0x3C, 0x3F] ++ (content ++ [0x3F, 0x3E])
  | .cdata content _ =>
    [0x3C, 0x21, 0x5B, 0x43, 0x44, 0x41, 0x54, 0x41, 0x5B] ++ (content ++ [0x5D, 0x5D, 0x3E])

/-- The event that an inset is read as. -/
def event : Inset → Event
  | .comment content _ => .comment content
  | .instruction content _ _ => .instruction content
  | .cdata content _ => .cdata content

/-- The character data that an inset stands for: none, unless it is a CDATA section. -/
def text : Inset → String
  | .comment .. | .instruction .. => ""
  | .cdata content _ => Utf8.lossyString content

theorem isPlain_event (m : Inset) : m.event.isPlain = true := by
  cases m <;> rfl

theorem bytes_eq (m : Inset) : ∃ bs, m.bytes = 0x3C :: bs := by
  cases m <;> exact ⟨_, rfl⟩

end Inset

/-- An inset is read as its event, whatever follows it. -/
theorem next_inset (m : Inset) (rest : Bytes) :
    next opened (m.bytes ++ rest) = .event m.event opened rest := by
  cases m with
  | comment content ends =>
    have hbreak : breakOn [0x2D, 0x2D, 0x3E] (content ++ ([0x2D, 0x2D, 0x3E] ++ rest)) =
        some (content, rest) := breakOn_content (show 0x3E ∉ [0x2D, 0x2D] by decide) ends rest
    -- the end is looked for behind both dashes
    show readBang opened (0x2D :: 0x2D :: (content ++ [0x2D, 0x2D, 0x3E] ++ rest)) = _
    rw [readBang, if_neg (by decide), if_pos rfl, List.append_assoc, List.drop_one, List.tail_cons,
      hbreak]
    rfl
  | instruction content nonempty ends =>
    -- the question mark that ends it belongs to what stands before the angle
    have hangle : 0x3E ∉ content ++ [0x3F] := by simpa using ends
    have hlength : 2 ≤ (content ++ [(0x3F : UInt8)]).length := by
      have := List.length_pos_iff.2 nonempty
      simp only [List.length_append, List.length_cons, List.length_nil]
      omega
    have hsplit : content ++ [0x3F, 0x3E] ++ rest = (content ++ [0x3F]) ++ 0x3E :: rest := by simp
    show readInstruction opened (content ++ [0x3F, 0x3E] ++ rest) = _
    rw [readInstruction, hsplit, beforeAngle_mark hangle, afterAngle_mark hangle,
      if_pos ⟨hlength, by simp⟩, List.dropLast_concat]
    rfl
  | cdata content ends =>
    -- no bracket of the keyword closes
    have hends :
        ¬[0x5D, 0x5D, 0x3E] <:+: [0x5B, 0x43, 0x44, 0x41, 0x54, 0x41, 0x5B] ++ content := by
      simpa [List.infix_cons_iff] using ends
    have hbreak : breakOn [0x5D, 0x5D, 0x3E]
        ([0x5B, 0x43, 0x44, 0x41, 0x54, 0x41, 0x5B] ++ content ++ ([0x5D, 0x5D, 0x3E] ++ rest)) =
        some ([0x5B, 0x43, 0x44, 0x41, 0x54, 0x41, 0x5B] ++ content, rest) :=
      breakOn_content (show 0x3E ∉ [0x5D, 0x5D] by decide) hends rest
    show readBang opened ([0x5B, 0x43, 0x44, 0x41, 0x54, 0x41, 0x5B] ++
      (content ++ [0x5D, 0x5D, 0x3E]) ++ rest) = _
    rw [List.append_assoc, List.append_assoc, ← List.append_assoc, List.cons_append,
      List.cons_append, readBang, if_pos rfl, ← List.cons_append, ← List.cons_append, hbreak]
    rfl

/-! ### Runs of text -/

/-- The events of a run of text up to the next markup. White space alone gives none. -/
def runEvents (raw : Bytes) : List Event :=
  if trimBy isSpace raw = [] then [] else [.text (trimBy isSpace raw)]

theorem isPlain_of_mem_runEvents (h : e ∈ runEvents raw) : e.isPlain = true := by
  unfold runEvents at h
  split at h
  · cases h
  · rw [List.mem_singleton.1 h]
    rfl

/-- Text up to the next markup is read without the white space at its ends. -/
theorem readFrom_run (hangle : 0x3C ∉ raw) (rest : Bytes) :
    readFrom opened (raw ++ 0x3C :: rest) =
      ⟨runEvents raw ++ (readFrom opened (0x3C :: rest)).events,
        (readFrom opened (0x3C :: rest)).failure⟩ := by
  obtain ⟨front, back, hraw, hfront, hback⟩ := exists_trimBy isSpace raw
  unfold runEvents
  by_cases hempty : trimBy isSpace raw = []
  · -- only white space stands before the markup
    rw [if_pos hempty, hraw, hempty, List.nil_append, List.append_assoc]
    exact (readFrom_skip hfront _).trans (readFrom_skip hback _)
  · have htrimmed : 0x3C ∉ trimBy isSpace raw := fun hin => hangle (by rw [hraw]; simp [hin])
    have hnext : next opened (front ++ (trimBy isSpace raw ++ (back ++ 0x3C :: rest))) =
        .event (.text (trimBy isSpace raw)) opened (0x3C :: rest) :=
      next_text hfront hback hempty htrimmed (fun _ => of_mem_head?_trimBy)
        fun _ => of_mem_getLast?_trimBy
    rw [← List.append_assoc, ← List.append_assoc, List.append_assoc front, ← hraw] at hnext
    rw [if_neg hempty, readFrom_of_next hnext]
    rfl

/-! ### The text of events -/

/-- The character data that an event stands for, if it can be read. Only runs of text and CDATA
sections stand for any. -/
def Event.text? : Event → Option String
  | .text raw => Markup.text? raw
  | .cdata raw => some (Utf8.lossyString raw)
  | _ => some ""

/-- The character data of some events, one behind the other. -/
def joined? : List Event → Option String
  | [] => some ""
  | e :: es => e.text?.bind fun s => (joined? es).map (s ++ ·)

theorem joined?_append (es fs : List Event) :
    joined? (es ++ fs) = (joined? es).bind fun s => (joined? fs).map (s ++ ·) := by
  induction es with
  | nil => simp [joined?]
  | cons e es ih =>
    rw [List.cons_append, joined?, joined?, ih]
    cases e.text? with
    | none => rfl
    | some s =>
      cases joined? es with
      | none => rfl
      | some t => cases joined? fs <;> simp [String.append_assoc]

/-- A run of text stands for what is left of it without the white space at its ends. -/
theorem joined?_runEvents (raw : Bytes) : joined? (runEvents raw) = text? (trimBy isSpace raw) := by
  unfold runEvents
  split
  · rename_i hempty
    rw [hempty, text?_eq]
    simp [joined?]
  · simp only [joined?, Event.text?]
    cases text? (trimBy isSpace raw) <;> simp

theorem text?_inset (m : Inset) : m.event.text? = some m.text := by
  cases m <;> rfl

/-- The character data that an event stands for. What cannot be read stands for none. -/
def Event.chunk (e : Event) : String :=
  e.text?.getD ""

/-- The character data that stands directly in a content, that of its elements left out. -/
def Content.ownText : Content → String
  | .nil => ""
  | .event e _ rest => e.chunk ++ rest.ownText
  | .empty _ rest => rest.ownText
  | .element _ _ rest => rest.ownText

/-- The character data that stands directly in an element; in one without content there is none. -/
def Child.text (x : Child) : String :=
  x.inner.elim "" Content.ownText

/-! ### Places behind a markup -/

/-- A text is read as some events, after which these elements are open, whatever follows it. -/
structure ReadsBefore (front : Bytes) (es : List Event) (inside : List Bytes) : Prop where
  opens : openAfter [] es = some inside
  reads : ∀ rest, read (front ++ rest) =
    ⟨es ++ (readFrom inside rest).events, (readFrom inside rest).failure⟩

/-- The first place is behind the first markup. -/
theorem readsBefore_first {piece : Bytes}
    (h : ∀ rest, next [] (0x3C :: (piece ++ rest)) = .event e inside rest) :
    ReadsBefore (0x3C :: piece) [e] inside where
  opens := by
    rw [openAfter, next_nest? (h [])]
    rfl
  reads rest := readFrom_of_next (h rest)

namespace ReadsBefore

variable {inside' : List Bytes} {piece : Bytes} (h : ReadsBefore front es inside)
include h

/-- Behind a place there is another one behind the next markup. -/
theorem markup (hnext : ∀ rest, next inside (piece ++ rest) = .event e inside' rest) :
    ReadsBefore (front ++ piece) (es ++ [e]) inside' where
  opens := by
    rw [openAfter_append h.opens, openAfter, next_nest? (hnext [])]
    rfl
  reads rest := by
    rw [List.append_assoc, h.reads, readFrom_of_next (hnext rest), List.append_assoc]
    rfl

/-- Behind a place there is another one behind a run of text and an inset. -/
theorem inset (hangle : 0x3C ∉ raw) (m : Inset) :
    ReadsBefore (front ++ (raw ++ m.bytes)) (es ++ (runEvents raw ++ [m.event])) inside where
  opens := by
    have hplain : ∀ e ∈ runEvents raw ++ [m.event], e.isPlain = true := by
      intro e he
      rcases List.mem_append.1 he with he | he
      · exact isPlain_of_mem_runEvents he
      · exact List.mem_singleton.1 he ▸ m.isPlain_event
    rw [openAfter_append h.opens, openAfter_of_plain hplain]
  reads rest := by
    obtain ⟨bs, hbytes⟩ := m.bytes_eq
    have hrun : readFrom inside (raw ++ (m.bytes ++ rest)) =
        ⟨runEvents raw ++ m.event :: (readFrom inside rest).events,
          (readFrom inside rest).failure⟩ := by
      rw [hbytes, List.cons_append, readFrom_run hangle, ← List.cons_append, ← hbytes,
        readFrom_of_next (next_inset m rest)]
    rw [List.append_assoc, List.append_assoc, h.reads, hrun]
    simp

end ReadsBefore

/-- Behind every markup of a document that something follows there is a place. -/
theorem exists_readsBefore {body : Bytes} (hmarkup : ∀ raw, e ≠ .text raw) (hmore : fs ≠ [])
    (h : read body = ⟨es ++ e :: fs, failure⟩) :
    ∃ front tail inside, body = front ++ tail ∧ ReadsBefore front (es ++ [e]) inside ∧
      readFrom inside tail = ⟨fs, failure⟩ := by
  obtain ⟨front, bs, outside, rfl, hopen, hall, hrest⟩ := exists_readsUpTo hmarkup h
  obtain ⟨inside, tail, hnext, htail⟩ := readFrom_eq_cons hrest
  -- the markup does not go up to the end of the input, where its own end could be missing
  have hne : tail ≠ [] := by
    rintro rfl
    have hend : readFrom inside [] = ⟨[], none⟩ := readFrom_of_finished rfl
    rw [hend] at htail
    cases htail
    exact hmore rfl
  rw [next_markup] at hnext
  obtain ⟨last, -, rfl, hlast⟩ := readMarkup_split hnext hne
  have hmark (rest : Bytes) : next outside (0x3C :: (last ++ rest)) = .event e inside rest :=
    hlast rest
  refine ⟨front ++ 0x3C :: last, tail, inside, by simp, ⟨?_, fun rest => ?_⟩, htail⟩
  · rw [openAfter_append hopen, openAfter, next_nest? (hmark tail)]
    rfl
  · have hsplit : front ++ 0x3C :: last ++ rest = front ++ 0x3C :: (last ++ rest) := by simp
    rw [hsplit, hall, readFrom_of_next (hmark rest), List.append_assoc]
    rfl

/-! ### Edits -/

/-- Around this piece of character data white space is taken off only where it is taken off the
whole run: nothing else is lost if the runs on both sides are read by themselves. -/
def KeepsSpace (left raw right : Bytes) : Prop :=
  trimBy isSpace (left ++ (raw ++ right)) = trimBy isSpace left ++ (raw ++ trimBy isSpace right)

section Space

variable {left right : Bytes}

theorem isSpace_of_trimBy (h : trimBy isSpace raw = []) : ∀ b ∈ raw, isSpace b = true := by
  obtain ⟨front, back, hraw, hfront, hback⟩ := exists_trimBy isSpace raw
  rw [hraw, h, List.nil_append]
  exact fun b hb => (List.mem_append.1 hb).elim (hfront b) (hback b)

theorem trimBy_append_left (hleft : ∀ b ∈ left, isSpace b = true) :
    trimBy isSpace (left ++ right) = trimBy isSpace right := by
  rw [trimBy, List.dropWhile_append_of_pos hleft]
  rfl

theorem trimBy_append_right (hright : ∀ b ∈ right, isSpace b = true) :
    trimBy isSpace (left ++ right) = trimBy isSpace left := by
  rw [trimBy, trimBy, List.dropWhile_append]
  split
  · rename_i hempty
    have hnil : right.dropWhile isSpace = [] := by
      have hright' : (right ++ []).dropWhile isSpace = [] := List.dropWhile_append_of_pos hright
      rwa [List.append_nil] at hright'
    rw [hnil, List.isEmpty_iff.1 hempty]
  · exact trimEndBy_append hright

/-- It is so where no white space stands beside the piece, nor at the ends of the whole run. -/
theorem keepsSpace_of_ends (hleft : ∀ b ∈ left.getLast?, isSpace b = false)
    (hright : ∀ b ∈ right.head?, isSpace b = false)
    (hhead : ∀ b ∈ (left ++ (raw ++ right)).head?, isSpace b = false)
    (hlast : ∀ b ∈ (left ++ (raw ++ right)).getLast?, isSpace b = false) :
    KeepsSpace left raw right := by
  have hleftHead : ∀ b ∈ left.head?, isSpace b = false := fun b hb =>
    hhead b (by rw [List.head?_append, hb]; rfl)
  have hrightLast : ∀ b ∈ right.getLast?, isSpace b = false := fun b hb =>
    hlast b (by rw [List.getLast?_append, List.getLast?_append, hb]; rfl)
  rw [KeepsSpace, trimBy_eq_self hhead hlast, trimBy_eq_self hleftHead hleft,
    trimBy_eq_self hright hrightLast]

/-- It is so where nothing is taken out and white space alone stands on one side. -/
theorem keepsSpace_of_end (h : trimBy isSpace left = [] ∨ trimBy isSpace right = []) :
    KeepsSpace left [] right := by
  rw [KeepsSpace, List.nil_append, List.nil_append]
  rcases h with h | h
  · rw [trimBy_append_left (isSpace_of_trimBy h), h, List.nil_append]
  · rw [trimBy_append_right (isSpace_of_trimBy h), h, List.append_nil]

end Space

/-- A place in a document, a piece of character data there, and an inset in its stead with the same
text: with no character data this is the insertion of a comment or a processing instruction, with
some it is another way to write it, as a CDATA section. -/
structure Edit where
  front : Bytes
  es : List Event
  inside : List Bytes
  before : ReadsBefore front es inside
  left : Bytes
  raw : Bytes
  right : Bytes
  inset : Inset
  back : Bytes
  no_angle : 0x3C ∉ left ++ (raw ++ right)
  same_text : text? raw = some inset.text

namespace Edit

variable (d : Edit)

/-- The document with the character data. -/
def plain : Bytes :=
  d.front ++ (d.left ++ (d.raw ++ d.right) ++ 0x3C :: d.back)

/-- The document with the inset. -/
def marked : Bytes :=
  d.front ++ (d.left ++ (d.inset.bytes ++ (d.right ++ 0x3C :: d.back)))

/-- What the documents are read as from the next markup on. -/
def behind : Reading :=
  readFrom d.inside (0x3C :: d.back)

/-- The events of the character data. -/
def plainEvents : List Event :=
  runEvents (d.left ++ (d.raw ++ d.right))

/-- The events around and with the inset. -/
def markedEvents : List Event :=
  runEvents d.left ++ d.inset.event :: runEvents d.right

/-- The inset does not stand inside a character or a reference, and no white space is lost beside
it. -/
structure Joins : Prop where
  keeps_space : KeepsSpace d.left d.raw d.right
  cuts : CutsBetween (trimBy isSpace d.left) (d.raw ++ trimBy isSpace d.right)

theorem read_plain :
    read d.plain = ⟨d.es ++ (d.plainEvents ++ d.behind.events), d.behind.failure⟩ := by
  rw [plain, d.before.reads, readFrom_run d.no_angle]
  rfl

theorem read_marked :
    read d.marked = ⟨d.es ++ (d.markedEvents ++ d.behind.events), d.behind.failure⟩ := by
  have hangle := d.no_angle
  simp only [List.mem_append, not_or] at hangle
  have hplace := d.before.inset hangle.1 d.inset
  -- the run on the right is read from the place behind the inset
  rw [marked, ← List.append_assoc d.left, ← List.append_assoc, hplace.reads,
    readFrom_run hangle.2.2, markedEvents]
  simp [behind]

/-- The character data is that of the runs around the inset and of the inset. -/
theorem Joins.joined?_eq {d : Edit} (h : d.Joins) :
    joined? d.plainEvents = joined? d.markedEvents := by
  rw [plainEvents, markedEvents, joined?_append, joined?, text?_inset]
  simp only [joined?_runEvents]
  rw [h.keeps_space, text?_append h.cuts, text?_append (cutsBetween_of_text? d.same_text _),
    d.same_text]

end Edit

end OlapClient.Markup
