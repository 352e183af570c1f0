import OlapClient.Proofs.Markup.Escape
import OlapClient.Proofs.Markup.Reading

namespace OlapClient.Markup

open Utf8 (encode encodeString encode_append)

/-!
# Reading what was written

A document that is written piece by piece is read piece by piece: what a piece is read as depends
neither on the elements that are open around it nor on what follows it.

* `isTagName` — the names that may stand in a tag.
* `writeAttributes` — attributes as they are written; `attributesFrom_write` reads them back.
* `emptyElement` — an element that is written as an empty tag.
* `Reads` — that a text is read as some events.
* `Reads.elementWith`, `reads_leaf`, `reads_emptyElement`, `Reads.append`, `Reads.flatMap` — the
  pieces.
* `read_of_reads` — a whole document.
-/

/-! ### Names -/

/-- The characters that no name in a tag may have. -/
def delimiters : List Char :=
  [' ', '\t', '\r', '\n', '"', '\'', '=', '>', '/', '!', '?']

/-- Whether a text may be the name of an element or an attribute. -/
def isTagName (cs : List Char) : Bool :=
  !cs.isEmpty && cs.all fun c => c ∉ delimiters

/-- A sequence of bytes that may stand as a name: none of them delimits anything. -/
structure NameBytes (bs : Bytes) : Prop where
  ne_nil : bs ≠ []
  not_space : ∀ b ∈ bs, isSpace b = false
  not_quote : ∀ b ∈ bs, isQuote b = false
  not_mark : ∀ b ∈ bs, b ≠ 0x3D ∧ b ≠ 0x3E ∧ b ≠ 0x2F ∧ b ≠ 0x21 ∧ b ≠ 0x3F

theorem nameBytes_encode {cs : List Char} (h : isTagName cs = true) : NameBytes (encode cs) := by
  simp only [isTagName, Bool.and_eq_true, Bool.not_eq_true', List.all_eq_true,
    decide_eq_true_eq] at h
  have hascii : ∀ d ∈ delimiters,
      d.toNat < 0x80 ∧ Char.ofNat (UInt8.ofNat d.toNat).toNat = d := by
    simp [delimiters]
  -- a delimiter among the bytes would be one among the characters
  have hbyte : ∀ b ∈ encode cs, ∀ d ∈ delimiters, b ≠ UInt8.ofNat d.toNat := by
    intro b hb d hd heq
    have hlt : b.toNat < 0x80 := by
      rw [heq, UInt8.toNat_ofNat']
      have := (hascii d hd).1
      omega
    have hmem := Utf8.ascii_mem_encode hb hlt
    rw [heq, (hascii d hd).2] at hmem
    exact h.2 d hmem hd
  simp only [delimiters, List.forall_mem_cons] at hbyte
  refine ⟨Utf8.encode_ne_nil ?_, fun b hb => ?_, fun b hb => ?_, fun b hb => ?_⟩
  · rintro rfl
    exact absurd h.1 (by decide)
  · simp_all [isSpace]
  · simp_all [isQuote]
  · simp_all

theorem isNamePart_of_mem {cs : List Char} (h : Soap.isName cs = true) {c : Char} (hc : c ∈ cs) :
    Soap.isNamePart c = true := by
  cases cs with
  | nil => cases h
  | cons first cs =>
    rw [Soap.isName, Bool.and_eq_true, List.all_eq_true] at h
    rcases List.mem_cons.1 hc with rfl | htail
    · rw [Soap.isNamePart, h.1]
      rfl
    · exact h.2 c htail

/-- The name of a property may stand in a tag. -/
theorem isTagName_of_isName {cs : List Char} (h : Soap.isName cs = true) : isTagName cs = true := by
  have hpart : delimiters.all (!Soap.isNamePart ·) = true := by decide
  have hne : cs ≠ [] := by
    rintro rfl
    cases h
  have hplain : ∀ c ∈ cs, c ∉ delimiters := by
    intro c hc hdelimiter
    have hnot : Soap.isNamePart c = false := by
      simpa using List.all_eq_true.1 hpart c hdelimiter
    rw [isNamePart_of_mem h hc] at hnot
    cases hnot
  simpa [isTagName, hne] using hplain

/-- A name without a colon has no prefix. -/
theorem localName_encodeString {s : String} (h : ':' ∉ s.toList) :
    localName (encodeString s) = s := by
  have hcolon : 0x3A ∉ encodeString s := fun hin => h (Utf8.ascii_mem_encode hin (by decide))
  have hdrop : (encodeString s).dropWhile (· != 0x3A) = [] := by
    rw [← List.append_nil (encodeString s), List.dropWhile_append_of_pos (bne_of_notMem hcolon)]
    rfl
  rw [localName, localPart, hdrop, Utf8.lossyString_encodeString]

/-- The local name of a name with a prefix is what follows the colon. -/
theorem localName_prefixed {s : String} (before after : List Char)
    (hs : s.toList = before ++ ':' :: after) (h : ':' ∉ before) :
    localName (encodeString s) = String.ofList after := by
  have hcolon : 0x3A ∉ encode before := fun hin => h (Utf8.ascii_mem_encode hin (by decide))
  have hbytes : encodeString s = encode before ++ 0x3A :: encode after := by
    rw [encodeString, hs, encode_append]
    rfl
  have hdrop : (encodeString s).dropWhile (· != 0x3A) = 0x3A :: encode after := by
    rw [hbytes]
    exact dropWhile_mark (bne_of_notMem hcolon) rfl _
  rw [localName, localPart, hdrop]
  show String.ofList (Utf8.decodeLossy (encode after)) = _
  rw [Utf8.decodeLossy_encode]

/-! ### Tags -/

/-- What follows these bytes stands outside quotes, and the tag still goes on there. -/
def Closed (bs : Bytes) : Prop :=
  ∀ rest, takeTag none (bs ++ rest) = (bs ++ (takeTag none rest).1, (takeTag none rest).2)

theorem closed_nil : Closed [] := by
  intro rest
  rfl

theorem Closed.append {as bs : Bytes} (ha : Closed as) (hb : Closed bs) : Closed (as ++ bs) := by
  intro rest
  rw [List.append_assoc, ha, hb, List.append_assoc]

theorem closed_of_plain {bs : Bytes} (h : ∀ b ∈ bs, isQuote b = false ∧ b ≠ 0x3E) :
    Closed bs := by
  intro rest
  induction bs with
  | nil => rfl
  | cons b bs ih =>
    obtain ⟨hquote, hangle⟩ := h b List.mem_cons_self
    have htail := ih fun b' hb' => h b' (List.mem_cons_of_mem b hb')
    simp [takeTag, hangle, hquote, htail]

theorem takeTag_quoted {q : UInt8} {value : Bytes} (h : q ∉ value) (rest : Bytes) :
    takeTag (some q) (value ++ q :: rest) =
      (value ++ q :: (takeTag none rest).1, (takeTag none rest).2) := by
  induction value with
  | nil => simp [takeTag]
  | cons b value ih =>
    rw [List.mem_cons, not_or] at h
    have hb : b ≠ q := Ne.symm h.1
    simp [takeTag, hb, ih h.2]

theorem closed_quoted {value : Bytes} (h : 0x22 ∉ value) : Closed (0x22 :: (value ++ [0x22])) := by
  intro rest
  have hquote : isQuote 0x22 = true := rfl
  simp [takeTag, hquote, takeTag_quoted h]

theorem closed_name {name : Bytes} (h : NameBytes name) : Closed name :=
  closed_of_plain fun b hb => ⟨h.not_quote b hb, (h.not_mark b hb).2.1⟩

/-- What may follow the name in a tag: nothing, or attributes after white space. -/
structure AttributeBytes (bs : Bytes) : Prop where
  closed : Closed bs
  spaced : ∀ b ∈ bs.head?, isSpace b = true
  unslashed : bs.getLast? ≠ some 0x2F

theorem attributeBytes_nil : AttributeBytes [] :=
  ⟨closed_nil, by simp, by simp⟩

theorem tag_ofContent {name attributes : Bytes} (hname : NameBytes name)
    (hattr : AttributeBytes attributes) : Tag.ofContent (name ++ attributes) = ⟨name, attributes⟩ := by
  have hpos : ∀ b ∈ name, (!isSpace b) = true := fun b hb => by simp [hname.not_space b hb]
  unfold Tag.ofContent
  rw [List.takeWhile_append_of_pos hpos, List.dropWhile_append_of_pos hpos]
  cases attributes with
  | nil => simp
  | cons b bs =>
    have hb : isSpace b = true := hattr.spaced b rfl
    simp [hb]

section Tags

variable {name attributes rest : Bytes} {opened : List Bytes}

theorem takeTag_end (rest : Bytes) : takeTag none (0x3E :: rest) = ([], rest) := rfl

/-- A tag that begins with a name is no other markup. -/
theorem next_name (hname : NameBytes name) (tail : Bytes) :
    next opened (0x3C :: (name ++ tail)) = readTag opened (name ++ tail) := by
  obtain ⟨b, bs, rfl⟩ := List.exists_cons_of_ne_nil hname.ne_nil
  -- the byte after the angle decides what begins there
  obtain ⟨-, -, hslash, hbang, hquestion⟩ := hname.not_mark b List.mem_cons_self
  rw [next_markup, List.cons_append, readMarkup, if_neg hbang, if_neg hslash, if_neg hquestion]

theorem next_start (hname : NameBytes name) (hattr : AttributeBytes attributes) :
    next opened (0x3C :: (name ++ (attributes ++ 0x3E :: rest))) =
      .event (.start ⟨name, attributes⟩) (name :: opened) rest := by
  -- a slash before the closing angle would make it an empty tag
  have hlast : (name ++ attributes).getLast? ≠ some 0x2F := by
    rw [List.getLast?_append]
    cases h : attributes.getLast? with
    | none =>
      intro hslash
      exact (hname.not_mark _ (List.mem_of_mem_getLast? hslash)).2.2.1 rfl
    | some b =>
      rw [← h]
      exact fun hslash => hattr.unslashed (by simpa [h] using hslash)
  rw [next_name hname, ← List.append_assoc, readTag,
    ((closed_name hname).append hattr.closed) (0x3E :: rest), takeTag_end]
  dsimp only
  rw [List.append_nil, if_neg hlast, tag_ofContent hname hattr]

theorem next_empty (hname : NameBytes name) (hattr : AttributeBytes attributes) :
    next opened (0x3C :: (name ++ (attributes ++ 0x2F :: 0x3E :: rest))) =
      .event (.empty ⟨name, attributes⟩) opened rest := by
  -- the slash is part of the content up to the closing angle, and dropped from it
  have hslash : Closed [0x2F] := closed_of_plain (by simp [isQuote])
  have hclosed := ((closed_name hname).append hattr.closed).append hslash
  have hcontent : name ++ (attributes ++ 0x2F :: 0x3E :: rest) =
      (name ++ attributes ++ [0x2F]) ++ 0x3E :: rest := by simp
  rw [next_name hname, hcontent, readTag, hclosed (0x3E :: rest), takeTag_end]
  simp [tag_ofContent hname hattr]

theorem next_close (hname : NameBytes name) :
    next (name :: opened) (0x3C :: 0x2F :: (name ++ 0x3E :: rest)) =
      .event (.close name) opened rest := by
  have hangle : 0x3E ∉ name := fun hin => (hname.not_mark _ hin).2.1 rfl
  -- a name has no white space that could be cut off
  have hclosing : closingName name = name := by
    have htrim : trimEndBy isSpace name = name :=
      trimEndBy_eq_self fun b hb => hname.not_space b (List.mem_of_mem_getLast? hb)
    rw [closingName, htrim]
    split <;> simp_all
  show readClose (name :: opened) (name ++ 0x3E :: rest) = _
  rw [readClose, beforeAngle_mark hangle, afterAngle_mark hangle, hclosing, if_pos rfl]

/-- A run of text goes up to the next markup; white space around it is no part of it. -/
theorem next_text {front raw back : Bytes} (hfront : ∀ b ∈ front, isSpace b = true)
    (hback : ∀ b ∈ back, isSpace b = true) (hne : raw ≠ []) (hangle : 0x3C ∉ raw)
    (hhead : ∀ b ∈ raw.head?, isSpace b = false) (hlast : ∀ b ∈ raw.getLast?, isSpace b = false) :
    next opened (front ++ (raw ++ (back ++ 0x3C :: rest))) =
      .event (.text raw) opened (0x3C :: rest) := by
  have htrim : trimEndBy isSpace (raw ++ back) = raw := by
    rw [trimEndBy_append hback, trimEndBy_eq_self hlast]
  have hback' : 0x3C ∉ back := fun hin => absurd (hback _ hin) (by decide)
  obtain ⟨b, bs, rfl⟩ := List.exists_cons_of_ne_nil hne
  obtain ⟨hb, hbs⟩ := not_or.1 (mt List.mem_cons.2 hangle)
  have hplain : ∀ c ∈ bs ++ back, (c != 0x3C) = true :=
    bne_of_notMem fun hin => (List.mem_append.1 hin).elim hbs hback'
  rw [next_skip hfront, List.cons_append, next_run (hhead b rfl) (Ne.symm hb), ← List.append_assoc,
    takeWhile_mark hplain rfl, dropWhile_mark hplain rfl, ← List.cons_append, htrim]

end Tags

/-! ### Attributes -/

/-- An attribute as it is written: after a blank, its value escaped and in quotes. -/
def writeAttribute (a : String × String) : List Char :=
  ' ' :: (a.1.toList ++ '=' :: '"' :: (escape a.2.toList ++ ['"']))

/-- Attributes as they are written. -/
def writeAttributes (attributes : List (String × String)) : String :=
  String.ofList (attributes.flatMap writeAttribute)

/-- An attribute as it is read. -/
def rawAttribute (a : String × String) : Attribute :=
  ⟨encodeString a.1, encode (escape a.2.toList)⟩

theorem encode_cons_ascii {c : Char} (h : c.toNat < 0x80) (cs : List Char) :
    encode (c :: cs) = UInt8.ofNat c.toNat :: encode cs := by
  rw [Utf8.encode_cons, Utf8.encodeChar_ascii h]
  rfl

/-- The bytes of an attribute. -/
theorem encode_writeAttribute (a : String × String) :
    encode (writeAttribute a) =
      0x20 :: (encodeString a.1 ++ 0x3D :: 0x22 :: (encode (escape a.2.toList) ++ [0x22])) := by
  unfold writeAttribute
  rw [encode_cons_ascii (by decide), encode_append, encode_cons_ascii (by decide),
    encode_cons_ascii (by decide), encode_append, encode_cons_ascii (by decide)]
  rfl

theorem encodeString_writeAttributes_cons (a : String × String)
    (attributes : List (String × String)) :
    encodeString (writeAttributes (a :: attributes)) =
      encode (writeAttribute a) ++ encodeString (writeAttributes attributes) := by
  simp [encodeString, writeAttributes]

theorem quote_notMem_value (s : String) : 0x22 ∉ encode (escape s.toList) := fun h =>
  notMem_escape (by decide) _ (Utf8.ascii_mem_encode h (by decide))

theorem angle_notMem_value (s : String) : 0x3C ∉ encode (escape s.toList) := fun h =>
  notMem_escape (by decide) _ (Utf8.ascii_mem_encode h (by decide))

variable {attributes : List (String × String)}

theorem attributeBytes_write (h : ∀ a ∈ attributes, isTagName a.1.toList = true) :
    AttributeBytes (encodeString (writeAttributes attributes)) := by
  induction attributes with
  | nil => exact attributeBytes_nil
  | cons a attributes ih =>
    have htail := ih fun a' ha' => h a' (List.mem_cons_of_mem a ha')
    have hname := nameBytes_encode (h a List.mem_cons_self)
    have hclosed : Closed (encode (writeAttribute a)) := by
      have hblank : Closed [0x20] := closed_of_plain (by simp [isQuote])
      have hequals : Closed [0x3D] := closed_of_plain (by simp [isQuote])
      have hvalue := closed_quoted (quote_notMem_value a.2)
      have hall := (hblank.append (closed_name hname)).append (hequals.append hvalue)
      rw [encode_writeAttribute]
      simpa [encodeString] using hall
    refine ⟨?_, ?_, ?_⟩
    · rw [encodeString_writeAttributes_cons]
      exact hclosed.append htail.closed
    · intro b hb
      rw [encodeString_writeAttributes_cons, encode_writeAttribute] at hb
      cases hb
      rfl
    · -- the last byte is the closing quote of the last value
      rw [encodeString_writeAttributes_cons, List.getLast?_append]
      cases hlast : (encodeString (writeAttributes attributes)).getLast? with
      | none => simp [encode_writeAttribute, List.getLast?_cons, List.getLast?_append]
      | some b =>
        rw [← hlast]
        exact fun hslash => htail.unslashed (by simpa [hlast] using hslash)

/-- Scanning at the key of an attribute in quotes finds it and goes on behind it. -/
theorem scanAttribute_quoted {seen : List Bytes} {first : UInt8} {more value rest : Bytes}
    (hmore : ∀ b ∈ more, endsKey b = false) (hnew : first :: more ∉ seen) (hvalue : 0x22 ∉ value) :
    scanAttribute seen first (more ++ 0x3D :: 0x22 :: (value ++ 0x22 :: rest)) =
      ⟨some ⟨first :: more, value⟩, some (first :: more), rest⟩ := by
  have hkey : ∀ b ∈ more, (!endsKey b) = true := fun b hb => by simp [hmore b hb]
  -- the key ends at the equals sign, and the value at the second quote
  have htakeKey (tail : Bytes) : (more ++ 0x3D :: tail).takeWhile (!endsKey ·) = more :=
    takeWhile_mark hkey rfl tail
  have hdropKey (tail : Bytes) : (more ++ 0x3D :: tail).dropWhile (!endsKey ·) = 0x3D :: tail :=
    dropWhile_mark hkey rfl tail
  have htakeValue : (value ++ 0x22 :: rest).takeWhile (· != 0x22) = value :=
    takeWhile_mark (bne_of_notMem hvalue) rfl rest
  have hdropValue : (value ++ 0x22 :: rest).dropWhile (· != 0x22) = 0x22 :: rest :=
    dropWhile_mark (bne_of_notMem hvalue) rfl rest
  have hequals : isSpace 0x3D = false := rfl
  have hopening : isSpace 0x22 = false := rfl
  have hisQuote : isQuote 0x22 = true := rfl
  simp [scanAttribute, htakeKey, hdropKey, hequals, hopening, hisQuote, hnew, htakeValue,
    hdropValue]

theorem attributesFrom_writeAttribute {seen : List Bytes} {a : String × String} (rest : Bytes)
    (hname : isTagName a.1.toList = true) (hnew : encodeString a.1 ∉ seen) :
    attributesFrom seen (encode (writeAttribute a) ++ rest) =
      rawAttribute a :: attributesFrom (encodeString a.1 :: seen) rest := by
  have hbytes : NameBytes (encodeString a.1) := nameBytes_encode hname
  obtain ⟨first, more, hkey⟩ := List.exists_cons_of_ne_nil hbytes.ne_nil
  rw [hkey] at hbytes hnew
  have hfirst : isSpace first = false := hbytes.not_space first List.mem_cons_self
  have hmore : ∀ b ∈ more, endsKey b = false := by
    intro b hb
    have hin : b ∈ first :: more := List.mem_cons_of_mem first hb
    simp [endsKey, hbytes.not_space b hin, (hbytes.not_mark b hin).1]
  -- scanning begins behind the blank
  have hblank : isSpace 0x20 = true := rfl
  have hdrop : (encode (writeAttribute a) ++ rest).dropWhile isSpace =
      first :: (more ++ 0x3D :: 0x22 :: (encode (escape a.2.toList) ++ 0x22 :: rest)) := by
    rw [encode_writeAttribute, hkey]
    simp [hblank, hfirst]
  rw [attributesFrom]
  split
  · rename_i hnil
    rw [hdrop] at hnil
    cases hnil
  · rename_i first' rest' hcons
    rw [hdrop] at hcons
    cases hcons
    dsimp only
    rw [scanAttribute_quoted hmore hnew (quote_notMem_value a.2), rawAttribute, hkey]
    rfl

/-- Attributes with different names are read back. -/
theorem attributesFrom_write {seen : List Bytes}
    (hnames : ∀ a ∈ attributes, isTagName a.1.toList = true)
    (hdistinct : (attributes.map (·.1)).Nodup)
    (hnew : ∀ a ∈ attributes, encodeString a.1 ∉ seen) :
    attributesFrom seen (encodeString (writeAttributes attributes)) = attributes.map rawAttribute := by
  induction attributes generalizing seen with
  | nil =>
    rw [attributesFrom]
    rfl
  | cons a attributes ih =>
    rw [List.map_cons, List.nodup_cons] at hdistinct
    have htail : ∀ a' ∈ attributes, encodeString a'.1 ∉ encodeString a.1 :: seen := by
      intro a' ha' hin
      rcases List.mem_cons.1 hin with heq | hin
      · -- names with the same bytes would be equal
        exact hdistinct.1 (List.mem_map.2 ⟨a', ha', Utf8.encodeString_injective heq⟩)
      · exact hnew a' (List.mem_cons_of_mem a ha') hin
    rw [encodeString_writeAttributes_cons, attributesFrom_writeAttribute _
      (hnames a List.mem_cons_self) (hnew a List.mem_cons_self), List.map_cons,
      ih (fun a' ha' => hnames a' (List.mem_cons_of_mem a ha')) hdistinct.2 htail]

/-- The tag with this name and these attributes. -/
def writtenTag (name attributes : String) : Tag :=
  ⟨encodeString name, encodeString attributes⟩

/-- An attribute that was written is found by the part of its name after the prefix. -/
theorem attribute?_write {name : String} {a : String × String} {key : String}
    (hnames : ∀ a ∈ attributes, isTagName a.1.toList = true)
    (hdistinct : (attributes.map (·.1)).Nodup)
    (hfind : attributes.find? (fun a => localName (encodeString a.1) == key) = some a) :
    (writtenTag name (writeAttributes attributes)).attribute? key = some a.2 := by
  have hread : (writtenTag name (writeAttributes attributes)).attributes =
      attributes.map rawAttribute :=
    attributesFrom_write hnames hdistinct fun _ _ => List.not_mem_nil
  have hraw : (attributes.map rawAttribute).find? (fun a => localName a.key == key) =
      some (rawAttribute a) := by
    rw [List.find?_map]
    simp only [Function.comp_def, rawAttribute]
    rw [hfind]
    rfl
  rw [Tag.attribute?, hread, hraw]
  simp only [rawAttribute, characters_encode_escape, String.ofList_toList]

/-- The attributes of a tag that has only a name. -/
def nameAttribute (name : String) : String :=
  writeAttributes [("name", name)]

theorem attributeBytes_nameAttribute (name : String) :
    AttributeBytes (encodeString (nameAttribute name)) :=
  attributeBytes_write (by simp only [List.forall_mem_singleton]; decide)

theorem attribute?_nameAttribute (tag name : String) :
    (writtenTag tag (nameAttribute name)).attribute? "name" = some name := by
  have hlocal : localName (encodeString "name") = "name" := localName_encodeString (by decide)
  exact attribute?_write (a := ("name", name)) (by simp only [List.forall_mem_singleton]; decide)
    (by simp) (by simp [hlocal])

/-! ### Pieces -/

/-- An element that is written as an empty tag. -/
def emptyElement (name attributes : String) : List Char :=
  '<' :: name.toList ++ attributes.toList ++ ['/', '>']

/-- The events of an element around those of its content. -/
def elementEvents (name attributes : String) (content : List Event) : List Event :=
  .start (writtenTag name attributes) :: (content ++ [.close (encodeString name)])

/-- A text is read as some events, whatever elements are open around it and whatever follows it. -/
def Reads (cs : List Char) (es : List Event) : Prop :=
  ∀ (opened : List Bytes) (rest : Bytes), readFrom opened (encode cs ++ rest) =
    ⟨es ++ (readFrom opened rest).events, (readFrom opened rest).failure⟩

theorem reads_nil : Reads [] [] := fun _ _ => rfl

theorem Reads.append {cs ds : List Char} {es fs : List Event} (hc : Reads cs es)
    (hd : Reads ds fs) : Reads (cs ++ ds) (es ++ fs) := by
  intro opened rest
  rw [encode_append, List.append_assoc, hc, hd, List.append_assoc]

theorem Reads.flatMap {α : Type} {xs : List α} {f : α → List Char} {g : α → List Event}
    (h : ∀ x ∈ xs, Reads (f x) (g x)) : Reads (xs.flatMap f) (xs.flatMap g) := by
  induction xs with
  | nil => exact reads_nil
  | cons x xs ih =>
    exact (h x List.mem_cons_self).append (ih fun y hy => h y (List.mem_cons_of_mem x hy))

@[simp] theorem encode_cons_open (cs : List Char) : encode ('<' :: cs) = 0x3C :: encode cs := rfl

@[simp] theorem encode_cons_end (cs : List Char) : encode ('>' :: cs) = 0x3E :: encode cs := rfl

@[simp] theorem encode_cons_slash (cs : List Char) : encode ('/' :: cs) = 0x2F :: encode cs := rfl

variable {name attrs : String} {content : List Char} {es : List Event}

/-- An element is read as its tags around what its content is read as up to the end tag. -/
theorem reads_elementWith (hname : isTagName name.toList = true)
    (hattr : AttributeBytes (encodeString attrs))
    (hcontent : ∀ opened rest, readFrom opened (encode content ++ 0x3C :: rest) =
      ⟨es ++ (readFrom opened (0x3C :: rest)).events, (readFrom opened (0x3C :: rest)).failure⟩) :
    Reads (Soap.elementWith name attrs content)
      (elementEvents name attrs es) := by
  intro opened rest
  have hbytes : NameBytes (encodeString name) := nameBytes_encode hname
  have hwritten : encode (Soap.elementWith name attrs content) ++ rest =
      0x3C :: (encodeString name ++ (encodeString attrs ++ 0x3E :: (encode content ++
        0x3C :: 0x2F :: (encodeString name ++ 0x3E :: rest)))) := by
    simp [Soap.elementWith, encodeString]
  rw [hwritten, readFrom_of_next (next_start hbytes hattr), hcontent,
    readFrom_of_next (next_close hbytes)]
  simp [elementEvents, writtenTag]

/-- An element is read as its tags around what its content is read as. -/
theorem Reads.elementWith (hname : isTagName name.toList = true)
    (hattr : AttributeBytes (encodeString attrs)) (hcontent : Reads content es) :
    Reads (Soap.elementWith name attrs content)
      (elementEvents name attrs es) :=
  reads_elementWith hname hattr fun opened rest => hcontent opened (0x3C :: rest)

theorem Reads.element (hname : isTagName name.toList = true) (hcontent : Reads content es) :
    Reads (Soap.element name content)
      (elementEvents name "" es) :=
  Reads.elementWith hname attributeBytes_nil hcontent

theorem reads_emptyElement (hname : isTagName name.toList = true)
    (hattr : AttributeBytes (encodeString attrs)) :
    Reads (emptyElement name attrs) [.empty (writtenTag name attrs)] := by
  intro opened rest
  have hbytes : NameBytes (encodeString name) := nameBytes_encode hname
  have hwritten : encode (emptyElement name attrs) ++ rest =
      0x3C :: (encodeString name ++ (encodeString attrs ++ 0x2F :: 0x3E :: rest)) := by
    simp [emptyElement, encodeString]
  rw [hwritten, readFrom_of_next (next_empty hbytes hattr)]
  rfl

/-- The events of a text. An empty one gives none. -/
def textEvents (s : String) : List Event :=
  if s = "" then [] else [.text (encode (escape s.toList))]

/-- Text up to the next markup is read without the white space at its ends. -/
theorem readFrom_text (value : String) (opened : List Bytes) (rest : Bytes) :
    readFrom opened (encode (escape value.toList) ++ 0x3C :: rest) =
      ⟨textEvents (trimSpaces value) ++ (readFrom opened (0x3C :: rest)).events,
        (readFrom opened (0x3C :: rest)).failure⟩ := by
  obtain ⟨front, back, hvalue, hfront, hback⟩ := exists_trimBy isSpaceChar value.toList
  have hbytes : encode (escape value.toList) = encode (escape front) ++
      (encode (escape (trimSpaces value).toList) ++ encode (escape back)) := by
    rw [trimSpaces, String.toList_ofList, ← encode_append, ← encode_append, ← escape_append,
      ← escape_append, ← hvalue]
  unfold textEvents
  by_cases hempty : trimSpaces value = ""
  · -- only white space stands before the markup
    rw [if_pos hempty, hbytes, hempty, List.append_assoc, List.append_assoc]
    exact (readFrom_skip (isSpace_of_mem_encode_escape hfront) _).trans
      (readFrom_skip (isSpace_of_mem_encode_escape hback) _)
  · have hne : encode (escape (trimSpaces value).toList) ≠ [] :=
      Utf8.encode_ne_nil (escape_ne_nil fun hnil => hempty (String.toList_injective hnil))
    have htrimmed := isTrimmed_trimSpaces value
    rw [if_neg hempty, hbytes, List.append_assoc, List.append_assoc,
      readFrom_of_next (next_text (isSpace_of_mem_encode_escape hfront)
        (isSpace_of_mem_encode_escape hback) hne (angle_notMem_value _)
        (fun _ => isSpace_head?_escape htrimmed) fun _ => isSpace_getLast?_escape htrimmed)]
    rfl

/-- An element that holds a text is read as its tags around what the reader leaves of that text. -/
theorem reads_leaf_trimSpaces (hname : isTagName name.toList = true) (value : String) :
    Reads (Soap.leaf name value) (elementEvents name "" (textEvents (trimSpaces value))) :=
  reads_elementWith hname attributeBytes_nil fun opened rest => readFrom_text value opened rest

/-- An element that holds a text without white space at its ends is read as its tags around that
text. -/
theorem reads_leaf {value : String} (hname : isTagName name.toList = true)
    (hvalue : isTrimmed value.toList = true) :
    Reads (Soap.leaf name value)
      (elementEvents name "" (textEvents value)) := by
  have h := reads_leaf_trimSpaces hname value
  rwa [trimSpaces_eq_self hvalue] at h

/-- A document that is read as some events, and that begins with a markup, has no other ones. -/
theorem read_of_reads {cs : List Char} (h : Reads ('<' :: cs) es) :
    read (encode ('<' :: cs)) = ⟨es, none⟩ := by
  -- no byte order mark is cut off
  have hmark : withoutMark (encode ('<' :: cs)) = encode ('<' :: cs) ++ [] := by
    rw [encode_cons_open, List.append_nil]
    rfl
  have hfinished : readFrom [] [] = ⟨[], none⟩ := by
    rw [readFrom]
    rfl
  rw [read, hmark, h, hfinished, List.append_nil]

end OlapClient.Markup
