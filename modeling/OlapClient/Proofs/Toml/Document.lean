import OlapClient.Proofs.Toml.Quoted
import OlapClient.Toml.Document

namespace OlapClient.Toml

/-!
# Documents are read back

A document that is written line by line is read line by line: what a line is read as does not depend
on what follows it.

* `readKeyPart_writeKey`, `readKey_one`, `readKey_two` — keys of one part and of two.
* `readEntry_entryLine` — an entry whose value is a string.
* `putEntry_of_new`, `openLast_of_new`, `within_head` — what entries and headers do to a tree.
* `Draft.ReadsAs` — that a text is read as lines that turn one draft into another.
* `Draft.readsAs_blank`, `Draft.readsAs_entry`, `Draft.readsAs_header` — the lines.
* `readDocument_of_readsAs` — a whole document.
-/

variable {rest : List Char}

/-! ### Keys -/

/-- What may follow a part of a key: nothing that belongs to a key without quotes. -/
def EndsKey (rest : List Char) : Prop :=
  ∀ c ∈ rest.head?, isBareKey c = false

theorem readKeyPart_bare {cs : List Char} (hne : cs ≠ []) (hbare : ∀ c ∈ cs, isBareKey c = true)
    (h : EndsKey rest) : readKeyPart (cs ++ rest) = some (String.ofList cs, rest) := by
  have hdrop : (cs ++ rest).dropWhile isBareKey = rest := by
    rw [List.dropWhile_append_of_pos hbare, dropWhile_eq_self h]
  unfold readKeyPart
  split
  · rename_i heq
    obtain ⟨c, cs, rfl⟩ := List.exists_cons_of_ne_nil hne
    cases heq
    exact absurd (hbare '"' List.mem_cons_self) (by decide)
  · rename_i heq
    obtain ⟨c, cs, rfl⟩ := List.exists_cons_of_ne_nil hne
    cases heq
    exact absurd (hbare '\'' List.mem_cons_self) (by decide)
  · simp only [takeWhile_front hbare h, if_neg hne, hdrop]

/-- A key in quotes is in quotes on one line. -/
theorem readKeyPart_write {form : Form} {cs : List Char} (hfits : form.Fits cs)
    (hform : form = .quoted ∨ form = .literal) (rest : List Char) :
    readKeyPart (form.write cs ++ rest) = some (String.ofList cs, rest) := by
  rcases hform with rfl | rfl
  · have hwrite : Form.write .quoted cs ++ rest = '"' :: (escapeLine cs ++ '"' :: rest) := by
      simp [Form.write, Form.quotes, Form.content]
    rw [hwrite, readKeyPart, readQuoted_escapeLine]
    rfl
  · have hwrite : Form.write .literal cs ++ rest = '\'' :: (cs ++ '\'' :: rest) := by
      simp [Form.write, Form.quotes, Form.content]
    rw [hwrite, readKeyPart, readLiteral_self (onOneLine_iff.1 hfits.1) hfits.2]
    rfl

theorem keyForm_cases (cs : List Char) : keyForm cs = .quoted ∨ keyForm cs = .literal := by
  unfold keyForm
  split
  · exact .inl rfl
  split
  · exact .inr rfl
  · exact .inl rfl

/-- A string as a key is read up to where it ends. -/
theorem readKeyPart_writeKey (s : String) (h : EndsKey rest) :
    readKeyPart (writeKey s ++ rest) = some (s, rest) := by
  unfold writeKey
  dsimp only
  split
  · rename_i hbare
    rw [readKeyPart_bare hbare.1 (List.all_eq_true.1 hbare.2) h, String.ofList_toList]
  · rw [readKeyPart_write (fits_keyForm _) (keyForm_cases _), String.ofList_toList]

/-- A key begins with a quote or a character that needs none. -/
theorem exists_writeKey (s : String) :
    ∃ c more, writeKey s = c :: more ∧ (isBareKey c = true ∨ c = '"' ∨ c = '\'') := by
  unfold writeKey
  dsimp only
  split
  · rename_i hbare
    obtain ⟨c, more, hcs⟩ := List.exists_cons_of_ne_nil hbare.1
    refine ⟨c, more, hcs, .inl (List.all_eq_true.1 hbare.2 c ?_)⟩
    rw [hcs]
    exact List.mem_cons_self
  · obtain hform | hform := keyForm_cases s.toList
    · rw [hform]
      exact ⟨'"', _, rfl, .inr (.inl rfl)⟩
    · rw [hform]
      exact ⟨'\'', _, rfl, .inr (.inr rfl)⟩

theorem head_writeKey {p : Char → Bool} (hbare : ∀ c, isBareKey c = true → p c = false)
    (hquotes : p '"' = false ∧ p '\'' = false) (s : String) (rest : List Char) :
    ∀ c ∈ (writeKey s ++ rest).head?, p c = false := by
  obtain ⟨c, more, hkey, hc⟩ := exists_writeKey s
  rw [hkey]
  rintro d hd
  cases hd
  rcases hc with hc | rfl | rfl
  · exact hbare c hc
  · exact hquotes.1
  · exact hquotes.2

theorem isSpace_of_isBareKey (c : Char) (h : isBareKey c = true) : isSpace c = false := by
  refine Bool.eq_false_iff.2 fun hspace => ?_
  rw [isSpace, Bool.or_eq_true, beq_iff_eq, beq_iff_eq] at hspace
  rcases hspace with rfl | rfl <;> exact absurd h (by decide)

theorem skipSpace_writeKey (s : String) (rest : List Char) :
    skipSpace (writeKey s ++ rest) = writeKey s ++ rest :=
  dropWhile_eq_self (head_writeKey isSpace_of_isBareKey ⟨rfl, rfl⟩ s rest)

theorem readKeyParts_last {limit : Nat} (s : String) (h : EndsKey rest)
    (hpoint : ∀ more, skipSpace rest ≠ '.' :: more) :
    readKeyParts (limit + 1) (writeKey s ++ rest) = some ([s], skipSpace rest) := by
  simp only [readKeyParts, skipSpace_writeKey, readKeyPart_writeKey s h]

theorem readKeyParts_more {limit : Nat} (s : String) (rest : List Char) :
    readKeyParts (limit + 1) (writeKey s ++ '.' :: rest) =
      (readKeyParts limit rest).map fun p => (s :: p.1, p.2) := by
  have h : EndsKey ('.' :: rest) := by
    intro c hc
    cases hc
    rfl
  simp only [readKeyParts, skipSpace_writeKey, readKeyPart_writeKey s h]
  rfl

/-- A key of one part, up to the equals sign of its entry. -/
theorem readKey_entry (s : String) (rest : List Char) :
    readKey (writeKey s ++ ' ' :: '=' :: rest) = some ([s], '=' :: rest) := by
  refine readKeyParts_last s (fun c hc => ?_) fun more heq => ?_
  · cases hc
    rfl
  · have := (List.cons.inj heq).1
    cases this

/-- A key of one part, up to the bracket of its header. -/
theorem readKey_one (s : String) (rest : List Char) :
    readKey (writeKey s ++ ']' :: rest) = some ([s], ']' :: rest) := by
  refine readKeyParts_last s (fun c hc => ?_) fun more heq => ?_
  · cases hc
    rfl
  · have := (List.cons.inj heq).1
    cases this

/-- A key of two parts, up to the bracket of its header. -/
theorem readKey_two (s t : String) (rest : List Char) :
    readKey (writeKey s ++ '.' :: (writeKey t ++ ']' :: rest)) = some ([s, t], ']' :: rest) := by
  have ht : readKeyParts 78 (writeKey t ++ ']' :: rest) = some ([t], ']' :: rest) := by
    refine readKeyParts_last t (fun c hc => ?_) fun more heq => ?_
    · cases hc
      rfl
    · have := (List.cons.inj heq).1
      cases this
  rw [readKey, depthLimit, readKeyParts_more, ht]
  rfl

/-! ### Entries -/

/-- A string as a value begins with a quote. -/
theorem exists_writeString (s : String) :
    ∃ c more, writeString s = c :: more ∧ (c = '"' ∨ c = '\'') := by
  unfold writeString Form.write
  cases valueForm s.toList
  · exact ⟨'"', _, rfl, .inl rfl⟩
  · exact ⟨'\'', _, rfl, .inr rfl⟩
  · exact ⟨'"', _, rfl, .inl rfl⟩
  · exact ⟨'\'', _, rfl, .inr rfl⟩

theorem readValue_writeString (limit : Nat) (s : String) (h : EndsString rest) :
    readValue limit depthLimit (writeString s ++ rest) = some (.string s, rest) := by
  have hread := readString_writeString s h
  obtain ⟨c, more, hwrite, hc⟩ := exists_writeString s
  -- a quote begins neither an array nor a table nor a boolean
  have hsimple : readValue limit depthLimit (c :: (more ++ rest)) =
      readSimple (c :: (more ++ rest)) := by
    rcases hc with rfl | rfl <;> rfl
  rw [hwrite, List.cons_append] at hread ⊢
  rw [hsimple, readSimple]
  · simp only [hread, String.ofList_toList]
  · rintro more heq
    rcases hc with rfl | rfl <;> cases heq
  · rintro more heq
    rcases hc with rfl | rfl <;> cases heq

/-- A line that holds an entry. -/
def entryLine (key value : String) : List Char :=
  writeKey key ++ " = ".toList ++ writeString value ++ ['\n']

theorem readEntry_entryLine (limit : Nat) (key value : String) (rest : List Char) :
    readEntry (readValue limit depthLimit) (entryLine key value ++ rest) =
      some (([key], .string value), '\n' :: rest) := by
  have hline : entryLine key value ++ rest =
      writeKey key ++ ' ' :: '=' :: ' ' :: (writeString value ++ '\n' :: rest) := by
    simp [entryLine]
  have hspace : skipSpace (' ' :: (writeString value ++ '\n' :: rest)) =
      writeString value ++ '\n' :: rest := by
    obtain ⟨c, more, hwrite, hc⟩ := exists_writeString value
    rw [hwrite]
    rcases hc with rfl | rfl <;> rfl
  have hend : EndsString ('\n' :: rest) := by
    intro c hc
    cases hc
    decide
  rw [hline, readEntry, readKey_entry]
  simp only [hspace, readValue_writeString limit value hend, Option.map_some]

/-! ### Trees -/

theorem Entries.find?_head (key : String) (node : Node) (es : Entries) :
    Entries.find? ((key, node) :: es) key = some node := by
  simp [Entries.find?]

theorem Entries.find?_tail {key key' : String} (h : key ≠ key') (node : Node) (es : Entries) :
    Entries.find? ((key, node) :: es) key' = es.find? key' := by
  rw [Entries.find?, List.lookup_cons, beq_eq_false_iff_ne.2 h.symm]
  rfl

theorem Entries.put_of_new {es : Entries} {key : String} (h : es.find? key = none) (node : Node) :
    es.put key node = (key, node) :: es := by
  rw [Entries.put, h]
  rfl

theorem Entries.put_head (key : String) (old node : Node) (es : Entries) :
    Entries.put ((key, old) :: es) key node = (key, node) :: es := by
  rw [Entries.put, Entries.find?_head]
  simp [Entries.replace]

theorem putEntry_of_new {es : Entries} {key : String} (h : es.find? key = none) (node : Node) :
    putEntry es [key] node = some ((key, node) :: es) := by
  rw [putEntry, List.getLast?_singleton]
  simp [putKey, h, Entries.put_of_new h]

/-- The latest table is changed in its place. -/
theorem within_head {origin : Origin} (h : origin ≠ .braces) (f : Entries → Option Entries)
    (key : String) (path : List String) (old es : Entries) :
    within f ((key, .table origin old) :: es) (key :: path) =
      (within f old path).map fun new => (key, .table origin new) :: es := by
  rw [within, Entries.find?_head]
  simp only [if_neg h, Entries.put_head]

theorem openLast_of_new {es : Entries} {key : String} (h : es.find? key = none) :
    openLast key es = some ((key, .table .header []) :: es) := by
  rw [openLast, h]
  simp only [Entries.put_of_new h]

/-! ### Lines -/

namespace Draft

variable {limit : Nat} {d d' d'' : Draft} {text more : List Char}

/-- A text is read as lines that turn one draft into another, whatever follows it. No text has more
lines than characters. -/
def ReadsAs (limit : Nat) (d d' : Draft) (text : List Char) : Prop :=
  ∀ lines rest, (text ++ rest).length < lines →
    ∃ lines', rest.length < lines' ∧
      readLines limit lines d (text ++ rest) = readLines limit lines' d' rest

namespace ReadsAs

theorem refl (limit : Nat) (d : Draft) : ReadsAs limit d d [] :=
  fun lines _ hlines => ⟨lines, hlines, rfl⟩

theorem append (h : ReadsAs limit d d' text) (h' : ReadsAs limit d' d'' more) :
    ReadsAs limit d d'' (text ++ more) := by
  intro lines rest hlines
  rw [List.append_assoc] at hlines ⊢
  obtain ⟨lines', hlines', heq⟩ := h lines (more ++ rest) hlines
  obtain ⟨lines'', hlines'', heq'⟩ := h' lines' rest hlines'
  exact ⟨lines'', hlines'', heq.trans heq'⟩

/-- A line is read whatever follows it if it is read as a line, and does not begin with a blank. -/
theorem of_readLine (hne : text ≠ []) (hspace : ∀ c ∈ text.head?, isSpace c = false)
    (h : ∀ rest, d.readLine limit (text ++ rest) = some (d', rest)) : ReadsAs limit d d' text := by
  intro lines rest hlines
  obtain ⟨c, line, rfl⟩ := List.exists_cons_of_ne_nil hne
  cases lines with
  | zero => exact absurd hlines (Nat.not_lt_zero _)
  | succ lines =>
    have hskip : skipSpace (c :: (line ++ rest)) = c :: (line ++ rest) := dropWhile_eq_self hspace
    have hread := h rest
    refine ⟨lines, ?_, ?_⟩
    · simp only [List.cons_append, List.length_cons, List.length_append] at hlines
      omega
    · rw [List.cons_append] at hread ⊢
      rw [readLines, hskip]
      simp only [hread]

/-- The last draft is what the whole text is read as. -/
theorem readLines_eq (h : ReadsAs limit d d' text) {lines : Nat} (hlines : text.length < lines) :
    readLines limit lines d text = some d' := by
  obtain ⟨lines', hlines', heq⟩ := h lines [] (by rwa [List.append_nil])
  rw [List.append_nil] at heq
  rw [heq]
  cases lines' with
  | zero => exact absurd hlines' (Nat.not_lt_zero _)
  | succ lines' => rfl

end ReadsAs

theorem readsAs_blank (limit : Nat) (d : Draft) : ReadsAs limit d d ['\n'] :=
  .of_readLine (by simp) (by simp [isSpace]) fun _ => rfl

theorem readLine_table {c : Char} (h : c ≠ '[') (d : Draft) (cs : List Char) :
    d.readLine limit ('[' :: c :: cs) = d.readHeader openTable [']'] (c :: cs) := by
  unfold readLine
  split
  · rename_i heq
    cases heq
    exact absurd rfl h
  · rename_i heq
    cases heq
    rfl
  · rename_i heq
    cases heq
  · rename_i heq
    cases heq
  · rename_i htable _ _
    exact absurd rfl (htable _)

/-- A line that begins with a key is one with an entry. -/
theorem readLine_writeKey (d : Draft) (key : String) (rest : List Char) :
    d.readLine limit (writeKey key ++ rest) = d.readEntryLine limit (writeKey key ++ rest) := by
  obtain ⟨c, more, hkey, hc⟩ := exists_writeKey key
  have hmarks : c ≠ '[' ∧ c ≠ '#' ∧ c ≠ '\n' := by
    rcases hc with hbare | rfl | rfl
    · refine ⟨?_, ?_, ?_⟩ <;> rintro rfl <;> exact absurd hbare (by decide)
    · decide
    · decide
  rw [hkey, List.cons_append]
  unfold readLine
  split
  · rename_i heq
    exact absurd (List.cons.inj heq).1 hmarks.1
  · rename_i heq
    exact absurd (List.cons.inj heq).1 hmarks.1
  · rename_i heq
    exact absurd (List.cons.inj heq).1 hmarks.2.1
  · rename_i heq
    exact absurd (List.cons.inj heq).1 hmarks.2.2
  · rfl

/-- A line with an entry puts it into the current table. -/
theorem readsAs_entry {key value : String} (h : d.put [key] (.string value) = some d') :
    ReadsAs limit d d' (entryLine key value) := by
  refine .of_readLine (by simp [entryLine]) ?_ fun rest => ?_
  · have hhead := head_writeKey isSpace_of_isBareKey ⟨rfl, rfl⟩ key
      (" = ".toList ++ writeString value ++ ['\n'])
    simpa [entryLine] using hhead
  · have hline : d.readLine limit (entryLine key value ++ rest) =
        d.readEntryLine limit (entryLine key value ++ rest) := by
      rw [entryLine, List.append_assoc, List.append_assoc, List.append_assoc]
      exact readLine_writeKey d key _
    rw [hline, readEntryLine, readEntry_entryLine]
    have hend : readLineEnd ('\n' :: rest) = some rest := rfl
    simp only [Option.bind_eq_bind, Option.bind_some, hend, h]
    rfl

theorem head_writeKey_ne_bracket (key : String) (rest : List Char) :
    ∀ c ∈ (writeKey key ++ rest).head?, c ≠ '[' := by
  have hbare (c : Char) (h : isBareKey c = true) : (c == '[') = false := by
    rw [beq_eq_false_iff_ne]
    rintro rfl
    exact absurd h (by decide)
  intro c hc
  exact beq_eq_false_iff_ne.1 (head_writeKey (p := (· == '[')) hbare (by decide) key rest c hc)

/-- The header of a table opens it. -/
theorem readsAs_header {header : List Char} {path : List String}
    (hkey : ∀ rest, readKey (header ++ ']' :: rest) = some (path, ']' :: rest))
    (hhead : ∀ rest, ∀ c ∈ (header ++ rest).head?, c ≠ '[')
    (h : d.enter openTable path = some d') :
    ReadsAs limit d d' ('[' :: (header ++ "]\n".toList)) := by
  refine .of_readLine (List.cons_ne_nil _ _) (by simp [isSpace]) fun rest => ?_
  have hline : '[' :: (header ++ "]\n".toList) ++ rest = '[' :: (header ++ ']' :: '\n' :: rest) := by
    simp
  have htable : d.readLine limit ('[' :: (header ++ ']' :: '\n' :: rest)) =
      d.readHeader openTable [']'] (header ++ ']' :: '\n' :: rest) := by
    cases header with
    | nil => exact readLine_table (by decide) d _
    | cons c header => exact readLine_table (hhead [] c rfl) d _
  have hend : readLineEnd ('\n' :: rest) = some rest := rfl
  rw [hline, htable, readHeader, hkey]
  simp [hend, h]

/-- The header of a table in the outermost one. -/
theorem readsAs_header_one {key : String} (h : d.enter openTable [key] = some d') :
    ReadsAs limit d d' ('[' :: (writeKey key ++ "]\n".toList)) :=
  readsAs_header (readKey_one key) (head_writeKey_ne_bracket key) h

/-- The header of a table in another one. -/
theorem readsAs_header_two {key below : String} (h : d.enter openTable [key, below] = some d') :
    ReadsAs limit d d' ('[' :: (writeKey key ++ '.' :: writeKey below ++ "]\n".toList)) := by
  refine readsAs_header (fun rest => ?_) (fun rest => ?_) h
  · rw [List.append_assoc, List.cons_append]
    exact readKey_two key below rest
  · rw [List.append_assoc]
    exact head_writeKey_ne_bracket key _

end Draft

/-! ### Documents -/

theorem joinBreaks_eq_self {cs : List Char} (h : '\r' ∉ cs) : joinBreaks cs = cs := by
  induction cs with
  | nil => rfl
  | cons c cs ih =>
    have hc : c ≠ '\r' := fun heq => h (heq ▸ List.mem_cons_self)
    have htail := ih fun hin => h (List.mem_cons_of_mem c hin)
    rw [joinBreaks, htail]
    rintro rest rfl heq
    exact hc rfl

/-- The tree of a document that has no carriage return, and no mark of its byte order. -/
theorem readDocument_of_readsAs {d : Draft} {cs : List Char} (hreturn : '\r' ∉ cs)
    (hmark : ∀ c ∈ cs.head?, c ≠ '\uFEFF') (h : Draft.ReadsAs (cs.length + 1) {} d cs) :
    readDocument cs = some d.root := by
  have htext : withoutMark cs = cs := by
    unfold withoutMark
    split
    · exact absurd rfl (hmark _ rfl)
    · rfl
  unfold readDocument
  simp only [htext, joinBreaks_eq_self hreturn]
  rw [h.readLines_eq (Nat.lt_succ_self _)]
  rfl

end OlapClient.Toml
