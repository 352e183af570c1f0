import OlapClient.Proofs.Markup.Escape
import OlapClient.Proofs.Result
import OlapClient.Proofs.Text.Mark

namespace OlapClient

/-!
# Character data in two parts

Character data that is cut into two parts, neither inside a character nor inside a reference, has
the text of the first part and then that of the second. A failure tells the place in the whole where
it went wrong, so only what is read is compared, as an option.

* `Utf8.chars?_append` — the characters of two parts.
* `Markup.resolved?_append` — the references of two parts.
* `Markup.CutsBetween`, `Markup.text?_append` — the text of two parts.
* `Markup.cutsBetween_of_text?` — what can be read can be cut off.
-/

namespace Utf8

variable {bs rest more : Bytes} {c : Char} {n : Nat}

/-! ### Characters -/

/-- Whatever a leading byte announces, the bytes that follow it are continuation bytes. -/
theorem lead?_range {b : UInt8} {lead : Lead} (h : lead? b = some lead) :
    0x80 ≤ lead.low ∧ lead.high ≤ 0xBF := by
  unfold lead? at h
  repeat' split at h
  all_goals cases h
  all_goals decide

theorem front_append_char (h : front bs = .char c rest) (more : Bytes) :
    front (bs ++ more) = .char c (rest ++ more) := by
  unfold front at h
  repeat' split at h
  all_goals cases h
  all_goals simp only [List.cons_append, front, *, if_true, if_false, Bool.false_eq_true,
    Nat.reduceEqDiff]

theorem front_append_malformed (h : front bs = .malformed n rest) (more : Bytes) :
    front (bs ++ more) = .malformed n (rest ++ more) := by
  unfold front at h
  repeat' split at h
  all_goals cases h
  all_goals simp only [List.cons_append, front, *, if_true, if_false, Bool.false_eq_true]

theorem out_of_range {b d : UInt8} {lead : Lead} (hlead : lead? b = some lead)
    (hd : isContinuation d = false) : d < lead.low ∨ lead.high < d := by
  obtain ⟨hlow, hhigh⟩ := lead?_range hlead
  simp only [isContinuation, Bool.and_eq_false_iff, decide_eq_false_iff_not, UInt8.not_le] at hd
  simp only [UInt8.le_iff_toNat_le, UInt8.lt_iff_toNat_lt] at *
  omega

/-- A character that is begun does not go on with a byte that continues none. -/
theorem front_append_cut (h : front bs = .cut) {b : UInt8} (hb : isContinuation b = false)
    (more : Bytes) :
    ∃ n rest, front (bs ++ b :: more) = .malformed n rest := by
  unfold front at h
  repeat' split at h
  all_goals cases h
  -- one case for each number of bytes that are there
  · have hrange := out_of_range ‹lead? _ = some _› hb
    exact ⟨1, b :: more, by
      simp only [List.cons_append, List.nil_append, front, *, if_true, if_false]⟩
  · exact ⟨2, b :: more, by
      simp only [List.cons_append, List.nil_append, front, *, if_true, if_false, Bool.not_false]⟩
  · exact ⟨3, b :: more, by
      simp only [List.cons_append, List.nil_append, front, *, if_true, if_false, Bool.not_false,
        Bool.false_eq_true]⟩

theorem decodeFrom_of_char (index : Nat) (h : front bs = .char c rest) :
    decodeFrom index bs = (decodeFrom (index + c.utf8Size) rest).map (c :: ·) := by
  rw [decodeFrom]
  split <;> rename_i heq <;> rw [h] at heq <;> cases heq
  rfl

theorem decodeFrom_of_malformed (index : Nat) (h : front bs = .malformed n rest) :
    decodeFrom index bs = .error ⟨index, some n⟩ := by
  rw [decodeFrom]
  split <;> rename_i heq <;> rw [h] at heq <;> cases heq
  rfl

theorem decodeFrom_of_cut (index : Nat) (h : front bs = .cut) :
    decodeFrom index bs = .error ⟨index, none⟩ := by
  rw [decodeFrom]
  split <;> rename_i heq <;> rw [h] at heq <;> cases heq

theorem eq_nil_of_finished (h : front bs = .finished) : bs = [] := by
  unfold front at h
  repeat' split at h
  all_goals first | rfl | cases h

/-- The characters of a byte sequence that is UTF-8. -/
def chars? (bs : Bytes) : Option (List Char) :=
  (decode bs).toOption

/-- Where the first byte stands in the input matters only to a failure. -/
theorem toOption_decodeFrom (index : Nat) (bs : Bytes) :
    (decodeFrom index bs).toOption = chars? bs := by
  suffices h : ∀ index', (decodeFrom index bs).toOption = (decodeFrom index' bs).toOption from h 0
  fun_induction decodeFrom index bs with
  | case1 index bs h =>
    intro index'
    cases eq_nil_of_finished h
    rw [decodeFrom]
    rfl
  | case2 index bs c rest h _ ih =>
    intro index'
    rw [decodeFrom_of_char index' h, Except.toOption_map, Except.toOption_map, ih]
  | case3 index bs n rest h =>
    intro index'
    rw [decodeFrom_of_malformed index' h]
    rfl
  | case4 index bs h =>
    intro index'
    rw [decodeFrom_of_cut index' h]
    rfl

@[simp] theorem chars?_nil : chars? [] = some [] := by
  rw [chars?, decode, decodeFrom]
  rfl

theorem chars?_of_char (h : front bs = .char c rest) : chars? bs = (chars? rest).map (c :: ·) := by
  rw [← toOption_decodeFrom 0, decodeFrom_of_char 0 h, Except.toOption_map, toOption_decodeFrom]

theorem chars?_of_malformed (h : front bs = .malformed n rest) : chars? bs = none := by
  rw [← toOption_decodeFrom 0, decodeFrom_of_malformed 0 h]
  rfl

theorem chars?_of_cut (h : front bs = .cut) : chars? bs = none := by
  rw [← toOption_decodeFrom 0, decodeFrom_of_cut 0 h]
  rfl

/-- The characters of two parts. Where the first is not UTF-8, the second may not begin inside a
character. -/
theorem chars?_append (h : chars? bs = none → ∀ b ∈ more.head?, isContinuation b = false) :
    chars? (bs ++ more) = (chars? bs).bind fun cs => (chars? more).map (cs ++ ·) := by
  -- by induction on the first part, as it is read character by character
  induction hlength : bs.length using Nat.strongRecOn generalizing bs with
  | ind n ih =>
    cases hfront : front bs with
    | finished =>
      cases eq_nil_of_finished hfront
      simp
    | char c rest =>
      rw [chars?_of_char hfront] at h ⊢
      have hrest := ih rest.length (hlength ▸ front_char_lt hfront)
        (fun hnone => h (by rw [hnone]; rfl)) rfl
      rw [chars?_of_char (front_append_char hfront more), hrest]
      cases chars? rest with
      | none => rfl
      | some cs => cases chars? more <;> rfl
    | malformed width rest =>
      rw [chars?_of_malformed hfront, chars?_of_malformed (front_append_malformed hfront more)]
      rfl
    | cut =>
      have hnone := chars?_of_cut hfront
      rw [hnone]
      cases more with
      | nil => rw [List.append_nil, hnone]; rfl
      | cons b more =>
        obtain ⟨width, rest, hmalformed⟩ := front_append_cut hfront (h hnone b rfl) more
        rw [chars?_of_malformed hmalformed]
        rfl

end Utf8

namespace Markup

variable {cs ds : List Char} {left right : Bytes}

/-! ### References -/

/-- A text begins with a reference, with one that is not ended, or with neither. -/
theorem reference_cases (cs : List Char) :
    cs = [] ∨ (∃ c rest, cs = c :: rest ∧ c ≠ '&') ∨
      (∃ name rest, cs = '&' :: (name ++ ';' :: rest) ∧ ∀ c ∈ name, (!endsName c) = true) ∨
      ∃ name rest, cs = '&' :: (name ++ rest) ∧ (∀ c ∈ name, (!endsName c) = true) ∧
        ∀ c ∈ rest.head?, c = '&' := by
  cases cs with
  | nil => exact .inl rfl
  | cons c rest =>
    by_cases hc : c = '&'
    · subst hc
      have hrest : rest = rest.takeWhile (!endsName ·) ++ rest.dropWhile (!endsName ·) :=
        List.takeWhile_append_dropWhile.symm
      have hname : ∀ c ∈ rest.takeWhile (!endsName ·), (!endsName c) = true :=
        fun c => of_mem_takeWhile
      cases hdrop : rest.dropWhile (!endsName ·) with
      | nil =>
        rw [hdrop] at hrest
        exact .inr (.inr (.inr ⟨_, [], by rw [← hrest], hname, by simp⟩))
      | cons d after =>
        rw [hdrop] at hrest
        have hd : endsName d = true := by
          have := of_mem_head?_dropWhile
            (show d ∈ (rest.dropWhile (!endsName ·)).head? by rw [hdrop]; rfl)
          simpa using this
        by_cases hsemicolon : d = ';'
        · subst hsemicolon
          exact .inr (.inr (.inl ⟨_, after, by rw [← hrest], hname⟩))
        · refine .inr (.inr (.inr ⟨_, d :: after, by rw [← hrest], hname, fun c hc => ?_⟩))
          cases hc
          simpa [endsName, hsemicolon] using hd
    · exact .inr (.inl ⟨c, rest, rfl, hc⟩)

section Single

variable {name rest : List Char} {c : Char} (total start : Nat)

/-- What is read of a text that begins with a reference. -/
theorem unescapeFrom_named (hname : ∀ c ∈ name, (!endsName c) = true) (rest : List Char) :
    unescapeFrom total start ('&' :: (name ++ ';' :: rest)) =
      (resolve start name).bind fun d =>
        (unescapeFrom total (start + 2 + Utf8.size name) rest).map (d :: ·) := by
  cases hd : resolve start name with
  | ok d => exact unescapeFrom_reference name hname hd
  | error e =>
    have htake : (name ++ ';' :: rest).takeWhile (!endsName ·) = name :=
      takeWhile_mark hname rfl rest
    have hdrop : (name ++ ';' :: rest).dropWhile (!endsName ·) = ';' :: rest :=
      dropWhile_mark hname rfl rest
    rw [unescapeFrom, if_pos rfl]
    dsimp only
    split
    · rw [htake, hd]
      rfl
    · rename_i hnone
      exact absurd hdrop (hnone rest)

theorem unescapeFrom_unended (hname : ∀ c ∈ name, (!endsName c) = true)
    (hrest : ∀ c ∈ rest.head?, c = '&') :
    unescapeFrom total start ('&' :: (name ++ rest)) = .error (.unterminated start total) := by
  have hdrop : (name ++ rest).dropWhile (!endsName ·) = rest := by
    rw [List.dropWhile_append_of_pos hname]
    exact dropWhile_eq_self fun c hc => by rw [hrest c hc]; rfl
  rw [unescapeFrom, if_pos rfl]
  dsimp only
  split
  · rename_i after hafter
    rw [hdrop] at hafter
    subst hafter
    cases hrest ';' rfl
  · rfl

end Single

/-- The text that a text with references stands for, if they can be read. -/
def resolved? (cs : List Char) : Option (List Char) :=
  (unescape cs).toOption

theorem toOption_resolve (start start' : Nat) (name : List Char) :
    (resolve start name).toOption = (resolve start' name).toOption := by
  unfold resolve
  dsimp only
  split
  · rename_i digits
    cases codePoint digits with
    | error e => rfl
    | ok n =>
      by_cases hzero : n = 0
      · simp only [hzero, bind, Except.bind, if_true]
        rfl
      · simp only [hzero, bind, Except.bind, if_false]
  · repeat' split
    all_goals rfl

theorem toOption_bind {ε α β : Type} (x : Except ε α) (f : α → Except ε β) :
    (x.bind f).toOption = x.toOption.bind fun a => (f a).toOption := by
  cases x <;> rfl

/-- Where the text stands in the whole matters only to a failure. -/
theorem toOption_unescapeFrom (total start : Nat) (cs : List Char) :
    (unescapeFrom total start cs).toOption = resolved? cs := by
  suffices h : ∀ total' start', (unescapeFrom total start cs).toOption =
      (unescapeFrom total' start' cs).toOption from h _ 0
  intro total' start'
  induction hlength : cs.length using Nat.strongRecOn generalizing cs start start' with
  | ind n ih =>
    rcases reference_cases cs with rfl | ⟨c, rest, rfl, hc⟩ | ⟨name, rest, rfl, hname⟩ |
      ⟨name, rest, rfl, hname, hrest⟩
    · rw [unescapeFrom, unescapeFrom]
    · rw [unescapeFrom_plain hc, unescapeFrom_plain hc, Except.toOption_map, Except.toOption_map,
        ih rest.length (by simp at hlength; omega) _ rest _ rfl]
    · rw [unescapeFrom_named _ _ hname, unescapeFrom_named _ _ hname, toOption_bind, toOption_bind,
        toOption_resolve start start']
      simp only [Except.toOption_map]
      rw [ih rest.length (by simp at hlength; omega) _ rest _ rfl]
    · rw [unescapeFrom_unended _ _ hname hrest, unescapeFrom_unended _ _ hname hrest]
      rfl

section Resolved

variable {name rest : List Char} {c : Char}

@[simp] theorem resolved?_nil : resolved? [] = some [] := by
  rw [resolved?, unescape, unescapeFrom]
  rfl

theorem resolved?_plain (hc : c ≠ '&') (rest : List Char) :
    resolved? (c :: rest) = (resolved? rest).map (c :: ·) := by
  rw [← toOption_unescapeFrom 0 0, unescapeFrom_plain hc, Except.toOption_map,
    toOption_unescapeFrom]

theorem resolved?_named (hname : ∀ c ∈ name, (!endsName c) = true) (rest : List Char) :
    resolved? ('&' :: (name ++ ';' :: rest)) =
      (resolve 0 name).toOption.bind fun d => (resolved? rest).map (d :: ·) := by
  rw [← toOption_unescapeFrom 0 0, unescapeFrom_named _ _ hname, toOption_bind]
  simp only [Except.toOption_map, toOption_unescapeFrom]

theorem resolved?_unended (hname : ∀ c ∈ name, (!endsName c) = true)
    (hrest : ∀ c ∈ rest.head?, c = '&') : resolved? ('&' :: (name ++ rest)) = none := by
  rw [← toOption_unescapeFrom 0 0, unescapeFrom_unended _ _ hname hrest]
  rfl

end Resolved

/-- Behind every `&` there is a `;`, so that no reference goes on behind the text. -/
def EndsReferences (cs : List Char) : Prop :=
  ∀ before after, cs = before ++ '&' :: after → ';' ∈ after

theorem EndsReferences.of_append (before : List Char) (h : EndsReferences (before ++ cs)) :
    EndsReferences cs := by
  rintro front after rfl
  exact h (before ++ front) after (by rw [List.append_assoc])

/-- The references of two parts, of which the first ends those that it begins. -/
theorem resolved?_append (h : EndsReferences cs) (ds : List Char) :
    resolved? (cs ++ ds) = (resolved? cs).bind fun as => (resolved? ds).map (as ++ ·) := by
  -- by induction on the first part, as it is read reference by reference
  induction hlength : cs.length using Nat.strongRecOn generalizing cs with
  | ind n ih =>
    rcases reference_cases cs with rfl | ⟨c, rest, rfl, hc⟩ | ⟨name, rest, rfl, hname⟩ |
      ⟨name, rest, rfl, hname, hrest⟩
    · simp
    · have htail := ih rest.length (by simp at hlength; omega)
        (EndsReferences.of_append [c] h) rfl
      rw [List.cons_append, resolved?_plain hc, resolved?_plain hc, htail]
      cases resolved? rest with
      | none => rfl
      | some as => cases resolved? ds <;> rfl
    · have htail := ih rest.length (by simp at hlength; omega)
        (EndsReferences.of_append ('&' :: (name ++ [';'])) (by simpa using h)) rfl
      rw [List.cons_append, List.append_assoc, List.cons_append, resolved?_named hname,
        resolved?_named hname, htail]
      cases (resolve 0 name).toOption with
      | none => rfl
      | some d =>
        cases resolved? rest with
        | none => rfl
        | some as => cases resolved? ds <;> rfl
    · -- the semicolon behind the `&` stands behind another one
      have hsemicolon : ';' ∈ rest := by
        have := h [] (name ++ rest) rfl
        rcases List.mem_append.1 this with hin | hin
        · exact absurd (hname ';' hin) (by decide)
        · exact hin
      obtain ⟨b, rest, rfl⟩ := List.exists_cons_of_ne_nil (List.ne_nil_of_mem hsemicolon)
      have hmore : ∀ c ∈ (b :: (rest ++ ds)).head?, c = '&' := fun c hc => hrest c hc
      rw [resolved?_unended hname hrest, List.cons_append, List.append_assoc, List.cons_append,
        resolved?_unended hname hmore]
      rfl

/-! ### Texts -/

/-- The text of raw character data, if it can be read. -/
def text? (raw : Bytes) : Option String :=
  (characters raw).toOption

theorem text?_eq (raw : Bytes) :
    text? raw = (Utf8.chars? raw).bind fun cs => (resolved? cs).map String.ofList := by
  unfold text? characters Utf8.chars? resolved?
  cases Utf8.decode raw with
  | error e => rfl
  | ok cs => cases hcs : unescape cs <;> simp [hcs, Except.toOption]

/-- What is read has no reference that is not ended. -/
theorem endsReferences_of_resolved? (h : resolved? cs = some ds) : EndsReferences cs := by
  induction hlength : cs.length using Nat.strongRecOn generalizing cs ds with
  | ind n ih =>
    rcases reference_cases cs with rfl | ⟨c, rest, rfl, hc⟩ | ⟨name, rest, rfl, hname⟩ |
      ⟨name, rest, rfl, hname, hrest⟩
    · intro before after heq
      simp at heq
    · rw [resolved?_plain hc] at h
      obtain ⟨ds', hds', -⟩ := Option.map_eq_some_iff.1 h
      have htail := ih rest.length (by simp at hlength; omega) hds' rfl
      intro before after heq
      cases before with
      | nil => exact absurd (List.cons.inj heq).1 hc
      | cons b before => exact htail before after (List.cons.inj heq).2
    · rw [resolved?_named hname] at h
      obtain ⟨d, -, hd⟩ := Option.bind_eq_some_iff.1 h
      obtain ⟨ds', hds', -⟩ := Option.map_eq_some_iff.1 hd
      have htail := ih rest.length (by simp at hlength; omega) hds' rfl
      intro before after heq
      cases before with
      | nil => simp [← (List.cons.inj heq).2]
      | cons b before =>
        -- another `&` stands behind the semicolon, since none is in the name
        rcases List.append_eq_append_iff.1 (List.cons.inj heq).2 with
          ⟨more, rfl, hmore⟩ | ⟨more, rfl, hmore⟩
        · cases more with
          | nil => cases hmore
          | cons c more => exact htail more after (List.cons.inj hmore).2
        · cases more with
          | nil => cases hmore
          | cons c more =>
            obtain ⟨rfl, -⟩ := List.cons.inj hmore
            exact absurd (hname '&' (by simp)) (by decide)
    · rw [resolved?_unended hname hrest] at h
      cases h

/-- Raw character data can be cut between two parts: neither a character nor a reference goes on
behind the first. -/
structure CutsBetween (left right : Bytes) : Prop where
  character : Utf8.chars? left = none → ∀ b ∈ right.head?, Utf8.isContinuation b = false
  reference : ∀ cs, Utf8.chars? left = some cs → EndsReferences cs

/-- **The text of two parts is that of the first and then that of the second.** -/
theorem text?_append (h : CutsBetween left right) :
    text? (left ++ right) = (text? left).bind fun s => (text? right).map (s ++ ·) := by
  rw [text?_eq, text?_eq, text?_eq, Utf8.chars?_append h.character]
  cases hleft : Utf8.chars? left with
  | none => rfl
  | some cs =>
    cases Utf8.chars? right with
    | none => cases hcs : resolved? cs <;> simp [hcs]
    | some ds =>
      simp only [Option.bind_some, Option.map_some]
      rw [resolved?_append (h.reference cs hleft)]
      cases resolved? cs with
      | none => rfl
      | some as =>
        cases resolved? ds with
        | none => rfl
        | some bs => simp [String.ofList_append]

/-- What can be read can be cut off. -/
theorem cutsBetween_of_text? {s : String} (h : text? left = some s) (right : Bytes) :
    CutsBetween left right := by
  rw [text?_eq] at h
  obtain ⟨cs, hcs, hs⟩ := Option.bind_eq_some_iff.1 h
  obtain ⟨ds, hds, -⟩ := Option.map_eq_some_iff.1 hs
  refine ⟨fun hnone => ?_, fun cs' hcs' => ?_⟩
  · rw [hcs] at hnone
    cases hnone
  · rw [hcs] at hcs'
    cases hcs'
    exact endsReferences_of_resolved? hds

end Markup

end OlapClient
