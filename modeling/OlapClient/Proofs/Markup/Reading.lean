import OlapClient.Markup.Event
import OlapClient.Proofs.Text.Ends
import OlapClient.Proofs.Text.Mark

namespace OlapClient.Markup

/-!
# Steps of the reader

* `readFrom_of_finished`, `readFrom_of_failed`, `readFrom_of_next` — what is read, by the first event.
* `next_skip`, `readFrom_skip` — white space before an event is passed over.
* `next_split` — an event that something follows depends on what it was read from, and on the first
  byte after that.
-/

variable {opened opened' : List Bytes} {input bs rest : Bytes} {e : Event} {es : List Event}
  {failure : Option SyntaxError}

/-! ### What is read, by the first event -/

theorem Reading.eq_mk {r : Reading} (hevents : r.events = es) (hfailure : r.failure = failure) :
    r = ⟨es, failure⟩ := by
  rw [← hevents, ← hfailure]

theorem readFrom_of_finished (h : next opened input = .finished) :
    readFrom opened input = ⟨[], none⟩ := by
  rw [readFrom]
  split <;> rename_i heq <;> rw [h] at heq
  all_goals cases heq

theorem readFrom_of_failed {error : SyntaxError} (h : next opened input = .failed error) :
    readFrom opened input = ⟨[], some error⟩ := by
  rw [readFrom]
  split <;> rename_i heq <;> rw [h] at heq <;> cases heq
  rfl

theorem readFrom_of_next (h : next opened input = .event e opened' rest) :
    readFrom opened input =
      ⟨e :: (readFrom opened' rest).events, (readFrom opened' rest).failure⟩ := by
  rw [readFrom]
  split <;> rename_i heq <;> rw [h] at heq <;> cases heq
  rfl

theorem readFrom_eq_cons (h : readFrom opened input = ⟨e :: es, failure⟩) :
    ∃ opened' rest, next opened input = .event e opened' rest ∧
      readFrom opened' rest = ⟨es, failure⟩ := by
  cases hnext : next opened input with
  | finished =>
    rw [readFrom_of_finished hnext] at h
    cases h
  | failed error =>
    rw [readFrom_of_failed hnext] at h
    cases h
  | event e' opened' rest =>
    rw [readFrom_of_next hnext] at h
    cases h
    exact ⟨opened', rest, rfl, rfl⟩

/-! ### White space -/

section Space

variable {front : Bytes} (hfront : ∀ b ∈ front, isSpace b = true) (input : Bytes)
include hfront

/-- White space before an event is passed over. -/
theorem next_skip : next opened (front ++ input) = next opened input := by
  unfold next
  rw [List.dropWhile_append_of_pos hfront]

theorem readFrom_skip : readFrom opened (front ++ input) = readFrom opened input := by
  have hskip : next opened (front ++ input) = next opened input := next_skip hfront input
  cases hnext : next opened input with
  | finished => rw [readFrom_of_finished hnext, readFrom_of_finished (hskip.trans hnext)]
  | failed error => rw [readFrom_of_failed hnext, readFrom_of_failed (hskip.trans hnext)]
  | event e opened' rest => rw [readFrom_of_next hnext, readFrom_of_next (hskip.trans hnext)]

end Space

/-! ### The first byte -/

theorem next_markup (bs : Bytes) : next opened (0x3C :: bs) = readMarkup opened bs := rfl

theorem next_run {b : UInt8} (hspace : isSpace b = false) (hangle : b ≠ 0x3C) (bs : Bytes) :
    next opened (b :: bs) = .event (.text (trimEndBy isSpace (b :: bs.takeWhile (· != 0x3C)))) opened
      (bs.dropWhile (· != 0x3C)) := by
  have hdrop : (b :: bs).dropWhile isSpace = b :: bs :=
    List.dropWhile_cons_of_neg (by simp [hspace])
  have htake : (b :: bs).takeWhile (· != 0x3C) = b :: bs.takeWhile (· != 0x3C) :=
    List.takeWhile_cons_of_pos (by simpa using hangle)
  simp only [next, hdrop, if_neg hangle, htake]

/-! ### Ends of markups

Each markup ends where it does for every rest, since its end is found in what stands before. Only a
tag or an instruction may go up to the end of the input in place of an angle, and then nothing is
left. -/

section Ends

variable {pattern content : Bytes}

/-- Whether a pattern begins here is seen in as many bytes. -/
theorem isPrefixOf_append (h : pattern.length ≤ bs.length) (rest : Bytes) :
    pattern.isPrefixOf (bs ++ rest) = pattern.isPrefixOf bs := by
  rw [Bool.eq_iff_iff, List.isPrefixOf_iff_prefix, List.isPrefixOf_iff_prefix]
  exact ⟨fun hp => List.prefix_of_prefix_length_le hp (List.prefix_append bs rest) h,
    fun hp => hp.trans (List.prefix_append bs rest)⟩

theorem breakOn_split (hne : pattern ≠ []) (h : breakOn pattern bs = some (content, rest)) :
    bs = content ++ (pattern ++ rest) ∧
      ∀ rest', breakOn pattern (content ++ (pattern ++ rest')) = some (content, rest') := by
  induction bs generalizing content with
  | nil =>
    rw [breakOn, if_neg hne] at h
    cases h
  | cons b bs ih =>
    rw [breakOn] at h
    split at h
    · rename_i hprefix
      cases h
      obtain ⟨rest, hrest⟩ := List.isPrefixOf_iff_prefix.1 hprefix
      rw [← hrest, List.drop_left]
      refine ⟨rfl, fun rest' => ?_⟩
      obtain ⟨p, ps, rfl⟩ := List.exists_cons_of_ne_nil hne
      have hhere : (p :: ps).isPrefixOf (p :: (ps ++ rest')) = true :=
        List.isPrefixOf_iff_prefix.2 (List.prefix_append (p :: ps) rest')
      rw [List.nil_append, List.cons_append, breakOn, if_pos hhere, ← List.cons_append,
        List.drop_left]
    · rename_i hprefix
      obtain ⟨⟨content', rest''⟩, hbreak, heq⟩ := Option.map_eq_some_iff.1 h
      cases heq
      obtain ⟨rfl, hall⟩ := ih hbreak
      refine ⟨rfl, fun rest' => ?_⟩
      -- the pattern does not begin here either if something else follows its first occurrence
      have hlength : pattern.length ≤ (b :: (content' ++ pattern)).length := by
        simp only [List.length_cons, List.length_append]
        omega
      have hnot : ¬pattern.isPrefixOf (b :: (content' ++ (pattern ++ rest'))) = true := by
        rw [← List.append_assoc, ← List.cons_append, isPrefixOf_append hlength] at hprefix ⊢
        exact hprefix
      rw [List.cons_append, breakOn, if_neg hnot, hall]
      rfl

theorem takeBalanced_split {depth : Nat} (h : takeBalanced depth bs = some (content, rest)) :
    bs = content ++ 0x3E :: rest ∧
      ∀ rest', takeBalanced depth (content ++ 0x3E :: rest') = some (content, rest') := by
  induction bs generalizing depth content with
  | nil => cases h
  | cons b bs ih =>
    rw [takeBalanced] at h
    split at h
    · rename_i hend
      cases h
      refine ⟨by rw [hend.1]; rfl, fun rest' => ?_⟩
      rw [List.nil_append, takeBalanced, if_pos ⟨rfl, hend.2⟩]
    · rename_i hend
      obtain ⟨⟨content', rest''⟩, hinner, heq⟩ := Option.map_eq_some_iff.1 h
      cases heq
      obtain ⟨rfl, hall⟩ := ih hinner
      refine ⟨rfl, fun rest' => ?_⟩
      rw [List.cons_append, takeBalanced, if_neg hend]
      simp only [hall, Option.map_some]

theorem takeTag_split {quote : Option UInt8} (h : takeTag quote bs = (content, rest))
    (hne : rest ≠ []) :
    bs = content ++ 0x3E :: rest ∧
      ∀ rest', takeTag quote (content ++ 0x3E :: rest') = (content, rest') := by
  induction bs generalizing quote content with
  | nil =>
    cases h
    exact absurd rfl hne
  | cons b bs ih =>
    cases quote with
    | some q =>
      simp only [takeTag, Prod.mk.injEq] at h
      obtain ⟨rfl, hrest⟩ := h
      obtain ⟨hbs, hall⟩ := ih (Prod.ext rfl hrest)
      refine ⟨by rw [List.cons_append, ← hbs], fun rest' => ?_⟩
      simp only [List.cons_append, takeTag, hall]
    | none =>
      by_cases hb : b = 0x3E
      · rw [takeTag, if_pos hb] at h
        cases h
        exact ⟨by rw [hb]; rfl, fun rest' => rfl⟩
      · simp only [takeTag, if_neg hb, Prod.mk.injEq] at h
        obtain ⟨rfl, hrest⟩ := h
        obtain ⟨hbs, hall⟩ := ih (Prod.ext rfl hrest)
        refine ⟨by rw [List.cons_append, ← hbs], fun rest' => ?_⟩
        simp only [List.cons_append, takeTag, if_neg hb, hall]

theorem notMem_beforeAngle (bs : Bytes) : 0x3E ∉ beforeAngle bs := by
  intro hin
  have := of_mem_takeWhile hin
  simp at this

theorem beforeAngle_mark (h : 0x3E ∉ content) (rest : Bytes) :
    beforeAngle (content ++ 0x3E :: rest) = content :=
  takeWhile_mark (bne_of_notMem h) rfl rest

theorem afterAngle_mark (h : 0x3E ∉ content) (rest : Bytes) :
    afterAngle (content ++ 0x3E :: rest) = rest := by
  rw [afterAngle, dropWhile_mark (bne_of_notMem h) rfl]
  rfl

/-- Where something follows the first angle, there is one. -/
theorem eq_beforeAngle_append (h : afterAngle bs ≠ []) :
    bs = beforeAngle bs ++ 0x3E :: afterAngle bs := by
  cases hdrop : bs.dropWhile (· != 0x3E) with
  | nil =>
    rw [afterAngle, hdrop] at h
    exact absurd rfl h
  | cons b after =>
    have hb : b = 0x3E := by
      have := of_mem_head?_dropWhile (show b ∈ (bs.dropWhile (· != 0x3E)).head? by rw [hdrop]; rfl)
      simpa using this
    rw [afterAngle, hdrop, ← hb, List.drop_one, List.tail_cons, ← hdrop, beforeAngle,
      List.takeWhile_append_dropWhile]

end Ends

/-! ### One event -/

/-- What a markup is read from, where something follows it: the same bytes are read as the same event
whatever follows them. -/
def Splits (read : Bytes → Outcome) (bs : Bytes) (e : Event) (opened' : List Bytes)
    (rest : Bytes) : Prop :=
  ∃ front, front ≠ [] ∧ bs = front ++ rest ∧
    ∀ rest', read (front ++ rest') = .event e opened' rest'

theorem readBang_cdata_split (h : readBang opened (0x5B :: bs) = .event e opened' rest) :
    Splits (readBang opened) (0x5B :: bs) e opened' rest := by
  rw [readBang, if_pos rfl] at h
  split at h
  · cases h
  · rename_i content rest hbreak
    split at h
    · rename_i hkeyword
      cases h
      obtain ⟨hbs, hall⟩ := breakOn_split (by simp) hbreak
      cases content with
      | nil => cases hkeyword
      | cons b content =>
        obtain ⟨rfl, hbs⟩ := List.cons.inj hbs
        refine ⟨0x5B :: (content ++ [0x5D, 0x5D, 0x3E]), by simp, by simp [hbs], fun rest' => ?_⟩
        have hbreak' := hall rest'
        rw [List.cons_append] at hbreak'
        rw [List.cons_append, List.append_assoc, readBang, if_pos rfl, hbreak']
        simp only [hkeyword, if_true]
    · cases h

theorem readBang_comment_split (h : readBang opened (0x2D :: bs) = .event e opened' rest) :
    Splits (readBang opened) (0x2D :: bs) e opened' rest := by
  rw [readBang, if_neg (by decide), if_pos rfl] at h
  split at h
  · cases h
  · rename_i content rest hbreak
    split at h
    · rename_i hdash
      cases h
      obtain ⟨hbs, hall⟩ := breakOn_split (by simp) hbreak
      cases bs with
      | nil => cases hdash
      | cons b bs =>
        obtain ⟨rfl, -⟩ := List.cons.inj hdash
        rw [List.drop_one, List.tail_cons] at hbs
        refine ⟨0x2D :: 0x2D :: (content ++ [0x2D, 0x2D, 0x3E]), by simp, by simp [hbs], fun rest' => ?_⟩
        rw [List.cons_append, List.cons_append, List.append_assoc, readBang, if_neg (by decide),
          if_pos rfl, List.drop_one, List.tail_cons, hall]
        rfl
    · cases h

theorem readBang_doctype_split {b : UInt8} (hb : b = 0x44 ∨ b = 0x64)
    (h : readBang opened (b :: bs) = .event e opened' rest) :
    Splits (readBang opened) (b :: bs) e opened' rest := by
  have hcdata : b ≠ 0x5B := by rcases hb with rfl | rfl <;> decide
  have hcomment : b ≠ 0x2D := by rcases hb with rfl | rfl <;> decide
  rw [readBang, if_neg hcdata, if_neg hcomment, if_pos hb] at h
  split at h
  · cases h
  · rename_i content rest hbalanced
    split at h
    · rename_i hkeyword
      obtain ⟨hbs, hall⟩ := takeBalanced_split hbalanced
      cases content with
      | nil => cases hkeyword
      | cons c content =>
        obtain ⟨rfl, hbs⟩ := List.cons.inj hbs
        split at h
        · cases h
        · rename_i name hname
          cases h
          refine ⟨b :: (content ++ [0x3E]), by simp, by simp [hbs], fun rest' => ?_⟩
          have hbalanced' := hall rest'
          rw [List.cons_append] at hbalanced'
          rw [List.cons_append, List.append_assoc, readBang, if_neg hcdata, if_neg hcomment,
            if_pos hb, List.singleton_append, hbalanced']
          simp only [hkeyword, if_true, hname]
    · cases h

theorem readBang_split (h : readBang opened bs = .event e opened' rest) :
    Splits (readBang opened) bs e opened' rest := by
  cases bs with
  | nil => cases h
  | cons b bs =>
    by_cases hcdata : b = 0x5B
    · subst hcdata
      exact readBang_cdata_split h
    by_cases hcomment : b = 0x2D
    · subst hcomment
      exact readBang_comment_split h
    by_cases hdoctype : b = 0x44 ∨ b = 0x64
    · exact readBang_doctype_split hdoctype h
    · rw [readBang, if_neg hcdata, if_neg hcomment, if_neg hdoctype] at h
      cases h

theorem readClose_split (h : readClose opened bs = .event e opened' rest) (hne : rest ≠ []) :
    Splits (readClose opened) bs e opened' rest := by
  cases opened with
  | nil => cases h
  | cons expected outer =>
    rw [readClose] at h
    split at h
    · rename_i hname
      cases h
      have hbs := eq_beforeAngle_append hne
      refine ⟨beforeAngle bs ++ [0x3E], by simp, by simpa using hbs, fun rest' => ?_⟩
      rw [List.append_assoc, List.singleton_append, readClose,
        beforeAngle_mark (notMem_beforeAngle bs), afterAngle_mark (notMem_beforeAngle bs)]
      exact if_pos hname
    · cases h

theorem readInstruction_split (h : readInstruction opened bs = .event e opened' rest)
    (hne : rest ≠ []) : Splits (readInstruction opened) bs e opened' rest := by
  rw [readInstruction] at h
  split at h
  · rename_i hmark
    cases h
    have hbs := eq_beforeAngle_append hne
    refine ⟨beforeAngle bs ++ [0x3E], by simp, by simpa using hbs, fun rest' => ?_⟩
    rw [List.append_assoc, List.singleton_append, readInstruction,
      beforeAngle_mark (notMem_beforeAngle bs), afterAngle_mark (notMem_beforeAngle bs)]
    exact if_pos hmark
  · cases h

theorem readTag_split (h : readTag opened bs = .event e opened' rest) (hne : rest ≠ []) :
    Splits (readTag opened) bs e opened' rest := by
  cases htake : takeTag none bs with
  | mk content after =>
    rw [readTag, htake] at h
    dsimp only at h
    have hafter : after = rest := by split at h <;> cases h <;> rfl
    subst hafter
    obtain ⟨hbs, hall⟩ := takeTag_split htake hne
    refine ⟨content ++ [0x3E], by simp, by simpa using hbs, fun rest' => ?_⟩
    rw [List.append_assoc, List.singleton_append, readTag, hall]
    dsimp only
    split at h <;> rename_i hlast <;> cases h
    · rw [if_pos hlast]
    · rw [if_neg hlast]

theorem readMarkup_split (h : readMarkup opened bs = .event e opened' rest) (hne : rest ≠ []) :
    Splits (readMarkup opened) bs e opened' rest := by
  cases bs with
  | nil => cases h
  | cons b bs =>
    rw [readMarkup] at h
    split at h
    · rename_i hbang
      obtain ⟨front, -, rfl, hall⟩ := readBang_split h
      refine ⟨b :: front, by simp, rfl, fun rest' => ?_⟩
      rw [List.cons_append, readMarkup, if_pos hbang, hall]
    rename_i hbang
    split at h
    · rename_i hslash
      obtain ⟨front, -, rfl, hall⟩ := readClose_split h hne
      refine ⟨b :: front, by simp, rfl, fun rest' => ?_⟩
      rw [List.cons_append, readMarkup, if_neg hbang, if_pos hslash, hall]
    rename_i hslash
    split at h
    · rename_i hquestion
      obtain ⟨front, -, rfl, hall⟩ := readInstruction_split h hne
      refine ⟨b :: front, by simp, rfl, fun rest' => ?_⟩
      rw [List.cons_append, readMarkup, if_neg hbang, if_neg hslash, if_pos hquestion, hall]
    · rename_i hquestion
      -- what a tag is read from begins with the byte that tells it from other markups
      obtain ⟨front, hfront, hbs, hall⟩ := readTag_split h hne
      obtain ⟨c, front, rfl⟩ := List.exists_cons_of_ne_nil hfront
      obtain ⟨rfl, rfl⟩ := List.cons.inj hbs
      refine ⟨b :: front, by simp, rfl, fun rest' => ?_⟩
      rw [List.cons_append, readMarkup, if_neg hbang, if_neg hslash, if_neg hquestion,
        ← List.cons_append, hall]

/-- An event that something follows depends on what it was read from, and on the first byte after
that: a run of text is ended by the angle that follows it. -/
theorem next_split (h : next opened input = .event e opened' rest) (hne : rest ≠ []) :
    ∃ front, input = front ++ rest ∧ ∀ rest', rest'.head? = rest.head? →
      next opened (front ++ rest') = .event e opened' rest' := by
  have hinput : input = input.takeWhile isSpace ++ input.dropWhile isSpace :=
    List.takeWhile_append_dropWhile.symm
  have hspace : ∀ b ∈ input.takeWhile isSpace, isSpace b = true := fun b => of_mem_takeWhile
  have hhead : ∀ b ∈ (input.dropWhile isSpace).head?, isSpace b = false :=
    fun b => of_mem_head?_dropWhile
  rw [hinput, next_skip hspace] at h
  generalize input.takeWhile isSpace = space at hinput hspace
  generalize input.dropWhile isSpace = bs at hinput hhead h
  -- white space before the event belongs to what it was read from
  suffices hafter : ∃ front, bs = front ++ rest ∧ ∀ rest', rest'.head? = rest.head? →
      next opened (front ++ rest') = .event e opened' rest' by
    obtain ⟨front, rfl, hall⟩ := hafter
    refine ⟨space ++ front, by rw [hinput, List.append_assoc], fun rest' hrest' => ?_⟩
    rw [List.append_assoc, next_skip hspace, hall rest' hrest']
  cases bs with
  | nil => cases h
  | cons b bs =>
    by_cases hangle : b = 0x3C
    · subst hangle
      rw [next_markup] at h
      obtain ⟨front, -, rfl, hall⟩ := readMarkup_split h hne
      exact ⟨0x3C :: front, rfl, fun rest' _ => hall rest'⟩
    · have hb : isSpace b = false := hhead b rfl
      rw [next_run hb hangle] at h
      cases h
      refine ⟨b :: bs.takeWhile (· != 0x3C), ?_, fun rest' hrest' => ?_⟩
      · rw [List.cons_append, List.takeWhile_append_dropWhile]
      · have hmark : rest'.head? = some 0x3C := by
          obtain ⟨c, after, hafter⟩ := List.exists_cons_of_ne_nil hne
          have hc := of_mem_head?_dropWhile
            (show c ∈ (bs.dropWhile (· != 0x3C)).head? by rw [hafter]; rfl)
          rw [hrest', hafter, List.head?_cons]
          simpa using hc
        obtain ⟨after, rfl⟩ := List.head?_eq_some_iff.1 hmark
        have htext : ∀ c ∈ bs.takeWhile (· != 0x3C), (c != 0x3C) = true :=
          fun c => of_mem_takeWhile
        rw [List.cons_append, next_run hb hangle, takeWhile_mark htext rfl,
          dropWhile_mark htext rfl]

end OlapClient.Markup
