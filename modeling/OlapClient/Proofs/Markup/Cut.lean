import OlapClient.Proofs.Markup.Content
import OlapClient.Proofs.Markup.Reading

namespace OlapClient.Markup

/-!
# Documents up to an end tag

What stands before a markup is read as the same events whatever markup follows it, so it is read as
these in a document that was cut later.

* `ReadsUpTo` — that a text is read as some events up to the next markup.
* `exists_readsUpTo` — what stands before a markup is.
* `ReadsUpTo.unique` — in one document these events end in one place.
* `next_endTag`, `exists_endTag` — an end tag is its name, white space, and an angle if one follows.
-/

variable {opened inside inside' outer : List Bytes} {input front front' tail tail' rest name : Bytes}
  {e : Event} {es fs : List Event} {failure : Option SyntaxError}

/-! ### Up to a markup -/

/-- A text that a markup follows is read as some events and then as that markup, with these elements
open, whatever it is. -/
def ReadsUpTo (front : Bytes) (es : List Event) (inside : List Bytes) : Prop :=
  ∀ rest, read (front ++ 0x3C :: rest) =
    ⟨es ++ (readFrom inside (0x3C :: rest)).events, (readFrom inside (0x3C :: rest)).failure⟩

/-- An event that is no text begins with an angle, behind white space. -/
theorem next_markup_split (hmarkup : ∀ raw, e ≠ .text raw)
    (h : next opened input = .event e outer rest) :
    ∃ space tail, input = space ++ 0x3C :: tail ∧ ∀ b ∈ space, isSpace b = true := by
  refine ⟨input.takeWhile isSpace, (input.dropWhile isSpace).tail, ?_, fun b => of_mem_takeWhile⟩
  unfold next at h
  split at h
  · cases h
  · rename_i b bs hdrop
    split at h
    · rename_i hangle
      rw [hdrop, List.tail_cons, ← hangle, ← hdrop, List.takeWhile_append_dropWhile]
    · cases h
      exact absurd rfl (hmarkup _)

/-- What stands before a markup is read without looking at what follows it. -/
theorem readFrom_up_to (hmarkup : ∀ raw, e ≠ .text raw)
    (h : readFrom opened input = ⟨es ++ e :: fs, failure⟩) :
    ∃ front tail inside, input = front ++ 0x3C :: tail ∧ openAfter opened es = some inside ∧
      (∀ rest, readFrom opened (front ++ 0x3C :: rest) =
        ⟨es ++ (readFrom inside (0x3C :: rest)).events,
          (readFrom inside (0x3C :: rest)).failure⟩) ∧
      readFrom inside (0x3C :: tail) = ⟨e :: fs, failure⟩ := by
  induction es generalizing opened input with
  | nil =>
    obtain ⟨outer, rest, hnext, -⟩ := readFrom_eq_cons h
    obtain ⟨space, tail, rfl, hspace⟩ := next_markup_split hmarkup hnext
    refine ⟨space, tail, opened, rfl, rfl, fun rest => readFrom_skip hspace _, ?_⟩
    rw [← readFrom_skip hspace]
    exact h
  | cons e' es ih =>
    obtain ⟨opened', after, hnext, hafter⟩ := readFrom_eq_cons h
    obtain ⟨front, tail, inside, rfl, hopen, hall, hclose⟩ := ih hafter
    -- the first event ends before the others, whose first byte stays as it is
    obtain ⟨first, rfl, hfirst⟩ := next_split hnext (by simp)
    refine ⟨first ++ front, tail, inside, by rw [List.append_assoc], ?_, fun rest => ?_, hclose⟩
    · rw [openAfter, next_nest? hnext]
      exact hopen
    · have hhead : (front ++ 0x3C :: rest).head? = (front ++ 0x3C :: tail).head? := by
        rw [List.head?_append, List.head?_append, List.head?_cons, List.head?_cons]
      rw [List.append_assoc, readFrom_of_next (hfirst _ hhead), hall]
      rfl

/-- The byte order mark that a document may begin with is not part of what a markup follows. -/
theorem exists_mark {body : Bytes} (h : withoutMark body = front ++ 0x3C :: tail) :
    ∃ mark, body = mark ++ (front ++ 0x3C :: tail) ∧
      ∀ rest, withoutMark (mark ++ (front ++ 0x3C :: rest)) = front ++ 0x3C :: rest := by
  unfold withoutMark at h
  split at h
  · subst h
    exact ⟨[0xEF, 0xBB, 0xBF], rfl, fun rest => rfl⟩
  · rename_i hnone
    subst h
    refine ⟨[], rfl, fun rest => ?_⟩
    rw [List.nil_append]
    unfold withoutMark
    split
    · rename_i hmark
      -- no byte of the mark is an angle, so it would stand before the markup
      rcases front with _ | ⟨a, _ | ⟨b, _ | ⟨c, front⟩⟩⟩ <;> simp_all
    · rfl

theorem exists_readsUpTo {body : Bytes} (hmarkup : ∀ raw, e ≠ .text raw)
    (h : read body = ⟨es ++ e :: fs, failure⟩) :
    ∃ front tail inside, body = front ++ 0x3C :: tail ∧ openAfter [] es = some inside ∧
      ReadsUpTo front es inside ∧ readFrom inside (0x3C :: tail) = ⟨e :: fs, failure⟩ := by
  have hread : readFrom [] (withoutMark body) = ⟨es ++ e :: fs, failure⟩ := h
  obtain ⟨front, tail, inside, hbody, hopen, hall, hclose⟩ := readFrom_up_to hmarkup hread
  obtain ⟨mark, rfl, hmark⟩ := exists_mark hbody
  refine ⟨mark ++ front, tail, inside, by rw [List.append_assoc], hopen, fun rest => ?_, hclose⟩
  rw [List.append_assoc, read, hmark, hall]

/-! ### One place -/

/-- Where a markup begins, the input does not end. -/
theorem readMarkup_ne_finished (b : UInt8) (bs : Bytes) :
    readMarkup opened (b :: bs) ≠ .finished := by
  intro h
  unfold readMarkup at h
  dsimp only at h
  split at h
  · unfold readBang at h
    repeat' split at h
    all_goals cases h
  split at h
  · unfold readClose at h
    dsimp only at h
    repeat' split at h
    all_goals cases h
  split at h
  · unfold readInstruction at h
    dsimp only at h
    split at h <;> cases h
  · unfold readTag at h
    dsimp only at h
    split at h <;> cases h

/-- A text that goes on with another markup is not read as the same events. -/
theorem ReadsUpTo.not_longer (h : ReadsUpTo front es inside)
    (h' : ReadsUpTo (front ++ 0x3C :: rest) es inside') : False := by
  have hend : readFrom inside' [0x3C] = ⟨[], none⟩ := readFrom_of_finished rfl
  -- up to the second angle no event is left, although the first begins a markup
  have hlonger := h' []
  rw [hend, List.append_assoc, List.cons_append, h, Reading.mk.injEq] at hlonger
  obtain ⟨hevents, hfailure⟩ := hlonger
  rw [List.append_right_inj] at hevents
  have hne : rest ++ [0x3C] ≠ [] := by simp
  obtain ⟨b, bs, hrest⟩ := List.exists_cons_of_ne_nil hne
  rw [hrest] at hevents hfailure
  cases hnext : next inside (0x3C :: b :: bs) with
  | finished => exact readMarkup_ne_finished b bs hnext
  | failed error =>
    rw [readFrom_of_failed hnext] at hfailure
    cases hfailure
  | event e opened' after =>
    rw [readFrom_of_next hnext] at hevents
    cases hevents

/-- In one document these events end in one place. -/
theorem ReadsUpTo.unique (h : ReadsUpTo front es inside) (h' : ReadsUpTo front' es inside')
    (heq : front ++ 0x3C :: tail = front' ++ 0x3C :: tail') : front = front' := by
  rcases List.append_eq_append_iff.1 heq with ⟨more, rfl, hmore⟩ | ⟨more, rfl, hmore⟩
  · cases more with
    | nil => rw [List.append_nil]
    | cons b more =>
      obtain ⟨rfl, -⟩ := List.cons.inj hmore
      exact (h.not_longer h').elim
  · cases more with
    | nil => rw [List.append_nil]
    | cons b more =>
      obtain ⟨rfl, -⟩ := List.cons.inj hmore
      exact (h'.not_longer h).elim

/-! ### End tags -/

/-- The bytes of an end tag up to its name. -/
def endTag (name : Bytes) : Bytes :=
  0x3C :: 0x2F :: name

/-- The content of an end tag is its name and white space, of which some may be missing. -/
theorem closingName_split {content : Bytes} (h : closingName content = name) :
    ∃ gap, content = name ++ gap ∧ (∀ b ∈ gap, isSpace b = true) ∧
      ∀ g, g <+: gap → closingName (name ++ g) = name := by
  have hcontent := h
  unfold closingName at h
  split at h
  · -- only white space, which counts as the name
    subst h
    refine ⟨[], by rw [List.append_nil], by simp, fun g hg => ?_⟩
    rw [List.prefix_nil.1 hg, List.append_nil]
    exact hcontent
  · rename_i b bs htrim
    rw [← htrim] at h
    obtain ⟨gap, hgap, hspace⟩ := exists_trimEndBy isSpace content
    have hlast : ∀ b ∈ name.getLast?, isSpace b = false := by
      rw [← h]
      exact fun b => of_mem_getLast?_trimEndBy
    rw [h] at hgap
    refine ⟨gap, hgap, hspace, fun g hg => ?_⟩
    have hname : trimEndBy isSpace (name ++ g) = b :: bs := by
      rw [trimEndBy_append fun b hb => hspace b (hg.subset hb), trimEndBy_eq_self hlast, ← h, htrim]
    simp only [closingName, hname]
    rw [← htrim, h]

theorem readMarkup_eq_close (h : readMarkup opened input = .event (.close name) outer rest) :
    ∃ bs, input = 0x2F :: bs ∧ opened = name :: outer ∧ closingName (beforeAngle bs) = name := by
  cases input with
  | nil => cases h
  | cons b bs =>
    rw [readMarkup] at h
    split at h
    · unfold readBang at h
      repeat' split at h
      all_goals cases h
    split at h
    · rename_i hslash
      cases opened with
      | nil => cases h
      | cons expected outer' =>
        rw [readClose] at h
        split at h
        · rename_i hname
          cases h
          exact ⟨bs, by rw [hslash], by rw [hname], rfl⟩
        · cases h
    split at h
    · rw [readInstruction] at h
      split at h <;> cases h
    · unfold readTag at h
      dsimp only at h
      split at h <;> cases h

/-- An end tag is its name, white space, and an angle if something follows. Up to anywhere behind its
name it is an end tag as well: the end of the input takes the place of the angle. -/
theorem exists_endTag
    (h : readFrom inside (0x3C :: tail) = ⟨.close name :: fs, failure⟩) :
    ∃ outer gap last, inside = name :: outer ∧
      0x3C :: tail = endTag name ++ (gap ++ last) ∧ (∀ b ∈ gap, isSpace b = true) ∧
      (∀ b ∈ last.head?, b = 0x3E) ∧
      ∀ g, g <+: gap → readFrom inside (endTag name ++ g) = ⟨[.close name], none⟩ := by
  obtain ⟨outer, rest, hnext, -⟩ := readFrom_eq_cons h
  rw [next_markup] at hnext
  obtain ⟨bs, rfl, rfl, hname⟩ := readMarkup_eq_close hnext
  obtain ⟨gap, hcontent, hspace, hcut⟩ := closingName_split hname
  refine ⟨outer, gap, bs.dropWhile (· != 0x3E), rfl, ?_, hspace, fun b hb => ?_, fun g hg => ?_⟩
  · rw [endTag, List.cons_append, List.cons_append, ← List.append_assoc, ← hcontent, beforeAngle,
      List.takeWhile_append_dropWhile]
  · simpa using of_mem_head?_dropWhile hb
  · have hangle : 0x3E ∉ name ++ g := fun hin =>
      notMem_beforeAngle bs (hcontent ▸ ((List.prefix_append_right_inj name).2 hg).subset hin)
    have hbefore : beforeAngle (name ++ g) = name ++ g := by
      rw [← List.append_nil (name ++ g), beforeAngle,
        List.takeWhile_append_of_pos (bne_of_notMem hangle)]
      rfl
    have hafter : afterAngle (name ++ g) = [] := by
      rw [← List.append_nil (name ++ g), afterAngle,
        List.dropWhile_append_of_pos (bne_of_notMem hangle)]
      rfl
    have hclose : next (name :: outer) (endTag name ++ g) = .event (.close name) outer [] := by
      show readClose (name :: outer) (name ++ g) = _
      rw [readClose, hbefore, hafter, if_pos (hcut g hg), hcut g hg]
    have hend : readFrom outer [] = ⟨[], none⟩ := readFrom_of_finished rfl
    rw [readFrom_of_next hclose, hend]

/-- What begins with a slash is read as the end tag of the innermost element, if it is read. -/
theorem readFrom_slash {bs : Bytes} (h : (readFrom (name :: outer) (0x3C :: 0x2F :: bs)).failure = none) :
    ∃ fs, (readFrom (name :: outer) (0x3C :: 0x2F :: bs)).events = .close name :: fs := by
  have hnext : next (name :: outer) (0x3C :: 0x2F :: bs) = readClose (name :: outer) bs := rfl
  rw [readClose] at hnext
  split at hnext
  · rename_i hname
    rw [hname] at hnext
    rw [readFrom_of_next hnext]
    exact ⟨_, rfl⟩
  · rw [readFrom_of_failed hnext] at h
    cases h

end OlapClient.Markup
