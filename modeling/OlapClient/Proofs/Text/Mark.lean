import OlapClient.Text.Utf8

namespace OlapClient

/-!
# Texts up to a mark

* `append_mark_inj` — a text without a mark, the mark and what follows can be told apart again.
* `takeWhile_mark`, `dropWhile_mark` — what stands before the first mark, and from it on.
* `Utf8.encode_injective` — texts with the same bytes are equal.
-/

/-- What stands before the first mark is determined, and so is what follows it. -/
theorem append_mark_inj {α : Type} {mark : α} {xs ys us vs : List α} (hx : mark ∉ xs)
    (hy : mark ∉ ys) (h : xs ++ mark :: us = ys ++ mark :: vs) : xs = ys ∧ us = vs := by
  induction xs generalizing ys with
  | nil =>
    cases ys with
    | nil => exact ⟨rfl, (List.cons.inj h).2⟩
    | cons y ys => exact absurd ((List.cons.inj h).1 ▸ List.mem_cons_self) hy
  | cons x xs ih =>
    cases ys with
    | nil => exact absurd ((List.cons.inj h).1 ▸ List.mem_cons_self) hx
    | cons y ys =>
      obtain ⟨rfl, htail⟩ := List.cons.inj h
      obtain ⟨rfl, rfl⟩ := ih (fun hin => hx (List.mem_cons_of_mem _ hin))
        (fun hin => hy (List.mem_cons_of_mem _ hin)) htail
      exact ⟨rfl, rfl⟩

section Marks

variable {α : Type} {p : α → Bool} {mark : α} {xs : List α}

/-- What stands before the first element that fails a test. -/
theorem takeWhile_mark (hxs : ∀ x ∈ xs, p x = true) (hmark : p mark = false) (ys : List α) :
    (xs ++ mark :: ys).takeWhile p = xs := by
  have hneg : ¬p mark = true := by simp [hmark]
  rw [List.takeWhile_append_of_pos hxs, List.takeWhile_cons_of_neg hneg, List.append_nil]

/-- What stands from the first element on that fails a test. -/
theorem dropWhile_mark (hxs : ∀ x ∈ xs, p x = true) (hmark : p mark = false) (ys : List α) :
    (xs ++ mark :: ys).dropWhile p = mark :: ys := by
  have hneg : ¬p mark = true := by simp [hmark]
  rw [List.dropWhile_append_of_pos hxs, List.dropWhile_cons_of_neg hneg]

/-- What stands before an element that fails a test, where one follows at all. -/
theorem takeWhile_front {ys : List α} (hxs : ∀ x ∈ xs, p x = true)
    (hys : ∀ y ∈ ys.head?, p y = false) : (xs ++ ys).takeWhile p = xs := by
  cases ys with
  | nil => rw [List.takeWhile_append_of_pos hxs, List.takeWhile_nil, List.append_nil]
  | cons y ys => exact takeWhile_mark hxs (hys y rfl) ys

theorem bne_of_notMem [BEq α] [LawfulBEq α] (h : mark ∉ xs) : ∀ x ∈ xs, (x != mark) = true := by
  intro x hx
  have hne : x ≠ mark := fun heq => h (heq ▸ hx)
  simpa using hne

end Marks

/-- Texts with the same bytes are equal. -/
theorem Utf8.encode_injective {cs ds : List Char} (h : Utf8.encode cs = Utf8.encode ds) :
    cs = ds := by
  have hbytes : cs.utf8Encode = ds.utf8Encode := congrArg List.toByteArray h
  have hstring : String.ofList cs = String.ofList ds := String.toByteArray_inj.1 hbytes
  have hlist := congrArg String.toList hstring
  rwa [String.toList_ofList, String.toList_ofList] at hlist

/-- Strings with the same bytes are equal. -/
theorem Utf8.encodeString_injective {s t : String} (h : Utf8.encodeString s = Utf8.encodeString t) :
    s = t :=
  String.toList_injective (Utf8.encode_injective h)

end OlapClient
