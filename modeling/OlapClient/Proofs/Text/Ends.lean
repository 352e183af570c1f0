import OlapClient.Text.Blank

namespace OlapClient

/-!
# The ends of texts

* `mem_head?_flatMap`, `mem_getLast?_flatMap` — the ends of a text that is written piece by piece.
* `trimEndBy_eq_self`, `trimBy_eq_self`, `trim_eq_self` — what trimming leaves alone.
* `exists_trimEndBy`, `exists_trimBy` — what trimming takes off.
* `of_mem_head?_trimBy`, `of_mem_getLast?_trimBy` — the ends of what trimming leaves.
* `head?_trimBy` — an element at the head that is not taken off.
-/

variable {α β : Type}

section Pieces

variable {f : α → List β} {as : List α} {b : β}

/-- Where no piece is empty, what stands first belongs to the first piece. -/
theorem mem_head?_flatMap (hf : ∀ a, f a ≠ []) (hb : b ∈ (as.flatMap f).head?) :
    ∃ a ∈ as.head?, b ∈ f a := by
  cases as with
  | nil => cases hb
  | cons a as =>
    refine ⟨a, rfl, ?_⟩
    obtain ⟨b₀, bs, ha⟩ := List.exists_cons_of_ne_nil (hf a)
    rw [List.flatMap_cons, ha] at hb
    cases hb
    rw [ha]
    exact List.mem_cons_self

/-- Where no piece is empty, what stands last belongs to the last piece. -/
theorem mem_getLast?_flatMap (hf : ∀ a, f a ≠ []) (hb : b ∈ (as.flatMap f).getLast?) :
    ∃ a ∈ as.getLast?, b ∈ f a := by
  rcases List.eq_nil_or_concat as with rfl | ⟨front, a, rfl⟩
  · cases hb
  · refine ⟨a, by simp, ?_⟩
    have hlast := List.getLast?_eq_some_getLast (hf a)
    rw [List.concat_eq_append, List.flatMap_append, List.flatMap_singleton, List.getLast?_append,
      hlast] at hb
    cases hb
    exact List.getLast_mem _

end Pieces

section Trimming

variable {p : α → Bool} {xs : List α}

theorem dropWhile_eq_self (h : ∀ x ∈ xs.head?, p x = false) : xs.dropWhile p = xs := by
  cases xs with
  | nil => rfl
  | cons x xs => exact List.dropWhile_cons_of_neg (by simp [h x rfl])

theorem trimEndBy_eq_self (h : ∀ x ∈ xs.getLast?, p x = false) : trimEndBy p xs = xs := by
  rw [← List.head?_reverse] at h
  rw [trimEndBy, dropWhile_eq_self h, List.reverse_reverse]

theorem trimEndBy_append {back : List α} (h : ∀ x ∈ back, p x = true) :
    trimEndBy p (xs ++ back) = trimEndBy p xs := by
  have hreverse : ∀ x ∈ back.reverse, p x = true := fun x hx => h x (List.mem_reverse.1 hx)
  rw [trimEndBy, List.reverse_append, List.dropWhile_append_of_pos hreverse, ← trimEndBy]

theorem trimBy_eq_self (hhead : ∀ x ∈ xs.head?, p x = false)
    (hlast : ∀ x ∈ xs.getLast?, p x = false) : trimBy p xs = xs := by
  rw [trimBy, dropWhile_eq_self hhead, trimEndBy_eq_self hlast]

/-- A string without blanks is trimmed to itself. -/
theorem trim_eq_self {s : String} (h : ∀ c ∈ s.toList, isBlank c = false) : trim s = s := by
  have hchars : trimChars s.toList = s.toList :=
    trimBy_eq_self (fun c hc => h c (List.mem_of_mem_head? hc))
      (fun c hc => h c (List.mem_of_mem_getLast? hc))
  rw [trim, hchars, String.ofList_toList]

/-! What trimming takes off, and the ends of what it leaves. -/

theorem of_mem_takeWhile {x : α} (hx : x ∈ xs.takeWhile p) : p x = true :=
  List.all_eq_true.1 List.all_takeWhile x hx

theorem of_mem_head?_dropWhile {x : α} (hx : x ∈ (xs.dropWhile p).head?) : p x = false := by
  have h := List.head?_dropWhile_not p xs
  rwa [hx] at h

theorem exists_trimEndBy (p : α → Bool) (xs : List α) :
    ∃ back, xs = trimEndBy p xs ++ back ∧ ∀ x ∈ back, p x = true := by
  refine ⟨(xs.reverse.takeWhile p).reverse, ?_, fun x hx => ?_⟩
  · rw [trimEndBy, ← List.reverse_append, List.takeWhile_append_dropWhile, List.reverse_reverse]
  · exact of_mem_takeWhile (List.mem_reverse.1 hx)

theorem of_mem_getLast?_trimEndBy {x : α} (hx : x ∈ (trimEndBy p xs).getLast?) : p x = false := by
  rw [trimEndBy, List.getLast?_reverse] at hx
  exact of_mem_head?_dropWhile hx

theorem exists_trimBy (p : α → Bool) (xs : List α) :
    ∃ front back, xs = front ++ (trimBy p xs ++ back) ∧ (∀ x ∈ front, p x = true) ∧
      ∀ x ∈ back, p x = true := by
  obtain ⟨back, hback, hall⟩ := exists_trimEndBy p (xs.dropWhile p)
  refine ⟨xs.takeWhile p, back, ?_, fun x => of_mem_takeWhile, hall⟩
  rw [trimBy, ← hback, List.takeWhile_append_dropWhile]

theorem of_mem_head?_trimBy {x : α} (hx : x ∈ (trimBy p xs).head?) : p x = false := by
  -- what is left begins where the text without its leading elements begins
  obtain ⟨back, hback, -⟩ := exists_trimEndBy p (xs.dropWhile p)
  have hhead : x ∈ (xs.dropWhile p).head? := by
    rw [hback, List.head?_append, show (trimEndBy p (xs.dropWhile p)).head? = some x from hx]
    rfl
  exact of_mem_head?_dropWhile hhead

theorem of_mem_getLast?_trimBy {x : α} (hx : x ∈ (trimBy p xs).getLast?) : p x = false :=
  of_mem_getLast?_trimEndBy hx

/-- What begins with an element that stays still begins with it. -/
theorem head?_trimBy {x : α} (hx : p x = false) (xs : List α) :
    (trimBy p (x :: xs)).head? = some x := by
  rw [trimBy, List.dropWhile_cons_of_neg (by simp [hx])]
  obtain ⟨back, hback, hall⟩ := exists_trimEndBy p (x :: xs)
  cases hleft : trimEndBy p (x :: xs) with
  | nil =>
    -- then all of it would have been taken off
    rw [hleft, List.nil_append] at hback
    have hp := hall x (hback ▸ List.mem_cons_self)
    rw [hx] at hp
    cases hp
  | cons y ys =>
    rw [hleft, List.cons_append, List.cons.injEq] at hback
    rw [hback.1, List.head?_cons]

theorem length_trimBy_le (p : α → Bool) (xs : List α) : (trimBy p xs).length ≤ xs.length := by
  obtain ⟨front, back, hxs, -⟩ := exists_trimBy p xs
  have := congrArg List.length hxs
  simp only [List.length_append] at this
  omega

end Trimming

end OlapClient
