import OlapClient.Proofs.Property.FirstProblem

namespace OlapClient.ConnectString

/-!
# Connect strings joined by a semicolon

A connect string may be followed by a semicolon and another text, and both are read as they are on
their own, however the first one ends.

* `Body.front` — a body is whole segments once a semicolon ends it.
* `pairs_join` — the segments of two texts with a semicolon between them.
* `parse_join` — the map of the two, or the problem of the second.
-/

variable {cs : List Char} {ps : List (String × String)}

/-- A semicolon before a front belongs to a gap of it. -/
theorem Front.semicolon {front : List Char} (h : Front front ps) : Front (';' :: front) ps := by
  have hcons {gap : List Char} (hgap : ∀ c ∈ gap, isGap c = true) :
      ∀ c ∈ ';' :: gap, isGap c = true :=
    List.forall_mem_cons.2 ⟨rfl, hgap⟩
  cases h with
  | gap hgap => exact .gap (hcons hgap)
  | more hgap hsegment hfront => exact .more (hcons hgap) hsegment hfront

/-- A body is whole segments once a semicolon ends it. -/
theorem Body.front (h : Body cs ps) : Front (cs ++ [';']) ps := by
  have hend : Front [';'] [] := .gap (by simp [isGap])
  induction h with
  | gap hgap =>
    refine .gap fun c hc => ?_
    rcases List.mem_append.1 hc with hin | hlast
    · exact hgap c hin
    · rw [List.mem_singleton.1 hlast]
      rfl
  | last hgap hsegment =>
    rw [List.append_assoc]
    exact .more hgap hsegment hend
  | more hgap hsegment hrest ih =>
    rw [List.append_assoc, List.append_assoc, List.cons_append]
    exact .more hgap hsegment ih.semicolon

/-- Behind a text that is read and a semicolon, another one is read as it is on its own. -/
theorem pairs_join (h : pairs cs = .ok ps) (ds : List Char) :
    pairs (cs ++ ';' :: ds) = (pairs ds).map (ps ++ ·) := by
  rw [← pairs_front (body_of_pairs h).front ds, List.append_assoc, List.singleton_append]

/-- The rest that a failure reports belongs to what was read. -/
theorem size_rest_le {e : Failure} (h : pairs cs = .error e) : Utf8.size e.rest ≤ Utf8.size cs := by
  obtain ⟨front, inside, ps, hsplit, -, -⟩ := exists_fails_of_pairs h
  rw [hsplit, Utf8.size_append, Utf8.size_append]
  omega

/-- **Joining connect strings.** Behind a connect string and a semicolon, another text that does not
begin with the scheme is read as it is on its own: its properties are put over those of the first, and
a problem of it is reported at its place behind the first and the semicolon. -/
theorem parse_join {a b : String} {A : PropertyMap} (ha : parse a = .ok A)
    (hb : ¬ BeginsWithScheme b) :
    (∀ B, parse b = .ok B → parse (a ++ ";" ++ b) = .ok (A.override B)) ∧
      ∀ e, parse b = .error e →
        parse (a ++ ";" ++ b) = .error ⟨a.utf8ByteSize + 1 + e.position, e.problem⟩ := by
  obtain ⟨ps, hps, rfl⟩ := parse_eq_ok ha
  have hjoin : pairs (withoutScheme (a ++ ";" ++ b).toList) =
      (pairs b.toList).map (ps ++ ·) := by
    rw [← pairs_join hps, ← withoutScheme_append_mark (show lowerAscii ';' ∉ scheme by decide)]
    simp
  constructor
  · intro B hB
    obtain ⟨qs, hqs, rfl⟩ := parse_eq_ok hB
    rw [withoutScheme_eq_self hb] at hqs
    rw [hqs] at hjoin
    rw [parse_of_pairs hjoin, NameMap.ofPairs_append]
  · intro e he
    obtain ⟨failure, hfailure, rfl⟩ := parse_eq_error he
    rw [withoutScheme_eq_self hb] at hfailure
    have hle := size_rest_le hfailure
    rw [hfailure] at hjoin
    have hsize : Utf8.size (a ++ ";" ++ b).toList = a.utf8ByteSize + 1 + Utf8.size b.toList := by
      rw [Utf8.size_toList, Utf8.size_toList, String.utf8ByteSize_append, String.utf8ByteSize_append]
      rfl
    rw [parse_of_failure hjoin, hsize]
    simp only [Except.error.injEq, Error.mk.injEq, and_true]
    omega

/-- Behind the scheme and a quoted value with a blank, one text that is read and one that is not. -/
theorem parse_join_behind_quotes :
    let a := "jdbc:xmla:ä=\"1;\" "
    let A : PropertyMap := NameMap.ofPairs [("ä", "1;")]
    let B : PropertyMap := NameMap.ofPairs [("ä", "2"), ("b", "")]
    (parse a = .ok A ∧ parse "ä=2;b=" = .ok B ∧
        parse (a ++ ";" ++ "ä=2;b=") = .ok (NameMap.override A B)) ∧
      parse " =2" = .error ⟨1, .emptyKey⟩ ∧
      parse (a ++ ";" ++ " =2") = .error ⟨a.utf8ByteSize + 1 + 1, .emptyKey⟩ := by
  intro a A B
  have ha : parse a = .ok A := by decide +kernel
  have hB : parse "ä=2;b=" = .ok B := by decide +kernel
  have he : parse " =2" = .error ⟨1, .emptyKey⟩ := by decide +kernel
  have hread : ¬ BeginsWithScheme "ä=2;b=" := by
    rw [beginsWithScheme_iff]
    decide
  have hrejected : ¬ BeginsWithScheme " =2" := by
    rw [beginsWithScheme_iff]
    decide
  exact ⟨⟨ha, hB, (parse_join ha hread).1 B hB⟩, he, (parse_join ha hrejected).2 _ he⟩

end OlapClient.ConnectString
