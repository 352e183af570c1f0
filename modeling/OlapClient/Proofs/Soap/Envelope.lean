import OlapClient.Proofs.Result
import OlapClient.Proofs.Text.Mark
import OlapClient.Soap.Envelope

namespace OlapClient

/-!
# Envelopes tell requests apart

Two requests with the same bytes are the same request with the same properties, since every text in
an envelope is escaped and every list ends where no element begins.

* `Markup.escape_injective` — escaped texts can be read in one way only.
* `Soap.leaf_append_inj`, `Soap.pairList_append_inj` — what an element holds, and what follows it.
* `Soap.Request.envelope_inj` — the request and the properties of an envelope.
-/

namespace Markup

/-! ### Escaped texts -/

/-- A character is one of the five special ones, or stands for itself. -/
theorem escapeChar_cases (c : Char) :
    c = '<' ∨ c = '>' ∨ c = '&' ∨ c = '\'' ∨ c = '"' ∨
      (escapeChar c = [c] ∧ c ≠ '<' ∧ c ≠ '&') := by
  by_cases h1 : c = '<'
  · exact .inl h1
  by_cases h2 : c = '>'
  · exact .inr (.inl h2)
  by_cases h3 : c = '&'
  · exact .inr (.inr (.inl h3))
  by_cases h4 : c = '\''
  · exact .inr (.inr (.inr (.inl h4)))
  by_cases h5 : c = '"'
  · exact .inr (.inr (.inr (.inr (.inl h5))))
  · refine .inr (.inr (.inr (.inr (.inr ⟨?_, h1, h3⟩))))
    rw [escapeChar, if_neg h1, if_neg h2, if_neg h3, if_neg h4, if_neg h5]

/-- No escaped character is the beginning of another one: the five references differ, and what
stands for itself is no ampersand. -/
theorem escapeChar_append_inj {c d : Char} {xs ys : List Char}
    (h : escapeChar c ++ xs = escapeChar d ++ ys) : c = d ∧ xs = ys := by
  have hlt : escapeChar '<' = ['&', 'l', 't', ';'] := rfl
  have hgt : escapeChar '>' = ['&', 'g', 't', ';'] := rfl
  have hamp : escapeChar '&' = ['&', 'a', 'm', 'p', ';'] := rfl
  have hapos : escapeChar '\'' = ['&', 'a', 'p', 'o', 's', ';'] := rfl
  have hquot : escapeChar '"' = ['&', 'q', 'u', 'o', 't', ';'] := rfl
  rcases escapeChar_cases c with rfl | rfl | rfl | rfl | rfl | ⟨hc, _, hcne⟩ <;>
    rcases escapeChar_cases d with rfl | rfl | rfl | rfl | rfl | ⟨hd, _, hdne⟩ <;>
    simp_all <;> grind

theorem escapeChar_ne_nil (c : Char) : escapeChar c ≠ [] := by
  rcases escapeChar_cases c with rfl | rfl | rfl | rfl | rfl | ⟨hc, _⟩
  case inr.inr.inr.inr.inr =>
    rw [hc]
    exact List.cons_ne_nil c []
  all_goals decide

/-- Escaped texts can be read in one way only. -/
theorem escape_injective {cs ds : List Char} (h : escape cs = escape ds) : cs = ds := by
  induction cs generalizing ds with
  | nil =>
    cases ds with
    | nil => rfl
    | cons d ds => exact absurd (List.append_eq_nil_iff.1 h.symm).1 (escapeChar_ne_nil d)
  | cons c cs ih =>
    cases ds with
    | nil => exact absurd (List.append_eq_nil_iff.1 h).1 (escapeChar_ne_nil c)
    | cons d ds =>
      obtain ⟨rfl, htail⟩ := escapeChar_append_inj h
      rw [ih htail]

/-- An escaped text has no angle that could begin a tag. -/
theorem angle_notMem_escape (cs : List Char) : '<' ∉ escape cs := by
  intro h
  obtain ⟨c, _, hin⟩ := List.mem_flatMap.1 h
  revert hin
  rcases escapeChar_cases c with rfl | rfl | rfl | rfl | rfl | ⟨hc, hne, _⟩
  case inr.inr.inr.inr.inr =>
    rw [hc, List.mem_singleton]
    exact Ne.symm hne
  all_goals decide

end Markup

namespace Soap

open Markup (escape angle_notMem_escape escape_injective)

/-! ### Elements -/

/-- An element with what follows it, taken apart at its start tag and its end tag. -/
theorem elementWith_append (name attributes : String) (content rest : List Char) :
    elementWith name attributes content ++ rest =
      ('<' :: name.toList ++ attributes.toList) ++
        '>' :: (content ++ '<' :: '/' :: (name.toList ++ '>' :: rest)) := by
  simp [elementWith]

theorem element_append (name : String) (content rest : List Char) :
    element name content ++ rest =
      '<' :: (name.toList ++ '>' :: (content ++ '<' :: '/' :: (name.toList ++ '>' :: rest))) := by
  simp [element, elementWith]

variable {xs ys us vs : List Char}

/-- Elements of one name may be taken off where the rests of their contents agree on what
follows. -/
theorem element_append_inj {name : String} {content content' : List Char}
    (h : element name content ++ xs = element name content' ++ ys) :
    content ++ '<' :: '/' :: (name.toList ++ '>' :: xs) =
      content' ++ '<' :: '/' :: (name.toList ++ '>' :: ys) := by
  rw [element_append, element_append, List.cons.injEq, List.append_right_inj,
    List.cons.injEq] at h
  exact h.2.2

/-- The name and the text of an element, and what follows it. -/
theorem leaf_append_inj {n m v w : String} (hn : '>' ∉ n.toList) (hm : '>' ∉ m.toList)
    (h : leaf n v ++ xs = leaf m w ++ ys) : n = m ∧ v = w ∧ xs = ys := by
  unfold leaf at h
  rw [element_append, element_append, List.cons.injEq] at h
  obtain ⟨hname, hrest⟩ := append_mark_inj hn hm h.2
  cases String.toList_injective hname
  -- an escaped text ends at the first angle, which begins the end tag
  obtain ⟨htext, hend⟩ := append_mark_inj (angle_notMem_escape _) (angle_notMem_escape _) hrest
  rw [List.cons.injEq, List.append_right_inj, List.cons.injEq] at hend
  exact ⟨rfl, String.toList_injective (escape_injective htext), hend.2.2⟩

/-! ### Lists of elements -/

theorem isName_spec {cs : List Char} (h : isName cs = true) :
    '>' ∉ cs ∧ ∃ c rest, cs = c :: rest ∧ c ≠ '/' := by
  cases cs with
  | nil => cases h
  | cons c rest =>
    simp only [isName, Bool.and_eq_true, List.all_eq_true] at h
    refine ⟨fun hin => ?_, c, rest, rfl, ?_⟩
    · rcases List.mem_cons.1 hin with rfl | hrest
      · exact absurd h.1 (by decide)
      · exact absurd (h.2 _ hrest) (by decide)
    · rintro rfl
      exact absurd h.1 (by decide)

/-- A list of elements ends where an end tag begins. -/
theorem leaves_append_inj {ps qs : Pairs} (hps : ∀ p ∈ ps, isName p.1.toList = true)
    (hqs : ∀ q ∈ qs, isName q.1.toList = true)
    (h : ps.flatMap (fun p => leaf p.1 p.2) ++ '<' :: '/' :: us =
      qs.flatMap (fun q => leaf q.1 q.2) ++ '<' :: '/' :: vs) : ps = qs ∧ us = vs := by
  -- a start tag is no end tag, since no name begins with a slash
  have hend : ∀ (p : String × String) (rest tail : List Char), isName p.1.toList = true →
      '<' :: '/' :: tail ≠ leaf p.1 p.2 ++ rest := by
    intro p rest tail hp heq
    obtain ⟨_, c, cs, hcs, hne⟩ := isName_spec hp
    rw [leaf, element_append, hcs, List.cons_append, List.cons.injEq, List.cons.injEq] at heq
    exact hne heq.2.1.symm
  induction ps generalizing qs with
  | nil =>
    cases qs with
    | nil =>
      simp only [List.flatMap_nil, List.nil_append, List.cons.injEq, true_and] at h
      exact ⟨rfl, h⟩
    | cons q qs =>
      rw [List.flatMap_nil, List.nil_append, List.flatMap_cons, List.append_assoc] at h
      exact absurd h (hend q _ us (hqs q List.mem_cons_self))
  | cons p ps ih =>
    cases qs with
    | nil =>
      rw [List.flatMap_nil, List.nil_append, List.flatMap_cons, List.append_assoc] at h
      exact absurd h.symm (hend p _ vs (hps p List.mem_cons_self))
    | cons q qs =>
      rw [List.flatMap_cons, List.flatMap_cons, List.append_assoc, List.append_assoc] at h
      obtain ⟨hname, hvalue, htail⟩ := leaf_append_inj (isName_spec (hps p List.mem_cons_self)).1
        (isName_spec (hqs q List.mem_cons_self)).1 h
      obtain ⟨rfl, rfl⟩ := ih (fun x hx => hps x (List.mem_cons_of_mem p hx))
        (fun x hx => hqs x (List.mem_cons_of_mem q hx)) htail
      exact ⟨by rw [Prod.ext hname hvalue], rfl⟩

theorem leaves_eq_ok {pairs : Pairs} {content : List Char} (h : leaves pairs = .ok content) :
    (∀ p ∈ pairs, isName p.1.toList = true) ∧ content = pairs.flatMap fun p => leaf p.1 p.2 := by
  unfold leaves at h
  split at h
  · cases h
  · rename_i hnone
    cases h
    exact ⟨fun p hp => by simpa using List.find?_eq_none.1 hnone p hp, rfl⟩

/-- The pairs of a list of pairs, and what follows it. -/
theorem pairList_append_inj {outer inner : String} {ps qs : Pairs} {cs ds : List Char}
    (hps : pairList outer inner ps = .ok cs) (hqs : pairList outer inner qs = .ok ds)
    (h : cs ++ xs = ds ++ ys) : ps = qs ∧ xs = ys := by
  obtain ⟨content, hp, rfl⟩ := Except.map_eq_ok hps
  obtain ⟨content', hq, rfl⟩ := Except.map_eq_ok hqs
  obtain ⟨hnames, rfl⟩ := leaves_eq_ok hp
  obtain ⟨hnames', rfl⟩ := leaves_eq_ok hq
  -- two end tags follow the pairs, that of the list and that of the element around it
  obtain ⟨rfl, htail⟩ := leaves_append_inj hnames hnames'
    (element_append_inj (element_append_inj h))
  simp only [List.append_right_inj, List.cons.injEq, true_and] at htail
  exact ⟨rfl, htail⟩

/-! ### Requests -/

namespace Request

variable {r r' : Request} {ps qs : Pairs}

/-- What is asked, with what follows it, tells the requests of one method apart. -/
theorem subject_append_inj {cs ds : List Char} (hmethod : r.method = r'.method)
    (hr : r.subject = .ok cs) (hr' : r'.subject = .ok ds) (h : cs ++ xs = ds ++ ys) :
    r = r' ∧ xs = ys := by
  cases r with
  | execute statement =>
    cases r' with
    | execute statement' =>
      cases hr
      cases hr'
      obtain ⟨_, rfl, htail⟩ := leaf_append_inj (by decide) (by decide) (element_append_inj h)
      simp only [List.append_right_inj, List.cons.injEq, true_and] at htail
      exact ⟨rfl, htail⟩
    | discover type' restrictions' =>
      exact absurd hmethod (show "Execute" ≠ "Discover" by decide)
  | discover type restrictions =>
    cases r' with
    | execute statement' => exact absurd hmethod (show "Discover" ≠ "Execute" by decide)
    | discover type' restrictions' =>
      obtain ⟨content, hlist, rfl⟩ := Except.map_eq_ok hr
      obtain ⟨content', hlist', rfl⟩ := Except.map_eq_ok hr'
      rw [List.append_assoc, List.append_assoc] at h
      -- the type of the request, and then its restrictions
      obtain ⟨_, rfl, htail⟩ := leaf_append_inj (by decide) (by decide) h
      obtain ⟨rfl, hrest⟩ := pairList_append_inj hlist hlist' htail
      exact ⟨rfl, hrest⟩

/-- The content of a method element, with what follows it, tells the requests of that method and
their properties apart. -/
theorem body_append_inj {cs ds : List Char} (hmethod : r.method = r'.method)
    (hr : r.body ps = .ok cs) (hr' : r'.body qs = .ok ds) (h : cs ++ xs = ds ++ ys) :
    r = r' ∧ ps = qs := by
  unfold body at hr hr'
  split at hr
  · cases hr
  · rename_i subject hsubject
    split at hr'
    · cases hr'
    · rename_i subject' hsubject'
      obtain ⟨content, hlist, rfl⟩ := Except.map_eq_ok hr
      obtain ⟨content', hlist', rfl⟩ := Except.map_eq_ok hr'
      rw [List.append_assoc, List.append_assoc] at h
      obtain ⟨rfl, htail⟩ := subject_append_inj hmethod hsubject hsubject' h
      exact ⟨rfl, (pairList_append_inj hlist hlist' htail).1⟩

/-- The start tag of a method element tells its method. -/
theorem method_inj {attributes : List Char}
    (h : '<' :: r.method.toList ++ attributes ++ us = '<' :: r'.method.toList ++ attributes ++ vs) :
    r.method = r'.method := by
  have hexecute : ("Execute" : String).toList = ['E', 'x', 'e', 'c', 'u', 't', 'e'] := rfl
  have hdiscover : ("Discover" : String).toList = ['D', 'i', 's', 'c', 'o', 'v', 'e', 'r'] := rfl
  cases r <;> cases r' <;> simp_all [method]

/-- An envelope begins with its declaration. -/
theorem envelope_ne_nil {bytes : Bytes} (h : r.envelope ps = .ok bytes) : bytes ≠ [] := by
  obtain ⟨cs, htext, rfl⟩ := Except.map_eq_ok h
  obtain ⟨content, _, rfl⟩ := Except.map_eq_ok htext
  intro hnil
  have hempty : declaration ++ _ = [] := Utf8.encode_injective (hnil.trans rfl)
  exact absurd (List.append_eq_nil_iff.1 hempty).1 (by decide)

/-- **Envelopes tell requests apart.** Requests with properties that have the same bytes are equal,
and so are their properties. -/
theorem envelope_inj {bytes : Bytes} (hr : r.envelope ps = .ok bytes)
    (hr' : r'.envelope qs = .ok bytes) : r = r' ∧ ps = qs := by
  obtain ⟨cs, htext, hbytes⟩ := Except.map_eq_ok hr
  obtain ⟨ds, htext', hbytes'⟩ := Except.map_eq_ok hr'
  obtain ⟨content, hbody, hcs⟩ := Except.map_eq_ok htext
  obtain ⟨content', hbody', hds⟩ := Except.map_eq_ok htext'
  have heq : cs = ds := Utf8.encode_injective (hbytes.trans hbytes'.symm)
  rw [← hcs, ← hds, List.append_right_inj] at heq
  -- nothing follows the envelope, whose start tag is the same for all requests
  have henvelope := congrArg (· ++ ([] : List Char)) heq
  simp only [elementWith_append, List.append_right_inj, List.cons.injEq, true_and] at henvelope
  have hmethods := element_append_inj henvelope
  rw [elementWith_append, elementWith_append] at hmethods
  have hmethod := method_inj hmethods
  rw [hmethod, List.append_right_inj, List.cons.injEq] at hmethods
  exact body_append_inj hmethod hbody hbody' hmethods.2

end Request

end Soap

end OlapClient
