import OlapClient.Cache.Memory
import OlapClient.Proofs.Soap.Envelope

namespace OlapClient.Soap

open Cache (CacheKey)
open Location (Url)

/-!
# Requests that can be sent, and their keys

A request has an envelope if all its names can stand in a tag, and its envelope is its own: the key
that a cache makes of it is that of no other request.

* `SendableName` — the names of properties and restrictions that can be sent.
* `Request.restrictions` — what a request restricts, which goes before its properties.
* `Request.exists_envelope_iff` — the requests that have an envelope.
* `Request.envelope_eq_iff`, `Request.makeKey_eq_ok` — equal envelopes, and the keys of envelopes.
* `Request.envelopes_tell_requests` — all of this.
-/

/-! ### Names -/

/-- The names that can be sent: an ASCII letter or an underscore, and then ASCII letters, ASCII
digits, underscores, hyphens and full stops. -/
def SendableName (name : String) : Prop :=
  ∃ first more, name.toList = first :: more ∧ (isAsciiLetter first = true ∨ first = '_') ∧
    ∀ c ∈ more, isAsciiLetter c = true ∨ isDigit c = true ∨ c ∈ ['_', '-', '.']

theorem isName_iff {name : String} : isName name.toList = true ↔ SendableName name := by
  unfold SendableName
  cases hname : name.toList with
  | nil => simp [isName]
  | cons first more =>
    have hpart : ∀ c, isNamePart c = true ↔
        isAsciiLetter c = true ∨ isDigit c = true ∨ c ∈ ['_', '-', '.'] := by
      intro c
      simp only [isNamePart, isNameStart, Bool.or_eq_true, beq_iff_eq, List.mem_cons,
        List.not_mem_nil, or_false]
      grind
    simp only [isName, Bool.and_eq_true, List.all_eq_true, hpart, isNameStart, Bool.or_eq_true,
      beq_iff_eq]
    constructor
    · rintro ⟨hfirst, hmore⟩
      exact ⟨first, more, rfl, hfirst, hmore⟩
    · rintro ⟨first', more', heq, hfirst, hmore⟩
      obtain ⟨rfl, rfl⟩ := List.cons.inj heq
      exact ⟨hfirst, hmore⟩

theorem leaves_of_names {pairs : Pairs} (h : ∀ p ∈ pairs, isName p.1.toList = true) :
    leaves pairs = .ok (pairs.flatMap fun p => leaf p.1 p.2) := by
  have hnone : pairs.find? (fun p => !isName p.1.toList) = none :=
    List.find?_eq_none.2 fun p hp => by simp [h p hp]
  simp only [leaves, hnone]

theorem exists_pairList_iff {outer inner : String} {pairs : Pairs} :
    (∃ cs, pairList outer inner pairs = .ok cs) ↔ ∀ p ∈ pairs, SendableName p.1 := by
  simp only [pairList, Except.exists_map_eq_ok, ← isName_iff]
  exact ⟨fun ⟨_, h⟩ => (leaves_eq_ok h).1, fun h => ⟨_, leaves_of_names h⟩⟩

/-! ### Requests -/

namespace Request

/-- What a request restricts. -/
def restrictions : Request → Pairs
  | .execute _ => []
  | .discover _ restrictions => restrictions

variable {r r' : Request} {ps qs : Pairs}

theorem exists_subject_iff : (∃ cs, r.subject = .ok cs) ↔ ∀ p ∈ r.restrictions, SendableName p.1 := by
  cases r with
  | execute statement => simp [subject, restrictions]
  | discover type rs =>
    rw [subject, Except.exists_map_eq_ok, restrictions]
    exact exists_pairList_iff

theorem exists_body_iff :
    (∃ cs, r.body ps = .ok cs) ↔
      (∃ cs, r.subject = .ok cs) ∧ ∃ cs, pairList "Properties" "PropertyList" ps = .ok cs := by
  unfold body
  cases hsubject : r.subject with
  | error e => simp
  | ok cs => simp [Except.exists_map_eq_ok]

/-- The requests that have an envelope: all names can be sent. -/
theorem exists_envelope_iff :
    (∃ bytes, r.envelope ps = .ok bytes) ↔ ∀ p ∈ r.restrictions ++ ps, SendableName p.1 := by
  rw [envelope, Except.exists_map_eq_ok, text, Except.exists_map_eq_ok, exists_body_iff,
    exists_subject_iff, exists_pairList_iff, List.forall_mem_append]

variable {bytes bytes' : Bytes}

/-- Envelopes are equal for equal requests with equal properties only. -/
theorem envelope_eq_iff (hr : r.envelope ps = .ok bytes) (hr' : r'.envelope qs = .ok bytes') :
    bytes = bytes' ↔ r = r' ∧ ps = qs := by
  constructor
  · rintro rfl
    exact envelope_inj hr hr'
  · rintro ⟨rfl, rfl⟩
    exact Except.ok.inj (hr.symm.trans hr')

/-- An envelope is never empty, so it has a key. -/
theorem makeKey_eq_ok (hr : r.envelope ps = .ok bytes) (session : SessionId) (url : Url) :
    CacheKey.make session url bytes = .ok ⟨session, .of url bytes⟩ :=
  if_neg (envelope_ne_nil hr)

/-- **Envelopes tell requests apart.** A request with properties has an envelope if and only if all
its names can be sent. Two such requests have the same envelope only if they are the same, with the
same properties in the same order; and then only do they have the same key under one session and
location. -/
theorem envelopes_tell_requests :
    (∀ (r : Request) (ps : Pairs),
      (∃ bytes, r.envelope ps = .ok bytes) ↔ ∀ p ∈ r.restrictions ++ ps, SendableName p.1) ∧
    ∀ (r r' : Request) (ps qs : Pairs) (bytes bytes' : Bytes), r.envelope ps = .ok bytes →
      r'.envelope qs = .ok bytes' →
        (bytes = bytes' ↔ r = r' ∧ ps = qs) ∧
        ∀ (session : SessionId) (url : Url), ∃ key key',
          CacheKey.make session url bytes = .ok key ∧ CacheKey.make session url bytes' = .ok key' ∧
            (key = key' ↔ r = r' ∧ ps = qs) := by
  refine ⟨fun r ps => exists_envelope_iff, fun r r' ps qs bytes bytes' hr hr' => ?_⟩
  have hbytes := envelope_eq_iff hr hr'
  refine ⟨hbytes, fun session url =>
    ⟨_, _, makeKey_eq_ok hr session url, makeKey_eq_ok hr' session url, ?_⟩⟩
  rw [← hbytes]
  exact ⟨fun h => congrArg (·.entry.request) h, fun h => by rw [h]⟩

end Request

end OlapClient.Soap
