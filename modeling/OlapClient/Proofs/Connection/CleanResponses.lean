import OlapClient.Proofs.Connection.Traffic
import OlapClient.Proofs.Rowset.Faults

namespace OlapClient

open Cache (EntryKey Vault)
open Exchange (Answer Endpoint Post Reply)
open Location (Url)

/-!
# Clean responses

A response that a server gave with an error status, that carries a fault, or that is no complete
document is not clean. However the exchanges of connections that share a store interleave, the store
holds nothing but clean responses, each under the request that it answered.

* `Reply.Clean` — what `Reply.check` accepts.
* `Vouched` — a response that came in a clean reply to a post of its key.
* `Traffic.Sound` — the invariant: whatever is held or on its way is vouched for.
* `Traffic.sound_step`, `Traffic.sound_run` — every action, and so every run, keeps it.
* `only_clean_responses` — what a store that began empty holds, and what sendings return.
-/

/-! ### Clean replies -/

namespace Exchange

/-- A reply with a success status, no fault and a complete document. -/
def Reply.Clean (r : Reply) : Prop :=
  r.isSuccess = true ∧ Soap.fault? r.body = none ∧ Soap.checkDocument r.body = .ok ()

theorem Reply.check_eq_ok {r : Reply} {response : Bytes} (h : r.check = .ok response) :
    r.Clean ∧ r.body = response := by
  unfold Reply.check at h
  split at h
  · cases h
  · rename_i hfault
    split at h
    · rename_i hsuccess
      split at h
      · rename_i hdocument
        cases h
        exact ⟨⟨hsuccess, hfault, hdocument⟩, rfl⟩
      · cases h
    · cases h

/-- A post that has an outcome was answered by a clean reply. -/
theorem Answer.outcome_eq_ok {a : Answer} {response : Bytes} (h : a.outcome = .ok response) :
    ∃ r, a = .reply r ∧ r.Clean ∧ r.body = response := by
  cases a with
  | reply r => exact ⟨r, rfl, Reply.check_eq_ok (Except.mapError_eq_ok h)⟩
  | failed e => cases h
  | abandoned => cases h

/-- The request that carries a body goes to the location without its credentials. -/
theorem Endpoint.post?_eq_ok {e : Endpoint} {url : Url} {action : String} {body : Bytes}
    {post : Post} (h : e.post? url action body = .ok post) :
    post.location = bareLocation url ∧ post.body = body := by
  unfold Endpoint.post? at h
  split at h
  · cases h
  · split at h
    · cases h
    · cases h
      exact ⟨rfl, rfl⟩

end Exchange

/-! ### Responses that are vouched for -/

/-- A clean reply to a post of the key's request to the key's location brought the response. -/
def Vouched (received : List Received) (key : EntryKey) (response : Bytes) : Prop :=
  ∃ y ∈ received, y.url.text = key.url ∧ y.post.location = Exchange.bareLocation y.url ∧
    y.post.body = key.request ∧ y.reply.Clean ∧ y.reply.body = response

theorem Vouched.mono {received more : List Received} {key : EntryKey} {response : Bytes}
    (h : Vouched received key response) : Vouched (received ++ more) key response := by
  obtain ⟨y, hy, hrest⟩ := h
  exact ⟨y, List.mem_append_left more hy, hrest⟩

/-- No response that is vouched for carries a fault to the caller of a connection. -/
theorem Vouched.decodeOutcome_ne_fault {received : List Received} {key : EntryKey}
    {response : Bytes} (h : Vouched received key response) (f : Soap.Fault) :
    Connection.decodeOutcome (.ok response) ≠ .error (.fault f) := by
  obtain ⟨y, _, _, _, _, ⟨_, hfault, _⟩, rfl⟩ := h
  intro heq
  obtain ⟨e, hdecode, he⟩ := Except.mapError_eq_error heq
  cases e with
  | fault f' =>
    rw [Rowset.decode_eq_fault_iff, hfault] at hdecode
    cases hdecode
  | _ => cases he

/-! ### The invariant -/

/-- Whatever an exchange has of a response is vouched for, and what it has posted is its request. -/
def Stage.Sound (received : List Received) (url : Url) (request : Bytes) : Stage → Prop
  | .waiting post => post.location = Exchange.bareLocation url ∧ post.body = request
  | .answered response => Vouched received (.of url request) response
  | .served response _ => Vouched received (.of url request) response
  | .fetched response _ => Vouched received (.of url request) response
  | .failed _ => True

theorem Stage.Sound.mono {received : List Received} {url : Url} {request : Bytes} {stage : Stage}
    (h : stage.Sound received url request) (more : List Received) :
    stage.Sound (received ++ more) url request := by
  cases stage with
  | waiting post => exact h
  | answered response => exact Vouched.mono h
  | served response slot => exact Vouched.mono h
  | fetched response slot => exact Vouched.mono h
  | failed e => trivial

/-- A response that was returned is vouched for. -/
theorem Stage.Sound.of_result? {received : List Received} {url : Url} {request response : Bytes}
    {stage : Stage} (h : stage.Sound received url request)
    (hresult : stage.result? = some (.ok response)) :
    Vouched received (.of url request) response := by
  cases stage with
  | served r slot =>
    cases hresult
    exact h
  | fetched r slot =>
    cases hresult
    exact h
  | _ => cases hresult

namespace Connection

variable {c : Connection} {v : Vault} {n : Nat} {new : EntryKey → Bytes → Prop}

theorem depart_adds (hb : ∀ b, c.binding = some b → b.store = n) (v : Vault) (url : Url)
    (action : String) (request : Bytes) (new : EntryKey → Bytes → Prop) :
    v.Adds n new (c.depart v url action request).2 := by
  cases hclosed : c.closed with
  | true =>
    rw [depart_of_closed hclosed]
    exact .refl v n new
  | false =>
    cases hbinding : c.binding with
    | none =>
      rw [depart_of_none hclosed hbinding]
      exact .refl v n new
    | some b =>
      rw [depart_of_some hclosed hbinding, ← hb b hbinding]
      exact v.get_adds b.store b.session url request new

/-- What a connection posts, or has from a store whose responses are vouched for. -/
theorem depart_sound {received : List Received} (hb : ∀ b, c.binding = some b → b.store = n)
    (hheld : ∀ partition key response, v.Holds n partition key response →
      Vouched received key response) (url : Url) (action : String) (request : Bytes) :
    (c.depart v url action request).1.Sound received url request := by
  have hdispatch : (c.dispatch url action request).Sound received url request := by
    unfold dispatch
    split
    · trivial
    · rename_i hpost
      exact Exchange.Endpoint.post?_eq_ok hpost
  cases hclosed : c.closed with
  | true =>
    rw [depart_of_closed hclosed]
    trivial
  | false =>
    cases hbinding : c.binding with
    | none =>
      rw [depart_of_none hclosed hbinding]
      exact hdispatch
    | some b =>
      rw [depart_of_some hclosed hbinding, hb b hbinding]
      rcases hfound : (v.get n b.session url request).1 with e | none | response
      · trivial
      · exact hdispatch
      · obtain ⟨partition, hh⟩ := Vault.held_of_found hfound
        exact hheld partition _ response hh

/-- Keeping a response adds it under its key, if the store can write the key. -/
theorem arrive_adds (hb : ∀ b, c.binding = some b → b.store = n) (v : Vault) (url : Url)
    (request response : Bytes) (hfit : v.Records n → (EntryKey.of url request).Writable) :
    v.Adds n (fun key kept => key = .of url request ∧ kept = response)
      (c.arrive v url request response).2 := by
  cases hbinding : c.binding with
  | none =>
    rw [arrive_of_none hbinding]
    exact .refl v n _
  | some b =>
    rw [arrive_of_some hbinding, hb b hbinding]
    exact v.put_adds n b.session url request response hfit

end Connection

namespace Traffic

/-- Every connection uses the shared store if any, which keeps recordings only if it always did.
Whatever is held or on its way is vouched for. -/
structure Sound (t : Traffic) (records : Prop) : Prop where
  kind : t.vault.Records t.store → records
  bound : ∀ c ∈ t.connections, ∀ b, c.binding = some b → b.store = t.store
  held : ∀ partition key response, t.vault.Holds t.store partition key response →
    Vouched t.received key response
  sent : ∀ x ∈ t.sendings, x.stage.Sound t.received x.url x.request

variable {t : Traffic} {records : Prop}

/-- Another vault may take the place of the first, if what it adds is vouched for. -/
theorem Sound.vault (h : t.Sound records) {vault : Vault} {new : EntryKey → Bytes → Prop}
    (hadds : t.vault.Adds t.store new vault)
    (hnew : ∀ key response, new key response → Vouched t.received key response) :
    Sound { t with vault } records where
  kind hrecords := h.kind (hadds.kind.1 hrecords)
  bound := h.bound
  held partition key response hh := by
    rcases hadds.holds partition key response hh with hold | hin
    · exact h.held partition key response hold
    · exact hnew key response hin
  sent := h.sent

theorem Sound.connect (h : t.Sound records) (properties : PropertyMap) :
    (t.connect properties).Sound records := by
  have hvault := h.vault (t.vault.configure_adds t.store (route properties).connection
    (route properties).cache fun _ _ => False) fun _ _ hfalse => hfalse.elim
  unfold Traffic.connect
  rcases Connection.start_shared t.vault properties t.store with ⟨e, heq⟩ | ⟨settings, _, heq⟩
  · rw [heq]
    exact h
  · -- the new connection, if it has a session, has it with the shared store
    rw [heq]
    refine ⟨hvault.kind, fun c hc b hb => ?_, hvault.held, hvault.sent⟩
    rcases List.mem_append.1 hc with hold | hin
    · exact h.bound c hold b hb
    · rw [List.mem_singleton] at hin
      subst hin
      obtain ⟨id, _, rfl⟩ := Option.map_eq_some_iff.1 hb
      rfl

theorem Sound.send (h : t.Sound records) (i : Nat) (asked : Option Soap.Request) (url : Url)
    (action : String) (request : Bytes) : (t.send i asked url action request).Sound records := by
  unfold Traffic.send
  split
  · exact h
  · rename_i c hc
    have hb := h.bound c (List.mem_of_getElem? hc)
    have hvault := h.vault (Connection.depart_adds hb t.vault url action request fun _ _ => False)
      fun _ _ hfalse => hfalse.elim
    refine ⟨hvault.kind, h.bound, hvault.held, fun x hx => ?_⟩
    rcases List.mem_append.1 hx with hold | hin
    · exact h.sent x hold
    · rw [List.mem_singleton] at hin
      subst hin
      exact Connection.depart_sound hb h.held url action request

theorem Sound.advance (h : t.Sound records) (k : Nat) {x : Sending} {stage : Stage}
    (hstage : stage.Sound t.received x.url x.request) : (t.advance k x stage).Sound records := by
  refine ⟨h.kind, h.bound, h.held, fun y hy => ?_⟩
  rcases mem_advance hy with rfl | hold
  · exact hstage
  · exact h.sent y hold

/-- More may be received at any time. -/
theorem Sound.receive (h : t.Sound records) (more : List Received) :
    Sound { t with received := t.received ++ more } records where
  kind := h.kind
  bound := h.bound
  held partition key response hh := (h.held partition key response hh).mono
  sent x hx := (h.sent x hx).mono more

/-- What a connection makes of an answer to a post is vouched for by the reply in it. -/
theorem sound_ofOutcome {c : Connection} {received : List Received} {url : Url} {request : Bytes}
    {post : Post} (hpost : (Stage.waiting post).Sound received url request) (a : Answer) :
    (Stage.ofOutcome (c.outcome a)).Sound (received ++ Received.ofAnswer url post a) url
      request := by
  cases ho : c.outcome a with
  | error e => trivial
  | ok response =>
    unfold Connection.outcome at ho
    split at ho
    · cases ho
    · obtain ⟨r, rfl, hclean, hbody⟩ := Exchange.Answer.outcome_eq_ok ho
      exact ⟨⟨url, post, r⟩, List.mem_append_right received (List.mem_singleton.2 rfl), rfl,
        hpost.1, hpost.2, hclean, hbody⟩

/-- Every action keeps the traffic sound, if the store can write the keys of what is sent. -/
theorem sound_step (h : t.Sound records)
    (hfit : records → ∀ x ∈ t.sendings, x.key.Writable) (a : Action) :
    (t.step a).Sound records := by
  cases a with
  | connect properties => exact h.connect properties
  | send i url action request => exact h.send i none url action request
  | ask i r =>
    simp only [step, ask]
    split
    · exact h
    · split
      · exact h
      · split
        · exact h
        · exact h.send i _ _ _ _
  | answer k a =>
    simp only [step]
    split
    · exact h
    · rename_i x c hactive
      have hx := h.sent x (List.mem_of_getElem? (active?_eq_some.1 hactive).1)
      split
      · rename_i post hstage
        rw [hstage] at hx
        exact (h.receive _).advance k (sound_ofOutcome hx a)
      · exact h
  | arrive k =>
    simp only [step]
    split
    · exact h
    · rename_i x c hactive
      obtain ⟨hk, hc⟩ := active?_eq_some.1 hactive
      have hx := h.sent x (List.mem_of_getElem? hk)
      split
      · rename_i response hstage
        rw [hstage] at hx
        have hadds := Connection.arrive_adds (h.bound c (List.mem_of_getElem? hc)) t.vault x.url
          x.request response fun hr => hfit (h.kind hr) x (List.mem_of_getElem? hk)
        -- the store gains the response that the sending has been answered with
        have hvault := h.vault hadds fun key kept hnew => by
          obtain ⟨rfl, rfl⟩ := hnew
          exact hx
        exact hvault.advance k hx
      · exact h
  | close i =>
    refine ⟨h.kind, fun c hc b hb => ?_, h.held, h.sent⟩
    obtain ⟨j, hj⟩ := List.mem_iff_getElem?.1 hc
    simp only [step, List.getElem?_modify] at hj
    obtain ⟨c₀, hc₀, rfl⟩ := Option.map_eq_some_iff.1 hj
    refine h.bound c₀ (List.mem_of_getElem? hc₀) b ?_
    split at hb <;> exact hb
  | flush =>
    exact h.vault (t.vault.flush_adds t.store fun _ _ => False) fun _ _ hfalse => hfalse.elim
  | sleep ms =>
    exact h.vault (t.vault.sleep_adds t.store ms fun _ _ => False) fun _ _ hfalse => hfalse.elim

/-- Every run keeps the traffic sound. Since sendings stay, it suffices that the store can write the
keys of all that was sent in the end. -/
theorem sound_run (h : t.Sound records) (actions : List Action)
    (hfit : records → ∀ x ∈ (t.run actions).sendings, x.key.Writable) :
    (t.run actions).Sound records := by
  induction actions generalizing t with
  | nil => exact h
  | cons a actions ih =>
    refine ih (sound_step h (fun hr x hx => ?_) a) hfit
    -- a sending of now is one of the end, but for its stage
    obtain ⟨_, hin⟩ := mem_run_of_mem (a :: actions) hx
    have hwritable := hfit hr _ hin
    exact hwritable

end Traffic

/-- **Only clean responses are held or returned.** Connections share a store that begins empty, and
do anything at any time; the network answers each post with whatever it likes. Then every response
that the store holds is the body of a clean reply to a post of exactly that request to exactly that
location, and so is every response that a sending returns, which therefore is no fault to the caller
of a connection. Where the store keeps recordings in files, what is sent has to be of a length that
eight bytes can write, as all bytes in a machine are. -/
theorem only_clean_responses (vault : Vault) (store : Nat) (connections : List Connection)
    (actions : List Action)
    (hbound : ∀ c ∈ connections, ∀ b, c.binding = some b → b.store = store)
    (hempty : ∀ partition key response, ¬ vault.Holds store partition key response)
    (hfit : vault.Records store →
      ∀ x ∈ ((Traffic.fresh vault store connections).run actions).sendings, x.key.Writable) :
    let t := (Traffic.fresh vault store connections).run actions
    (∀ partition key response, t.vault.Holds store partition key response →
      Vouched t.received key response) ∧
    ∀ x ∈ t.sendings, ∀ response, x.stage.result? = some (.ok response) →
      Vouched t.received x.key response ∧
        ∀ f, Connection.decodeOutcome (.ok response) ≠ .error (.fault f) := by
  intro t
  have hstart : (Traffic.fresh vault store connections).Sound (vault.Records store) := by
    refine ⟨id, hbound, fun partition key response hh => ?_, fun x hx => ?_⟩
    · exact absurd hh (hempty partition key response)
    · cases hx
  have hsound : t.Sound (vault.Records store) := Traffic.sound_run hstart actions hfit
  constructor
  · intro partition key response hh
    refine hsound.held partition key response ?_
    rw [Traffic.run_store]
    exact hh
  · intro x hx response hresult
    have hvouched := (hsound.sent x hx).of_result? hresult
    exact ⟨hvouched, hvouched.decodeOutcome_ne_fault⟩

/-- Of two connections of one name, the first is answered with an error status and the second with a
document, which the first is then served. -/
theorem only_clean_responses_after_error :
    let vault : Vault := ⟨⟨.empty, 0, fun n => toString n, 0⟩, [.memory (.empty .standard)]⟩
    let properties : PropertyMap :=
      ((∅ : PropertyMap).insert "Server" "http://h/x").insert "Cache.Name" "sales"
    let document : Bytes := Utf8.encodeString "<root></root>"
    let actions : List Action :=
      [.connect properties, .connect properties, .ask 0 (.execute "q"), .ask 1 (.execute "q"),
        .answer 0 (.reply ⟨503, document⟩), .answer 1 (.reply ⟨200, document⟩), .arrive 1,
        .ask 0 (.execute "q")]
    let t := (Traffic.fresh vault 0 []).run actions
    ∃ x ∈ t.sendings, x.stage = .served document (some ⟨"named:sales", 1⟩) ∧
      Vouched t.received x.key document := by
  intro vault properties document actions t
  have hstages : t.sendings[2]?.map (·.stage) =
      some (.served document (some ⟨"named:sales", 1⟩)) := by
    decide +kernel
  obtain ⟨x, hx, hstage⟩ := Option.map_eq_some_iff.1 hstages
  have hmem : x ∈ t.sendings := List.mem_of_getElem? hx
  refine ⟨x, hmem, hstage, ?_⟩
  refine ((only_clean_responses vault 0 [] actions ?_ ?_ ?_).2 x hmem document ?_).1
  · intro c hc
    cases hc
  · rintro partition key response ⟨s, hs, hh⟩
    cases hs
    exact Cache.Memory.not_holds_empty _ hh
  · rintro ⟨s, hs, r, rfl⟩
    cases hs
  · rw [hstage]
    rfl

end OlapClient
