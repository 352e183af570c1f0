import OlapClient.Connection.Basic
import OlapClient.Proofs.Rowset.Faults
import OlapClient.Proofs.Soap.WrittenFault

namespace OlapClient

open Cache (Vault)
open Exchange (Answer Call Endpoint Post Reply)
open Location (Url)
open Soap (FaultLayout FaultPart FaultTexts)

/-!
# Faults reach the caller

A fault in a response is looked for before anything else, so it is the result of the post and of the
request on a connection, with its code and its message.

* `Reply.check_of_fault`, `Endpoint.call_of_fault` — a reply that carries a fault, and a post that
  is answered by it.
* `Connection.request_of_fault`, `Connection.decodeOutcome_of_fault` — a request on a connection.
* `written_fault_reaches_caller` — a fault that was written, from the body to the caller.
-/

namespace Exchange

variable {r : Reply} {f : Soap.Fault}

/-- Whatever the status, a reply that carries a fault is that fault. -/
theorem Reply.check_of_fault (h : Soap.fault? r.body = some f) : r.check = .error (.fault f) := by
  rw [Reply.check, h]

theorem Answer.outcome_of_fault (h : Soap.fault? r.body = some f) :
    (Answer.reply r).outcome = .error (.wire (.fault f)) := by
  rw [Answer.outcome, Reply.check_of_fault h]
  rfl

/-- A post that is answered by a reply with a fault ends with it. -/
theorem Endpoint.call_of_fault {e : Endpoint} {url : Url} {action : String} {body : Bytes}
    {post : Post} {resume : Answer → Call (Except ExchangeError Bytes)}
    (hcall : e.call url action body = .post post resume) (h : Soap.fault? r.body = some f) :
    resume (.reply r) = .done (.error (.wire (.fault f))) := by
  unfold Endpoint.call at hcall
  split at hcall
  · cases hcall
  · cases hcall
    show Call.done (Answer.reply r).outcome = _
    rw [Answer.outcome_of_fault h]

end Exchange

namespace Connection

variable {c : Connection} {v : Vault} {q : Soap.Request} {r : Reply} {f : Soap.Fault}

/-- A response that carries a fault is decoded as the fault, from the cache or from a server. -/
theorem decodeOutcome_of_fault {body : Bytes} (h : Soap.fault? body = some f) :
    decodeOutcome (.ok body) = .error (.fault f) := by
  rw [decodeOutcome, Rowset.decode_eq_fault_iff.2 h]
  rfl

/-- A request that is posted and answered by a reply with a fault ends with it. -/
theorem request_of_fault {post : Post}
    {resume : Answer → Call (Except ConnectionError Rowset.Table × Vault)}
    (hrequest : c.request v q = .post post resume) (h : Soap.fault? r.body = some f) :
    ∃ v', resume (.reply r) = .done (.error (.fault f), v') := by
  unfold request at hrequest
  split at hrequest
  · cases hrequest
  · split at hrequest
    · cases hrequest
    · unfold Exchange.exchange at hrequest
      split at hrequest
      · cases hrequest
      · cases hrequest
      · rename_i v' _
        -- the cache has no answer, so the request is posted if it can be built
        unfold Endpoint.call at hrequest
        split at hrequest
        · cases hrequest
        · cases hrequest
          refine ⟨v', ?_⟩
          simp only [Call.bind, Exchange.Answer.outcome_of_fault h, Exchange.closeExchange]
          rfl

end Connection

/-- **A written fault reaches the caller**, with the code and the message that were written, or with
the description where the message is empty. It is the fault of the body; whatever the status of the
reply, it is the error of the post; and it is the error of every request on a connection that gets
this body from the server or from the cache. -/
theorem written_fault_reaches_caller (l : FaultLayout) (t : FaultTexts) {parts : List FaultPart}
    (h : parts.Perm FaultPart.all) :
    let body := l.body t parts
    Soap.fault? body = some t.fault ∧
    (∀ status, Reply.check ⟨status, body⟩ = .error (.fault t.fault)) ∧
    (∀ (e : Endpoint) url action request post resume,
      e.call url action request = .post post resume → ∀ status,
        resume (.reply ⟨status, body⟩) = .done (.error (.wire (.fault t.fault)))) ∧
    (∀ (c : Connection) v q post resume, c.request v q = .post post resume → ∀ status,
      ∃ v', resume (.reply ⟨status, body⟩) = .done (.error (.fault t.fault), v')) ∧
    Connection.decodeOutcome (.ok body) = .error (.fault t.fault) := by
  intro body
  have hfault : Soap.fault? body = some t.fault := Soap.fault?_body l t h
  exact ⟨hfault, fun _ => Exchange.Reply.check_of_fault hfault,
    fun _ _ _ _ _ _ hcall _ => Exchange.Endpoint.call_of_fault hcall hfault,
    fun _ _ _ _ _ hrequest _ => Connection.request_of_fault hrequest hfault,
    Connection.decodeOutcome_of_fault hfault⟩

/-- A fault without a message, whose detail comes first, under the status of a success. -/
theorem written_fault_reaches_caller_success :
    let l : FaultLayout := ⟨fun name => if name = "Error" then none else some "soap",
      [("xmlns:soap", Soap.envelopeSpace)], ['\n', ' '], by
        intro name p hp
        split at hp <;> cases hp
        decide, by decide, by simp [Markup.isSpaceChar]⟩
    let t : FaultTexts := ⟨"XMLA <1> & 'a'", "", " \"no cube\"\n", by decide, by decide⟩
    let body := l.body t [.detail, .message, .code]
    let url : Url := ⟨"http", some ⟨[], [], .domain ['h'], none⟩, .segments [[]], none, none⟩
    let c : Connection := ⟨⟨url, none, none, none, none, none, none⟩, ⟨∅, ∅⟩, {}, none, false⟩
    let v : Vault := ⟨⟨.empty, 0, fun n => toString n, 0⟩, []⟩
    ∃ post resume v', c.request v (.execute "q") = .post post resume ∧
      resume (.reply ⟨200, body⟩) =
        .done (.error (.fault ⟨"XMLA <1> & 'a'", " \"no cube\"\n"⟩), v') := by
  intro l t body url c v
  have hposts : (match c.request v (.execute "q") with
      | .post _ _ => true
      | .done _ => false) = true := by
    decide +kernel
  cases hrequest : c.request v (.execute "q") with
  | done result =>
    rw [hrequest] at hposts
    cases hposts
  | post post resume =>
    have hparts : [FaultPart.detail, .message, .code].Perm FaultPart.all := by decide
    obtain ⟨-, -, -, hconnection, -⟩ := written_fault_reaches_caller l t hparts
    obtain ⟨v', hresume⟩ := hconnection c v (.execute "q") post resume hrequest 200
    exact ⟨post, resume, v', rfl, hresume⟩

end OlapClient
