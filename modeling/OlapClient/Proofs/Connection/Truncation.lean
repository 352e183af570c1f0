import OlapClient.Proofs.Connection.CleanResponses
import OlapClient.Proofs.Soap.Truncation

namespace OlapClient

open Cache (Vault)
open Exchange (Answer)
open Soap (checkDocument)

/-!
# Responses cut short

A response that was cut before the end tag of its document element has its name is no complete
document, so that no post yields it and no store ever holds it.

* `Exchange.Answer.outcome_ne_ok` — a reply without a complete document has no outcome.
* `Traffic.Sound.document_of_holds`, `Traffic.Sound.document_of_result?` — what is held or returned.
* `truncation_detected` — for all cuts of a complete document before its element is closed.
* `truncation_undetected_in_end_tag` — the cuts between that name and the closing angle are taken for
  complete documents.
-/

/-- A reply without a complete document has no outcome. -/
theorem Exchange.Answer.outcome_ne_ok {r : Exchange.Reply} (h : checkDocument r.body ≠ .ok ())
    (response : Bytes) : (Answer.reply r).outcome ≠ .ok response := by
  intro houtcome
  obtain ⟨r', hr, ⟨-, -, hdocument⟩, -⟩ := Answer.outcome_eq_ok houtcome
  cases hr
  exact h hdocument

theorem Vouched.document {received : List Received} {key : Cache.EntryKey} {response : Bytes}
    (h : Vouched received key response) : checkDocument response = .ok () := by
  obtain ⟨y, -, -, -, -, ⟨-, -, hdocument⟩, rfl⟩ := h
  exact hdocument

namespace Traffic

variable {t : Traffic} {records : Prop} (h : t.Sound records) {response : Bytes}
include h

/-- What the store holds is a complete document. -/
theorem Sound.document_of_holds {partition : String} {key : Cache.EntryKey}
    (hh : t.vault.Holds t.store partition key response) : checkDocument response = .ok () :=
  (h.held partition key response hh).document

/-- What a sending returns is a complete document. -/
theorem Sound.document_of_result? {x : Sending} (hx : x ∈ t.sendings)
    (hresult : x.stage.result? = some (.ok response)) : checkDocument response = .ok () :=
  ((h.sent x hx).of_result? hresult).document

end Traffic

/-- **Truncation is detected up to the end tag of the document element.** Every accepted body divides
at that end tag. If it is cut anywhere before the angle that closes the tag, then what is left is
accepted if and only if it has the name in that tag. Otherwise no post that is answered with it has an
outcome, and whatever connections that share a store do, no store that began empty ever holds it and
no sending returns it. -/
theorem truncation_detected {body : Bytes} (h : checkDocument body = .ok ()) :
    ∃ (d : Soap.Document) (front gap last : Bytes), d.EndsAt body front gap last ∧
      ∀ cut, cut <+: front ++ (d.endTag ++ gap) →
        (checkDocument cut = .ok () ↔ front ++ d.endTag <+: cut) ∧
        (¬ front ++ d.endTag <+: cut →
          (∀ status response, (Answer.reply ⟨status, cut⟩).outcome ≠ .ok response) ∧
          ∀ (vault : Vault) (store : Nat) (connections : List Connection) (actions : List Action),
            (∀ c ∈ connections, ∀ b, c.binding = some b → b.store = store) →
            (∀ partition key response, ¬ vault.Holds store partition key response) →
            let t := (Traffic.fresh vault store connections).run actions
            (vault.Records store → ∀ x ∈ t.sendings, x.key.Writable) →
              (∀ partition key, ¬ t.vault.Holds store partition key cut) ∧
                ∀ x ∈ t.sendings, x.stage.result? ≠ some (.ok cut)) := by
  obtain ⟨d, front, gap, last, hd⟩ := Soap.exists_endsAt h
  refine ⟨d, front, gap, last, hd, fun cut hcut => ?_⟩
  have hcheck := hd.check_cut_iff hcut
  refine ⟨hcheck, fun hbefore => ?_⟩
  have hnot : checkDocument cut ≠ .ok () := fun hok => hbefore (hcheck.1 hok)
  refine ⟨fun status => Answer.outcome_ne_ok hnot, ?_⟩
  intro vault store connections actions hbound hempty t hfit
  have hstart : (Traffic.fresh vault store connections).Sound (vault.Records store) :=
    ⟨id, hbound, fun partition key response hh => absurd hh (hempty partition key response),
      fun x hx => by cases hx⟩
  have hsound : t.Sound (vault.Records store) := Traffic.sound_run hstart actions hfit
  have hstore : t.store = store := Traffic.run_store _ actions
  refine ⟨fun partition key hh => hnot ?_, fun x hx hresult => hnot ?_⟩
  · rw [← hstore] at hh
    exact hsound.document_of_holds hh
  · exact hsound.document_of_result? hx hresult

/-- A document with a declaration, a reference, and white space in its last end tag. -/
theorem truncation_detected_with_space :
    let body := Utf8.encodeString "<?xml version=\"1.0\"?><root><row>1 &lt; 2</row></root >\n"
    checkDocument body = .ok () ∧ ∃ (d : Soap.Document) (front gap last : Bytes),
      d.EndsAt body front gap last ∧ ∀ cut, cut <+: front ++ (d.endTag ++ gap) →
        ¬ front ++ d.endTag <+: cut →
          ∀ status response, (Answer.reply ⟨status, cut⟩).outcome ≠ .ok response := by
  intro body
  have hcheck : checkDocument body = .ok () := by decide +kernel
  obtain ⟨d, front, gap, last, hd, hcuts⟩ := truncation_detected hcheck
  exact ⟨hcheck, d, front, gap, last, hd, fun cut hcut hbefore => ((hcuts cut hcut).2 hbefore).1⟩

/-- **Cuts within the end tag are not detected.** The end of the input takes the place of the angle: a
reply with an unfinished end tag is returned, and the store serves it again. -/
theorem truncation_undetected_in_end_tag :
    let body : Bytes := Utf8.encodeString "<root></root>"
    let cut : Bytes := Utf8.encodeString "<root></root"
    let vault : Vault := ⟨⟨.empty, 0, fun n => toString n, 0⟩, [.memory (.empty .standard)]⟩
    let properties : PropertyMap :=
      ((∅ : PropertyMap).insert "Server" "http://h/x").insert "Cache.Name" "sales"
    let actions : List Action :=
      [.connect properties, .ask 0 (.execute "q"), .answer 0 (.reply ⟨200, cut⟩), .arrive 0,
        .ask 0 (.execute "q")]
    body = cut ++ [0x3E] ∧ checkDocument body = .ok () ∧ checkDocument cut = .ok () ∧
      (Answer.reply ⟨200, cut⟩).outcome = .ok cut ∧
      ((Traffic.fresh vault 0 []).run actions).sendings[1]?.map (·.stage) =
        some (.served cut (some ⟨"named:sales", 1⟩)) := by
  decide +kernel

end OlapClient
