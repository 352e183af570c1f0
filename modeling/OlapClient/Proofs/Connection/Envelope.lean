import OlapClient.Connection.Basic
import OlapClient.Proofs.Soap.Envelope

namespace OlapClient

/-!
# Requests on a connection

* `Settings.requestProperties_inj` — the properties of a request tell data source and catalog.
* `Connection.envelope_inj` — the bytes of a request tell the request as well.
-/

/-- The properties of a request tell data source and catalog, each of which may be left out. -/
theorem Settings.requestProperties_inj {s s' : Settings}
    (h : s.requestProperties = s'.requestProperties) :
    s.dataSource = s'.dataSource ∧ s.catalog = s'.catalog := by
  unfold requestProperties at h
  cases hs : s.dataSource <;> cases hs' : s'.dataSource <;> cases hc : s.catalog <;>
    cases hc' : s'.catalog <;> simp_all

namespace Connection

variable {a b c : Connection} {r q : Soap.Request} {bytes : Bytes}

theorem envelope_eq_ok (h : c.envelope r = .ok bytes) :
    r.envelope c.settings.requestProperties = .ok bytes :=
  Except.mapError_eq_ok h

/-- The bytes of a request on a connection tell the request, data source and catalog. -/
theorem envelope_inj (ha : a.envelope r = .ok bytes) (hb : b.envelope q = .ok bytes) :
    r = q ∧ a.settings.dataSource = b.settings.dataSource ∧
      a.settings.catalog = b.settings.catalog := by
  obtain ⟨hrequest, hproperties⟩ :=
    Soap.Request.envelope_inj (envelope_eq_ok ha) (envelope_eq_ok hb)
  exact ⟨hrequest, Settings.requestProperties_inj hproperties⟩

/-- A request has bytes. -/
theorem envelope_ne_nil (h : c.envelope r = .ok bytes) : bytes ≠ [] :=
  Soap.Request.envelope_ne_nil (envelope_eq_ok h)

end Connection

end OlapClient
