import OlapClient.Bytes

namespace OlapClient.Cache

/-!
# Records

The file of a recorded response repeats what it answers: the length of the location and the
location, the length of the request and the request, and then the response.

* `Record.encode`, `Record.decode?` — the bytes of a record, and reading them.
-/

/-- A recorded response with what it answers. -/
structure Record where
  url : Bytes
  request : Bytes
  response : Bytes
deriving DecidableEq, Repr

/-- A byte sequence after its length in eight bytes. -/
def withLength (bs : Bytes) : Bytes :=
  Bytes.ofNat64 bs.length ++ bs

/-- Take a byte sequence that its length precedes, and what follows it. -/
def takeWithLength (bs : Bytes) : Option (Bytes × Bytes) :=
  if bs.length < 8 then none
  else
    let n := Bytes.toNat (bs.take 8)
    let rest := bs.drop 8
    if rest.length < n then none else some (rest.take n, rest.drop n)

namespace Record

/-- The bytes of a record. -/
def encode (r : Record) : Bytes :=
  withLength r.url ++ withLength r.request ++ r.response

/-- The record of a byte sequence, unless a length goes past its end. -/
def decode? (bs : Bytes) : Option Record :=
  match takeWithLength bs with
  | none => none
  | some (url, rest) =>
    match takeWithLength rest with
    | none => none
    | some (request, response) => some ⟨url, request, response⟩

end Record

end OlapClient.Cache
