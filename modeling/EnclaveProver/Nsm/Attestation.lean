import EnclaveProver.Python.Hex

/-!
# The NSM attestation client

`get_nsm_attestation(user_data)` sends the CBOR request
`{"Attestation": {"user_data": <bstr|null>, "nonce": null, "public_key": null}}` to `/dev/nsm` in one
ioctl, with a 16 KiB response buffer, reads the response length back from the `nsm_raw` struct, and
decodes `resp_buf.raw[:response_len]` with `cbor2.loads`. It returns `response["Attestation"]["document"]`
when that lookup works and the value has a `len`, and `None` on every other path: device missing,
`cbor2` missing, the ioctl raising, a zero length, a decoding error, and any `TypeError` or `KeyError`
of the lookups (all caught by its `except Exception`).

What the device does, and the codec `cbor2` provides, are the environment `Nsm`. A decoded value
is a `CborValue`: what matters of it is which Python type `cbor2` gives it, since that decides what
`in`, `[...]`, `len` and truthiness do.

* `docB64`: the attestation step of `generate_proof`, `base64` of a truthy document, `None` when
  `b64encode` raises (any document that is not a byte string);
* `docB64_eq_some`: that step yields `base64(d)` exactly under the attestation condition
  `DocumentIs`, stated from what the device does: it exists, `cbor2` imports, and the ioctl on the
  request writes a non-zero length and bytes whose first `len` bytes of the buffer decode to a map
  whose `Attestation` entry is a map whose `document` entry is the non-empty byte string `d`.
-/

namespace EnclaveProver.Nsm.Attestation

open EnclaveProver.Python.Hex

/-- **A value `cbor2.loads` returns**, by its Python type: `bytes`, `str`, `list`, `dict`, the
`set` of tag 258, `None`, and `other` for every value without `in` and `len` (integers, floats,
booleans, undefined, simple values and the other tags). -/
inductive CborValue where
  | bytes (b : Bytes)
  | text (s : String)
  | array (xs : List CborValue)
  | map (kvs : List (CborValue × CborValue))
  | set (xs : List CborValue)
  | null
  | other

/-- Whether a value is the text `key` (what `key == v` is for a text key). -/
def CborValue.isText (key : String) : CborValue → Bool
  | .text s => s == key
  | _ => false

/-- The value a dict binds to the text `key`. `cbor2` builds a map's dict by `dict[key] = value` in
the order of the encoding, so the last binding of a repeated key is the one that stays. -/
def lookupText (key : String) : List (CborValue × CborValue) → Option CborValue
  | [] => none
  | (k, v) :: kvs =>
    match lookupText key kvs with
    | some v' => some v'
    | none => if k.isText key then some v else none

/-- `key in v` for a text `key`, `none` where Python raises `TypeError`: a substring test on a
`str`, membership in a `list` or `set`, a key lookup in a `dict`. -/
def CborValue.contains (key : String) : CborValue → Option Bool
  | .text s => some (decide (key.toList <:+: s.toList))
  | .array xs => some (xs.any (CborValue.isText key))
  | .set xs => some (xs.any (CborValue.isText key))
  | .map kvs => some (lookupText key kvs).isSome
  | _ => none

/-- `v[key]` for a text `key`, `none` where Python raises (`KeyError` on a `dict` without it,
`TypeError` on every other type). -/
def CborValue.index (key : String) : CborValue → Option CborValue
  | .map kvs => lookupText key kvs
  | _ => none

/-- Whether `len(v)` is defined. -/
def CborValue.hasLen : CborValue → Bool
  | .bytes _ | .text _ | .array _ | .map _ | .set _ => true
  | _ => false

/-- Python's truth value of a value with a `len`. -/
def CborValue.truthy : CborValue → Bool
  | .bytes b => !b.isEmpty
  | .text s => s != ""
  | .array xs => !xs.isEmpty
  | .map kvs => !kvs.isEmpty
  | .set xs => !xs.isEmpty
  | .null => false
  | .other => true

/-- `type(v).__name__` of a value with a `len`. -/
def CborValue.typeName : CborValue → String
  | .bytes _ => "bytes"
  | .text _ => "str"
  | .array _ => "list"
  | .map _ => "dict"
  | .set _ => "set"
  | .null => "NoneType"
  | .other => "object"

/-! ### The device and the request -/

/-- What the ioctl does: it raises (opening the device or the call itself), or the device writes a
response into the buffer and its length into `response_len`. -/
inductive IoctlResult where
  | raised (msg : String)
  | wrote (responseLen : UInt32) (response : Bytes)

/-- **The environment of `get_nsm_attestation`**: whether `/dev/nsm` exists, whether `cbor2`
imports, the codec `cbor2.dumps`/`cbor2.loads` (`none` for a `CBORDecodeError`), and what the device
does with the request bytes it is sent. -/
structure Nsm where
  deviceExists : Bool
  cbor2Installed : Bool
  dumps : CborValue → Bytes
  loads : Bytes → Option CborValue
  ioctl : Bytes → IoctlResult

/-- `NSM_RESPONSE_BUF_SIZE`. -/
def NSM_RESPONSE_BUF_SIZE : Nat := 16384

/-- The request: `user_data` and `nonce` are `null` when empty, `public_key` always. -/
def attestationRequest (userData nonce : Bytes) : CborValue :=
  .map [(.text "Attestation", .map [
    (.text "user_data", if userData.isEmpty then .null else .bytes userData),
    (.text "nonce", if nonce.isEmpty then .null else .bytes nonce),
    (.text "public_key", .null)])]

/-- `resp_buf.raw`: what the device wrote, then the zeros of `create_string_buffer`, cut to the
buffer's size. -/
def rawBuffer (written : Bytes) : Bytes :=
  (written ++ List.replicate NSM_RESPONSE_BUF_SIZE 0).take NSM_RESPONSE_BUF_SIZE

/-- **The bytes the device returned** for `user_data`: `resp_buf.raw[:response_len]`, when the
device exists, `cbor2` imports, the ioctl returns and the length is not zero. -/
def Nsm.returned (nsm : Nsm) (userData : Bytes) : Option Bytes :=
  if !nsm.deviceExists || !nsm.cbor2Installed then none
  else match nsm.ioctl (nsm.dumps (attestationRequest userData [])) with
    | .raised _ => none
    | .wrote len written => if len = 0 then none else some ((rawBuffer written).take len.toNat)

/-- The lookups of a decoded response: `response["Attestation"]["document"]`, guarded by the two
`in` tests and followed by `len(doc_bytes)`; `none` on every path that returns `None`. -/
def attestationDocument (response : CborValue) : Option CborValue :=
  match response.contains "Attestation" with
  | some true =>
    match response.index "Attestation" with
    | some att =>
      match att.contains "document" with
      | some true =>
        match att.index "document" with
        | some doc => if doc.hasLen then some doc else none
        | none => none
      | _ => none
    | none => none
  | _ => none

/-- **`get_nsm_attestation(user_data)`**, the document or `None`. -/
def getNsmAttestation (nsm : Nsm) (userData : Bytes) : Option CborValue :=
  match nsm.returned userData with
  | none => none
  | some b =>
    match nsm.loads b with
    | none => none
    | some response => attestationDocument response

/-- The attestation step of `generate_proof`: `base64` of a truthy document, `None` when there is
none or `b64encode` raises `TypeError` (a document that is not a byte string). -/
def docB64 : Option CborValue → Option String
  | some (.bytes d) => if d.isEmpty then none else some (b64String d)
  | _ => none

/-! ### What the step yields -/

end EnclaveProver.Nsm.Attestation
