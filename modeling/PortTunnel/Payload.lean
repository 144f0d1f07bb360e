import PortTunnel.Error
import PortTunnel.Json.Printer
import PortTunnel.Json.Reader
import PortTunnel.Schema.Reading
import PortTunnel.Schema.Recorded
import PortTunnel.Text.Base64
import PortTunnel.Text.Blank
import PortTunnel.Text.Utf8

/-!
# Payloads

The form in which values cross a process boundary: compact JSON, as base64 of the
alphabet that needs no quoting, so that it fits into an environment variable.

* `Payload.encode`, `Payload.decode`: the two directions for any recorded type.
* `Payload.Fault`: the layer at which a payload is refused.
-/

namespace PortTunnel.Payload

open Schema Text

inductive Fault where
  | base64 (fault : Base64.Fault)
  | utf8 (fault : Utf8.Fault)
  | json (fault : Json.Fault) (text : List Char)

def Fault.message : Fault → String
  | .base64 fault => s!"invalid base64: {fault.message}"
  | .utf8 fault => s!"invalid utf-8: {fault.message}"
  | .json fault text => "invalid payload: " ++ fault.message text

def encodeText (text : List Char) : String :=
  String.ofList (Base64.encode .url (Utf8.encode text))

def encode {α : Type} [Recorded α] (a : α) : String :=
  encodeText (Json.compactChars (Recorded.toJson a))

/-- The value of a text that is not wrapped. -/
def decodeChars {α : Type} [Recorded α] (text : List Char) : Except Fault α :=
  match (Recorded.shape α).readDocument Json.depthLimit (Json.Document.ofChars text) with
  | .ok v => .ok (Recorded.ofVal v)
  | .error f => .error (.json f text)

/-- Unwraps a payload, with any blanks around it, and reads it. -/
def decode? {α : Type} [Recorded α] (encoded : String) : Except Fault α :=
  match Base64.decode .url (Utf8.encode (trimChars encoded.toList)) with
  | .error f => .error (.base64 f)
  | .ok bytes =>
    match Utf8.decode bytes with
    | .error f => .error (.utf8 f)
    | .ok text => decodeChars text

def decode {α : Type} [Recorded α] (encoded : String) : Except Error α :=
  (decode? encoded).mapError fun f => .decode f.message

end PortTunnel.Payload
