import HostedNode.Json.Coded
import HostedNode.Rpc.Error

/-! # JSON-RPC envelopes

The envelope around the result of a call or its error. A result that is null is a result; an error
that is null is none. `outcome` is what the call comes to: an error wins over a result. -/

namespace HostedNode.Rpc

open Json

/-- An answer to a call. -/
structure Envelope where
  result : Option Json
  error : Option Json
  id : Json
deriving DecidableEq, Repr, Inhabited

namespace Envelope

/-- Reads an envelope from JSON. All of its fields may be absent. -/
def reader : RecordReader Envelope :=
  Envelope.mk <$> .withDefault "result" (Decoder.json.map some) none
    <*> .withDefault "error" Decoder.json.option none <*> .withDefault "id" Decoder.json .null

instance : Coded Envelope where
  toJson e := .obj [entry "result" e.result, entry "error" e.error, entry "id" e.id]
  decoder := reader.decoder "JsonRpcResponse"

/-- What an error value says: its message, or else all of it. -/
def errorText (e : Json) : String :=
  match e.get? "message" with
  | some (.str m) => m
  | _ => e.compact

/-- What the call comes to. -/
def outcome (e : Envelope) : Except TransportError Json :=
  match e.error.filter (!·.isNull) with
  | some err => .error (.rpc (errorText err))
  | none =>
    match e.result with
    | some v => .ok v
    | none => .error (.invalidFormat "missing result field")

end Envelope

/-- Why a text is no envelope, as the failure of a call. -/
def TransportError.ofText (e : TextError) : TransportError := .serialization e.message

/-- Why a value is no envelope, as the failure of a call. -/
def TransportError.ofValue (e : DecodeError) : TransportError := .serialization e.message

/-- Reads an envelope from a text. -/
def Envelope.ofText (text : String) : Except TransportError Envelope :=
  (readAs decoder text).mapError .ofText

/-- Reads an envelope from a value. -/
def Envelope.ofJson (v : Json) : Except TransportError Envelope :=
  (decode decoder v).mapError .ofValue

end HostedNode.Rpc
