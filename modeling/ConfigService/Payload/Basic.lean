import ConfigService.Json.Reader
/-!
# Payload — typed data on its way to JSON

A payload is what a typed value hands over when it is written down: scalars, sequences, maps, records, and the variants
of a sum, each as the kind of thing it is.  Much of this has no counterpart in JSON and is brought there by `lower`; some
has none at all, and then there is a reason why the payload cannot be written.
-/
namespace ConfigService

/-- Typed data. -/
inductive Payload
  | bool (b : Bool)
  | integer (i : Int)
  /-- An integer of 128 bits, with or without a sign. -/
  | wideInteger (signed : Bool) (i : Int)
  | float32 (bits : UInt32)
  | float64 (bits : UInt64)
  | char (c : Char)
  | string (s : String)
  | bytes (bs : List UInt8)
  | none
  | some (p : Payload)
  | unit
  | marker (name : String)
  | label (sum variant : String)
  | wrapped (name : String) (p : Payload)
  | wrappedVariant (sum variant : String) (p : Payload)
  | sequence (items : List Payload)
  | tuple (items : List Payload)
  | namedTuple (name : String) (items : List Payload)
  | tupleVariant (sum variant : String) (items : List Payload)
  | map (entries : List (Payload × Payload))
  | record (name : String) (fields : List (String × Payload))
  | recordVariant (sum variant : String) (fields : List (String × Payload))
  | timestamp (t : Timestamp)
  /-- A JSON value inside typed data. -/
  | value (v : Json.Value)
  /-- Data that fails to hand itself over, with its own words. -/
  | fail (message : String)

namespace Payload

/-- The value of a float of 32 bits. -/
def value32 (bits : UInt32) : BinaryValue := binary32.decode bits.toNat

/-- The value of a float of 64 bits. -/
def value64 (bits : UInt64) : BinaryValue := binary64.decode bits.toNat

end Payload

end ConfigService
