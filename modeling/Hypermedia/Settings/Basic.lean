import Hypermedia.Json.Decode
import Hypermedia.Text.Outline
/-!
# Settings

What a client is told about its service: where it is, how it batches, how long it waits, how often it tries again, and
how it logs.  Every setting has a default, so a document names only what differs from it.
-/
namespace Hypermedia
namespace Settings

structure Service where
  location : String := "http://localhost:8080"
  batchPath : String := "/batch"
  /-- How many entities are buffered before a batch is saved. -/
  maxBatchSize : Nat := 1
  deriving DecidableEq

/-- How long a connection and a whole exchange may take, in seconds. -/
structure Timeouts where
  connect : UInt64 := 5
  request : UInt64 := 30
  deriving DecidableEq

/-- How reads are tried again; the delays are in milliseconds. -/
structure Retries where
  maxAttempts : UInt32 := 1
  baseDelay : UInt64 := 100
  maxDelay : UInt64 := 2000
  deriving DecidableEq

inductive LogFormat where
  | compact
  | pretty
  deriving DecidableEq

structure Logging where
  level : String := "info"
  format : LogFormat := .compact
  deriving DecidableEq

end Settings

structure Settings where
  service : Settings.Service := {}
  timeouts : Settings.Timeouts := {}
  retries : Settings.Retries := {}
  logging : Settings.Logging := {}
  deriving DecidableEq

namespace Settings

open Json (Decoder DecodeError RecordDecoder)

/-! ## Decoding -/

structure Form where
  /-- Whether a value stands for nothing. -/
  isNothing : Json → Bool
  /-- Whether a list that spells a record may go on behind its last field. -/
  mayGoOn : Bool

def Form.json : Form where
  isNothing
    | .null => true
    | _ => false
  mayGoOn := false

/-- Documents made from tables: an empty list or an empty table stands for nothing. -/
def Form.table : Form where
  isNothing
    | .array [] | .object [] => true
    | _ => false
  mayGoOn := true

/-- Decodes a record; a list that may go on is cut behind the last field. -/
def Form.record {ρ : Type} (form : Form) (d : RecordDecoder ρ) : Decoder ρ
  | .array items => d.decode (.array (if form.mayGoOn then items.take d.fields.length else items))
  | v => d.decode v

def word (d : Json) : Except DecodeError UInt64 := (Decoder.unsigned 64 "u64" d).map Nat.toUInt64

def LogFormat.ofName? (name : String) : Except DecodeError LogFormat :=
  if name == "compact" then .ok .compact
  else if name == "pretty" then .ok .pretty
  else .error (.unknownVariant name ["compact", "pretty"])

/-- A format is its name, or an object that maps its name to nothing. -/
def LogFormat.decode (form : Form) : Decoder LogFormat
  | .text name => LogFormat.ofName? name
  | .object [(name, v)] => do
    let format ← LogFormat.ofName? name
    if form.isNothing v then return format else throw (.wrongType v.found "unit")
  | .object _ => .error (.wrongValue .map "map with a single key")
  | v => .error (.wrongType v.found "string or map")

def LogFormat.name : LogFormat → String
  | .compact => "compact"
  | .pretty => "pretty"

def Service.decoder : RecordDecoder Service where
  name := "ClientSection"
  blank := {}
  fields :=
    [.defaulted "location" Decoder.text fun s r => { r with location := s },
      .defaulted "batch_path" Decoder.text fun s r => { r with batchPath := s },
      .defaulted "max_batch_size" (Decoder.unsigned 64 "usize") fun n r => { r with maxBatchSize := n }]

def Timeouts.decoder : RecordDecoder Timeouts where
  name := "TimeoutConfig"
  blank := {}
  fields :=
    [.defaulted "connect_secs" word fun n r => { r with connect := n },
      .defaulted "request_secs" word fun n r => { r with request := n }]

def Retries.decoder : RecordDecoder Retries where
  name := "RetryConfig"
  blank := {}
  fields :=
    [.defaulted "max_attempts" (Decoder.unsigned 32 "u32") fun n r => { r with maxAttempts := n.toUInt32 },
      .defaulted "base_delay_ms" word fun n r => { r with baseDelay := n },
      .defaulted "max_delay_ms" word fun n r => { r with maxDelay := n }]

def Logging.decoder (form : Form) : RecordDecoder Logging where
  name := "ObservabilityConfig"
  blank := {}
  fields :=
    [.defaulted "log_level" Decoder.text fun s r => { r with level := s },
      .defaulted "log_format" (LogFormat.decode form) fun f r => { r with format := f }]

def decoder (form : Form) : RecordDecoder Settings where
  name := "ClientConfig"
  blank := {}
  fields :=
    [.defaulted "client" (form.record Service.decoder) fun s r => { r with service := s },
      .defaulted "timeouts" (form.record Timeouts.decoder) fun s r => { r with timeouts := s },
      .defaulted "retries" (form.record Retries.decoder) fun s r => { r with retries := s },
      .defaulted "observability" (form.record (Logging.decoder form)) fun s r => { r with logging := s }]

/-! ## Encoding -/

def toJson (s : Settings) : Json :=
  .object [
    ("client", .object [
      ("location", .text s.service.location),
      ("batch_path", .text s.service.batchPath),
      ("max_batch_size", .ofNat s.service.maxBatchSize)]),
    ("timeouts", .object [
      ("connect_secs", .ofNat s.timeouts.connect.toNat),
      ("request_secs", .ofNat s.timeouts.request.toNat)]),
    ("retries", .object [
      ("max_attempts", .ofNat s.retries.maxAttempts.toNat),
      ("base_delay_ms", .ofNat s.retries.baseDelay.toNat),
      ("max_delay_ms", .ofNat s.retries.maxDelay.toNat)]),
    ("observability", .object [
      ("log_level", .text s.logging.level),
      ("log_format", .text s.logging.format.name)])]

def LogFormat.outline : LogFormat → Outline
  | .compact => .word "Compact"
  | .pretty => .word "Pretty"

def outline (s : Settings) : Outline :=
  .record "ClientConfig" [
    ("client", .record "ClientSection" [
      ("location", .text s.service.location),
      ("batch_path", .text s.service.batchPath),
      ("max_batch_size", .number s.service.maxBatchSize)]),
    ("timeouts", .record "TimeoutConfig" [
      ("connect_secs", .number s.timeouts.connect.toNat),
      ("request_secs", .number s.timeouts.request.toNat)]),
    ("retries", .record "RetryConfig" [
      ("max_attempts", .number s.retries.maxAttempts.toNat),
      ("base_delay_ms", .number s.retries.baseDelay.toNat),
      ("max_delay_ms", .number s.retries.maxDelay.toNat)]),
    ("observability", .record "ObservabilityConfig" [
      ("log_level", .text s.logging.level),
      ("log_format", s.logging.format.outline)])]

def ofJson (document : Json) : Except DecodeError Settings := (decoder .json).decode document

end Settings
end Hypermedia
