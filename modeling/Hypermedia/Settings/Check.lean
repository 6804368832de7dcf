import Hypermedia.Settings.Basic
import Hypermedia.Uri.Parse
/-!
# Checking settings

Settings are checked as a whole: every rule that they break is reported, in a fixed order.
-/
namespace Hypermedia
namespace Settings

inductive Complaint where
  | notAbsolute (location : String) (reason : UriError)
  | unsupportedScheme (scheme : String)
  | batchPathWithoutSlash
  | noBatchSize
  | noConnectTime
  | noRequestTime
  | noAttempts
  | delaysInverted
  deriving DecidableEq

namespace Complaint

def field : Complaint → String
  | .notAbsolute _ _ => "client.location"
  | .unsupportedScheme _ => "client.location"
  | .batchPathWithoutSlash => "client.batch_path"
  | .noBatchSize => "client.max_batch_size"
  | .noConnectTime => "timeouts.connect_secs"
  | .noRequestTime => "timeouts.request_secs"
  | .noAttempts => "retries.max_attempts"
  | .delaysInverted => "retries.base_delay_ms"

def message : Complaint → String
  | .notAbsolute location reason => "'" ++ location ++ "' is not an absolute URI: " ++ reason.message
  | .unsupportedScheme scheme => "unsupported scheme '" ++ scheme ++ "'"
  | .batchPathWithoutSlash => "must start with '/'"
  | .noBatchSize => "must be greater than 0"
  | .noConnectTime => "must be greater than 0"
  | .noRequestTime => "must be greater than 0"
  | .noAttempts => "must be at least 1"
  | .delaysInverted => "must not exceed retries.max_delay_ms"

def display (c : Complaint) : String := c.field ++ ": " ++ c.message

end Complaint

/-- The complaint about a location, if there is one: it has to be an address that is reached over HTTP. -/
def locationComplaint? (location : String) : Option Complaint :=
  match Uri.parse? location with
  | .ok uri => if uri.scheme == "http" || uri.scheme == "https" then none else some (.unsupportedScheme uri.scheme)
  | .error reason => some (.notAbsolute location reason)

def complaints (s : Settings) : List Complaint :=
  (locationComplaint? s.service.location).toList ++
  (if s.service.batchPath.toList.head? == some '/' then [] else [.batchPathWithoutSlash]) ++
  (if s.service.maxBatchSize == 0 then [.noBatchSize] else []) ++
  (if s.timeouts.connect == 0 then [.noConnectTime] else []) ++
  (if s.timeouts.request == 0 then [.noRequestTime] else []) ++
  (if s.retries.maxAttempts == 0 then [.noAttempts] else []) ++
  (if s.retries.maxDelay < s.retries.baseDelay then [.delaysInverted] else [])

inductive FileFault where
  | missing
  | notText

def FileFault.message : FileFault → String
  | .missing => "No such file or directory (os error 2)"
  | .notText => "stream did not contain valid UTF-8"

inductive LoadFault where
  | unreadable (fault : FileFault)
  | malformed
  | rejected (complaints : List Complaint)

/-- The wording of a fault; that of a text without settings says no more than that. -/
def LoadFault.message : LoadFault → String
  | .unreadable fault => "IO error: " ++ fault.message
  | .malformed => "Parse error"
  | .rejected cs => "Validation failed: " ++ ", ".intercalate (cs.map Complaint.display)

def accept (s : Settings) : Except LoadFault Settings :=
  match complaints s with
  | [] => .ok s
  | cs => .error (.rejected cs)

theorem complaints_of_accept {s s' : Settings} (h : accept s = .ok s') : s'.complaints = [] := by
  unfold accept at h
  split at h
  · cases h; assumption
  · cases h

end Settings
end Hypermedia
