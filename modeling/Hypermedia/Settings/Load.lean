import Hypermedia.Settings.Check
import Hypermedia.Toml.Read
/-!
# Loading settings

Settings are kept in a TOML text.  What is loaded has been checked.
-/
namespace Hypermedia
namespace Settings

def ofTable? (table : Toml.Value) : Option Settings := ((decoder .table).decode table.toJson).toOption

def ofText (text : String) : Except LoadFault Settings :=
  match (Toml.parse? text).bind ofTable? with
  | some s => accept s
  | none => .error .malformed

/-- The settings in a file with the given bytes; without bytes there is no such file. -/
def ofFile : Option ByteArray → Except LoadFault Settings
  | none => .error (.unreadable .missing)
  | some bytes =>
    match String.fromUTF8? bytes with
    | some text => ofText text
    | none => .error (.unreadable .notText)

/-- **Settings that were loaded have no complaints.** -/
theorem complaints_of_ofText {text : String} {s : Settings} (h : ofText text = .ok s) : s.complaints = [] := by
  unfold ofText at h
  split at h
  · exact complaints_of_accept h
  · cases h

end Settings
end Hypermedia
