import Hypermedia.Family.Schema
import Hypermedia.Proofs.Service
import Hypermedia.Proofs.Uri.Append
import Hypermedia.Repository.Buffer
import Hypermedia.Settings.Check
/-!
# Settings that are accepted

Settings have seven rules to keep (`Settings.Rule`).  What is complained about are the rules that they break, each of
them once and in the order of the rules.  Settings that keep all rules are used as they are: what reads a setting later
on reads it from the same text, and bounds it by nothing that the rules have not ruled out (`accepted_in_use`).
-/
namespace Hypermedia

namespace Settings

/-! ## The rules -/

/-- What settings have to keep to, in the order in which it is checked. -/
inductive Rule where
  | location
  | batchPath
  | batchSize
  | connectTime
  | requestTime
  | attempts
  | delays
  deriving DecidableEq

namespace Rule

def all : List Rule := [.location, .batchPath, .batchSize, .connectTime, .requestTime, .attempts, .delays]

theorem mem_all (rule : Rule) : rule ∈ all := by
  cases rule <;> decide

/-- The setting that a rule is about. -/
def field : Rule → String
  | .location => "client.location"
  | .batchPath => "client.batch_path"
  | .batchSize => "client.max_batch_size"
  | .connectTime => "timeouts.connect_secs"
  | .requestTime => "timeouts.request_secs"
  | .attempts => "retries.max_attempts"
  | .delays => "retries.base_delay_ms"

def Holds (s : Settings) : Rule → Prop
  | .location => ∃ uri, Uri.parse? s.service.location = .ok uri ∧ uri.IsWeb
  | .batchPath => ∃ rest, s.service.batchPath.toList = '/' :: rest
  | .batchSize => 0 < s.service.maxBatchSize
  | .connectTime => 0 < s.timeouts.connect
  | .requestTime => 0 < s.timeouts.request
  | .attempts => 0 < s.retries.maxAttempts
  | .delays => s.retries.baseDelay ≤ s.retries.maxDelay

/-- The complaint about settings that break a rule. -/
def complaint? (s : Settings) : Rule → Option Complaint
  | .location => locationComplaint? s.service.location
  | .batchPath => if s.service.batchPath.toList.head? == some '/' then none else some .batchPathWithoutSlash
  | .batchSize => if s.service.maxBatchSize == 0 then some .noBatchSize else none
  | .connectTime => if s.timeouts.connect == 0 then some .noConnectTime else none
  | .requestTime => if s.timeouts.request == 0 then some .noRequestTime else none
  | .attempts => if s.retries.maxAttempts == 0 then some .noAttempts else none
  | .delays => if s.retries.maxDelay < s.retries.baseDelay then some .delaysInverted else none

variable {s : Settings}

theorem locationComplaint?_eq_none_iff {location : String} :
    locationComplaint? location = none ↔ ∃ uri, Uri.parse? location = .ok uri ∧ uri.IsWeb := by
  unfold locationComplaint? Uri.IsWeb
  rcases Uri.parse? location with e | uri
  · simp
  · simp [or_iff_not_imp_left]

theorem field_of_locationComplaint? {location : String} {c : Complaint} (h : locationComplaint? location = some c) :
    c.field = "client.location" := by
  unfold locationComplaint? at h
  split at h
  · split at h
    · cases h
    · cases h; rfl
  · cases h; rfl

/-- **A rule is complained about just if it is broken.** -/
theorem complaint?_eq_none_iff (rule : Rule) : rule.complaint? s = none ↔ rule.Holds s := by
  cases rule with
  | location => exact locationComplaint?_eq_none_iff
  | batchPath =>
    simp only [complaint?, Holds]
    rcases s.service.batchPath.toList with _ | ⟨c, rest⟩ <;> simp
  | batchSize => simp [complaint?, Holds, Nat.pos_iff_ne_zero]
  | connectTime => simp [complaint?, Holds, UInt64.pos_iff_ne_zero]
  | requestTime => simp [complaint?, Holds, UInt64.pos_iff_ne_zero]
  | attempts => simp [complaint?, Holds, UInt32.pos_iff_ne_zero]
  | delays => simp [complaint?, Holds]

instance (s : Settings) (rule : Rule) : Decidable (rule.Holds s) :=
  decidable_of_iff _ (complaint?_eq_none_iff rule)

/-- A complaint names the setting that its rule is about. -/
theorem field_of_complaint? {rule : Rule} {c : Complaint} (h : rule.complaint? s = some c) : c.field = rule.field := by
  cases rule with
  | location => exact field_of_locationComplaint? h
  | batchPath | batchSize | connectTime | requestTime | attempts | delays =>
    simp only [complaint?] at h
    split at h
    all_goals cases h
    rfl

/-- The rules that are complained about are those that are broken. -/
theorem map_field_filterMap (s : Settings) : ∀ rules : List Rule,
    (rules.filterMap (complaint? s)).map Complaint.field = (rules.filter fun rule => ¬ rule.Holds s).map field
  | [] => rfl
  | rule :: rules => by
    rcases hc : rule.complaint? s with _ | c
    · have holds : rule.Holds s := rule.complaint?_eq_none_iff.1 hc
      rw [List.filterMap_cons_none hc, List.filter_cons_of_neg (by simpa using holds), map_field_filterMap s rules]
    · have broken : ¬ rule.Holds s := fun h => by rw [rule.complaint?_eq_none_iff.2 h] at hc; cases hc
      rw [List.filterMap_cons_some hc, List.filter_cons_of_pos (by simpa using broken), List.map_cons, List.map_cons,
        field_of_complaint? hc, map_field_filterMap s rules]

end Rule

variable {s : Settings}

theorem complaints_eq (s : Settings) : s.complaints = Rule.all.filterMap (Rule.complaint? s) := by
  rw [List.filterMap_eq_flatMap_toList]
  simp only [complaints, Rule.all, Rule.complaint?, List.flatMap_cons, List.flatMap_nil, apply_ite Option.toList,
    Option.toList_none, Option.toList_some, List.append_nil, List.append_assoc]

/-- **Settings without complaints keep all rules.** -/
theorem complaints_eq_nil_iff : s.complaints = [] ↔ ∀ rule : Rule, rule.Holds s := by
  rw [complaints_eq, List.filterMap_eq_nil_iff]
  constructor
  · exact fun h rule => rule.complaint?_eq_none_iff.1 (h rule rule.mem_all)
  · exact fun h rule _ => rule.complaint?_eq_none_iff.2 (h rule)

theorem accept_eq (s : Settings) : accept s = if s.complaints = [] then .ok s else .error (.rejected s.complaints) := by
  unfold accept
  split
  · rename_i h
    rw [if_pos h]
  · rename_i h
    rw [if_neg h]

/-- **Settings are accepted just if they keep all rules.** -/
theorem accept_eq_ok_iff : accept s = .ok s ↔ ∀ rule : Rule, rule.Holds s := by
  rw [accept_eq, ← complaints_eq_nil_iff]
  split
  · rename_i h
    exact ⟨fun _ => h, fun _ => rfl⟩
  · rename_i h
    constructor
    · intro hrejected
      cases hrejected
    · exact fun hnil => absurd hnil h

end Settings

namespace Configuration

variable {S : Schema}

/-- **Settings make a configuration just if their location is an address**, which is the base then. -/
theorem ofSettings_eq (settings : Settings) : (ofSettings settings : Outcome (Configuration S)) =
    match Uri.parse? settings.service.location with
    | .ok base => .ok { base, settings }
    | .error reason => .error (.invalidUri settings.service.location reason) := by
  simp only [ofSettings, Builder.build, Builder.baseOf]
  rcases Uri.parse? settings.service.location with reason | base
  · rfl
  · rfl

end Configuration

theorem Uri.origin_append {u : Uri} (h : u.Sound) (web : u.IsWeb) (path : String) :
    (u.append path).scheme = u.scheme ∧ (u.append path).authority = u.authority := by
  obtain ⟨a, segments, hosted, -, -⟩ := h.hosted web
  obtain ⟨read, query, -, -, happend, -, -⟩ := append_cases hosted.authority web path
  rw [happend]
  exact ⟨rfl, rfl⟩

theorem RetryPolicy.new_of_pos {n : UInt32} (h : 0 < n) (base most : UInt64) : new n base most = ⟨n, base, most, h⟩ :=
  dif_pos h

namespace Settings

/-- **Accepted settings are used as they are written.**  What is complained about are the rules that settings break,
each once and in order, and settings are accepted just if they keep all rules.  Then they make a configuration: its base
is the address that the location spells, and the address for batches has its scheme, host and port.  A repository over a
collection of any type waits for just as many entities as the settings say before it saves a batch, and tries again just
as often and after such delays as they say. -/
theorem accepted_in_use (s : Settings) :
    s.complaints.map Complaint.field = (Rule.all.filter fun rule => ¬ rule.Holds s).map Rule.field ∧
    (accept s = .ok s ↔ ∀ rule : Rule, rule.Holds s) ∧
    (accept s ≠ .ok s → accept s = .error (.rejected s.complaints)) ∧
    (accept s = .ok s → ∀ S : Schema, ∃ c : Configuration S, Configuration.ofSettings s = .ok c ∧
      Uri.parse? s.service.location = .ok c.base ∧ c.settings = s ∧
      c.batchUri.scheme = c.base.scheme ∧ c.batchUri.authority = c.base.authority ∧
      ∀ (transport : Transport) (t : S.Ty) (traces traces' : Traces S) (collection : Collection S t)
        (identified : S.Identified t),
        ((⟨c, transport⟩ : Hypermedia.Service S).collection t).after traces = (.ok collection, traces') →
        collection.batchUri = c.batchUri ∧ collection.buffer.maxSize = s.service.maxBatchSize ∧
        ∃ positive, (collection.repository identified).retry =
          ⟨s.retries.maxAttempts, s.retries.baseDelay, s.retries.maxDelay, positive⟩) := by
  refine ⟨?_, accept_eq_ok_iff, fun hrejected => ?_, fun haccepted S => ?_⟩
  · rw [complaints_eq, Rule.map_field_filterMap]
  · rw [accept_eq] at hrejected ⊢
    exact if_neg fun hnil => hrejected (if_pos hnil)
  have holds := accept_eq_ok_iff.1 haccepted
  obtain ⟨base, hparse, web⟩ := holds .location
  have hconfigured : Configuration.ofSettings s = .ok ({ base, settings := s } : Configuration S) := by
    rw [Configuration.ofSettings_eq, hparse]
  obtain ⟨hscheme, hauthority⟩ := Uri.origin_append (Uri.sound_of_parse? hparse) web s.service.batchPath
  refine ⟨_, hconfigured, hparse, rfl, hscheme, hauthority, ?_⟩
  intro transport t traces traces' collection identified made
  rw [Hypermedia.Service.collection_ok made]
  exact ⟨rfl, Nat.max_eq_left (holds .batchSize), holds .attempts, RetryPolicy.new_of_pos _ _ _⟩

/-- All settings that are wrong are named, and no others. -/
example :
    let s : Settings := {
      service := { location := "not a uri", batchPath := "batch", maxBatchSize := 0 }
      retries := { maxAttempts := 0 } }
    s.complaints.map Complaint.field =
      ["client.location", "client.batch_path", "client.max_batch_size", "retries.max_attempts"] := by
  decide +kernel

end Settings

namespace Family

/-- Settings with a location that has all parts, and a path for batches that leads out of the path of the location. -/
def busySettings : Settings where
  service := { location := "HTTPS://lisa@host:8443/api?key=1#top", batchPath := "/../batch?all", maxBatchSize := 25 }
  retries := { maxAttempts := 3, baseDelay := 2000 }

def busyConfiguration : Configuration schema where
  base :=
    { scheme := "https"
      authority := some { username := "lisa", host := some (.name "host"), port := some 8443 }
      path := "/api"
      query := some "key=1"
      fragment := some "top" }
  settings := busySettings

theorem busySettings_in_use :
    let c := busyConfiguration
    busySettings.accept = .ok busySettings ∧ Configuration.ofSettings busySettings = .ok c ∧
    c.batchUri.scheme = "https" ∧ c.batchUri.authority = c.base.authority ∧
    c.batchUri.text = "https://lisa@host:8443/batch?all#top" ∧
    ∃ (collection : Collection schema Ty.parent) (traces : Traces schema),
      ((⟨c, .offline⟩ : Service schema).collection Ty.parent).after {} = (.ok collection, traces) ∧
      collection.buffer.maxSize = 25 ∧ (collection.repository parentIdentified).retry.maxAttempts = 3 := by
  intro c
  have haccepted : busySettings.accept = .ok busySettings := by decide +kernel
  obtain ⟨-, -, -, hused⟩ := Settings.accepted_in_use busySettings
  obtain ⟨c', hc', hbase, hsettings, hscheme, hauthority, hrepository⟩ := hused haccepted schema
  have hparse : Uri.parse? busySettings.service.location = .ok c.base := by decide +kernel
  have hc : Configuration.ofSettings busySettings = .ok c := by
    rw [Configuration.ofSettings_eq, hparse]
    rfl
  cases hc.symm.trans hc'
  have hmade : ((⟨c, .offline⟩ : Service schema).collection Ty.parent).after {} = (.ok _, _) := rfl
  obtain ⟨-, hsize, positive, hretry⟩ := hrepository .offline Ty.parent _ _ _ parentIdentified hmade
  exact ⟨haccepted, hc, hscheme, hauthority, by decide +kernel, _, _, hmade, hsize, by rw [hretry]; rfl⟩

end Family
end Hypermedia
