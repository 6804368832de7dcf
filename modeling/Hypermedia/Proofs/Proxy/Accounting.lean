import Hypermedia.Proofs.Proxy.FetchOnce
import Mathlib.Algebra.GroupWithZero.Nat
/-!
# What the counters of associations tell

Two counters tell of each relation how often an association was asked from the server and how often it was answered from
memory.  A call that follows a relation has one of five fates (`CallRecord.Fate`): it gives what is remembered, it
fetches, its link leads nowhere, its link is missing, or its link is missing and may be.  Only the first two are counted
(`Fate.counts`), and of the last there is one call at most.  So the counters account for all calls of a proxy
(`calls_accounted`).
-/
namespace Hypermedia

open Hypermedia.Action

variable {S : Schema} {t : S.Ty}

theorem countP_cons_toNat {α : Type} (P : α → Bool) (a : α) (as : List α) :
    (a :: as).countP P = (P a).toNat + as.countP P := by
  rw [List.countP_cons, Nat.add_comm]
  cases P a <;> rfl

/-! ## Counters -/

namespace Measurement

theorem count_foldl_add : ∀ (ms : List Measurement) (r : Reading), (ms.foldl Reading.add r).count = r.count + ms.length
  | [], _ => rfl
  | m :: ms, r => by
    have hone : (r.add m).count = r.count + 1 := by cases m <;> rfl
    rw [List.foldl_cons, count_foldl_add ms, hone, List.length_cons, Nat.add_assoc, Nat.add_comm 1]

/-- **A reading counts the measurements of its series.** -/
theorem count_reading (ms : List Measurement) (s : Series) : (reading ms s).count = ms.countP (s ∈ ·.series) := by
  rw [reading, count_foldl_add, Nat.zero_add, List.countP_eq_length_filter]

/-- The series of the fetches along a relation. -/
def fetchesOf (relation : String) : Series := ⟨.fetches, [("rel", relation)]⟩

/-- The series of the answers from memory along a relation. -/
def hitsOf (relation : String) : Series := ⟨.hits, [("rel", relation)]⟩

theorem fetchesOf_mem_series {m : Measurement} {relation : String} :
    fetchesOf relation ∈ m.series ↔ m = .fetch relation := by
  cases m with
  | exchange => simp [series, fetchesOf]
  | fetch followed => simpa [series, fetchesOf] using eq_comm
  | hit => simp [series, fetchesOf]

theorem hitsOf_mem_series {m : Measurement} {relation : String} : hitsOf relation ∈ m.series ↔ m = .hit relation := by
  cases m with
  | exchange => simp [series, hitsOf]
  | fetch => simp [series, hitsOf]
  | hit followed => simpa [series, hitsOf] using eq_comm

theorem count_reading_fetchesOf (ms : List Measurement) (relation : String) :
    (reading ms (fetchesOf relation)).count = fetchCount ms relation := by
  rw [count_reading, fetchCount, List.count]
  exact List.countP_congr fun m _ => by simp [fetchesOf_mem_series]

theorem count_reading_hitsOf (ms : List Measurement) (relation : String) :
    (reading ms (hitsOf relation)).count = hitCount ms relation := by
  rw [count_reading, hitCount, List.count]
  exact List.countP_congr fun m _ => by simp [hitsOf_mem_series]

end Measurement

namespace Traces

open Measurement (reading fetchesOf hitsOf)

/-- How often an association was asked from the server along a relation, as it is reported. -/
def fetches (s : Traces S) (relation : String) : Nat := (reading s.measurements (fetchesOf relation)).count

/-- How often an association was answered from memory along a relation, as it is reported. -/
def hits (s : Traces S) (relation : String) : Nat := (reading s.measurements (hitsOf relation)).count

/-- How many requests to read something were sent. -/
def gets (s : Traces S) : Nat := s.requests.countP (·.method = .get)

theorem fetches_eq (s : Traces S) (relation : String) : s.fetches relation = s.measurements.count (.fetch relation) :=
  Measurement.count_reading_fetchesOf s.measurements relation

theorem hits_eq (s : Traces S) (relation : String) : s.hits relation = s.measurements.count (.hit relation) :=
  Measurement.count_reading_hitsOf s.measurements relation

theorem fetches_congr {s s' : Traces S} (h : s'.measurements = s.measurements) (relation : String) :
    s'.fetches relation = s.fetches relation := by
  unfold fetches
  rw [h]

theorem hits_congr {s s' : Traces S} (h : s'.measurements = s.measurements) (relation : String) :
    s'.hits relation = s.hits relation := by
  unfold hits
  rw [h]

/-- An exchange is neither a fetch nor a hit. -/
theorem fetches_noted (service : Service S) (s : Traces S) (q : Request) (relation : String) :
    (service.noted s q).fetches relation = s.fetches relation := by
  rw [fetches_eq, fetches_eq]
  unfold Service.noted
  cases service.transport.metered
  · rfl
  · exact List.count_cons_of_ne (by simp)

theorem hits_noted (service : Service S) (s : Traces S) (q : Request) (relation : String) :
    (service.noted s q).hits relation = s.hits relation := by
  rw [hits_eq, hits_eq]
  unfold Service.noted
  cases service.transport.metered
  · rfl
  · exact List.count_cons_of_ne (by simp)

/-- A fetch counts once, for its relation. -/
theorem fetches_fetch (s : Traces S) (relation other : String) :
    ({ s with measurements := .fetch relation :: s.measurements } : Traces S).fetches other =
      s.fetches other + if relation = other then 1 else 0 := by
  simp only [fetches_eq, List.count_cons, beq_iff_eq, Measurement.fetch.injEq]

theorem hits_hit (s : Traces S) (relation other : String) :
    ({ s with measurements := .hit relation :: s.measurements } : Traces S).hits other =
      s.hits other + if relation = other then 1 else 0 := by
  simp only [hits_eq, List.count_cons, beq_iff_eq, Measurement.hit.injEq]

theorem hits_fetch (s : Traces S) (relation other : String) :
    ({ s with measurements := .fetch relation :: s.measurements } : Traces S).hits other = s.hits other := by
  simp only [hits_eq]
  exact List.count_cons_of_ne (by simp)

theorem fetches_hit (s : Traces S) (relation other : String) :
    ({ s with measurements := .hit relation :: s.measurements } : Traces S).fetches other = s.fetches other := by
  simp only [fetches_eq]
  exact List.count_cons_of_ne (by simp)

end Traces

/-! ## Calls in a history -/

/-- **A call in a history**: what was there before it, how it ends, and what is there behind it. -/
structure CallRecord (S : Schema) where
  call : ProxyCall
  before : Traces S
  outcome : Outcome (Invocation S)
  after : Traces S

def ProxyCall.invoking (id : Nat) (invocation : String × List Json) : ProxyCall :=
  { id, method := invocation.1, args := invocation.2 }

namespace CallRecord

def follows {κ : Type} (table : AccessorTable κ) (relation : String) (r : CallRecord S) : Bool :=
  table.followed? r.call.method = some relation

/-- How many requests to read something the call sent. -/
def gets (r : CallRecord S) : Nat := r.after.gets - r.before.gets

/-- Whether the proxy remembered something under a relation when it was called. -/
def isHit (relation : String) (r : CallRecord S) : Bool := (r.before.slot? r.call.id relation).isSome

/-- Whether the call failed before it sent anything. -/
def isRefused (r : CallRecord S) : Bool := r.gets == 0 && !r.outcome.isOk

/-- Whether the call succeeded with nothing remembered and nothing sent. -/
def isExcused (relation : String) (r : CallRecord S) : Bool := r.gets == 0 && r.outcome.isOk && !r.isHit relation

theorem ok_of_excused {relation : String} {r : CallRecord S} (h : r.isExcused relation = true) :
    ∃ v, r.outcome = .ok v := by
  unfold isExcused at h
  rcases hv : r.outcome with e | v
  · rw [hv] at h
    simp [Except.isOk, Except.toBool] at h
  · exact ⟨v, rfl⟩

/-- **What becomes of a call that follows an association along a relation.** -/
inductive Fate (base : Uri) (links : Links) (a : Association S.Ty) (relation : String) (r : CallRecord S) : Prop
  /-- It gives what is remembered, and that is counted. -/
  | remembered (value : LinkedValue S) (filled : r.before.slot? r.call.id relation = some value)
      (outcome : r.outcome = .ok (.linked value))
      (after : r.after = { r.before with measurements := .hit relation :: r.before.measurements })
  /-- It asks the server where the link leads, and that is counted whatever the server answers. -/
  | fetched (link : Link) (uri : Uri) (empty : r.before.slot? r.call.id relation = none)
      (linked : links.get? relation = some link) (address : base.resolve link.expand = .ok uri)
      (requests : r.after.requests = { method := .get, uri } :: r.before.requests)
      (fetches : ∀ other, r.after.fetches other = r.before.fetches other + if relation = other then 1 else 0)
      (hits : ∀ other, r.after.hits other = r.before.hits other)
  /-- Its link leads nowhere. -/
  | misled (link : Link) (e : Failure) (empty : r.before.slot? r.call.id relation = none)
      (linked : links.get? relation = some link) (address : base.resolve link.expand = .error e)
      (outcome : r.outcome = .error e) (after : r.after = r.before)
  /-- Its link is missing, and is named. -/
  | unlinked (empty : r.before.slot? r.call.id relation = none) (missing : links.get? relation = none)
      (needed : a.mayLack = false) (outcome : r.outcome = .error (.noSuchLink relation)) (after : r.after = r.before)
  /-- It remembers that there is nothing. -/
  | excused (empty : r.before.slot? r.call.id relation = none) (missing : links.get? relation = none)
      (optional : a.mayLack = true) (outcome : r.outcome = .ok (.linked (Handler.emptyValue a)))
      (filled : r.after.slot? r.call.id relation = some (Handler.emptyValue a))
      (requests : r.after.requests = r.before.requests) (measurements : r.after.measurements = r.before.measurements)

variable {base : Uri} {links : Links} {a : Association S.Ty} {relation : String} {r : CallRecord S}

theorem isHit_of_empty (empty : r.before.slot? r.call.id relation = none) : r.isHit relation = false := by
  unfold isHit
  rw [empty, Option.isSome_none]

theorem gets_of_requests_eq (h : r.after.requests = r.before.requests) : r.gets = 0 := by
  unfold gets Traces.gets
  rw [h, Nat.sub_self]

/-- **Each counter grows with one fate**, and a call is counted, refused or excused, and only one of these. -/
theorem Fate.counts (h : r.Fate base links a relation) :
    r.after.fetches relation = r.before.fetches relation + r.gets ∧
    r.after.hits relation = r.before.hits relation + (r.isHit relation).toNat ∧
    r.gets + (r.isHit relation).toNat + r.isRefused.toNat + (r.isExcused relation).toNat = 1 := by
  cases h with
  | remembered value filled outcome after =>
    have hgets : r.gets = 0 := gets_of_requests_eq (by rw [after])
    have hhit : r.isHit relation = true := by unfold isHit; rw [filled, Option.isSome_some]
    unfold isRefused isExcused
    rw [hgets, hhit, outcome, after, Traces.fetches_hit, Traces.hits_hit, if_pos rfl]
    exact ⟨rfl, rfl, rfl⟩
  | fetched link uri empty linked address requests fetches hits =>
    have hgets : r.gets = 1 := by
      unfold gets Traces.gets
      rw [requests, List.countP_cons_of_pos (by rfl), Nat.add_sub_cancel_left]
    unfold isRefused isExcused
    rw [hgets, isHit_of_empty empty, fetches, hits, if_pos rfl]
    exact ⟨rfl, rfl, rfl⟩
  | misled link e empty linked address outcome after =>
    have hgets : r.gets = 0 := gets_of_requests_eq (by rw [after])
    unfold isRefused isExcused
    rw [hgets, isHit_of_empty empty, outcome, after]
    exact ⟨rfl, rfl, rfl⟩
  | unlinked empty missing needed outcome after =>
    have hgets : r.gets = 0 := gets_of_requests_eq (by rw [after])
    unfold isRefused isExcused
    rw [hgets, isHit_of_empty empty, outcome, after]
    exact ⟨rfl, rfl, rfl⟩
  | excused empty missing optional outcome filled requests measurements =>
    have hgets : r.gets = 0 := gets_of_requests_eq requests
    unfold isRefused isExcused
    rw [hgets, isHit_of_empty empty, outcome, Traces.fetches_congr measurements, Traces.hits_congr measurements]
    exact ⟨rfl, rfl, rfl⟩

/-- A call along one relation is not counted for another one. -/
theorem Fate.counts_other (h : r.Fate base links a relation) {other : String} (hne : relation ≠ other) :
    r.after.fetches other = r.before.fetches other ∧ r.after.hits other = r.before.hits other := by
  cases h with
  | remembered value filled outcome after =>
    rw [after, Traces.fetches_hit, Traces.hits_hit, if_neg hne]
    exact ⟨rfl, rfl⟩
  | fetched link uri empty linked address requests fetches hits =>
    rw [fetches, hits, if_neg hne]
    exact ⟨rfl, rfl⟩
  | misled link e empty linked address outcome after => exact after ▸ ⟨rfl, rfl⟩
  | unlinked empty missing needed outcome after => exact after ▸ ⟨rfl, rfl⟩
  | excused empty missing optional outcome filled requests measurements =>
    exact ⟨Traces.fetches_congr measurements other, Traces.hits_congr measurements other⟩

/-- Every call along a relation is one that sent, one that found something, one that was refused or one excused. -/
theorem length_of_fates : ∀ {rs : List (CallRecord S)}, (∀ r ∈ rs, ∃ a, r.Fate base links a relation) →
    (rs.map (·.gets)).sum + rs.countP (·.isHit relation) + rs.countP (·.isRefused) + rs.countP (·.isExcused relation) =
      rs.length
  | [], _ => rfl
  | r :: rs, h => by
    obtain ⟨a, hr⟩ := h r List.mem_cons_self
    obtain ⟨-, -, hone⟩ := hr.counts
    have hrest := length_of_fates fun r' hr' => h r' (List.mem_cons_of_mem r hr')
    simp only [List.map_cons, List.sum_cons, countP_cons_toNat, List.length_cons]
    omega

end CallRecord

namespace Service

def recorded (service : Service S) (c : ProxyCall) (s : Traces S) : CallRecord S :=
  ⟨c, s, ((service.call c).after s).1, ((service.call c).after s).2⟩

/-- The history of calls made one after the other. -/
def history (service : Service S) : List ProxyCall → Traces S → List (CallRecord S)
  | [], _ => []
  | c :: cs, s => service.recorded c s :: service.history cs (service.recorded c s).after

variable (service : Service S) {s : Traces S} {c : ProxyCall} {id : Nat} {p : Proxy S t} {relation : String}

/-! ## One call -/

/-- A call follows a relation for an association. -/
theorem of_follows (h : (service.recorded c s).follows p.table relation = true) :
    p.table.followed? c.method = some relation ∧ ∃ a, (p.table.lookup c.method).association? = some a := by
  have hf : p.table.followed? c.method = some relation := of_decide_eq_true h
  exact ⟨hf, association_of_followed? hf⟩

/-- A call that asks the server leaves one fetch and one request, whatever it remembers of the answer. -/
theorem recorded_of_target {a : Association S.Ty} {uri : Uri} (hp : s.proxy? c.id = some ⟨t, p⟩)
    (hrole : (p.table.lookup c.method).role = .association a)
    (hr : a.linkName (p.table.lookup c.method).name = relation) (hm : p.memory.lookup relation = none)
    (htarget : Handler.target? service.base p.links a relation = .ok (some uri)) :
    let s₁ := service.noted { s with measurements := .fetch relation :: s.measurements } { method := .get, uri }
    (service.recorded c s).after.requests = s₁.requests ∧
      (service.recorded c s).after.measurements = s₁.measurements := by
  have hload := service.inward_load a uri { s with measurements := .fetch relation :: s.measurements }
  unfold recorded
  rw [service.call_miss hp hrole hr hm, service.fetch_eq, htarget]
  simp only
  rw [after_bind_ok (after_measure _ s)]
  rcases hv : (service.load a uri).after _ with ⟨e | value, s'⟩ <;> rw [hv] at hload
  · exact ⟨hload.requests, hload.measurements⟩
  · exact ⟨hload.requests, hload.measurements⟩

/-- **A call that follows a relation has one of the five fates**, by what is remembered and where the link leads. -/
theorem fate_recorded {a : Association S.Ty} (hp : s.proxy? c.id = some ⟨t, p⟩)
    (ha : (p.table.lookup c.method).association? = some a) (hf : p.table.followed? c.method = some relation)
    (unwaited : c.waited = false) : (service.recorded c s).Fate service.base p.links a relation := by
  rcases hm : p.memory.lookup relation with _ | value
  · have empty : s.slot? c.id relation = none := (slot?_eq hp).trans hm
    obtain ⟨hrole, hr⟩ := role_of_followed? ha hf
    have hcall := service.call_miss hp hrole hr hm
    rw [service.fetch_eq] at hcall
    rcases hl : p.links.get? relation with _ | link
    · rw [target?_of_missing hl] at hcall
      rcases ho : a.mayLack with _ | _
      · simp only [ho] at hcall
        exact .unlinked empty hl ho (congrArg Prod.fst hcall) (congrArg Prod.snd hcall)
      · simp only [ho, if_true] at hcall
        refine .excused empty hl ho (congrArg Prod.fst hcall) ?_ ?_ ?_
        · show ((service.call c).after s).2.slot? c.id relation = _
          rw [hcall]
          exact (slot?_eq (Traces.proxy?_setProxy_self hp _)).trans List.lookup_cons_self
        · exact congrArg (·.2.requests) hcall
        · exact congrArg (·.2.measurements) hcall
    · have htarget : Handler.target? service.base p.links a relation = _ := target?_of_linked hl a
      rcases hu : service.base.resolve link.expand with e | uri
      · rw [htarget, hu] at hcall
        exact .misled link e empty hl hu (congrArg Prod.fst hcall) (congrArg Prod.snd hcall)
      · rw [hu] at htarget
        obtain ⟨hrequests, hmeasured⟩ := service.recorded_of_target hp hrole hr hm htarget
        refine .fetched link uri empty hl hu hrequests (fun other => ?_) (fun other => ?_)
        · rw [Traces.fetches_congr hmeasured, Traces.fetches_noted, Traces.fetches_fetch]
          rfl
        · rw [Traces.hits_congr hmeasured, Traces.hits_noted, Traces.hits_fetch]
          rfl
  · have hcall := service.call_hit hp hf hm
    rw [unwaited] at hcall
    exact .remembered value ((slot?_eq hp).trans hm) (congrArg Prod.fst hcall) (congrArg Prod.snd hcall)

/-- A call that does not follow a relation is not counted for it. -/
theorem counts_of_other (hp : s.proxy? c.id = some ⟨t, p⟩) (hf : p.table.followed? c.method ≠ some relation)
    (unwaited : c.waited = false) :
    (service.recorded c s).after.fetches relation = s.fetches relation ∧
      (service.recorded c s).after.hits relation = s.hits relation := by
  rcases hf' : p.table.followed? c.method with _ | other
  · unfold recorded
    rcases service.call_local hp hf' with ⟨e, hc⟩ | ⟨v, content, hc⟩ <;> rw [hc]
    · exact ⟨rfl, rfl⟩
    · exact ⟨rfl, rfl⟩
  · obtain ⟨a, ha⟩ := association_of_followed? hf'
    exact (service.fate_recorded hp ha hf' unwaited).counts_other fun heq => hf (heq ▸ hf')

/-! ## Whole histories -/

/-- **Every call in the history of a proxy finds the proxy as it was**, with more in its memory at most. -/
theorem of_mem_history : ∀ (invocations : List (String × List Json)) {s : Traces S} {q : Proxy S t},
    s.proxy? id = some ⟨t, q⟩ → p.Onward q →
      ∀ r ∈ service.history (invocations.map (.invoking id)) s, ∃ (i : String × List Json) (q : Proxy S t),
        r = service.recorded (.invoking id i) r.before ∧ r.before.proxy? id = some ⟨t, q⟩ ∧ p.Onward q
  | [], _, _, _, _, r, hr => by cases hr
  | i :: is, s, q, hq, on, r, hr => by
    rcases List.mem_cons.1 hr with rfl | hr
    · exact ⟨i, q, rfl, hq, on⟩
    · obtain ⟨q', hq', on'⟩ := service.onward_call s (.invoking id i) id t q hq
      exact of_mem_history is hq' (on.trans on') r hr

/-- **Every call along the relation has a fate**, which the links of the proxy decide. -/
theorem fate_of_mem_along (hp : s.proxy? id = some ⟨t, p⟩) (invocations : List (String × List Json)) :
    ∀ r ∈ (service.history (invocations.map (.invoking id)) s).filter (·.follows p.table relation),
      ∃ a, (p.table.lookup r.call.method).association? = some a ∧ r.Fate service.base p.links a relation := by
  intro r hr
  obtain ⟨hr, hf⟩ := List.mem_filter.1 hr
  obtain ⟨i, q, hrecorded, hq, on⟩ := service.of_mem_history invocations hp (.refl p) r hr
  rw [hrecorded, ← on.table] at hf
  rw [hrecorded]
  obtain ⟨hf, a, ha⟩ := service.of_follows hf
  exact ⟨a, on.table ▸ ha, on.links ▸ service.fate_recorded hq ha hf rfl⟩

/-- **What the counters tell of a relation grows with the calls along it**: the one by what they send, the other by the
calls that find a filled slot. -/
theorem counters_calls : ∀ (invocations : List (String × List Json)) {s : Traces S} {q : Proxy S t},
    s.proxy? id = some ⟨t, q⟩ → p.Onward q →
      let calls := invocations.map (ProxyCall.invoking id)
      let along := (service.history calls s).filter (·.follows p.table relation)
      (service.calls calls s).fetches relation = s.fetches relation + (along.map (·.gets)).sum ∧
        (service.calls calls s).hits relation = s.hits relation + along.countP (·.isHit relation)
  | [], _, _, _, _ => ⟨rfl, rfl⟩
  | i :: is, s, q, hq, on => by
    let r := service.recorded (.invoking id i) s
    obtain ⟨q', hq', on'⟩ := service.onward_call s (.invoking id i) id t q hq
    obtain ⟨hfetches, hhits⟩ := counters_calls is hq' (on.trans on')
    simp only [List.map_cons, history, List.filter_cons]
    by_cases hr : r.follows p.table relation = true
    · obtain ⟨hf, a, ha⟩ := service.of_follows hr
      rw [← on.table] at hf ha
      obtain ⟨hfetch, hhit, -⟩ := (service.fate_recorded hq ha hf rfl).counts
      rw [if_pos hr, List.map_cons, List.sum_cons, countP_cons_toNat]
      exact ⟨(hfetches.trans (congrArg (· + _) hfetch)).trans (Nat.add_assoc _ _ _),
        (hhits.trans (congrArg (· + _) hhit)).trans (Nat.add_assoc _ _ _)⟩
    · obtain ⟨hfetch, hhit⟩ : r.after.fetches relation = s.fetches relation ∧ r.after.hits relation = s.hits relation :=
        service.counts_of_other hq (fun h => hr (decide_eq_true (on.table ▸ h))) rfl
      rw [if_neg hr]
      exact ⟨hfetches.trans (congrArg (· + _) hfetch), hhits.trans (congrArg (· + _) hhit)⟩

/-- Behind a filled slot no call along its relation is excused. -/
theorem countP_excused_of_filled {value : LinkedValue S} : ∀ (invocations : List (String × List Json)) {s : Traces S}
    {q : Proxy S t}, s.proxy? id = some ⟨t, q⟩ → s.slot? id relation = some value →
      (service.history (invocations.map (.invoking id)) s).countP (·.isExcused relation) = 0
  | [], _, _, _, _ => rfl
  | i :: is, s, q, hq, filled => by
    obtain ⟨q', hq', -⟩ := service.onward_call s (.invoking id i) id t q hq
    have hkept := slot?_of_onward hq (service.onward_call s (.invoking id i)) filled
    have hhit : (service.recorded (.invoking id i) s).isHit relation = true := by
      show (s.slot? id relation).isSome = true
      rw [filled, Option.isSome_some]
    rw [List.map_cons, history, List.countP_cons_of_neg (by simp [CallRecord.isExcused, hhit])]
    exact countP_excused_of_filled is hq' hkept

/-- **One call along a relation is excused at most**: it fills the slot. -/
theorem countP_excused_le_one : ∀ (invocations : List (String × List Json)) {s : Traces S} {q : Proxy S t},
    s.proxy? id = some ⟨t, q⟩ → p.Onward q →
      ((service.history (invocations.map (.invoking id)) s).filter (·.follows p.table relation)).countP
        (·.isExcused relation) ≤ 1
  | [], _, _, _, _ => Nat.zero_le 1
  | i :: is, s, q, hq, on => by
    let r := service.recorded (.invoking id i) s
    obtain ⟨q', hq', on'⟩ := service.onward_call s (.invoking id i) id t q hq
    have hrest := countP_excused_le_one is hq' (on.trans on')
    simp only [List.map_cons, history, List.filter_cons]
    by_cases hr : r.follows p.table relation = true
    · rw [if_pos hr]
      by_cases he : r.isExcused relation = true
      · obtain ⟨hf, -⟩ := service.of_follows hr
        obtain ⟨v, hv⟩ := CallRecord.ok_of_excused he
        obtain ⟨value, -, hfilled⟩ := service.filled_of_ok hq (on.table ▸ hf) hv
        have hnone := service.countP_excused_of_filled is hq' hfilled
        rw [List.countP_cons_of_pos he]
        exact Nat.succ_le_succ (Nat.le_trans (List.Sublist.countP_le List.filter_sublist) (Nat.le_of_eq hnone))
      · rw [List.countP_cons_of_neg he]
        exact hrest
    · rw [if_neg hr]
      exact hrest

/-- **The counters account for all calls of a proxy.**  Calls of a proxy, made one after the other with any answers of
the server: for each relation the one counter grows by the requests that the calls along it sent, those in vain among
them; the other grows by the calls that found something remembered; and each further call along the relation was refused
before it sent anything, for its link is missing or leads nowhere, or is the one that first remembered that there is
nothing. -/
theorem calls_accounted (service : Service S) {s : Traces S} {id : Nat} {p : Proxy S t}
    (hp : s.proxy? id = some ⟨t, p⟩) (invocations : List (String × List Json)) (relation : String) :
    let calls := invocations.map (ProxyCall.invoking id)
    let along := (service.history calls s).filter (·.follows p.table relation)
    let s' := service.calls calls s
    s'.fetches relation = s.fetches relation + (along.map (·.gets)).sum ∧
    s'.hits relation = s.hits relation + along.countP (·.isHit relation) ∧
    along.length = (s'.fetches relation - s.fetches relation) + (s'.hits relation - s.hits relation) +
      along.countP (·.isRefused) + along.countP (·.isExcused relation) ∧
    along.countP (·.isExcused relation) ≤ 1 ∧
    ∀ r ∈ along, ∃ a, (p.table.lookup r.call.method).association? = some a ∧
      r.Fate service.base p.links a relation := by
  intro calls along s'
  obtain ⟨hfetches, hhits⟩ : s'.fetches relation = s.fetches relation + (along.map (·.gets)).sum ∧
      s'.hits relation = s.hits relation + along.countP (·.isHit relation) :=
    service.counters_calls invocations hp (.refl p)
  have hfates : ∀ r ∈ along, ∃ a, (p.table.lookup r.call.method).association? = some a ∧
      r.Fate service.base p.links a relation := service.fate_of_mem_along hp invocations
  have hlength := CallRecord.length_of_fates fun r hr => (hfates r hr).imp fun _ h => h.2
  refine ⟨hfetches, hhits, ?_, service.countP_excused_le_one invocations hp (.refl p), hfates⟩
  rw [hfetches, hhits, Nat.add_sub_cancel_left, Nat.add_sub_cancel_left, ← hlength]

end Service

namespace Family

/-- A child is asked for its parent three times and for its sibling, which it has not: the first fetch is in vain, the
last call gives what the second one brought. -/
theorem parent_calls_accounted :
    let made := ((service faltering).create Ty.child bart).after {}
    let ask : String × List Json := ("getParent", [])
    let calls := [ask, ("getSibling", []), ask, ask].map (ProxyCall.invoking 0)
    let s' := (service faltering).calls calls made.2
    ∃ p : Proxy schema Ty.child, made.2.proxy? 0 = some ⟨Ty.child, p⟩ ∧
      let along := ((service faltering).history calls made.2).filter (·.follows p.table "parent")
      s'.fetches "parent" = 2 ∧ s'.hits "parent" = 1 ∧ along.length = 3 ∧
      ∀ r ∈ along, ∃ a, (p.table.lookup r.call.method).association? = some a ∧ r.Fate base p.links a "parent" := by
  intro made ask calls s'
  refine ⟨_, rfl, ?_⟩
  intro along
  obtain ⟨hfetches, hhits, hlength, -, hfates⟩ :=
    (service faltering).calls_accounted (show made.2.proxy? 0 = some ⟨Ty.child, _⟩ from rfl)
      [ask, ("getSibling", []), ask, ask] "parent"
  have hgets : along.map (·.gets) = [1, 1, 0] := by decide +kernel
  have hhit : along.countP (·.isHit "parent") = 1 := by decide +kernel
  have hfetched : s'.fetches "parent" = 2 := by
    refine hfetches.trans ?_
    show made.2.fetches "parent" + (along.map (·.gets)).sum = 2
    rw [hgets]
    rfl
  have hremembered : s'.hits "parent" = 1 := hhits.trans (congrArg (made.2.hits "parent" + ·) hhit)
  have hothers : along.countP (·.isRefused) = 0 ∧ along.countP (·.isExcused "parent") = 0 := by decide +kernel
  refine ⟨hfetched, hremembered, ?_, hfates⟩
  refine hlength.trans ?_
  show (s'.fetches "parent" - made.2.fetches "parent") + (s'.hits "parent" - made.2.hits "parent") +
    along.countP (·.isRefused) + along.countP (·.isExcused "parent") = 3
  rw [hfetched, hremembered, hothers.1, hothers.2]
  rfl

end Family
end Hypermedia
