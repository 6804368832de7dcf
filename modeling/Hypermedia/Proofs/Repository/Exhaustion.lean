import Hypermedia.Proofs.NotFound
import Hypermedia.Proofs.Repository.Writes
/-!
# What a report of exhausted retries says

When a read of a repository is tried until its attempts run out, it sent its request once for each attempt, always to
one address, and the cause that it reports is what the last answer made of it (`Service.Exhausts`).  The report of most
reads names the address that was asked; that of reading everything that a search finds names the collection instead
(`exhaustion_reported`, `search_misnamed`).
-/
namespace Hypermedia

open Hypermedia.Action

variable {S : Schema} {t : S.Ty} {α β : Type}

namespace Action

theorem fst_after_bind_of_error {a : Action S α} {s : Traces S} {e : Failure} (h : (a.after s).1 = .error e)
    (f : α → Action S β) : ((a >>= f).after s).1 = .error e := by
  have ha : a.after s = (.error e, (a.after s).2) := by rw [← h]
  rw [after_bind_error ha]

end Action

namespace Service

variable (service : Service S)

/-! ## Failures of exchanges -/

/-- **The failure that the answer to a request made**: that of the exchange, or, if the server reported success, what a
resolver of the application says. -/
def Makes (sent : List Request) (q : Request) (e : Failure) : Prop :=
  service.fault? sent q = some e ∨ service.fault? sent q = none ∧ service.Reports e

/-- **When its exchange fails, the action fails with that.** -/
def Surfaces (q : Request) (a : Action S α) : Prop :=
  ∀ s fault, service.transport.answer s.requests q = .error fault →
    (a.after s).1 = .error (fault.toFailure (service.transport.named q.uri))

variable {service} {q : Request} {a : Action S α} {e : Failure}

theorem surfaces_send (k : Response → Action S α) : service.Surfaces q (service.send q >>= k) := by
  intro s fault h
  rw [after_bind, after_send, h]
  rfl

theorem Surfaces.bind (h : service.Surfaces q a) (f : α → Action S β) : service.Surfaces q (a >>= f) := by
  intro s fault hanswer
  exact fst_after_bind_of_error (h s fault hanswer) f

/-- The failure of an exchange is no report of exhausted retries. -/
theorem fault?_ne_exhausted {sent : List Request} {u : String} {n : Nat} {cause : Failure} :
    service.fault? sent q ≠ some (.retriesExhausted u n cause) := by
  unfold fault?
  rcases service.transport.answer sent q with fault | r
  · cases fault <;> simp [TransportFault.toFailure]
  · by_cases h : Status.isSuccess r.status = true <;> simp [h, Response.refusal]

/-- What cannot be decoded does not pass, and is no report of exhausted retries. -/
theorem DecodeFailure.reports_of (h : service.DecodeFailure e)
    (other : e.isRetryable = true ∨ ∃ u n cause, e = .retriesExhausted u n cause) : service.Reports e := by
  rcases h with h | h
  · unfold Failure.OfDecoding at h
    rcases other with hretry | ⟨u, n, cause, rfl⟩
    · split at h <;> simp [Failure.isRetryable] at hretry h
    · exact h.elim
  · exact h

/-- A read fails with the failure of its exchange, or because what was answered cannot be decoded. -/
theorem Receives.made {nothing : α} {R : α → Prop} {s : Traces S}
    (h : service.Receives nothing R (service.transport.answer s.requests q) (a.after s).1)
    (surfaces : service.Surfaces q a) (he : (a.after s).1 = .error e) :
    service.fault? s.requests q = some e ∨ service.fault? s.requests q = none ∧ service.DecodeFailure e := by
  unfold fault?
  rcases hanswer : service.transport.answer s.requests q with fault | r
  · have hfault := (surfaces s fault hanswer).symm.trans he
    cases hfault
    exact .inl rfl
  · rw [hanswer, he] at h
    cases h with
    | refused other refused => exact .inl (by simp [refused])
    | decoded success ho => exact .inr ⟨by simp [success], ho.of_error⟩

/-! ## Reads that are tried again -/

/-- **A read of one address**: it sends one request, and its failures are those of the exchange or of decoding. -/
structure Asks (service : Service S) (uri : Uri) (a : Action S α) : Prop where
  sent : ∀ s, (a.after s).2.requests = { method := .get, uri } :: s.requests
  made : ∀ s e, (a.after s).1 = .error e →
    service.fault? s.requests { method := .get, uri } = some e ∨
      service.fault? s.requests { method := .get, uri } = none ∧ service.DecodeFailure e

theorem asks_of_receives {uri : Uri} {nothing : α} {R : α → Prop}
    (sent : ∀ s, (a.after s).2.requests = { method := .get, uri } :: s.requests)
    (receives : ∀ s, service.Receives nothing R (service.transport.answer s.requests { method := .get, uri })
      (a.after s).1)
    (surfaces : service.Surfaces { method := .get, uri } a) : service.Asks uri a :=
  ⟨sent, fun s _ he => (receives s).made surfaces he⟩

/-- **What a report of exhausted retries says of a read**, unless a resolver of the application made it.  It names what
the attempts are said to be for; it counts the requests that were sent, each of them for the address that was read; and
its cause was made from the answer to the last of them. -/
def Exhausts (service : Service S) (label : String) (uri : Uri) (a : Action S α) : Prop :=
  ∀ s s' u n cause, a.after s = (.error (.retriesExhausted u n cause), s') →
    service.Reports (.retriesExhausted u n cause) ∨
      u = label ∧ s'.requests = List.replicate n { method := .get, uri } ++ s.requests ∧
        ∃ earlier, s'.requests = { method := .get, uri } :: earlier ∧
          service.Makes earlier { method := .get, uri } cause

/-- **Attempts that run out are reported as they were.** -/
theorem Asks.exhausts {uri : Uri} (h : service.Asks uri a) (p : RetryPolicy) (label : String) :
    service.Exhausts label uri (p.execute label a) := by
  intro s s' u n cause hrun
  obtain ⟨k, -, s₁, hs₁, hafter, hlast⟩ := after_execute h.sent p label s
  have hsent := h.sent s₁
  rw [hafter, Prod.mk.injEq] at hrun
  obtain ⟨houtcome, rfl⟩ := hrun
  rcases ho : (a.after s₁).1 with e | x
  · have hmade := h.made s₁ e ho
    rw [ho] at houtcome hlast
    replace houtcome : p.reported label e = .retriesExhausted u n cause := Except.error.inj houtcome
    unfold RetryPolicy.reported RetryPolicy.exhausted at houtcome
    by_cases hretry : e.isRetryable = true
    · rw [if_pos hretry] at houtcome
      by_cases hone : p.maxAttempts = 1
      · rw [if_pos (beq_iff_eq.2 hone)] at houtcome
        rw [houtcome] at hretry
        cases hretry
      · rw [if_neg (by simpa using hone)] at houtcome
        cases houtcome
        refine .inr ⟨rfl, ?_, s₁.requests, hsent, hmade.imp_right fun hd => ⟨hd.1, hd.2.reports_of (.inl hretry)⟩⟩
        rw [hsent, hs₁, ← hlast hretry]
        rfl
    · rw [if_neg hretry] at houtcome
      rw [houtcome] at hmade
      rcases hmade with hmade | ⟨-, hmade⟩
      · exact absurd hmade fault?_ne_exhausted
      · exact .inl (hmade.reports_of (.inr ⟨u, n, cause, rfl⟩))
  · rw [ho] at houtcome
    cases houtcome

end Service

namespace Collection

variable (c : Collection S t)

theorem get?_asks (uri : Uri) : c.service.Asks uri (c.get? uri) :=
  Service.asks_of_receives (c.requests_get? uri) (c.get?_receives uri) ((Service.surfaces_send _).bind _)

theorem getAllAt_asks (uri : Uri) : c.service.Asks uri (c.getAllAt uri) :=
  Service.asks_of_receives (c.requests_getAllAt uri) (c.getAllAt_receives uri) ((Service.surfaces_send _).bind _)

theorem search?_asks (path name value : String) :
    c.service.Asks (c.searchUri path name value) (c.search? path name value) :=
  Service.asks_of_receives (c.requests_search? path name value) (c.search?_receives path name value)
    ((Service.surfaces_send _).bind _)

end Collection

namespace Repository

theorem find?_exhausts (r : Repository S t) (a : S.Content t) :
    match r.naturalId with
    | some n =>
      let uri := r.collection.searchUri n.path n.name (n.value a)
      r.collection.service.Exhausts uri.text uri (r.find? a)
    | none => ∀ s, (r.find? a).after s = (.error (.noNaturalId (S.kind t)), s) := by
  unfold find?
  rcases r.naturalId with _ | n
  · exact fun _ => rfl
  · exact (r.collection.search?_asks n.path n.name (n.value a)).exhausts r.retry _

/-- **Reports of exhausted retries count the requests that were sent and tell the failure that the last answer made.**
The report of a member, of all members and of a search for a natural id names the address that every one of these
requests was for.  That of reading everything that a search finds names the collection, and the requests were for the
search below it.  A search without a natural id sends nothing and reports no exhaustion. -/
theorem exhaustion_reported (r : Repository S t) :
    let c := r.collection
    (∀ id, let uri := c.memberUri (r.identity.text id); c.service.Exhausts uri.text uri (r.get? id)) ∧
    c.service.Exhausts c.uri.text c.uri r.getAll ∧
    (∀ a, match r.naturalId with
      | some n =>
        let uri := c.searchUri n.path n.name (n.value a)
        c.service.Exhausts uri.text uri (r.find? a)
      | none => ∀ s, (r.find? a).after s = (.error (.noNaturalId (S.kind t)), s)) ∧
    c.service.Exhausts c.uri.text (c.uri.append "/search/findAll") r.findAll := by
  intro c
  refine ⟨fun id => ?_, ?_, r.find?_exhausts, ?_⟩
  · exact (c.get?_asks _).exhausts r.retry _
  · exact (c.getAllAt_asks _).exhausts r.retry _
  · exact (c.getAllAt_asks _).exhausts r.retry _

end Repository

/-- What an outcome says of attempts that ran out: what they were for, and how many there were. -/
def Outcome.exhaustion? : Outcome α → Option (String × Nat)
  | .error (.retriesExhausted u n _) => some (u, n)
  | _ => none

theorem Outcome.of_exhaustion? {o : Outcome α} {u : String} {n : Nat} (h : o.exhaustion? = some (u, n)) :
    ∃ cause, o = .error (.retriesExhausted u n cause) := by
  unfold exhaustion? at h
  split at h
  · cases h
    exact ⟨_, rfl⟩
  · cases h

namespace Family

/-- No type of the family has a resolver of its own. -/
theorem not_reports (script : Script) (e : Failure) : ¬ (service script).Reports e := by
  rintro ⟨t, info, resolver, context, links, hinfo, hresolver, -⟩
  rcases t <;> cases hinfo <;> cases hresolver

/-- Parents are asked for twice of a server that has too much to do, and the report says so. -/
theorem parents_exhausted :
    let r : Repository schema Ty.parent := { parents overloaded with retry := .new 2 0 0 }
    let q : Request := { method := .get, uri := r.collection.uri }
    ∃ cause s', r.getAll.after {} = (.error (.retriesExhausted "http://host/parents" 2 cause), s') ∧
      r.collection.uri.text = "http://host/parents" ∧ s'.requests = [q, q] ∧
        r.collection.service.Makes [q] q cause := by
  intro r q
  obtain ⟨-, hall, -⟩ := r.exhaustion_reported
  have hexhausted : (r.getAll.after {}).1.exhaustion? = some ("http://host/parents", 2) := by decide +kernel
  obtain ⟨cause, hcause⟩ := Outcome.of_exhaustion? hexhausted
  have hrun : r.getAll.after {} = (.error (.retriesExhausted "http://host/parents" 2 cause),
    (r.getAll.after {}).2) := by
    rw [← hcause]
  rcases hall {} _ _ _ _ hrun with hreports | ⟨hlabel, hsent, earlier, hlast, hmade⟩
  · exact absurd hreports (not_reports overloaded _)
  · rw [hsent] at hlast
    cases hlast
    exact ⟨cause, _, hrun, hlabel.symm, hsent, hmade⟩

/-- A server that has too much to do to search for parents. -/
def overloadedSearch : Script :=
  [{ method := "GET", uri := "http://host/parents/search/findAll", replies := [.ok { status := 503 }] }]

/-- **A report that names what was not asked**: parents are searched for twice, and the report names their
collection. -/
theorem search_misnamed :
    let r : Repository schema Ty.parent := { parents overloadedSearch with retry := .new 2 0 0 }
    ∃ cause s', r.findAll.after {} = (.error (.retriesExhausted "http://host/parents" 2 cause), s') ∧
      s'.requests.map (·.uri.text) = List.replicate 2 "http://host/parents/search/findAll" ∧
      ∀ q ∈ s'.requests, q.uri.text ≠ "http://host/parents" := by
  intro r
  have hexhausted : (r.findAll.after {}).1.exhaustion? = some ("http://host/parents", 2) := by decide +kernel
  have hsent : (r.findAll.after {}).2.requests.map (·.uri.text) =
      List.replicate 2 "http://host/parents/search/findAll" := by decide +kernel
  obtain ⟨cause, hcause⟩ := Outcome.of_exhaustion? hexhausted
  refine ⟨cause, (r.findAll.after {}).2, by rw [← hcause], hsent, fun q hq => ?_⟩
  have hmem : q.uri.text ∈ List.replicate 2 "http://host/parents/search/findAll" := by
    rw [← hsent]
    exact List.mem_map_of_mem hq
  rw [List.eq_of_mem_replicate hmem]
  decide

end Family
end Hypermedia
