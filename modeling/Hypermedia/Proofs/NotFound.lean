import Hypermedia.Proofs.Proxy.TypedAccess
import Hypermedia.Repository.Basic
/-!
# What is not found is absent

A read acts on one answer, that to its last attempt.  When that answer says that nothing is found, there is nothing, and
this is no failure; every other status outside the success range is one, which tells that status also when the attempts
ran out.  This holds of all reads, from those of a service to those of repositories and to the accesses of proxies that
fetch an association; for a single write every such status is a failure (`reads_honour_answers`).  A resolver that the
application brings may say that something is not found, and a save reads what it needs (`nothing_found`).
-/
namespace Hypermedia

variable {S : Schema} {α β : Type}

open Outcome (Ends)

namespace Service

variable (service : Service S)

/-- **A read honours the answer that it acts on.**  It never fails because something is not found, unless a resolver of
the application says so; an answer that nothing is found makes it give nothing; and with any other status outside the
success range it fails with that status. -/
structure Honours (nothing : α) (answer : Except TransportFault Response) (o : Outcome α) : Prop where
  found : ∀ e, o = .error e → e.isNotFound = true → service.Reports e
  missing : ∀ r, answer = .ok r → r.status = Status.notFound → o = .ok nothing
  refused : ∀ r, answer = .ok r → r.status ≠ Status.notFound → Status.isSuccess r.status = false →
    ∃ e, o = .error e ∧ e.status? = some r.status

variable {service} {nothing : α} {R : α → Prop} {answer : Except TransportFault Response} {o : Outcome α}

theorem DecodeFailure.reports {e : Failure} (h : service.DecodeFailure e) (hfound : e.isNotFound = true) :
    service.Reports e := by
  rcases h with h | h
  · unfold Failure.isNotFound at hfound
    rw [h.status?] at hfound
    cases hfound
  · exact h

theorem Receives.honours (h : service.Receives nothing R answer o) : service.Honours nothing answer o := by
  cases h with
  | unreached fault uri =>
    refine ⟨fun e he hfound => ?_, nofun, nofun⟩
    cases he
    simp [Failure.isNotFound] at hfound
  | missing found =>
    refine ⟨nofun, fun _ _ _ => rfl, fun r hr other => ?_⟩
    cases hr
    exact absurd found other
  | refused other refused =>
    refine ⟨fun e he hfound => ?_, fun r hr found => ?_, fun r hr _ _ => ?_⟩
    · cases he
      simp [Failure.isNotFound, other] at hfound
    · cases hr
      exact absurd found other
    · cases hr
      exact ⟨_, rfl, Response.status?_refusal _⟩
  | decoded success ho =>
    refine ⟨fun e he hfound => ?_, fun r hr found => ?_, fun r hr _ refused => ?_⟩
    · rw [he] at ho
      exact ho.of_error.reports hfound
    · cases hr
      rw [found] at success
      exact absurd success (by decide)
    · cases hr
      rw [success] at refused
      cases refused

theorem Honours.map (h : service.Honours nothing answer o) (f : α → β) :
    service.Honours (f nothing) answer (o.map f) := by
  refine ⟨fun e he hfound => ?_, fun r hr found => ?_, fun r hr other refused => ?_⟩
  · rcases o with _ | x
    · cases he
      exact h.found e rfl hfound
    · cases he
  · rw [h.missing r hr found]
    rfl
  · obtain ⟨e, rfl, he⟩ := h.refused r hr other refused
    exact ⟨e, rfl, he⟩

/-- **The last attempt speaks for all of them.** -/
theorem Honours.reported (h : service.Honours nothing answer o) (p : RetryPolicy) (uri : String) :
    service.Honours nothing answer (o.mapError (p.reported uri)) := by
  refine ⟨fun e he hfound => ?_, fun r hr found => ?_, fun r hr other refused => ?_⟩
  · rcases o with e' | x
    · cases he
      rw [p.isNotFound_reported] at hfound
      rw [p.reported_of_isNotFound uri hfound]
      exact h.found e' rfl hfound
    · cases he
  · rw [h.missing r hr found]
    rfl
  · obtain ⟨e, rfl, he⟩ := h.refused r hr other refused
    exact ⟨p.reported uri e, rfl, (p.status?_reported uri e).trans he⟩

/-! ## Reads -/

variable (service)

/-- **A read of an address**, with so many attempts at most, honours the answer to the last of them. -/
def Reads (attempts : Nat) (nothing : α) (uri : Uri) (a : Action S α) : Prop :=
  ∀ s : Traces S, ∃ k < attempts,
    (a.after s).2.requests = { method := .get, uri } :: (List.replicate k { method := .get, uri } ++ s.requests) ∧
    service.Honours nothing
      (service.transport.answer (List.replicate k { method := .get, uri } ++ s.requests) { method := .get, uri })
      (a.after s).1

variable {service} {uri : Uri} {a : Action S α}

theorem reads_of_receives (sent : ∀ s, (a.after s).2.requests = { method := .get, uri } :: s.requests)
    (h : ∀ s, service.Receives nothing R (service.transport.answer s.requests { method := .get, uri }) (a.after s).1) :
    service.Reads 1 nothing uri a := fun s => ⟨0, Nat.zero_lt_one, sent s, (h s).honours⟩

/-- **A read that is tried again is a read**, whatever the attempts are said to be for. -/
theorem Reads.execute (h : service.Reads 1 nothing uri a) (p : RetryPolicy) (label : String) :
    service.Reads p.maxAttempts.toNat nothing uri (p.execute label a) := by
  have once : ∀ s, (a.after s).2.requests = { method := .get, uri } :: s.requests ∧
      service.Honours nothing (service.transport.answer s.requests { method := .get, uri }) (a.after s).1 := by
    intro s
    obtain ⟨k, hk, hs⟩ := h s
    obtain rfl : k = 0 := by omega
    exact hs
  intro s
  obtain ⟨k, hk, s', hs', hafter, -⟩ := Action.after_execute (fun s => (once s).1) p label s
  obtain ⟨hsent, hhonours⟩ := once s'
  rw [hs'] at hsent hhonours
  rw [hafter]
  exact ⟨k, hk, hsent, hhonours.reported p label⟩

variable (service)

theorem getResource?_reads (t : S.Ty) (uri : Uri) : service.Reads 1 none uri (service.getResource? t uri) :=
  reads_of_receives (service.requests_getResource? t uri) (service.getResource?_receives t uri)

theorem getResources_reads (t : S.Ty) (uri : Uri) : service.Reads 1 [] uri (service.getResources t uri) :=
  reads_of_receives (service.requests_after_send _ (service.silent_decodeAnswerEach t))
    (service.getResources_receives t uri)

end Service

namespace Collection

variable {t : S.Ty} (c : Collection S t)

theorem get?_receives (uri : Uri) (s : Traces S) :
    c.service.Receives none (fun _ => True) (c.service.transport.answer s.requests { method := .get, uri })
      ((c.get? uri).after s).1 := by
  refine (c.service.getResource?_receives t uri s).bind (fun _ => rfl) fun r? h => ?_
  rcases r? with _ | r
  · exact Action.ends_pure trivial
  · have hblank : (S.entity t).Blank (settled uri r).content := by
      rw [content_settled]
      exact h r rfl
    exact Action.ends_bind (c.service.create_ends hblank) fun _ _ => Action.ends_pure trivial

theorem getAllAt_receives (uri : Uri) (s : Traces S) :
    c.service.Receives [] (fun _ => True) (c.service.transport.answer s.requests { method := .get, uri })
      ((c.getAllAt uri).after s).1 :=
  (c.service.getResources_receives t uri s).bind (fun _ => rfl) fun _ h => c.service.createEach_ends h

theorem search?_receives (path name value : String) (s : Traces S) :
    c.service.Receives none (fun _ => True)
      (c.service.transport.answer s.requests { method := .get, uri := c.searchUri path name value })
      ((c.search? path name value).after s).1 :=
  (c.service.getResource?_receives t _ s).bind (fun _ => rfl) fun _ h => c.service.createOption_ends h

theorem get?_reads (uri : Uri) : c.service.Reads 1 none uri (c.get? uri) :=
  Service.reads_of_receives (c.requests_get? uri) (c.get?_receives uri)

theorem getAllAt_reads (uri : Uri) : c.service.Reads 1 [] uri (c.getAllAt uri) :=
  Service.reads_of_receives (c.requests_getAllAt uri) (c.getAllAt_receives uri)

theorem search?_reads (path name value : String) :
    c.service.Reads 1 none (c.searchUri path name value) (c.search? path name value) :=
  Service.reads_of_receives (c.requests_search? path name value) (c.search?_receives path name value)

end Collection

/-! ## Writes -/

namespace Service

variable (service : Service S) {t : S.Ty} {s : Traces S} {r : Response}

theorem after_send_of_refused {q : Request} {k : Response → Action S α}
    (answered : service.transport.answer s.requests q = .ok r) (hk : ∀ s', ((k r).after s').1 = .error r.refusal) :
    ((service.send q >>= k).after s).1 = .error r.refusal := by
  have hsend := service.after_send s q
  rw [answered] at hsend
  rw [Action.after_bind_ok hsend]
  exact hk _

/-- An answer to a single write is its failure. -/
def RefusesWrites (t : S.Ty) (s : Traces S) (r : Response) : Prop :=
  ∀ (uri : Uri) (body : Json),
    let answers (q : Request) := service.transport.answer s.requests q = .ok r
    (answers { method := .post, uri, body := some body } →
      ((service.post uri (.ok body)).after s).1 = .error r.refusal) ∧
    (answers { method := .put, uri, body := some body } → ((service.put uri (.ok body)).after s).1 = .error r.refusal) ∧
    (answers { method := .delete, uri } → ((service.delete uri).after s).1 = .error r.refusal) ∧
    (answers { method := .patch, uri, body := some body } →
      ((service.patch? t uri (.ok body)).after s).1 = .error r.refusal)

/-- **For a write, a status that says that nothing is found is a failure like any other** outside the success range. -/
theorem refusesWrites (refused : Status.isSuccess r.status = false) : service.RefusesWrites t s r := by
  have hsuccess : ∀ s' : Traces S,
      ((Action.ofOutcome r.success >>= fun _ => pure () : Action S Unit).after s').1 = .error r.refusal := by
    intro s'
    rw [Response.success_of_refused refused]
    rfl
  intro uri body answers
  refine ⟨fun h => ?_, fun h => service.after_send_of_refused h hsuccess,
    fun h => service.after_send_of_refused h hsuccess, fun h => ?_⟩
  · refine service.after_send_of_refused h fun s' => ?_
    rw [locationOf_of_refused uri refused, Action.after_ofOutcome]
  · refine service.after_send_of_refused h fun s' => ?_
    unfold decodeAnswer?
    rw [document?_of_refused refused]
    rfl

end Service

/-! ## First accesses of associations -/

namespace Service

/-- **A first access honours the answer**, if its link leads to an address that is asked; it gives nothing if the link
is missing and may be, and fails without a status if it must not be or leads nowhere. -/
def Follows (service : Service S) (nothing : α) (s : Traces S) (run : Outcome α × Traces S) :
    Outcome (Option Uri) → Prop
  | .ok (some uri) => run.2.requests = { method := .get, uri } :: s.requests ∧
    service.Honours nothing (service.transport.answer s.requests { method := .get, uri }) run.1
  | .ok none => run.2.requests = s.requests ∧ run.1 = .ok nothing
  | .error e => run.2.requests = s.requests ∧ run.1 = .error e ∧ e.status? = none

variable {service : Service S} {t : S.Ty} {s s' : Traces S} {id : Nat} {p : Proxy S t} {method relation : String}
  {a : Association S.Ty}

theorem Follows.map {nothing : α} {run : Outcome α × Traces S} {target : Outcome (Option Uri)}
    (h : service.Follows nothing s run target) (f : α → β) (hs' : s'.requests = run.2.requests) :
    service.Follows (f nothing) s (run.1.map f, s') target := by
  rcases target with e | _ | uri
  · obtain ⟨hsent, hrun, he⟩ := h
    exact ⟨hs'.trans hsent, by rw [hrun]; rfl, he⟩
  · obtain ⟨hsent, hrun⟩ := h
    exact ⟨hs'.trans hsent, by rw [hrun]; rfl⟩
  · obtain ⟨hsent, hhonours⟩ := h
    exact ⟨hs'.trans hsent, hhonours.map f⟩

variable (service)

theorem fetch_follows (links : Links) (a : Association S.Ty) (relation : String) (s : Traces S) :
    service.Follows (Handler.emptyValue a) s ((Handler.fetch service links a relation).after s)
      (Handler.target? service.base links a relation) := by
  have htarget := target?_ends service.base links a relation
  rw [service.fetch_eq]
  rcases ht : Handler.target? service.base links a relation with e | _ | uri
  · rw [ht] at htarget
    refine ⟨rfl, rfl, ?_⟩
    rcases htarget.of_error with rfl | he
    · rfl
    · exact he.status?
  · exact ⟨rfl, rfl⟩
  · show service.Follows _ s ((Action.measure (.fetch relation) >>= fun _ => service.load a uri).after s)
      (.ok (some uri))
    rw [Action.after_bind_ok (Action.after_measure _ s)]
    have hreceives := service.load_receives a uri { s with measurements := .fetch relation :: s.measurements }
    exact ⟨service.requests_load a uri _, hreceives.honours⟩

theorem after_linked (hone : a.cardinality = .one) :
    (service.linked id method a.target).after s =
      (((service.linkedAs id method a).after s).1.map (·.proxies.head?),
        ((service.linkedAs id method a).after s).2) := by
  unfold linkedAs
  rw [hone]
  simp only [Action.after_bind]
  rcases (service.linked id method a.target).after s with ⟨e | proxy, s'⟩
  · rfl
  · simp [LinkedValue.proxies, Except.map]

theorem after_linkedAll (hmany : a.cardinality = .many) :
    (service.linkedAll id method a.target).after s =
      (((service.linkedAs id method a).after s).1.map (·.proxies), ((service.linkedAs id method a).after s).2) := by
  unfold linkedAs
  rw [hmany]
  simp only [Action.after_bind]
  rcases (service.linkedAll id method a.target).after s with ⟨e | proxies, s'⟩ <;> rfl

section FirstAccess

variable (hp : s.proxy? id = some ⟨t, p⟩) (ha : (p.table.lookup method).association? = some a)
  (hf : p.table.followed? method = some relation) (hs : s.slot? id relation = none)

include hp ha hf hs

theorem linkedAs_follows :
    service.Follows (Handler.emptyValue a) s ((service.linkedAs id method a).after s)
      (Handler.target? service.base p.links a relation) := by
  have hsent := (service.call_of_empty (c := { id, method }) hp ha hf hs).2
  rw [← service.requests_fetch] at hsent
  have hfollows := (service.fetch_follows p.links a relation s).map (fun value => value) hsent
  rw [service.after_linkedAs_of_empty hp ha hf hs]
  rcases ho : ((Handler.fetch service p.links a relation).after s).1 with e | value <;> rw [ho] at hfollows
  · exact hfollows
  · exact hfollows

theorem linked_follows (hone : a.cardinality = .one) :
    service.Follows none s ((service.linked id method a.target).after s)
      (Handler.target? service.base p.links a relation) := by
  have hfollows := (service.linkedAs_follows hp ha hf hs).map (·.proxies.head?) rfl
  unfold Handler.emptyValue at hfollows
  rw [hone] at hfollows
  rw [service.after_linked hone]
  exact hfollows

theorem linkedAll_follows (hmany : a.cardinality = .many) :
    service.Follows [] s ((service.linkedAll id method a.target).after s)
      (Handler.target? service.base p.links a relation) := by
  have hfollows := (service.linkedAs_follows hp ha hf hs).map (·.proxies) rfl
  unfold Handler.emptyValue at hfollows
  rw [hmany] at hfollows
  rw [service.after_linkedAll hmany]
  exact hfollows

end FirstAccess

end Service

/-! ## All reads -/

namespace Repository

variable {t : S.Ty} (r : Repository S t)

theorem find?_reads (a : S.Content t) :
    match r.naturalId with
    | some n => r.collection.service.Reads r.retry.maxAttempts.toNat none
        (r.collection.searchUri n.path n.name (n.value a)) (r.find? a)
    | none => ∀ s, (r.find? a).after s = (.error (.noNaturalId (S.kind t)), s) := by
  unfold find?
  rcases r.naturalId with _ | n
  · exact fun _ => rfl
  · exact (r.collection.search?_reads n.path n.name (n.value a)).execute r.retry _

end Repository

/-- **What is not found is absent, and every other status outside the success range is a failure that tells it.**  The
reads of a service and of a collection send one request for the address that they read, those of a repository one for
each attempt, and honour the answer to the last of them; a search without a natural id sends none.  The first access of
an association, asked for as it is declared, does the same if its link leads to an address.  Single writes fail with
every status outside the success range, also with the one that says that nothing is found. -/
theorem reads_honour_answers (S : Schema) :
    (∀ (service : Service S) (t : S.Ty) (uri : Uri),
      service.Reads 1 none uri (service.getResource? t uri) ∧ service.Reads 1 [] uri (service.getResources t uri)) ∧
    (∀ {t : S.Ty} (c : Collection S t),
      (∀ uri, c.service.Reads 1 none uri (c.get? uri) ∧ c.service.Reads 1 [] uri (c.getAllAt uri)) ∧
      c.service.Reads 1 [] c.uri c.getAll ∧ c.service.Reads 1 [] (c.uri.append "/search/findAll") c.findAll ∧
      ∀ path name value, c.service.Reads 1 none (c.searchUri path name value) (c.search? path name value)) ∧
    (∀ {t : S.Ty} (r : Repository S t),
      let c := r.collection
      let attempts := r.retry.maxAttempts.toNat
      (∀ id, c.service.Reads attempts none (c.memberUri (r.identity.text id)) (r.get? id)) ∧
      c.service.Reads attempts [] c.uri r.getAll ∧
      c.service.Reads attempts [] (c.uri.append "/search/findAll") r.findAll ∧
      ∀ a, match r.naturalId with
        | some n => c.service.Reads attempts none (c.searchUri n.path n.name (n.value a)) (r.find? a)
        | none => ∀ s, (r.find? a).after s = (.error (.noNaturalId (S.kind t)), s)) ∧
    (∀ (service : Service S) {t : S.Ty} {s : Traces S} {id : Nat} {p : Proxy S t} {method relation : String}
      {a : Association S.Ty}, s.proxy? id = some ⟨t, p⟩ → (p.table.lookup method).association? = some a →
      p.table.followed? method = some relation → s.slot? id relation = none →
      let target := Handler.target? service.base p.links a relation
      (a.cardinality = .one → service.Follows none s ((service.linked id method a.target).after s) target) ∧
      (a.cardinality = .many → service.Follows [] s ((service.linkedAll id method a.target).after s) target)) ∧
    ∀ (service : Service S) (t : S.Ty) (s : Traces S) (r : Response), Status.isSuccess r.status = false →
      service.RefusesWrites t s r := by
  refine ⟨fun service t uri => ⟨service.getResource?_reads t uri, service.getResources_reads t uri⟩,
    fun c => ⟨fun uri => ⟨c.get?_reads uri, c.getAllAt_reads uri⟩, c.getAllAt_reads _, c.getAllAt_reads _,
      c.search?_reads⟩,
    fun r => ⟨fun id => ?_, ?_, ?_, r.find?_reads⟩, fun service => ?_,
    fun service t s r => service.refusesWrites⟩
  · exact (r.collection.get?_reads _).execute r.retry _
  · exact (r.collection.getAllAt_reads _).execute r.retry _
  · exact (r.collection.getAllAt_reads _).execute r.retry _
  · intro t s id p method relation a hp ha hf hs target
    exact ⟨service.linked_follows hp ha hf hs, service.linkedAll_follows hp ha hf hs⟩

namespace Family

/-- A server that has too much to do. -/
def overloaded : Script := [{ method := "GET", uri := "http://host/parents", replies := [.ok { status := 503 }] }]

theorem answer_overloaded (sent : List Request) :
    overloaded.transport.answer sent { method := .get, uri := base.append "/parents" } = .ok { status := 503 } := by
  have hroute : Route.answers { method := "GET", uri := "http://host/parents", replies := [.ok { status := 503 }] }
      { method := .get, uri := base.append "/parents" } = true := by decide +kernel
  unfold overloaded Script.transport Script.answer
  simp only [List.find?_cons, hroute, Option.bind_some, Route.reply?]
  rcases Route.served _ sent with _ | n <;> rfl

/-- A server that knows nobody makes the parent of a child absent.  Parents that are asked for again and again of a
server that has too much to do are not absent: the failure tells what it said. -/
theorem parent_absent :
    let made := ((service []).create Ty.child bart).after {}
    let r : Repository schema Ty.parent :=
      { collection := { service := service overloaded, uri := base.append "/parents", batchUri := base }
        identified := parentIdentified
        retry := .new 2 0 0 }
    made.1.toOption = some 0 ∧ made.2.slot? 0 "parent" = none ∧
      (((service []).linked 0 "getParent" Ty.parent).after made.2).1 = .ok none ∧
    ∃ e, (r.getAll.after {}).1 = .error e ∧ e.status? = some 503 := by
  intro made r
  obtain ⟨-, -, hrepository, hproxy, -⟩ := reads_honour_answers schema
  have hmade : made = (.ok 0, made.2) := by rfl
  obtain ⟨p, hp, fresh, hlinks⟩ := (service []).create_ok hmade
  have hempty : made.2.slot? 0 "parent" = none := by decide +kernel
  refine ⟨by decide +kernel, hempty, ?_, ?_⟩
  · let parent : Association schema.Ty := { relation := none, mayLack := false, target := .parent, cardinality := .one }
    have hdeclared : ∀ table, schema.table Ty.child = .ok table →
        (table.lookup "getParent").association? = some parent ∧ table.followed? "getParent" = some "parent" := by
      intro table htable
      cases htable
      exact ⟨by rfl, by decide +kernel⟩
    obtain ⟨ha, hf⟩ := hdeclared p.table fresh.table
    have htarget : Handler.target? (service []).base bart.links parent "parent" =
        .ok (some (base.append "/parents/1")) := by decide +kernel
    have hfollows := (hproxy (service []) hp ha hf hempty).1 rfl
    rw [hlinks, htarget] at hfollows
    exact hfollows.2.missing { status := Status.notFound } rfl rfl
  · obtain ⟨k, -, -, hhonours⟩ := (hrepository r).2.1 {}
    exact hhonours.refused { status := 503 } (answer_overloaded _) (by decide) rfl

/-- A service with children whose kinds are told by a resolver of the application's own, which finds nothing. -/
def bewildered : Service schema where
  configuration :=
    { base
      typeInfos := [("Child",
        { resolver := some fun _ _ _ => .error (Response.refusal { status := Status.notFound }) })] }
  transport := Script.transport [{ method := "GET", uri := "http://host/children/1", replies := [.ok (answering
    (.object [("name", .text "Bart")]))] }]

/-- A server that says that it created an item where it knows of none. -/
def vanishing : Script :=
  [{ method := "POST", uri := "http://host/items/all/",
     replies := [.ok { status := 201, location := some "mailto:x" }] }]

/-- **What is not found is a failure**: a resolver of the application's own says that nothing is found though the server
answered with a document; and an item that is saved, and is not there when it is read back, is not saved. -/
theorem nothing_found :
    let uri : Uri := base.append "/children/1"
    let r : Repository schema Ty.item :=
      { collection := { service := service vanishing, uri := base.append "/items/all/", batchUri := base }
        identified := itemIdentified
        retry := .once }
    let saved := (r.save { name := "Lamp" }).after {}
    (∃ e, ((bewildered.getResource? Ty.child uri).after {}).1 = .error e ∧ e.isNotFound = true) ∧
    ∃ q sent, saved.2.requests = q :: sent ∧ saved.1 = .error (.protocol (.createdNotReadable q.uri)) ∧
      q.method = .get ∧ (vanishing.transport.answer sent q).toOption = some { status := Status.notFound } := by
  intro uri r saved
  let mail : Uri := { scheme := "mailto", path := "x" }
  let creation : Request :=
    { method := .post, uri := r.collection.uri, body := some (.object [("name", .text "Lamp")]) }
  let missing := Response.refusal { status := Status.notFound }
  have hmissing : ((bewildered.getResource? Ty.child uri).after {}).1.failure? = some missing := by decide +kernel
  have hrequests : saved.2.requests = [{ method := .get, uri := mail }, creation] := by decide +kernel
  have hfails : saved.1.failure? = some (.protocol (.createdNotReadable mail)) := by decide +kernel
  exact ⟨⟨missing, Outcome.failure?_eq_some.1 hmissing, by decide⟩, _, _, hrequests,
    Outcome.failure?_eq_some.1 hfails, rfl, by decide +kernel⟩

end Family
end Hypermedia
