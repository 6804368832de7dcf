import Hypermedia.Collection
import Hypermedia.Proofs.Action
/-!
# What services send

Reading an answer and making proxies is silent; every read of a service sends exactly one request, and so does every
write whose body can be written, while another one fails before anything is sent.  A proxy that was just made has the
address and the accessors of its resource and type and remembers nothing (`Fresh`).
-/
namespace Hypermedia

theorem EntityType.slot_of_address? {κ α : Type} {e : EntityType κ α} {slot : AddressSlot α}
    (h : e.address? = some slot) : e.slot = some slot := by
  unfold EntityType.address? at h
  split at h
  · exact h
  · cases h

namespace Service

open Hypermedia.Action

variable {S : Schema} {t : S.Ty} {α : Type} {P : Request → Prop}

/-! ## Sending -/

def noted (service : Service S) (s : Traces S) (q : Request) : Traces S :=
  { s with
    requests := q :: s.requests
    measurements :=
      if service.transport.metered then
        .exchange q.method.name (statusOf (service.transport.answer s.requests q)) 0 :: s.measurements
      else s.measurements }

theorem after_send (service : Service S) (s : Traces S) (q : Request) :
    (service.send q).after s =
      ((service.transport.answer s.requests q).mapError (·.toFailure (service.transport.named q.uri)),
        service.noted s q) := by
  unfold send noted
  rw [after_bind_ok (after_get s), after_bind_ok (after_modify _ s)]
  by_cases h : service.transport.metered = true
  · simp only [h, if_true]
    rw [after_bind_ok (after_measure _ _), after_ofOutcome]
  · simp only [h, Bool.false_eq_true, if_false]
    exact after_ofOutcome _ _

theorem sends_send (service : Service S) {q : Request} (h : P q) : Sends P (service.send q) := by
  intro s
  rw [after_send]
  exact ⟨⟨[q], rfl, by simpa using h⟩, List.prefix_rfl⟩

/-- **What sends a request and works silently on the answer sends that request.** -/
theorem requests_after_send (service : Service S) (q : Request) {k : Response → Action S α} (hk : ∀ r, Silent (k r))
    (s : Traces S) : ((service.send q >>= k).after s).2.requests = q :: s.requests := by
  rw [after_bind, after_send]
  rcases service.transport.answer s.requests q with _ | r
  · rfl
  · exact (hk r (service.noted s q)).requests_eq

/-- What is done inward with the answer to a request adds nothing to what the request leaves. -/
theorem inward_after_send (service : Service S) (q : Request) {k : Response → Action S α} (hk : ∀ r, Inward (k r))
    (s : Traces S) : (service.noted s q).Inward ((service.send q >>= k).after s).2 := by
  refine inward_after_bind ?_ hk
  rw [after_send]
  exact .refl _

theorem sends_send_bind (service : Service S) {q : Request} {k : Response → Action S α} (hk : ∀ r, Silent (k r))
    (h : P q) : Sends P (service.send q >>= k) :=
  sends_bind (service.sends_send h) fun r => (hk r).mono fun _ => False.elim

theorem write_of_isOk (service : Service S) (method : Method) (uri : Uri) {body : Json.Encoded} (h : body.isOk = true) :
    service.write method uri body = service.send { method, uri, body := body.toOption } := by
  rcases body with reason | document
  · cases h
  · rfl

/-- **What cannot be written is not sent.** -/
theorem after_write_of_error (service : Service S) (method : Method) (uri : Uri) (reason : String) (s : Traces S) :
    (service.write method uri (.error reason)).after s = (.error (.json (.unencodable reason)), s) := rfl

/-- **A write sends one request**, if its body can be written. -/
theorem requests_after_write (service : Service S) (method : Method) (uri : Uri) (body : Json.Encoded)
    {k : Response → Action S α} (hk : ∀ r, Silent (k r)) (s : Traces S) :
    ((service.write method uri body >>= k).after s).2.requests =
      (body.toOption.map fun document => ({ method, uri, body := some document } : Request)).toList ++ s.requests := by
  rcases body with reason | document
  · rw [after_bind_error (service.after_write_of_error method uri reason s)]
    rfl
  · exact service.requests_after_send _ hk s

theorem sends_write_bind (service : Service S) {method : Method} {uri : Uri} {body : Json.Encoded}
    {k : Response → Action S α} (hk : ∀ r, Silent (k r))
    (h : ∀ document, body = .ok document → P { method, uri, body := some document }) :
    Sends P (service.write method uri body >>= k) := by
  rcases body with reason | document
  · exact sends_of_after_eq fun s => by rw [after_bind_error (service.after_write_of_error method uri reason s)]
  · exact service.sends_send_bind hk (h document rfl)

theorem locationOf_of_refused (uri : Uri) {r : Response} (h : Status.isSuccess r.status = false) :
    locationOf uri r = .error r.refusal := by
  unfold locationOf
  rw [Response.success_of_refused h]
  rfl

theorem document?_of_refused {r : Response} (h : Status.isSuccess r.status = false) :
    document? r = .error r.refusal := by
  unfold document?
  rw [Response.success_of_refused h]
  rfl

/-! ## Reading answers -/

theorem inward_metadata (service : Service S) (t : S.Ty) : Inward (service.metadata t) :=
  inward_bind (inward_ofOutcome _) fun _ =>
    inward_bind (inward_modify fun _ => ⟨rfl, rfl, List.prefix_rfl⟩) fun _ => inward_pure _

theorem inward_resolve (service : Service S) (t : S.Ty) (links : Links) : Inward (service.resolve t links) :=
  inward_bind (service.inward_metadata t) fun _ => inward_bind inward_get fun _ => inward_ofOutcome _

theorem inward_decode (service : Service S) (t : S.Ty) (document : Json) : Inward (service.decode t document) :=
  inward_bind (inward_ofOutcome _) fun _ =>
    inward_bind (service.inward_resolve t _) fun _ => inward_bind (inward_ofOutcome _) fun _ => inward_pure _

theorem inward_decodeEach (service : Service S) (t : S.Ty) : ∀ ds, Inward (service.decodeEach t ds)
  | [] => inward_pure _
  | d :: ds =>
    inward_bind (service.inward_decode t d) fun _ =>
      inward_bind (service.inward_decodeEach t ds) fun _ => inward_pure _

theorem inward_decodeCollection (service : Service S) (t : S.Ty) (document : Json) :
    Inward (service.decodeCollection t document) := by
  unfold decodeCollection
  split
  · exact service.inward_decodeEach t _
  · exact inward_bind (inward_ofOutcome _) fun _ => service.inward_decodeEach t _

theorem inward_decodeAnswer? (service : Service S) (t : S.Ty) (r : Response) : Inward (service.decodeAnswer? t r) :=
  inward_bind (inward_ofOutcome _) fun d => by
    split
    · exact inward_bind (service.inward_decode t _) fun _ => inward_pure _
    · exact inward_pure _

theorem inward_decodeAnswerEach (service : Service S) (t : S.Ty) (r : Response) :
    Inward (service.decodeAnswerEach t r) := by
  unfold decodeAnswerEach
  split
  · exact inward_pure _
  · refine inward_bind (inward_ofOutcome _) fun d => ?_
    split
    · exact service.inward_decodeCollection t _
    · exact inward_pure _

theorem inward_readAnswer (service : Service S) (t : S.Ty) (r : Response) :
    Inward (if r.status == Status.notFound then return none else service.decodeAnswer? t r) := by
  split
  · exact inward_pure _
  · exact service.inward_decodeAnswer? t r

theorem silent_decodeAnswer? (service : Service S) (t : S.Ty) (r : Response) : Silent (service.decodeAnswer? t r) :=
  (service.inward_decodeAnswer? t r).silent

theorem silent_decodeAnswerEach (service : Service S) (t : S.Ty) (r : Response) :
    Silent (service.decodeAnswerEach t r) :=
  (service.inward_decodeAnswerEach t r).silent

theorem silent_readAnswer (service : Service S) (t : S.Ty) (r : Response) :
    Silent (if r.status == Status.notFound then return none else service.decodeAnswer? t r) :=
  (service.inward_readAnswer t r).silent

/-! ## Making proxies -/

theorem inward_create (service : Service S) (t : S.Ty) (r : Resource (S.Content t)) : Inward (service.create t r) :=
  inward_bind (service.inward_metadata t) fun _ =>
    inward_bind (inward_ofOutcome _) fun _ =>
      inward_bind inward_get fun _ =>
        inward_bind (inward_modify fun _ => ⟨rfl, rfl, List.prefix_append _ _⟩) fun _ => inward_pure _

theorem inward_createEach (service : Service S) (t : S.Ty) : ∀ rs, Inward (service.createEach t rs)
  | [] => inward_pure _
  | r :: rs =>
    inward_bind (service.inward_create t r) fun _ =>
      inward_bind (service.inward_createEach t rs) fun _ => inward_pure _

theorem inward_createOption (service : Service S) (t : S.Ty) (r : Option (Resource (S.Content t))) :
    Inward (service.createOption t r) := by
  unfold createOption
  split
  · exact inward_bind (service.inward_create t _) fun _ => inward_pure _
  · exact inward_pure _

theorem silent_create (service : Service S) (t : S.Ty) (r : Resource (S.Content t)) : Silent (service.create t r) :=
  (service.inward_create t r).silent

theorem silent_createEach (service : Service S) (t : S.Ty) (rs : List (Resource (S.Content t))) :
    Silent (service.createEach t rs) :=
  (service.inward_createEach t rs).silent

theorem silent_createOption (service : Service S) (t : S.Ty) (r : Option (Resource (S.Content t))) :
    Silent (service.createOption t r) :=
  (service.inward_createOption t r).silent

/-- **A proxy as it was made**: its address is where the link of its resource to itself leads, and the content has it
too; its accessors are those of its type, and it remembers no association. -/
structure Fresh (service : Service S) {t : S.Ty} (p : Proxy S t) : Prop where
  selfUri : p.links.selfUri? service.base = .ok p.selfUri
  table : S.table t = .ok p.table
  address : ∀ slot u, (S.entity t).address? = some slot → p.selfUri = some u → slot.get p.content = some u
  memory : p.memory = []

theorem get_of_set {α : Type} {slot : AddressSlot α} {a b : α} {u : Uri} (h : slot.set a u = .ok b) :
    slot.get b = some u := by
  unfold AddressSlot.set at h
  split at h
  · cases h; exact slot.get_put a u
  · split at h
    · cases h; exact slot.get_put a u
    · cases h

theorem proxyOf_ok (service : Service S) {table : AccessorTable S.Ty} {r : Resource (S.Content t)} {p : Proxy S t}
    (h : service.proxyOf table r = .ok p) :
    p.links = r.links ∧ p.table = table ∧ p.memory = [] ∧ r.links.selfUri? service.base = .ok p.selfUri ∧
      (S.entity t).assign r.content p.selfUri = .ok p.content := by
  unfold proxyOf at h
  rcases hu : r.links.selfUri? service.base with _ | selfUri
  · rw [hu] at h; cases h
  rcases hc : (S.entity t).assign r.content selfUri with _ | content
  · simp only [hu, bind, Except.bind, hc] at h; cases h
  · simp only [hu, bind, Except.bind, hc] at h
    cases h
    exact ⟨rfl, rfl, rfl, rfl, hc⟩

theorem fresh_of_proxyOf (service : Service S) {table : AccessorTable S.Ty} {r : Resource (S.Content t)}
    {p : Proxy S t} (ht : S.table t = .ok table) (h : service.proxyOf table r = .ok p) : service.Fresh p := by
  obtain ⟨hlinks, htable, hmemory, hself, hcontent⟩ := service.proxyOf_ok h
  refine ⟨by rw [hlinks, hself], by rw [htable, ht], fun slot u hs hu => ?_, hmemory⟩
  unfold EntityType.assign at hcontent
  rw [hs, hu] at hcontent
  exact get_of_set hcontent

theorem after_metadata (service : Service S) {m : Metadata S} (h : service.configuration.metadata t = .ok m)
    (s : Traces S) :
    (service.metadata t).after s = (.ok m, { s with prepared := Configuration.prepare s.prepared t }) := by
  unfold metadata
  rw [after_bind_ok (by rw [after_ofOutcome, h]), after_bind_ok (after_modify _ _)]
  rfl

theorem metadata_ok (service : Service S) {s s' : Traces S} {m : Metadata S}
    (h : (service.metadata t).after s = (.ok m, s')) : S.table t = .ok m.table := by
  obtain ⟨m', s₁, hm, h⟩ := of_after_bind h
  obtain ⟨_, _, -, h⟩ := of_after_bind h
  cases h
  rw [after_ofOutcome, Prod.mk.injEq] at hm
  replace hm := hm.1
  unfold Configuration.metadata at hm
  rcases ht : S.table t with _ | table
  · rw [ht] at hm; cases hm
  rcases hr : Configuration.resolverOf t (service.configuration.typeInfo? t) with _ | resolver
  · simp only [ht, bind, Except.bind, hr] at hm; cases hm
  · simp only [ht, bind, Except.bind, hr] at hm; cases hm; rfl

theorem create_made (service : Service S) {r : Resource (S.Content t)} {s s' : Traces S} {id : Nat}
    (h : (service.create t r).after s = (.ok id, s')) :
    ∃ (p : Proxy S t) (table : AccessorTable S.Ty), s'.proxy? id = some ⟨t, p⟩ ∧ S.table t = .ok table ∧
      service.proxyOf table r = .ok p := by
  obtain ⟨m, s₁, hm, h⟩ := of_after_bind h
  obtain ⟨p, s₂, hp, h⟩ := of_after_bind h
  obtain ⟨_, _, hget, h⟩ := of_after_bind h
  cases hget
  obtain ⟨_, _, hadd, h⟩ := of_after_bind h
  cases hadd
  cases h
  rw [after_ofOutcome, Prod.mk.injEq] at hp
  exact ⟨p, m.table, List.getElem?_concat_length, service.metadata_ok hm, hp.1⟩

/-- **A proxy that is made is there under its number**, as it was made. -/
theorem create_ok (service : Service S) {r : Resource (S.Content t)} {s s' : Traces S} {id : Nat}
    (h : (service.create t r).after s = (.ok id, s')) :
    ∃ p : Proxy S t, s'.proxy? id = some ⟨t, p⟩ ∧ service.Fresh p ∧ p.links = r.links := by
  obtain ⟨p, table, hp, htable, hmade⟩ := service.create_made h
  exact ⟨p, hp, service.fresh_of_proxyOf htable hmade, (service.proxyOf_ok hmade).1⟩

/-! ## Reads and writes -/

/-- The number, if there is one, is that of a proxy as it was made. -/
def NumbersFresh (service : Service S) (t : S.Ty) (id? : Option Nat) (s : Traces S) : Prop :=
  ∀ id, id? = some id → ∃ p : Proxy S t, s.proxy? id = some ⟨t, p⟩ ∧ service.Fresh p

theorem create_ensures (service : Service S) (r : Resource (S.Content t)) :
    Ensures (do return some (← service.create t r)) (service.NumbersFresh t) := by
  intro s id? s' h id hid
  obtain ⟨id', s₁, hc, h⟩ := of_after_bind h
  cases h
  cases hid
  obtain ⟨p, hp, fresh, -⟩ := service.create_ok hc
  exact ⟨p, hp, fresh⟩

theorem pure_none_ensures (service : Service S) :
    Ensures (pure none : Action S (Option Nat)) (service.NumbersFresh t) := by
  intro s id? s' h id hid
  cases h
  cases hid

theorem createOption_ensures (service : Service S) (r : Option (Resource (S.Content t))) :
    Ensures (service.createOption t r) (service.NumbersFresh t) := by
  unfold createOption
  split
  · exact service.create_ensures _
  · exact service.pure_none_ensures

theorem requests_getResource? (service : Service S) (t : S.Ty) (uri : Uri) (s : Traces S) :
    ((service.getResource? t uri).after s).2.requests = { method := .get, uri } :: s.requests :=
  service.requests_after_send _ (service.silent_readAnswer t) s

theorem sends_getResource? (service : Service S) (t : S.Ty) {uri : Uri} (h : P { method := .get, uri }) :
    Sends P (service.getResource? t uri) :=
  service.sends_send_bind (service.silent_readAnswer t) h

/-- Following an association leaves nothing outside but the request that it sends. -/
theorem inward_load (service : Service S) (a : Association S.Ty) (uri : Uri) (s : Traces S) :
    (service.noted s { method := .get, uri }).Inward ((service.load a uri).after s).2 := by
  unfold load
  split
  · exact inward_after_bind (service.inward_after_send _ (service.inward_readAnswer _) s) fun r =>
      inward_bind (service.inward_createOption _ r) fun _ => inward_pure _
  · exact inward_after_bind (service.inward_after_send _ (service.inward_decodeAnswerEach _) s) fun rs =>
      inward_bind (service.inward_createEach _ rs) fun _ => inward_pure _

/-- **Following an association sends one request**, to the address that it leads to. -/
theorem requests_load (service : Service S) (a : Association S.Ty) (uri : Uri) (s : Traces S) :
    ((service.load a uri).after s).2.requests = { method := .get, uri } :: s.requests :=
  (service.inward_load a uri s).requests

theorem sends_load (service : Service S) (a : Association S.Ty) {uri : Uri} (h : P { method := .get, uri }) :
    Sends P (service.load a uri) := by
  unfold load
  split
  · exact sends_bind (service.sends_getResource? _ h) fun r =>
      sends_bind ((service.silent_createOption _ r).mono fun _ => False.elim) fun _ => sends_pure _
  · exact sends_bind (service.sends_send_bind (service.silent_decodeAnswerEach _) h) fun rs =>
      sends_bind ((service.silent_createEach _ rs).mono fun _ => False.elim) fun _ => sends_pure _

/-- **A collection that is made** belongs to the service, and has the addresses that the configuration gives it. -/
theorem collection_ok {service : Service S} {c : Collection S t} {s s' : Traces S}
    (made : (service.collection t).after s = (.ok c, s')) :
    c = { service
          uri := service.base.append (S.entity t).descriptor.collectionPath
          batchUri := service.configuration.batchUri } := by
  obtain ⟨m, s₁, -, h⟩ := of_after_bind made
  cases h
  rfl

theorem uri_of_collection {service : Service S} {c : Collection S t} {s s' : Traces S}
    (made : (service.collection t).after s = (.ok c, s')) :
    c.uri = service.base.append (S.entity t).descriptor.collectionPath := by
  rw [collection_ok made]

theorem service_of_collection {service : Service S} {c : Collection S t} {s s' : Traces S}
    (made : (service.collection t).after s = (.ok c, s')) : c.service = service := by
  rw [collection_ok made]

end Service

namespace Collection

open Hypermedia.Action

variable {S : Schema} {t : S.Ty} {P : Request → Prop}

@[simp] theorem content_settled (uri : Uri) (r : Resource (S.Content t)) : (settled uri r).content = r.content := by
  unfold settled
  split <;> rfl

theorem silent_settle (c : Collection S t) (uri : Uri) (r? : Option (Resource (S.Content t))) :
    Silent (match r? with
      | some r => return some (← c.service.create t (settled uri r))
      | none => return none) := by
  split
  · exact sends_bind (c.service.silent_create t _) fun _ => sends_pure _
  · exact sends_pure _

/-- **A read sends one request**, to the address that is read. -/
theorem requests_get? (c : Collection S t) (uri : Uri) (s : Traces S) :
    ((c.get? uri).after s).2.requests = { method := .get, uri } :: s.requests :=
  (requests_after_bind (c.silent_settle uri) _ s).trans (c.service.requests_getResource? t uri s)

theorem sends_get? (c : Collection S t) {uri : Uri} (h : P { method := .get, uri }) : Sends P (c.get? uri) :=
  sends_bind (c.service.sends_getResource? t h) fun r? => (c.silent_settle uri r?).mono fun _ => False.elim

theorem get?_ensures (c : Collection S t) (uri : Uri) : Ensures (c.get? uri) (c.service.NumbersFresh t) :=
  ensures_bind fun r? => by
    split
    · exact c.service.create_ensures _
    · exact c.service.pure_none_ensures

theorem requests_getAllAt (c : Collection S t) (uri : Uri) (s : Traces S) :
    ((c.getAllAt uri).after s).2.requests = { method := .get, uri } :: s.requests :=
  (requests_after_bind (c.service.silent_createEach t) _ s).trans
    (c.service.requests_after_send _ (c.service.silent_decodeAnswerEach t) s)

theorem sends_search? (c : Collection S t) (path name value : String)
    (h : P { method := .get, uri := c.searchUri path name value }) : Sends P (c.search? path name value) :=
  sends_bind (c.service.sends_getResource? t h) fun r? =>
    (c.service.silent_createOption t r?).mono fun _ => False.elim

theorem requests_search? (c : Collection S t) (path name value : String) (s : Traces S) :
    ((c.search? path name value).after s).2.requests =
      { method := .get, uri := c.searchUri path name value } :: s.requests :=
  (requests_after_bind (c.service.silent_createOption t) _ s).trans (c.service.requests_getResource? t _ s)

theorem search?_ensures (c : Collection S t) (path name value : String) :
    Ensures (c.search? path name value) (c.service.NumbersFresh t) :=
  ensures_bind fun _ => c.service.createOption_ensures _

/-- **A change sends one request**, with what is to be changed, if that can be written. -/
theorem requests_patch? (c : Collection S t) (uri : Uri) (body : Json.Encoded) (s : Traces S) :
    ((c.patch? uri body).after s).2.requests =
      (body.toOption.map fun document => ({ method := .patch, uri, body := some document } : Request)).toList ++
        s.requests := by
  unfold patch?
  rw [requests_after_bind (c.service.silent_createOption t)]
  exact c.service.requests_after_write _ _ _ (c.service.silent_decodeAnswer? t) s

theorem patch?_ensures (c : Collection S t) (uri : Uri) (body : Json.Encoded) :
    Ensures (c.patch? uri body) (c.service.NumbersFresh t) :=
  ensures_bind fun _ => c.service.createOption_ensures _

end Collection
end Hypermedia
