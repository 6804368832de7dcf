import Hypermedia.Proofs.Service
import Hypermedia.Proxy.Handler
/-!
# How reading ends

What is read from an answer is content without an address, whatever the server answers.  A read that fails does so
because of the exchange, the server, an address, or a document that does not fit (`Failure.OfReading`); a resolver that
an application brings may add failures of its own (`Service.Reports`).  In particular no read meets content with
another address.  The answer tells which of these it is: nothing is found, the server refuses, or there is a document
to decode (`Service.Receives`).
-/
namespace Hypermedia

variable {S : Schema} {α : Type} {t : S.Ty}

open Outcome (Ends ends_bind ends_map)

/-- **A failure of reading**: the exchange fails, the server refuses, an address cannot be read, or what the server sent
fits neither the form of documents nor the type of the resource. -/
def Failure.OfReading : Failure → Prop
  | .transport _ _ | .server _ | .invalidUri _ _ | .protocol _ | .json _ | .proxy _ (.content _) | .configuration _ =>
    True
  | _ => False

/-- **A failure of decoding**: an address cannot be read, or what the server sent fits neither the form of documents nor
the type of the resource. -/
def Failure.OfDecoding : Failure → Prop
  | .invalidUri _ _ | .protocol _ | .json _ | .proxy _ (.content _) | .configuration _ => True
  | _ => False

theorem Failure.OfDecoding.ofReading {e : Failure} (h : e.OfDecoding) : e.OfReading := by
  unfold OfDecoding at h
  unfold OfReading
  split at h
  all_goals trivial

/-- The server answered nothing that a failure of decoding would tell. -/
theorem Failure.OfDecoding.status? {e : Failure} (h : e.OfDecoding) : e.status? = none := by
  unfold OfDecoding at h
  split at h
  all_goals trivial

/-! ## Addresses and documents -/

theorem Uri.resolve_ends (base : Uri) (href : String) :
    Ends (fun e => ∃ reason, e = .invalidUri href reason) (fun _ => True) (base.resolve href) := by
  unfold Uri.resolve
  split
  · exact .ok trivial
  · exact .ok trivial
  · exact .error ⟨_, rfl⟩

theorem Links.selfUri?_ends (base : Uri) (links : Links) :
    Ends Failure.OfDecoding (fun _ => True) (links.selfUri? base) := by
  unfold Links.selfUri?
  split
  · refine ends_map ((base.resolve_ends _).mono ?_ fun _ h => h) fun _ _ => trivial
    rintro _ ⟨reason, rfl⟩
    trivial
  · exact .ok trivial

theorem Failure.decoded_ends (r : Except Json.DecodeError α) : Ends Failure.OfDecoding (fun _ => True) (decoded r) := by
  rcases r with e | x
  · exact .error trivial
  · exact .ok trivial

theorem Links.ofEntry_ends (relation : String) (v : Json) :
    Ends Failure.OfDecoding (fun _ => True) (Links.ofEntry relation v) := by
  unfold Links.ofEntry
  split
  · exact Failure.decoded_ends _
  · exact ends_map (Failure.decoded_ends _) fun _ _ => trivial

theorem Links.ofFields_ends : ∀ fs : Json.Fields, Ends Failure.OfDecoding (fun _ => True) (Links.ofFields fs)
  | [] => .ok trivial
  | (relation, v) :: fs => by
    unfold Links.ofFields
    refine ends_bind (Links.ofEntry_ends relation v) fun ls _ => ?_
    have hrest : Ends Failure.OfDecoding (fun _ => True) (do return ls ++ (← Links.ofFields fs)) :=
      ends_bind (Links.ofFields_ends fs) fun _ _ => .ok trivial
    simp only
    split
    · exact .error trivial
    · exact hrest

theorem Links.ofDocument_ends (v : Json) : Ends Failure.OfDecoding (fun _ => True) (Links.ofDocument v) := by
  unfold Links.ofDocument
  split
  · exact Links.ofFields_ends _
  · exact .ok trivial
  · exact .error trivial

theorem Document.split_ends (v : Json) : Ends Failure.OfDecoding (fun _ => True) (Document.split v) := by
  unfold Document.split
  split
  · simp only
    split
    · exact ends_bind (Links.ofDocument_ends _) fun _ _ => .ok trivial
    · exact .ok trivial
  · exact .error trivial

theorem Document.members_ends (v : Json) : Ends Failure.OfDecoding (fun _ => True) (Document.members v) := by
  unfold Document.members
  split
  · split
    · exact .ok trivial
    · exact .ok trivial
    · exact .ok trivial
    · exact .error trivial
  · exact .error trivial

/-! ## Types of resources -/

/-- A failure that a resolver of the application's own reports. -/
def Service.Reports (service : Service S) (e : Failure) : Prop :=
  ∃ (t : S.Ty) (info : TypeInfo) (resolver : Resolver) (context : ResolutionContext) (links : Links),
    service.configuration.typeInfo? t = some info ∧ info.resolver = some resolver ∧
      resolver context (S.entity t).descriptor links = .error e

/-- **A failure of a read** from a service. -/
def Service.ReadFailure (service : Service S) (e : Failure) : Prop := e.OfReading ∨ service.Reports e

/-- A failure to decode what a service answered. -/
def Service.DecodeFailure (service : Service S) (e : Failure) : Prop := e.OfDecoding ∨ service.Reports e

theorem Service.DecodeFailure.readFailure {service : Service S} {e : Failure} (h : service.DecodeFailure e) :
    service.ReadFailure e :=
  h.imp_left Failure.OfDecoding.ofReading

/-- The content has the address, if there is room for it. -/
def EntityType.Has {κ : Type} (e : EntityType κ α) (a : α) (u? : Option Uri) : Prop :=
  ∀ slot, e.address? = some slot → slot.get a = u?

/-- Content without an address. -/
def EntityType.Blank {κ : Type} (e : EntityType κ α) (a : α) : Prop := ∀ slot, e.slot = some slot → slot.get a = none

theorem EntityType.blank_of_decode {κ : Type} {e : EntityType κ α} {kind : String} {v : Json} {a : α}
    (h : e.decode kind v = .ok a) : e.Blank a := fun slot hs => e.get_of_decode slot hs kind v a h

/-- **Content without an address takes any.** -/
theorem EntityType.assign_ends {κ : Type} {e : EntityType κ α} {a : α} (h : e.Blank a) (u : Option Uri)
    (Q : Failure → Prop) : Ends Q (fun b => e.Has b u) (e.assign a u) := by
  unfold EntityType.assign EntityType.Has
  rcases hs : e.address? with _ | slot
  · exact .ok fun slot hslot => by cases hslot
  have hblank : slot.get a = none := h slot (EntityType.slot_of_address? hs)
  rcases u with _ | u
  · refine .ok fun slot' hslot => ?_
    cases hslot
    exact hblank
  · simp only [AddressSlot.set, hblank]
    refine .ok fun slot' hslot => ?_
    cases hslot
    exact slot.get_put a u

namespace Resolver

theorem bySelfLink_ends (candidates : List Descriptor) (context : ResolutionContext) (declared : Descriptor)
    (links : Links) : Ends Failure.OfDecoding (fun _ => True) (bySelfLink candidates context declared links) := by
  refine ends_bind (links.selfUri?_ends context.base) fun uri? _ => ?_
  split
  · exact .ok trivial
  · split
    · exact .ok trivial
    · split
      · exact .ok trivial
      · exact .error trivial

end Resolver

namespace Service

open Hypermedia.Action (ends_pure ends_ofOutcome ends_get ends_modify ends_measure)

variable (service : Service S)

variable {service} in
theorem ends_decodeFailure {R : α → Prop} {o : Outcome α} (h : Ends Failure.OfDecoding R o) :
    Ends service.DecodeFailure R o :=
  h.mono (fun _ he => .inl he) fun _ hx => hx

theorem resolverToUse_ends {info : TypeInfo} (hinfo : service.configuration.typeInfo? t = some info)
    (context : ResolutionContext) (links : Links) :
    Ends service.DecodeFailure (fun _ => True) (info.resolverToUse context (S.entity t).descriptor links) := by
  unfold TypeInfo.resolverToUse
  rcases hr : info.resolver with _ | resolver
  · exact ends_decodeFailure (Resolver.bySelfLink_ends _ context _ links)
  · simp only [Option.getD_some]
    rcases ho : resolver context (S.entity t).descriptor links with e | kind
    · exact .error (.inr ⟨t, info, resolver, context, links, hinfo, hr, ho⟩)
    · exact .ok trivial

/-- What is known about a type has the resolver of its type information. -/
theorem configuration_metadata_ends (t : S.Ty) :
    Ends service.DecodeFailure
      (fun m => ∀ resolver, m.resolver = some resolver →
        ∃ info, service.configuration.typeInfo? t = some info ∧ resolver = info.resolverToUse)
      (service.configuration.metadata t) := by
  unfold Configuration.metadata
  refine ends_bind (R := fun _ => True) ?_ fun table _ => ?_
  · unfold Schema.table
    rcases AccessorTable.ofDeclarations S.kind (S.kind t) (S.entity t).declarations with fault | table
    · exact .error (.inl trivial)
    · exact .ok trivial
  · rcases hinfo : service.configuration.typeInfo? t with _ | info
    · exact .ok fun _ h => by cases h
    · unfold Configuration.resolverOf
      simp only
      split
      · exact .error (.inl trivial)
      · exact .ok fun resolver h => ⟨info, rfl, (Option.some.inj h).symm⟩

theorem metadata_ends (t : S.Ty) :
    Action.Ends service.DecodeFailure
      (fun m => ∀ resolver, m.resolver = some resolver →
        ∃ info, service.configuration.typeInfo? t = some info ∧ resolver = info.resolverToUse)
      (service.metadata t) :=
  Action.ends_bind (ends_ofOutcome (service.configuration_metadata_ends t)) fun _ hm =>
    Action.ends_bind (ends_modify _) fun _ _ => ends_pure hm

theorem resolve_ends (t : S.Ty) (links : Links) :
    Action.Ends service.DecodeFailure (fun _ => True) (service.resolve t links) := by
  refine Action.ends_bind (service.metadata_ends t) fun m hm => Action.ends_bind ends_get fun s _ => ends_ofOutcome ?_
  unfold Configuration.resolve
  rcases hr : m.resolver with _ | resolver
  · exact .ok trivial
  · obtain ⟨info, hinfo, rfl⟩ := hm resolver hr
    refine ends_bind (service.resolverToUse_ends hinfo _ links) fun kind _ => ?_
    split
    · exact .ok trivial
    · exact .error (.inl trivial)

/-! ## Documents of resources -/

theorem decode_ends (t : S.Ty) (document : Json) :
    Action.Ends service.DecodeFailure (fun r => (S.entity t).Blank r.content) (service.decode t document) := by
  refine Action.ends_bind (ends_ofOutcome (ends_decodeFailure (Document.split_ends document)))
    fun r _ => Action.ends_bind (service.resolve_ends t r.links) fun kind _ =>
      Action.ends_bind (R := (S.entity t).Blank) (ends_ofOutcome ?_) fun _ h => ends_pure h
  rcases hv : (S.entity t).decode kind r.content with e | content
  · exact .error (.inl trivial)
  · exact .ok (EntityType.blank_of_decode hv)

/-- The contents of resources have no address. -/
def AllBlank (t : S.Ty) (rs : List (Resource (S.Content t))) : Prop := ∀ r ∈ rs, (S.entity t).Blank r.content

theorem decodeEach_ends (t : S.Ty) : ∀ ds,
    Action.Ends service.DecodeFailure (AllBlank t) (service.decodeEach t ds)
  | [] => ends_pure fun r hr => by cases hr
  | d :: ds =>
    Action.ends_bind (service.decode_ends t d) fun _ hr =>
      Action.ends_bind (decodeEach_ends t ds) fun _ hrs => ends_pure (List.forall_mem_cons.2 ⟨hr, hrs⟩)

theorem decodeCollection_ends (t : S.Ty) (document : Json) :
    Action.Ends service.DecodeFailure (AllBlank t) (service.decodeCollection t document) := by
  unfold decodeCollection
  split
  · exact service.decodeEach_ends t _
  · exact Action.ends_bind (ends_ofOutcome (ends_decodeFailure (Document.members_ends document)))
      fun ds _ => service.decodeEach_ends t ds

/-! ## Making proxies -/

theorem proxyOf_ends (table : AccessorTable S.Ty) {r : Resource (S.Content t)} (h : (S.entity t).Blank r.content) :
    Ends Failure.OfDecoding (fun _ => True) (service.proxyOf table r) :=
  ends_bind (r.links.selfUri?_ends service.base) fun u _ =>
    ends_bind (EntityType.assign_ends h u _) fun _ _ => .ok trivial

theorem create_ends {r : Resource (S.Content t)} (h : (S.entity t).Blank r.content) :
    Action.Ends service.DecodeFailure (fun _ => True) (service.create t r) :=
  Action.ends_bind (service.metadata_ends t) fun m _ =>
    Action.ends_bind (ends_ofOutcome (ends_decodeFailure (service.proxyOf_ends m.table h))) fun _ _ =>
      Action.ends_bind ends_get fun _ _ => Action.ends_bind (ends_modify _) fun _ _ => ends_pure trivial

theorem createEach_ends : ∀ {rs : List (Resource (S.Content t))}, AllBlank t rs →
    Action.Ends service.DecodeFailure (fun _ => True) (service.createEach t rs)
  | [], _ => ends_pure trivial
  | _ :: _, h =>
    Action.ends_bind (service.create_ends (List.forall_mem_cons.1 h).1) fun _ _ =>
      Action.ends_bind (createEach_ends (List.forall_mem_cons.1 h).2) fun _ _ => ends_pure trivial

theorem createOption_ends {r? : Option (Resource (S.Content t))} (h : ∀ r, r? = some r → (S.entity t).Blank r.content) :
    Action.Ends service.DecodeFailure (fun _ => True) (service.createOption t r?) := by
  unfold createOption
  split
  · exact Action.ends_bind (service.create_ends (h _ rfl)) fun _ _ => ends_pure trivial
  · exact ends_pure trivial

/-! ## Answers -/

/-- **What a read receives** with an answer: the fault of the exchange when there is none, `nothing` when nothing is
found, or the refusal of the server; only an answer that reports success has something to decode, of which `R` holds. -/
inductive Receives (nothing : α) (R : α → Prop) : Except TransportFault Response → Outcome α → Prop
  | unreached (fault : TransportFault) (uri : Uri) : Receives nothing R (.error fault) (.error (fault.toFailure uri))
  | missing {r : Response} : r.status = Status.notFound → Receives nothing R (.ok r) (.ok nothing)
  | refused {r : Response} : r.status ≠ Status.notFound → Status.isSuccess r.status = false →
    Receives nothing R (.ok r) (.error r.refusal)
  | decoded {r : Response} {o : Outcome α} : Status.isSuccess r.status = true → Ends service.DecodeFailure R o →
    Receives nothing R (.ok r) o

variable {service} {nothing : α} {R : α → Prop} {answer : Except TransportFault Response}

theorem Receives.ends {o : Outcome α} (h : service.Receives nothing R answer o) (hnothing : R nothing) :
    Ends service.ReadFailure R o := by
  cases h with
  | unreached fault uri =>
    refine .error (.inl ?_)
    cases fault <;> trivial
  | missing _ => exact .ok hnothing
  | refused _ _ => exact .error (.inl trivial)
  | decoded _ ho => exact ho.mono (fun _ he => he.readFailure) fun _ hx => hx

/-- Decoding goes on with what was read; what is made of nothing is nothing. -/
theorem Receives.bind {β : Type} {nothing' : β} {R' : β → Prop} {a : Action S α} {f : α → Action S β} {s : Traces S}
    (h : service.Receives nothing R answer (a.after s).1) (hnothing : ∀ s', ((f nothing).after s').1 = .ok nothing')
    (hf : ∀ x, R x → Action.Ends service.DecodeFailure R' (f x)) :
    service.Receives nothing' R' answer ((a >>= f).after s).1 := by
  rw [Action.after_bind]
  rcases ha : a.after s with ⟨o, s'⟩
  rw [ha] at h
  cases h with
  | unreached fault uri => exact .unreached fault uri
  | missing found =>
    simp only [hnothing s']
    exact .missing found
  | refused found refused => exact .refused found refused
  | decoded success ho =>
    refine .decoded success ?_
    cases ho with
    | ok hx => exact hf _ hx s'
    | error he => exact .error he

variable (service)

theorem receives_send {q : Request} {k : Response → Action S α}
    (hk : ∀ r s, service.Receives nothing R (.ok r) ((k r).after s).1) (s : Traces S) :
    service.Receives nothing R (service.transport.answer s.requests q) ((service.send q >>= k).after s).1 := by
  rw [Action.after_bind, after_send]
  rcases service.transport.answer s.requests q with fault | r
  · exact .unreached fault _
  · exact hk r _

theorem document?_of_success {r : Response} (h : Status.isSuccess r.status = true) : document? r = r.json := by
  unfold document? Response.success
  rw [if_pos h]
  rfl

theorem json_ends (r : Response) : Ends Failure.OfDecoding (fun _ => True) r.json := by
  unfold Response.json
  split
  · exact .ok trivial
  · split
    · exact .ok trivial
    · exact .error trivial

/-- What is made of the document in an answer that was not told to be missing. -/
theorem receives_document {f : Option Json → Action S α} {r : Response} (found : r.status ≠ Status.notFound)
    (hf : ∀ d, Action.Ends service.DecodeFailure R (f d)) (s : Traces S) :
    service.Receives nothing R (.ok r) ((Action.ofOutcome (document? r) >>= f).after s).1 := by
  rcases h : Status.isSuccess r.status with _ | _
  · rw [document?_of_refused h]
    exact .refused found h
  · rw [document?_of_success h]
    exact .decoded h
      (Action.ends_bind (ends_ofOutcome (ends_decodeFailure (json_ends r))) (fun d _ => hf d) s)

theorem decodeAnswer?_receives (t : S.Ty) {r : Response} (found : r.status ≠ Status.notFound) (s : Traces S) :
    service.Receives none (fun o => ∀ r, o = some r → (S.entity t).Blank r.content) (.ok r)
      ((service.decodeAnswer? t r).after s).1 := by
  refine service.receives_document found (fun d => ?_) s
  split
  · exact Action.ends_bind (service.decode_ends t _) fun r h => ends_pure fun _ hr => by cases hr; exact h
  · exact ends_pure fun _ hr => by cases hr

theorem allBlank_nil (t : S.Ty) : AllBlank t [] := fun r hr => by cases hr

theorem decodeAnswerEach_receives (t : S.Ty) (r : Response) (s : Traces S) :
    service.Receives [] (AllBlank t) (.ok r) ((service.decodeAnswerEach t r).after s).1 := by
  unfold decodeAnswerEach
  by_cases h : r.status = Status.notFound
  · rw [if_pos (beq_iff_eq.2 h)]
    exact .missing h
  · rw [if_neg (by simpa using h)]
    refine service.receives_document h (fun d => ?_) s
    split
    · exact service.decodeCollection_ends t _
    · exact ends_pure (allBlank_nil t)

theorem getResource?_receives (t : S.Ty) (uri : Uri) (s : Traces S) :
    service.Receives none (fun o => ∀ r, o = some r → (S.entity t).Blank r.content)
      (service.transport.answer s.requests { method := .get, uri }) ((service.getResource? t uri).after s).1 := by
  refine service.receives_send (fun r s => ?_) s
  by_cases h : r.status = Status.notFound
  · rw [if_pos (beq_iff_eq.2 h)]
    exact .missing h
  · rw [if_neg (by simpa using h)]
    exact service.decodeAnswer?_receives t h s

theorem getResources_receives (t : S.Ty) (uri : Uri) (s : Traces S) :
    service.Receives [] (AllBlank t) (service.transport.answer s.requests { method := .get, uri })
      ((service.getResources t uri).after s).1 :=
  service.receives_send (service.decodeAnswerEach_receives t) s

theorem postBatch_ends (t : S.Ty) (uri : Uri) (body : Json) :
    Action.Ends service.ReadFailure (AllBlank t) (service.postBatch t uri (.ok body)) := fun s =>
  (service.receives_send (service.decodeAnswerEach_receives t) s).ends (allBlank_nil t)

/-- **What an association leads to is read from the service.** -/
theorem load_receives (a : Association S.Ty) (uri : Uri) (s : Traces S) :
    service.Receives (Handler.emptyValue a) (fun _ => True)
      (service.transport.answer s.requests { method := .get, uri })
      ((service.load a uri).after s).1 := by
  unfold load Handler.emptyValue
  rcases a.cardinality with _ | _
  · exact (service.getResource?_receives _ uri s).bind (fun _ => rfl) fun _ h =>
      Action.ends_bind (service.createOption_ends h) fun _ _ => ends_pure trivial
  · exact (service.getResources_receives _ uri s).bind (fun _ => rfl) fun _ h =>
      Action.ends_bind (service.createEach_ends h) fun _ _ => ends_pure trivial

theorem target?_ends (base : Uri) (links : Links) (a : Association S.Ty) (relation : String) :
    Ends (fun e => e = .noSuchLink relation ∨ e.OfDecoding) (fun _ => True)
      (Handler.target? base links a relation) := by
  unfold Handler.target?
  split
  · refine ends_map ((base.resolve_ends _).mono ?_ fun _ h => h) fun _ _ => trivial
    rintro _ ⟨reason, rfl⟩
    exact .inr trivial
  · split
    · exact .ok trivial
    · exact .error (.inl rfl)

/-- **Following an association fails as a read does**, or because its link is missing. -/
theorem fetch_ends (links : Links) (a : Association S.Ty) (relation : String) :
    Action.Ends (fun e => e = .noSuchLink relation ∨ service.ReadFailure e) (fun _ => True)
      (Handler.fetch service links a relation) := by
  unfold Handler.fetch
  refine Action.ends_bind (R := fun _ => True) (ends_ofOutcome ?_) fun uri? _ => ?_
  · exact (target?_ends service.base links a relation).mono (fun _ he => he.imp_right fun h => .inl h.ofReading)
      fun _ h => h
  · split
    · exact ends_pure trivial
    · exact Action.ends_bind (ends_measure _) fun _ _ s =>
        ((service.load_receives a _ s).ends trivial).mono (fun _ h => .inr h) fun _ h => h

end Service
end Hypermedia
