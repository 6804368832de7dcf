import Hypermedia.Family.Schema
import Hypermedia.Proofs.Proxy.Accesses
import Hypermedia.Proofs.Proxy.Address
import Hypermedia.Proofs.Reading
/-!
# One address for life

A proxy of content that was just read has one address: the one that it was made with is also the one that its links lead
to, that it gives when it is asked, and that its content has if there is room for it.  A property is written into the
document, which has no address, so the content that is read from it gets the old one back.  No access changes the
address, and none meets another one (`one_address`), unless a resolver that the application brings says so
(`address_disputed`).
-/
namespace Hypermedia

open Hypermedia.Action
open Outcome (ends_bind ends_map)

variable {S : Schema} {t : S.Ty}

/-! ## Properties -/

namespace Property

/-- A failure of a property: the accessor or its arguments do not fit the content, or the value does not. -/
def IsFailure (e : Failure) : Prop :=
  (∃ kind method expected, e = .unsupportedMethod kind method expected) ∨ e.OfReading

theorem toJson_ends (content : S.Content t) :
    Outcome.Ends IsFailure (fun _ => True) ((S.entity t).toJson content) := by
  unfold EntityType.toJson Failure.encoded
  rcases (S.entity t).encode content with reason | document
  · exact .error (.inr trivial)
  · exact .ok trivial

theorem replaceField_ends (t : S.Ty) (accessor field : String) (value document : Json) :
    Outcome.Ends IsFailure (fun _ => True) (replaceField t accessor field value document) := by
  unfold replaceField
  split
  · split
    · exact .ok trivial
    · exact .error (.inl ⟨_, _, _, rfl⟩)
  · exact .error (.inr trivial)

/-- **A write keeps the address of the content.** -/
theorem write_ends (accessor field : String) (value : Json) {content : S.Content t} {u? : Option Uri}
    (h : (S.entity t).Has content u?) :
    Outcome.Ends IsFailure (fun c => (S.entity t).Has c u?) (write accessor field value content) := by
  refine ends_bind (toJson_ends content) fun old _ => ?_
  refine ends_bind (replaceField_ends t accessor field value old) fun document _ => ?_
  refine ends_bind (R := (S.entity t).Blank) ?_ fun updated hblank => ?_
  · rcases hv : (S.entity t).decode ((S.entity t).contentKind content) document with e | updated
    · exact .error (.inr trivial)
    · exact .ok (EntityType.blank_of_decode hv)
  -- what was decoded has no address, so it takes the one of the content that it replaces
  · refine (EntityType.assign_ends hblank _ IsFailure).mono (fun _ he => he) fun c hc slot hs => ?_
    rw [hc slot hs, hs, Option.bind_some, h slot hs]

theorem run_ends (accessor : String) (args : List Json) {content : S.Content t} {u? : Option Uri}
    (h : (S.entity t).Has content u?) :
    Outcome.Ends IsFailure (fun x => (S.entity t).Has x.2 u?) (run accessor args content) := by
  unfold run
  split
  · refine ends_map (R := fun _ => True) ?_ fun _ _ => h
    refine ends_bind (toJson_ends content) fun document _ => ?_
    split
    · exact .ok trivial
    · exact .error (.inl ⟨_, _, _, rfl⟩)
  · exact ends_map (write_ends _ _ _ h) fun _ hc => hc
  · exact .error (.inl ⟨_, _, _, rfl⟩)
  · exact .error (.inl ⟨_, _, _, rfl⟩)

end Property

namespace Service

variable (service : Service S) {s s' : Traces S} {id : Nat} {p : Proxy S t}

/-- **A failure of an access**: a link is missing, the accessor is used as something else than it is, or a read
fails. -/
def AccessFailure (e : Failure) : Prop :=
  (∃ relation, e = .noSuchLink relation) ∨ (∃ kind method expected, e = .unsupportedMethod kind method expected) ∨
    service.ReadFailure e

/-- An access meets another address only if a resolver of the application's own says so. -/
theorem reports_of_uriConflict {current attempted : Uri} (h : service.AccessFailure (.uriConflict current attempted)) :
    service.Reports (.uriConflict current attempted) := by
  rcases h with ⟨_, h⟩ | ⟨_, _, _, h⟩ | h | h
  · cases h
  · cases h
  · exact h.elim
  · exact h

/-- **A proxy with one address**: its links lead to it, and its content has it. -/
structure Settled (p : Proxy S t) : Prop where
  selfUri : p.links.selfUri? service.base = .ok p.selfUri
  table : S.table t = .ok p.table
  content : (S.entity t).Has p.content p.selfUri

variable {service} in
theorem Settled.assign (settled : service.Settled p) : (S.entity t).assign p.content p.selfUri = .ok p.content :=
  (S.entity t).assign_known fun slot _ hs hu => (settled.content slot hs).trans hu

/-- **A proxy of content without an address is made with one.** -/
theorem settled_of_create {r : Resource (S.Content t)} (blank : (S.entity t).Blank r.content)
    (made : (service.create t r).after s = (.ok id, s')) :
    ∃ p : Proxy S t, s'.proxy? id = some ⟨t, p⟩ ∧ service.Settled p ∧ p.links = r.links := by
  obtain ⟨p, table, hp, htable, hmade⟩ := service.create_made made
  obtain ⟨hlinks, rfl, -, hself, hcontent⟩ := service.proxyOf_ok hmade
  have hassigned := EntityType.assign_ends blank p.selfUri fun _ => False
  rw [hcontent] at hassigned
  exact ⟨p, hp, ⟨by rw [hlinks, hself], htable, hassigned.of_ok⟩, hlinks⟩

/-! ## One call -/

theorem sends_follow (links : Links) (waited : Bool) (a : Association S.Ty) (relation : String)
    (state : ProxyState S t) : Sends (fun _ => True) (Handler.follow service links waited a relation state) := by
  intro s
  rcases hm : state.memory.lookup relation with _ | value
  · have hsends := service.sends_fetch links a relation s
    rw [service.follow_miss hm]
    rcases hv : (Handler.fetch service links a relation).after s with ⟨e | value, s'⟩ <;> rw [hv] at hsends <;>
      exact hsends
  · rw [service.follow_hit hm]
    cases waited <;> exact ⟨⟨[], rfl, by simp⟩, List.prefix_rfl⟩

/-- **Following an association leaves the content alone**, and fails as a fetch does. -/
theorem follow_ends (links : Links) (waited : Bool) (a : Association S.Ty) (relation : String)
    (state : ProxyState S t) :
    Action.Ends service.AccessFailure (fun x => x.2.content = state.content)
      (Handler.follow service links waited a relation state) := by
  intro s
  rcases hm : state.memory.lookup relation with _ | value
  · have hends := service.fetch_ends links a relation s
    rw [service.follow_miss hm]
    rcases hv : (Handler.fetch service links a relation).after s with ⟨e | value, s'⟩ <;> rw [hv] at hends
    · rcases hends.of_error with rfl | he
      · exact .error (.inl ⟨relation, rfl⟩)
      · exact .error (.inr (.inr he))
    · exact .ok rfl
  · rw [service.follow_hit hm]
    exact .ok rfl

/-- What the handlers of a proxy make of a call. -/
def handled (p : Proxy S t) (c : ProxyCall) : Action S (Invocation S × ProxyState S t) :=
  (service.chain t p.links c.waited).run (fun _ => throw (Property.refused t c.method .handled))
    (p.table.lookup c.method) c.args p.toProxyState

theorem after_call_handled {c : ProxyCall} (hp : s.proxy? c.id = some ⟨t, p⟩) :
    (service.call c).after s = match (service.handled p c).after s with
      | (.ok (v, state), s') => (.ok v, s'.setProxy c.id { p with toProxyState := state })
      | (.error e, s') => (.error e, s') :=
  service.after_call hp

theorem sends_handled (p : Proxy S t) (c : ProxyCall) : Sends (fun _ => True) (service.handled p c) := by
  unfold handled
  rw [run_chain]
  rcases (p.table.lookup c.method).role with _ | a | _
  · exact sends_ofOutcome _
  · exact service.sends_follow p.links c.waited a _ p.toProxyState
  · exact sends_ofOutcome _

/-- **Whatever a proxy with one address is asked to do, its content has that address afterwards.** -/
theorem handled_ends (settled : service.Settled p) (c : ProxyCall) :
    Action.Ends service.AccessFailure (fun x => (S.entity t).Has x.2.content p.selfUri) (service.handled p c) := by
  unfold handled
  rw [run_chain]
  rcases (p.table.lookup c.method).role with _ | a | _
  · simp only [service.readAddress_known settled.selfUri settled.assign]
    exact ends_ofOutcome (.ok settled.content)
  · refine (service.follow_ends p.links c.waited a _ p.toProxyState).mono (fun _ he => he) fun x hx => ?_
    rw [hx]
    exact settled.content
  · have hproperty := Property.run_ends (p.table.lookup c.method).name c.args settled.content
    refine ends_ofOutcome (ends_bind (hproperty.mono ?_ fun _ h => h) fun x hx => .ok hx)
    rintro e (he | he)
    · exact .inr (.inl he)
    · exact .inr (.inr (.inl he))

theorem call_ends {c : ProxyCall} (hp : s.proxy? c.id = some ⟨t, p⟩) (settled : service.Settled p) :
    Outcome.Ends service.AccessFailure (fun _ => True) ((service.call c).after s).1 := by
  have hends := service.handled_ends settled c s
  rw [service.after_call_handled hp]
  rcases hv : (service.handled p c).after s with ⟨e | ⟨v, state⟩, s'⟩ <;> rw [hv] at hends
  · exact .error hends.of_error
  · exact .ok trivial

/-- The proxy with a number has the given address, and no other. -/
def HasAddress (t : S.Ty) (id : Nat) (u? : Option Uri) (s : Traces S) : Prop :=
  ∃ p : Proxy S t, s.proxy? id = some ⟨t, p⟩ ∧ service.Settled p ∧ p.selfUri = u?

/-- **No call changes the address.** -/
theorem hasAddress_call {u? : Option Uri} (s : Traces S) (c : ProxyCall) (h : service.HasAddress t id u? s) :
    service.HasAddress t id u? ((service.call c).after s).2 := by
  obtain ⟨p, hp, settled, hself⟩ := h
  rcases hq : s.proxy? c.id with _ | ⟨u, q⟩
  · rw [service.call_absent hq]
    exact ⟨p, hp, settled, hself⟩
  have hsends := service.sends_handled q c s
  rw [service.after_call_handled hq]
  rcases hv : (service.handled q c).after s with ⟨e | ⟨v, state⟩, s'⟩ <;> rw [hv] at hsends
  · exact ⟨p, hsends.proxy? hp, settled, hself⟩
  -- a proxy is put back: the one with the number, or another one
  by_cases hid : c.id = id
  · subst hid
    rw [hp, Option.some.injEq] at hq
    cases hq
    have hends := service.handled_ends settled c s
    rw [hv] at hends
    exact ⟨_, Traces.proxy?_setProxy_self (hsends.proxy? hp) _, ⟨settled.selfUri, settled.table, hends.of_ok⟩, hself⟩
  · exact ⟨p, (Traces.proxy?_setProxy_of_ne hid _).trans (hsends.proxy? hp), settled, hself⟩

/-! ## Accesses -/

/-- **An access of a proxy with one address fails as a read does**, or because it is not what the accessor is for. -/
theorem access_ends {x : ProxyAccess S} (hp : s.proxy? x.id = some ⟨t, p⟩) (settled : service.Settled p) :
    Outcome.Ends service.AccessFailure (fun _ => True) ((service.access x).after s).1 := by
  have hanswers := service.access_answers hp
  rcases hc : x.call? p.table with _ | c <;> rw [hc] at hanswers
  · rw [hanswers]
    exact .ok trivial
  rcases he : ((service.access x).after s).1 with e | v
  · refine .error ?_
    rcases hanswers.failure e he with hcall | ⟨kind, expected, rfl⟩
    · rw [← ProxyAccess.id_of_call? hc] at hp
      have hends := service.call_ends hp settled
      rw [hcall] at hends
      exact hends.of_error
    · exact .inr (.inl ⟨kind, c.method, expected, rfl⟩)
  · exact .ok trivial

/-- **A proxy has one address for life, and all agree about it.**  A proxy is made of content that was read and so has
no address yet.  After any accesses of any proxies, whether they succeed or fail and whatever the server answers, the
proxy is there with the address that it was made with, to which its resource's link to itself leads; asked for its
address it gives that one and changes nothing, whether its type declares an accessor for the address or not; its content
has that address if there is room for it; and no further access of it meets another address, unless a resolver that the
application brings reports one of its own accord. -/
theorem one_address (service : Service S) {t : S.Ty} {r : Resource (S.Content t)} {s₀ s₁ : Traces S} {id : Nat}
    (blank : (S.entity t).Blank r.content) (made : (service.create t r).after s₀ = (.ok id, s₁)) :
    ∃ selfUri, r.links.selfUri? service.base = .ok selfUri ∧ ∀ before : List (ProxyAccess S),
      let s := service.accesses before s₁
      (∃ p : Proxy S t, s.proxy? id = some ⟨t, p⟩ ∧ p.selfUri = selfUri ∧
        ∀ slot, (S.entity t).address? = some slot → slot.get p.content = selfUri) ∧
      (service.resourceId id).after s = (.ok selfUri, s) ∧
      ∀ x : ProxyAccess S, x.id = id → ∀ current attempted,
        ((service.access x).after s).1 = .error (.uriConflict current attempted) →
          service.Reports (.uriConflict current attempted) := by
  obtain ⟨p₁, hp₁, settled₁, hlinks⟩ := service.settled_of_create blank made
  refine ⟨p₁.selfUri, hlinks ▸ settled₁.selfUri, fun before => ?_⟩
  intro s
  obtain ⟨p, hp, settled, hself⟩ : service.HasAddress t id p₁.selfUri s :=
    service.kept_accesses service.hasAddress_call before ⟨p₁, hp₁, settled₁, rfl⟩
  refine ⟨⟨p, hp, hself, fun slot hs => (settled.content slot hs).trans hself⟩, ?_, ?_⟩
  · rw [← hself]
    exact service.after_resourceId_known hp settled.selfUri settled.table settled.assign
  · rintro x rfl current attempted hconflict
    have hends := service.access_ends hp settled
    rw [hconflict] at hends
    exact service.reports_of_uriConflict hends.of_error

end Service

namespace Family

def maggie : Resource Content := ⟨.girl { name := "Maggie" }, [⟨"self", "http://host/girls/1", false⟩]⟩

/-- A girl that is given another name keeps the address. -/
theorem maggie_renamed :
    let made := ((service []).create Ty.content maggie).after {}
    let rename : ProxyAccess schema := .setProperty 0 "setName" (.text "Lisa")
    let s := (service []).accesses [rename, .property 0 "getName"] made.2
    (schema.entity Ty.content).Blank maggie.content ∧ made.1 = .ok 0 ∧
    (((service []).access rename).after made.2).1.toOption = some () ∧
    ∃ uri, uri.text = "http://host/girls/1" ∧ ((service []).resourceId 0).after s = (.ok (some uri), s) ∧
      ∃ p : Proxy schema Ty.content, s.proxy? 0 = some ⟨Ty.content, p⟩ ∧ Content.slot.get p.content = some uri := by
  intro made rename s
  have hblank : (schema.entity Ty.content).Blank maggie.content := by rintro slot hs; cases hs; rfl
  have hnumber : made.1 = .ok 0 := by decide +kernel
  have hmade : made = (.ok 0, made.2) := by rw [← hnumber]
  obtain ⟨selfUri, hself, h⟩ := (service []).one_address (t := Ty.content) hblank hmade
  obtain ⟨⟨p, hp, -, hcontent⟩, hresourceId, -⟩ := h [rename, .property 0 "getName"]
  have htext : (maggie.links.selfUri? (service []).base).toOption.join.map Uri.text = some "http://host/girls/1" := by
    decide +kernel
  rw [hself] at htext
  obtain ⟨uri, rfl, huri⟩ := Option.map_eq_some_iff.1 htext
  exact ⟨hblank, hnumber, by decide +kernel, uri, huri, hresourceId, p, hp, hcontent Content.slot rfl⟩

/-- A service with children whose kinds are told by a resolver of the application's own, which reports a conflict. -/
def disputing : Service schema where
  configuration :=
    { base, typeInfos := [("Child", { resolver := some fun _ _ _ => .error (.uriConflict base base) })] }
  transport := Script.transport [{ method := "GET", uri := "http://host/children", replies := [.ok (answering
    (.object [("_embedded", .object [("children", .array [.object [("name", .text "Bart")]])])]))] }]

def troubled : Resource Person := ⟨{ name := "Marge" }, [⟨"children", "/children", false⟩]⟩

def lamp : Resource Item := ⟨{ name := "Lamp" }, [⟨"self", "/items/1", false⟩]⟩

/-- **Addresses that are not one**: a resolver of the application's own reports a conflict, and so an access of a proxy
meets one; and an item, which has room for an address but does not show it to proxies, has none while its proxy does. -/
theorem address_disputed :
    let made := (disputing.create Ty.parent troubled).after {}
    let other := ((service []).create Ty.item lamp).after {}
    ((schema.entity Ty.parent).Blank troubled.content ∧ made.1 = .ok 0 ∧
      ((disputing.access (.linkedAll 0 "getChildren" Ty.child)).after made.2).1 = .error (.uriConflict base base)) ∧
    (schema.entity Ty.item).Blank lamp.content ∧ other.1 = .ok 0 ∧
      ∃ p : Proxy schema Ty.item, other.2.proxy? 0 = some ⟨Ty.item, p⟩ ∧
        p.selfUri.map Uri.text = some "http://host/items/1" ∧
        (schema.entity Ty.item).slot.map (·.get p.content) = some none := by
  intro made other
  have hmade : made.1 = .ok 0 := by decide +kernel
  have hother : other.1 = .ok 0 := by decide +kernel
  refine ⟨⟨?_, hmade, ?_⟩, ?_, hother, ?_⟩
  · rintro slot ⟨⟩
    rfl
  · exact Outcome.failure?_eq_some.1 (by decide +kernel)
  · rintro slot ⟨⟩
    rfl
  · have hcreated : other = (.ok 0, other.2) := by rw [← hother]
    obtain ⟨p, table, hp, -, hproxy⟩ := (service []).create_made hcreated
    obtain ⟨-, -, -, hself, hcontent⟩ := (service []).proxyOf_ok hproxy
    have hlink : (lamp.links.selfUri? (service []).base).map (·.map Uri.text) =
        .ok (some "http://host/items/1") := by rfl
    rw [hself] at hlink
    refine ⟨p, hp, Except.ok.inj hlink, ?_⟩
    rw [← Except.ok.inj hcontent]
    rfl

end Family
end Hypermedia
