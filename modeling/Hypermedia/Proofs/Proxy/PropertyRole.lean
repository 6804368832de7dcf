import Hypermedia.Proofs.Proxy.Address
import Hypermedia.Proofs.Proxy.FetchOnce
import Hypermedia.Proofs.Proxy.Properties
/-!
# Asking for properties

An application may ask any accessor for a property, or to change one.  The call is made first and its value is refused
then, if the accessor is none of a property.  So an accessor that is declared for an association is followed like in any
other call, before it is refused; any other accessor sends nothing and leaves what the proxies remember as it is
(`property_access`, `children_fetched`).
-/
namespace Hypermedia

open Hypermedia.Action

variable {S : Schema} {t : S.Ty} {α : Type}

namespace ProxyAccess

/-- The call of an access that asks for a property or changes one, and what its caller is told to expect. -/
def property? : ProxyAccess S → Option (ProxyCall × Expectation)
  | .property id name => some ({ id, method := name }, .property)
  | .setProperty id name value => some ({ id, method := name, args := [value] }, .propertySetter)
  | _ => none

theorem call?_of_property? {x : ProxyAccess S} {c : ProxyCall} {expected : Expectation}
    (h : x.property? = some (c, expected)) (table : AccessorTable S.Ty) :
    x.call? table = some c ∧ c.waited = false := by
  unfold property? at h
  split at h <;> cases h <;> exact ⟨rfl, rfl⟩

end ProxyAccess

namespace Service

variable (service : Service S) {s s' : Traces S} {id : Nat} {p : Proxy S t} {c : ProxyCall} {v : Invocation S}
  {expected : Expectation}

theorem of_readAddress {base : Uri} {links : Links} {state state' : ProxyState S t}
    (h : Handler.readAddress base links state = .ok (v, state')) :
    ∃ u?, v = .resourceId u? ∧ (S.entity t).assign state.content u? = .ok state'.content := by
  unfold Handler.readAddress at h
  rcases hu : links.selfUri? base with _ | uri
  · rw [hu] at h; cases h
  rcases hc : (S.entity t).assign state.content uri with _ | content
  · simp only [hu, bind, Except.bind, hc] at h; cases h
  · simp only [hu, bind, Except.bind, hc] at h
    cases h
    exact ⟨uri, rfl, hc⟩

/-- **An accessor that is none of a property gives none**, and the kind of the content stays. -/
theorem call_of_role (hp : s.proxy? c.id = some ⟨t, p⟩) (hrole : (p.table.lookup c.method).role ≠ .property)
    (h : (service.call c).after s = (.ok v, s')) :
    ((∃ u?, v = .resourceId u?) ∨ ∃ value, v = .linked value) ∧
      ∃ q : Proxy S t, s'.proxy? c.id = some ⟨t, q⟩ ∧ q.kind = p.kind := by
  rcases hr : (p.table.lookup c.method).role with _ | a | _
  · rw [service.after_call hp, run_chain, hr, after_ofOutcome] at h
    rcases hread : Handler.readAddress service.base p.links p.toProxyState with e | ⟨w, state⟩
    · simp only [hread] at h
      cases h
    · simp only [hread] at h
      cases h
      obtain ⟨u?, rfl, hcontent⟩ := of_readAddress hread
      exact ⟨.inl ⟨u?, rfl⟩, _, Traces.proxy?_setProxy_self hp _, EntityType.contentKind_assign hcontent⟩
  · have hf : p.table.followed? c.method = some (a.linkName (p.table.lookup c.method).name) :=
      followed?_eq_some.2 ⟨a, hr, rfl⟩
    rcases hm : p.memory.lookup (a.linkName (p.table.lookup c.method).name) with _ | value
    · have hs := service.sends_fetch p.links a (a.linkName (p.table.lookup c.method).name) s
      rw [service.call_miss hp hr rfl hm] at h
      rcases hv : (Handler.fetch service p.links a (a.linkName (p.table.lookup c.method).name)).after s with
        ⟨e | value, s₁⟩ <;> rw [hv] at h hs
      · cases h
      · cases h
        exact ⟨.inr ⟨value, rfl⟩, _, Traces.proxy?_setProxy_self (hs.proxy? hp) _, rfl⟩
    · rw [service.call_hit hp hf hm] at h
      cases h
      refine ⟨.inr ⟨value, rfl⟩, p, ?_, rfl⟩
      cases c.waited <;> exact hp
  · exact absurd hr hrole

/-- What such an accessor gives is refused by whoever has no use for it. -/
theorem after_call_refused {k : Invocation S → Action S α} (hp : s.proxy? c.id = some ⟨t, p⟩)
    (hrole : (p.table.lookup c.method).role ≠ .property)
    (haddress : ∀ u?, k (.resourceId u?) = do throw (← mismatch c.id c.method expected))
    (hlinked : ∀ value, k (.linked value) = do throw (← mismatch c.id c.method expected)) :
    (service.call c >>= k).after s = match (service.call c).after s with
      | (.ok _, s') => (.error (.unsupportedMethod p.kind c.method expected), s')
      | (.error e, s') => (.error e, s') := by
  rcases hc : (service.call c).after s with ⟨e | v, s'⟩
  · rw [after_bind_error hc]
  · obtain ⟨hv, q, hq, hkind⟩ := service.call_of_role hp hrole hc
    have hk : k v = (do throw (← mismatch c.id c.method expected)) := by
      rcases hv with ⟨u?, rfl⟩ | ⟨value, rfl⟩
      · exact haddress u?
      · exact hlinked value
    rw [after_bind_ok hc, hk, after_mismatch hq, hkind]

section

variable {x : ProxyAccess S} (hx : x.property? = some (c, expected)) (hp : s.proxy? c.id = some ⟨t, p⟩)

include hx hp

theorem traces_property : ((service.access x).after s).2 = ((service.call c).after s).2 := by
  have hcall := (ProxyAccess.call?_of_property? hx p.table).1
  have hanswers := service.access_answers (x := x) (p := p) (by rwa [← ProxyAccess.id_of_call? hcall])
  rw [hcall] at hanswers
  exact hanswers.traces

/-- **What an accessor that is none of a property gives is refused.** -/
theorem outcome_property (hrole : (p.table.lookup c.method).role ≠ .property) :
    ((service.access x).after s).1 = match ((service.call c).after s).1 with
      | .ok _ => .error (.unsupportedMethod p.kind c.method expected)
      | .error e => .error e := by
  unfold ProxyAccess.property? at hx
  split at hx
  · rename_i id name
    cases hx
    show ((discard (service.call { id, method := name } >>= _)).after s).1 = _
    rw [after_discard, service.after_call_refused hp hrole (fun _ => rfl) fun _ => rfl]
    rcases (service.call { id, method := name }).after s with ⟨_ | _, _⟩ <;> rfl
  · rename_i id name value
    cases hx
    show ((service.call { id, method := name, args := [value] } >>= _).after s).1 = _
    rw [service.after_call_refused hp hrole (fun _ => rfl) fun _ => rfl]
    rcases (service.call { id, method := name, args := [value] }).after s with ⟨_ | _, _⟩ <;> rfl
  · cases hx

/-- **An association that is remembered** is refused without a request, and nothing changes. -/
theorem property_of_filled {relation : String} {value : LinkedValue S}
    (hrole : (p.table.lookup c.method).role ≠ .property) (hf : p.table.followed? c.method = some relation)
    (hvalue : s.slot? c.id relation = some value) :
    let done := (service.access x).after s
    done.1 = .error (.unsupportedMethod p.kind c.method expected) ∧ done.2.requests = s.requests ∧
      ∀ id' relation', done.2.slot? id' relation' = s.slot? id' relation' := by
  intro done
  rw [slot?_eq hp] at hvalue
  have hwaited := (ProxyAccess.call?_of_property? hx p.table).2
  rw [service.traces_property hx hp, service.outcome_property hx hp hrole, service.call_hit hp hf hvalue, hwaited]
  exact ⟨rfl, rfl, fun _ _ => rfl⟩

/-- **An association that is not remembered** is fetched, and is refused if that succeeds. -/
theorem property_of_empty {a : Association S.Ty} {relation : String}
    (ha : (p.table.lookup c.method).role = .association a) (hf : p.table.followed? c.method = some relation)
    (hempty : s.slot? c.id relation = none) :
    let done := (service.access x).after s
    let fetched := (Handler.fetch service p.links a relation).after s
    done.2.requests = service.asked p.links a relation ++ s.requests ∧
    (∀ id' relation', (s.proxy? id').isSome → ¬ (id' = c.id ∧ relation' = relation) →
      done.2.slot? id' relation' = s.slot? id' relation') ∧
    (∀ e, fetched.1 = .error e → done.1 = .error e ∧ done.2.slot? c.id relation = none) ∧
    ∀ value, fetched.1 = .ok value →
      done.1 = .error (.unsupportedMethod p.kind c.method expected) ∧ done.2.slot? c.id relation = some value := by
  intro done fetched
  have hassociation : (p.table.lookup c.method).association? = some a := by
    unfold Accessor.association?
    rw [ha]
  have hdone := service.outcome_property hx hp fun h => by
    rw [ha] at h
    cases h
  obtain ⟨hgiven, hrequests⟩ := service.call_of_empty hp hassociation hf hempty
  rw [service.traces_property hx hp]
  refine ⟨hrequests, fun id' relation' hthere hother => ?_, fun e he => ?_, fun value hvalue => ?_⟩
  · obtain ⟨⟨u, q⟩, hq⟩ := Option.isSome_iff_exists.1 hthere
    refine service.slot?_call_of_other hq fun ⟨hid, hfollowed⟩ => hother ⟨hid.symm, ?_⟩
    subst hid
    rw [hp, Option.some.injEq] at hq
    cases hq
    exact Option.some.inj (hfollowed.symm.trans hf)
  · have herror : ((service.call c).after s).1 = .error e := by
      rw [hgiven, show ((Handler.fetch service p.links a relation).after s).1 = .error e from he]
      rfl
    rw [hdone, herror]
    exact ⟨rfl, service.empty_of_error hp hf herror⟩
  · have hok : ((service.call c).after s).1 = .ok (.linked value) := by
      rw [hgiven, show ((Handler.fetch service p.links a relation).after s).1 = .ok value from hvalue]
      rfl
    obtain ⟨_, hlinked, hslot⟩ := service.filled_of_ok hp hf hok
    cases hlinked
    rw [hdone, hok]
    exact ⟨rfl, hslot⟩

end

/-- **Only an accessor of a property can be read or written to.** -/
theorem role_of_property {x : ProxyAccess S} (hx : x.property? = some (c, expected)) (hp : s.proxy? c.id = some ⟨t, p⟩)
    (h : ((service.access x).after s).1 = .ok ()) : (p.table.lookup c.method).role = .property := by
  refine Classical.byContradiction fun hrole => ?_
  rw [service.outcome_property hx hp hrole] at h
  rcases hc : ((service.call c).after s).1 with e | v <;> rw [hc] at h <;> cases h

theorem slot?_setProxy {q : Proxy S t} (hp : s.proxy? id = some ⟨t, p⟩) (hm : q.memory = p.memory) (id' : Nat)
    (relation : String) : (s.setProxy id q).slot? id' relation = s.slot? id' relation := by
  by_cases h : id = id'
  · subst h
    rw [slot?_eq (Traces.proxy?_setProxy_self hp q), slot?_eq hp, hm]
  · unfold Traces.slot?
    rw [Traces.proxy?_setProxy_of_ne h]

/-- A call that follows no association sends nothing and leaves all slots as they are. -/
theorem call_of_unfollowed (hp : s.proxy? c.id = some ⟨t, p⟩)
    (h : ∀ a, (p.table.lookup c.method).role ≠ .association a) :
    ((service.call c).after s).2.requests = s.requests ∧
      ∀ id' relation, ((service.call c).after s).2.slot? id' relation = s.slot? id' relation := by
  have hf : p.table.followed? c.method = none := by
    rcases hf : p.table.followed? c.method with _ | relation
    · rfl
    · obtain ⟨a, ha, -⟩ := followed?_eq_some.1 hf
      exact absurd ha (h a)
  rcases service.call_local hp hf with ⟨e, hc⟩ | ⟨w, content, hc⟩
  · rw [hc]
    exact ⟨rfl, fun _ _ => rfl⟩
  · rw [hc]
    exact ⟨rfl, slot?_setProxy hp rfl⟩

/-- **What asking for a property costs.**  An accessor is asked for a property, or to change it, whatever its role is.
Unless it is declared for an association, nothing is sent and all proxies remember what they remembered.  Unless it is
one of a property it never succeeds: what it gives is refused, if its call does not fail itself.  One that is declared
for an association is followed first, like in any call: if its relation is remembered nothing is sent and nothing
changes; otherwise the one request for it is sent, if its link leads somewhere, what is fetched is remembered under the
relation, and nothing else that a proxy remembers changes. -/
theorem property_access (service : Service S) {t : S.Ty} {s : Traces S} {p : Proxy S t} {x : ProxyAccess S}
    {c : ProxyCall} {expected : Expectation} (hx : x.property? = some (c, expected))
    (hp : s.proxy? c.id = some ⟨t, p⟩) :
    let done := (service.access x).after s
    let role := (p.table.lookup c.method).role
    let refused : Outcome Unit := .error (.unsupportedMethod p.kind c.method expected)
    ((∀ a, role ≠ .association a) →
      done.2.requests = s.requests ∧ ∀ id relation, done.2.slot? id relation = s.slot? id relation) ∧
    (role ≠ .property → done.1 = refused ∨ ∃ e, done.1 = .error e ∧ ((service.call c).after s).1 = .error e) ∧
    ∀ a, role = .association a →
      let relation := a.linkName c.method
      let fetched := (Handler.fetch service p.links a relation).after s
      (∀ value, s.slot? c.id relation = some value →
        done.1 = refused ∧ done.2.requests = s.requests ∧
          ∀ id relation', done.2.slot? id relation' = s.slot? id relation') ∧
      (s.slot? c.id relation = none →
        done.2.requests = service.asked p.links a relation ++ s.requests ∧
        (∀ id relation', (s.proxy? id).isSome → ¬ (id = c.id ∧ relation' = relation) →
          done.2.slot? id relation' = s.slot? id relation') ∧
        (∀ e, fetched.1 = .error e → done.1 = .error e ∧ done.2.slot? c.id relation = none) ∧
        ∀ value, fetched.1 = .ok value → done.1 = refused ∧ done.2.slot? c.id relation = some value) := by
  intro done role refused
  refine ⟨fun h => ?_, fun h => ?_, fun a ha => ?_⟩
  · show ((service.access x).after s).2.requests = _ ∧
      ∀ id relation, ((service.access x).after s).2.slot? id relation = _
    rw [service.traces_property hx hp]
    exact service.call_of_unfollowed hp h
  · show ((service.access x).after s).1 = _ ∨ ∃ e, ((service.access x).after s).1 = _ ∧ _
    rw [service.outcome_property hx hp h]
    rcases ((service.call c).after s).1 with e | v
    · exact .inr ⟨e, rfl, rfl⟩
    · exact .inl rfl
  · intro relation fetched
    have hf : p.table.followed? c.method = some relation :=
      followed?_eq_some.2 ⟨a, ha, by rw [AccessorTable.lookup_name]⟩
    have hrole : (p.table.lookup c.method).role ≠ .property := by
      rw [show (p.table.lookup c.method).role = .association a from ha]
      rintro ⟨⟩
    exact ⟨fun value hvalue => service.property_of_filled hx hp hrole hf hvalue,
      fun hempty => service.property_of_empty hx hp ha hf hempty⟩

end Service

namespace Family

/-- A server that knows no children of a parent. -/
def childless : Script :=
  [{ method := "GET", uri := "http://host/parents/1/children", replies := [.ok (answering (.object []))] }]

def mother : Resource Person := ⟨{ name := "Marge" }, [⟨"children", "http://host/parents/1/children", false⟩]⟩

/-- A mother whose children are to be changed as if they were a property: they are fetched, remembered and refused. -/
theorem children_refused :
    let made := ((service childless).create Ty.parent mother).after {}
    let x : ProxyAccess schema := .setProperty 0 "getChildren" .null
    let done := ((service childless).access x).after made.2
    made.1 = .ok 0 ∧
    x.property? = some ({ id := 0, method := "getChildren", args := [.null] }, .propertySetter) ∧
    done.2.requests.map (·.uri.text) = ["http://host/parents/1/children"] ∧
    done.2.slot? 0 "children" = some (.many Ty.child []) ∧
    done.1 = .error (.unsupportedMethod "Parent" "getChildren" .propertySetter) := by
  intro made x done
  have hnumber : made.1 = .ok 0 := by decide +kernel
  have hmade : made = (.ok 0, made.2) := by rw [← hnumber]
  obtain ⟨p, hp, fresh, hlinks⟩ := (service childless).create_ok hmade
  let a : Association Ty := { target := Ty.child, cardinality := .many }
  have ha : (p.table.lookup "getChildren").role = .association a := by
    rw [← Except.ok.inj fresh.table]
    rfl
  have hempty : made.2.slot? 0 "children" = none := by rw [Service.slot?_eq hp, fresh.memory]; rfl
  obtain ⟨-, -, hfollow⟩ := (service childless).property_access (x := x) rfl hp
  obtain ⟨hrequests, -, -, hfetched⟩ := (hfollow a ha).2 hempty
  rw [hlinks] at hrequests hfetched
  obtain ⟨hrefused, hslot⟩ := hfetched (.many Ty.child []) (by decide +kernel)
  refine ⟨hnumber, rfl, ?_, hslot, hrefused⟩
  show List.map _ done.2.requests = _
  rw [hrequests]
  decide +kernel

/-- **A property that is asked for over the network**: the children of a mother are fetched and remembered before they
are refused. -/
theorem children_fetched :
    let made := ((service childless).create Ty.parent mother).after {}
    let asked := ((service childless).property 0 "getChildren").after made.2
    made.1 = .ok 0 ∧ made.2.requests = [] ∧ made.2.slot? 0 "children" = none ∧
    asked.2.requests.map (·.uri.text) = ["http://host/parents/1/children"] ∧
    asked.2.slot? 0 "children" = some (.many Ty.child []) ∧
    asked.1.toOption.isNone := by
  refine ⟨by decide +kernel, by rfl, by decide +kernel, by decide +kernel, by decide +kernel, by decide +kernel⟩

end Family
end Hypermedia
