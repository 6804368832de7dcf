import Hypermedia.Family.Schema
import Hypermedia.Proofs.Proxy.Calls
/-!
# Associations are fetched once

What a proxy remembers under a relation is the slot of the relation.  A slot is empty when the proxy is made, is filled
by the first call that follows the relation with success, and keeps its value whatever calls come then
(`association_fetched_once`).  Only calls of that proxy that follow the relation touch the slot, and those that fail
leave it empty.
-/
namespace Hypermedia

open Hypermedia.Action

variable {S : Schema} {t : S.Ty}

def Invocation.linked? : Invocation S → Option (LinkedValue S)
  | .linked value => some value
  | _ => none

/-- What a proxy remembers under a relation. -/
def Traces.slot? (s : Traces S) (id : Nat) (relation : String) : Option (LinkedValue S) :=
  (s.proxy? id).bind fun p => p.2.memory.lookup relation

namespace Service

variable (service : Service S) {s s' : Traces S} {c : ProxyCall} {id : Nat} {p : Proxy S t} {relation : String}
  {value : LinkedValue S}

theorem slot?_eq (hp : s.proxy? id = some ⟨t, p⟩) : s.slot? id relation = p.memory.lookup relation := by
  unfold Traces.slot?
  rw [hp, Option.bind_some]

theorem slot?_of_onward (hp : s.proxy? id = some ⟨t, p⟩) (on : s.Onward s') (h : s.slot? id relation = some value) :
    s'.slot? id relation = some value := by
  obtain ⟨p', hp', onp⟩ := on id t p hp
  rw [slot?_eq hp] at h
  rw [slot?_eq hp', onp.memory relation value h]

/-- **A filled slot answers every call** that follows its relation, without a request. -/
theorem call_of_filled (hp : s.proxy? c.id = some ⟨t, p⟩) (hf : p.table.followed? c.method = some relation)
    (h : s.slot? c.id relation = some value) :
    ((service.call c).after s).1 = .ok (.linked value) ∧ ((service.call c).after s).2.requests = s.requests := by
  rw [slot?_eq hp] at h
  rw [service.call_hit hp hf h]
  refine ⟨rfl, ?_⟩
  cases c.waited <;> rfl

/-- **A call that follows the relation with success leaves its value in the slot.** -/
theorem filled_of_ok {v : Invocation S} (hp : s.proxy? c.id = some ⟨t, p⟩)
    (hf : p.table.followed? c.method = some relation) (h : ((service.call c).after s).1 = .ok v) :
    ∃ value, v = .linked value ∧ ((service.call c).after s).2.slot? c.id relation = some value := by
  rcases hm : p.memory.lookup relation with _ | value
  · obtain ⟨a, ha, hr⟩ := followed?_eq_some.1 hf
    have hs := service.sends_fetch p.links a relation s
    rw [service.call_miss hp ha hr hm] at h ⊢
    rcases hv : (Handler.fetch service p.links a relation).after s with ⟨e | value, s'⟩ <;> rw [hv] at h hs
    · cases h
    · cases h
      refine ⟨value, rfl, ?_⟩
      simp only
      rw [slot?_eq (Traces.proxy?_setProxy_self (hs.proxy? hp) _), List.lookup_cons_self]
  · have hfilled := slot?_of_onward hp (service.onward_call s c) ((slot?_eq hp).trans hm)
    rw [service.call_hit hp hf hm] at h
    cases h
    exact ⟨value, rfl, hfilled⟩

/-- **A call that follows the relation and fails leaves the slot empty.** -/
theorem empty_of_error {e : Failure} (hp : s.proxy? c.id = some ⟨t, p⟩)
    (hf : p.table.followed? c.method = some relation) (h : ((service.call c).after s).1 = .error e) :
    ((service.call c).after s).2.slot? c.id relation = none := by
  rcases hm : p.memory.lookup relation with _ | value
  · obtain ⟨a, ha, hr⟩ := followed?_eq_some.1 hf
    have hs := service.sends_fetch p.links a relation s
    rw [service.call_miss hp ha hr hm] at h ⊢
    rcases hv : (Handler.fetch service p.links a relation).after s with ⟨e | value, s'⟩ <;> rw [hv] at h hs
    · rw [slot?_eq (hs.proxy? hp), hm]
    · cases h
  · rw [service.call_hit hp hf hm] at h
    cases h

/-- **While the slot is empty every call that follows the relation fetches the association anew**: it sends the request
for it, if there is an address to send it to, and ends as that fetch does. -/
theorem call_of_empty {a : Association S.Ty} (hp : s.proxy? c.id = some ⟨t, p⟩)
    (ha : (p.table.lookup c.method).association? = some a) (hf : p.table.followed? c.method = some relation)
    (h : s.slot? c.id relation = none) :
    ((service.call c).after s).1 = ((Handler.fetch service p.links a relation).after s).1.map .linked ∧
      ((service.call c).after s).2.requests = service.asked p.links a relation ++ s.requests := by
  rw [slot?_eq hp] at h
  obtain ⟨hrole, hr⟩ := role_of_followed? ha hf
  rw [← service.requests_fetch, service.call_miss hp hrole hr h]
  rcases (Handler.fetch service p.links a relation).after s with ⟨_ | value, s'⟩
  · exact ⟨rfl, rfl⟩
  · exact ⟨rfl, rfl⟩

/-- **No other call touches the slot**: neither one of another proxy, nor one that follows another relation or none. -/
theorem slot?_call_of_other (hp : s.proxy? id = some ⟨t, p⟩)
    (h : ¬ (c.id = id ∧ p.table.followed? c.method = some relation)) :
    ((service.call c).after s).2.slot? id relation = s.slot? id relation := by
  rcases hq : s.proxy? c.id with _ | ⟨u, q⟩
  · rw [service.call_absent hq]
  -- a proxy that is put back with what it remembered under the relation
  have put_back : ∀ (s' : Traces S) (q' : Proxy S u), s'.proxy? id = s.proxy? id → s'.proxy? c.id = some ⟨u, q⟩ →
      (c.id = id → q'.memory.lookup relation = q.memory.lookup relation) →
      (s'.setProxy c.id q').slot? id relation = s.slot? id relation := by
    intro s' q' hid hc hmem
    by_cases hne : c.id = id
    · rw [← hne, slot?_eq (Traces.proxy?_setProxy_self hc q'), slot?_eq hq, hmem hne]
    · unfold Traces.slot?
      rw [Traces.proxy?_setProxy_of_ne hne, hid]
  rcases hf : q.table.followed? c.method with _ | other
  · rcases service.call_local hq hf with ⟨e, hc⟩ | ⟨v, content, hc⟩ <;> rw [hc]
    exact put_back s _ rfl hq fun _ => rfl
  rcases hm : q.memory.lookup other with _ | value
  · obtain ⟨a, ha, hr⟩ := followed?_eq_some.1 hf
    have hs := service.sends_fetch q.links a other s
    rw [service.call_miss hq ha hr hm]
    rcases hv : (Handler.fetch service q.links a other).after s with ⟨e | value, s'⟩ <;> rw [hv] at hs
    · rw [slot?_eq (hs.proxy? hp), slot?_eq hp]
    · refine put_back s' _ ((hs.proxy? hp).trans hp.symm) (hs.proxy? hq) fun hid => ?_
      subst hid
      rw [hp, Option.some.injEq] at hq
      cases hq
      have hne : (relation == other) = false := beq_eq_false_iff_ne.2 fun hro => h ⟨rfl, by rw [hf, hro]⟩
      rw [List.lookup_cons, hne]
  · rw [service.call_hit hq hf hm]
    cases c.waited <;> rfl

/-- **An association is fetched with success at most once.**  Calls of a proxy, made one after the other in any order
and with any answers of the server: its slots are empty at first; once a call that follows a relation has succeeded,
every later call that follows it gives the same value and sends nothing; a call that fails leaves the slot of its
relation empty, and while it is empty every call tries again; all other calls leave it as it is. -/
theorem association_fetched_once (service : Service S) {t : S.Ty} {r : Resource (S.Content t)} {s₀ s₁ : Traces S}
    {id : Nat} (made : (service.create t r).after s₀ = (.ok id, s₁)) :
    ∃ table, S.table t = .ok table ∧ ∀ (relation : String) (before : List ProxyCall),
      let s := service.calls before s₁
      s₁.slot? id relation = none ∧
      (∀ c v, c.id = id → table.followed? c.method = some relation → ((service.call c).after s).1 = .ok v →
        ∃ value, v = .linked value ∧ ∀ between c', c'.id = id → table.followed? c'.method = some relation →
          let s' := service.calls between ((service.call c).after s).2
          ((service.call c').after s').1 = .ok (.linked value) ∧
            ((service.call c').after s').2.requests = s'.requests) ∧
      (∀ c e, c.id = id → table.followed? c.method = some relation → ((service.call c).after s).1 = .error e →
        ((service.call c).after s).2.slot? id relation = none) ∧
      (s.slot? id relation = none → ∀ c a, c.id = id → (table.lookup c.method).association? = some a →
        table.followed? c.method = some relation →
        ((service.call c).after s).1 = ((Handler.fetch service r.links a relation).after s).1.map .linked ∧
          ((service.call c).after s).2.requests = service.asked r.links a relation ++ s.requests) ∧
      (∀ c, ¬ (c.id = id ∧ table.followed? c.method = some relation) →
        ((service.call c).after s).2.slot? id relation = s.slot? id relation) := by
  obtain ⟨p₁, hp₁, fresh, hlinks⟩ := service.create_ok made
  refine ⟨p₁.table, fresh.table, fun relation before => ?_⟩
  intro s
  obtain ⟨p, hp, on⟩ := service.onward_calls before s₁ id t p₁ hp₁
  rw [← on.table]
  refine ⟨by rw [slot?_eq hp₁, fresh.memory]; rfl, ?_, ?_, ?_, ?_⟩
  · rintro c v rfl hf hv
    obtain ⟨value, rfl, hfilled⟩ := service.filled_of_ok hp hf hv
    refine ⟨value, rfl, fun between c' hid hf' => ?_⟩
    obtain ⟨pc, hpc, onc⟩ := service.onward_call s c c.id t p hp
    obtain ⟨p', hp', on'⟩ := service.onward_calls between _ c.id t pc hpc
    have hkept := slot?_of_onward hpc (service.onward_calls between _) hfilled
    rw [← hid] at hp' hkept
    exact service.call_of_filled hp' (by rw [on'.table, onc.table, hf']) hkept
  · rintro c e rfl hf he
    exact service.empty_of_error hp hf he
  · rintro hempty c a rfl ha hf
    rw [← hlinks, ← on.links]
    exact service.call_of_empty hp ha hf hempty
  · exact fun c hc => service.slot?_call_of_other hp hc

end Service

namespace Family

/-- A server that gives a parent at the second try. -/
def faltering : Script :=
  [ { method := "GET"
      uri := "http://host/parents/1"
      replies := [.ok { status := 500 }, .ok (answering (.object [("name", .text "Homer")]))] }]

def bart : Resource Person := ⟨{ name := "Bart" }, [⟨"parent", "http://host/parents/1", false⟩]⟩

/-- The proxy of a child is asked for the parent in vain, then with success, and then gives the same parent however
often it is asked. -/
theorem parent_fetched_once :
    let made := ((service faltering).create Ty.child bart).after {}
    let ask : ProxyCall := { id := 0, method := "getParent" }
    let s := (service faltering).calls [ask] made.2
    made.1.toOption = some 0 ∧ s.slot? 0 "parent" = none ∧ s.requests.length = 1 ∧
    ∀ between,
      let s' := (service faltering).calls between (((service faltering).call ask).after s).2
      (((service faltering).call ask).after s').1 = .ok (.linked (.one Ty.parent (some 1))) ∧
        (((service faltering).call ask).after s').2.requests = s'.requests := by
  intro made ask s
  have hmade : made = (.ok 0, made.2) := by rfl
  obtain ⟨table, htable, h⟩ := (service faltering).association_fetched_once hmade
  have hfollowed : table.followed? ask.method = some "parent" := by cases htable; decide +kernel
  refine ⟨by decide +kernel, by decide +kernel, by decide +kernel, fun between => ?_⟩
  obtain ⟨-, hkept, -⟩ := h "parent" [ask]
  have hsecond : (((service faltering).call ask).after s).1.toOption.bind Invocation.linked? =
      some (.one Ty.parent (some 1)) := by decide +kernel
  rcases hv : (((service faltering).call ask).after s).1 with e | v
  · rw [hv] at hsecond
    cases hsecond
  obtain ⟨value, rfl, hsame⟩ := hkept ask v rfl hfollowed hv
  rw [hv] at hsecond
  cases hsecond
  exact hsame between ask rfl hfollowed

end Family
end Hypermedia
