import Hypermedia.Proofs.Service
/-!
# What calls do to proxies

A call of an accessor does one of three things: it works on the content of its proxy alone, it gives what the proxy
remembers, or it fetches an association and remembers it.  Whatever it does, every proxy keeps its type, its links and
its accessors, and forgets nothing (`Traces.Onward`).
-/
namespace Hypermedia

open Hypermedia.Action

variable {S : Schema} {t : S.Ty}

/-- A call of an accessor of the proxy with a number.  Clones of a proxy have its number. -/
structure ProxyCall where
  id : Nat
  method : String
  args : List Json := []
  /-- Whether the call waited for another one. -/
  waited : Bool := false

/-- The relation that a name leads to in a table, when it names an association. -/
def AccessorTable.followed? {κ : Type} (table : AccessorTable κ) (method : String) : Option String :=
  (table.lookup method).linkName?

namespace Service

def call (service : Service S) (c : ProxyCall) : Action S (Invocation S) :=
  service.invokeAfter c.waited c.id c.method c.args

/-- The traces after calls made one after the other, whether they succeed or not. -/
def calls (service : Service S) (cs : List ProxyCall) (s : Traces S) : Traces S :=
  cs.foldl (fun s c => ((service.call c).after s).2) s

/-! ## One call -/

theorem run_chain (service : Service S) (links : Links) (waited : Bool) (unhandled : Call S t) (a : Accessor S.Ty)
    (args : List Json) :
    (service.chain t links waited).run unhandled a args = match a.role with
      | .resourceId => fun state => ofOutcome (Handler.readAddress service.base links state)
      | .association assoc => Handler.follow service links waited assoc (assoc.linkName a.name)
      | .property => fun state => ofOutcome do
        let (v, content) ← Property.run a.name args state.content
        return (v, { state with content }) := by
  rcases a with ⟨name, _ | assoc | _⟩ <;> rfl

theorem after_proxy {s : Traces S} {id : Nat} {x : (t : S.Ty) × Proxy S t} (h : s.proxy? id = some x) :
    (proxy id : Action S _).after s = (.ok x, s) := by
  unfold proxy
  rw [after_bind_ok (after_get s), h, after_pure]

theorem after_proxy_absent {s : Traces S} {id : Nat} (h : s.proxy? id = none) :
    (proxy id : Action S _).after s = (.error (.protocol (.other "no such proxy")), s) := by
  unfold proxy
  rw [after_bind_ok (after_get s), h, after_throw]

theorem sends_proxy {P : Request → Prop} (id : Nat) : Sends P (proxy id : Action S _) :=
  sends_bind sends_get fun s => by
    split
    · exact sends_pure _
    · exact sends_throw _

variable (service : Service S) {s : Traces S} {c : ProxyCall} {p : Proxy S t}

theorem after_call (hp : s.proxy? c.id = some ⟨t, p⟩) :
    (service.call c).after s =
      match ((service.chain t p.links c.waited).run (fun _ => throw (Property.refused t c.method .handled))
        (p.table.lookup c.method) c.args p.toProxyState).after s with
      | (.ok (v, state), s') => (.ok v, s'.setProxy c.id { p with toProxyState := state })
      | (.error e, s') => (.error e, s') := by
  unfold call invokeAfter
  rw [after_bind_ok (after_proxy hp)]
  simp only [Proxy.invoke, after_bind]
  rcases ((service.chain t p.links c.waited).run _ _ c.args p.toProxyState).after s with ⟨_ | ⟨v, state⟩, s'⟩ <;> rfl

theorem call_absent (hp : s.proxy? c.id = none) :
    (service.call c).after s = (.error (.protocol (.other "no such proxy")), s) :=
  after_bind_error (after_proxy_absent hp) _

theorem setProxy_self {id : Nat} (hp : s.proxy? id = some ⟨t, p⟩) : s.setProxy id p = s := by
  obtain ⟨hlt, hget⟩ := List.getElem?_eq_some_iff.1 hp
  unfold Traces.setProxy
  rw [← hget, List.set_getElem_self]

theorem readAddress_memory {base : Uri} {links : Links} {state state' : ProxyState S t} {v : Invocation S}
    (h : Handler.readAddress base links state = .ok (v, state')) :
    state' = { state with content := state'.content } := by
  unfold Handler.readAddress at h
  rcases hu : links.selfUri? base with _ | uri
  · rw [hu] at h; cases h
  rcases hc : (S.entity t).assign state.content uri with _ | content
  · simp only [hu, bind, Except.bind, hc] at h; cases h
  · simp only [hu, bind, Except.bind, hc] at h; cases h; rfl

/-- **A call that follows no association** fails and changes nothing, or changes the content of its proxy at most. -/
theorem call_local (hp : s.proxy? c.id = some ⟨t, p⟩) (hf : p.table.followed? c.method = none) :
    (∃ e, (service.call c).after s = (.error e, s)) ∨
    ∃ v content, (service.call c).after s = (.ok v, s.setProxy c.id ({ p with content } : Proxy S t)) := by
  rw [service.after_call hp, run_chain]
  unfold AccessorTable.followed? Accessor.linkName? Accessor.association? at hf
  rcases hr : (p.table.lookup c.method).role with _ | a | _
  · rcases hv : Handler.readAddress service.base p.links p.toProxyState with e | ⟨v, state⟩
    · exact .inl ⟨e, by simp only [after_ofOutcome, hv]⟩
    · refine .inr ⟨v, state.content, ?_⟩
      simp only [after_ofOutcome, hv]
      rw [readAddress_memory hv]
  · rw [hr] at hf; cases hf
  · rcases hv : Property.run (p.table.lookup c.method).name c.args p.content with e | ⟨v, content⟩
    · exact .inl ⟨e, by simp only [after_ofOutcome, hv]; rfl⟩
    · exact .inr ⟨v, content, by simp only [after_ofOutcome, hv]; rfl⟩

/-- A call that follows an association is answered by its handler. -/
theorem after_call_association {a : Association S.Ty} (hp : s.proxy? c.id = some ⟨t, p⟩)
    (ha : (p.table.lookup c.method).role = .association a) :
    (service.call c).after s =
      match (Handler.follow service p.links c.waited a (a.linkName (p.table.lookup c.method).name)
        p.toProxyState).after s with
      | (.ok (v, state), s') => (.ok v, s'.setProxy c.id { p with toProxyState := state })
      | (.error e, s') => (.error e, s') := by
  rw [service.after_call hp, run_chain, ha]

theorem followed?_eq_some {κ : Type} {table : AccessorTable κ} {method relation : String} :
    table.followed? method = some relation ↔
      ∃ a, (table.lookup method).role = .association a ∧ a.linkName (table.lookup method).name = relation := by
  unfold AccessorTable.followed? Accessor.linkName? Accessor.association?
  rcases (table.lookup method).role with _ | a | _ <;> simp

theorem association_of_followed? {κ : Type} {table : AccessorTable κ} {method relation : String}
    (h : table.followed? method = some relation) : ∃ a, (table.lookup method).association? = some a :=
  Option.map_eq_some_iff.1 h |>.imp fun _ h => h.1

/-- The association that a name stands for is followed along its own relation. -/
theorem role_of_followed? {κ : Type} {table : AccessorTable κ} {method relation : String} {a : Association κ}
    (ha : (table.lookup method).association? = some a) (hf : table.followed? method = some relation) :
    (table.lookup method).role = .association a ∧ a.linkName (table.lookup method).name = relation := by
  obtain ⟨a', ha', hr⟩ := followed?_eq_some.1 hf
  unfold Accessor.association? at ha
  rw [ha'] at ha
  cases ha
  exact ⟨ha', hr⟩

theorem follow_hit {links : Links} {waited : Bool} {a : Association S.Ty} {relation : String} {value : LinkedValue S}
    {state : ProxyState S t} (hm : state.memory.lookup relation = some value) (s : Traces S) :
    (Handler.follow service links waited a relation state).after s =
      (.ok (.linked value, state),
        if waited then s else { s with measurements := .hit relation :: s.measurements }) := by
  unfold Handler.follow
  rw [hm]
  cases waited <;> rfl

/-- **A call that follows a remembered association** gives what is remembered, and changes nothing but the count of
such calls. -/
theorem call_hit {relation : String} {value : LinkedValue S} (hp : s.proxy? c.id = some ⟨t, p⟩)
    (hf : p.table.followed? c.method = some relation) (hm : p.memory.lookup relation = some value) :
    (service.call c).after s =
      (.ok (.linked value), if c.waited then s else { s with measurements := .hit relation :: s.measurements }) := by
  obtain ⟨a, ha, rfl⟩ := followed?_eq_some.1 hf
  rw [service.after_call_association hp ha, service.follow_hit hm]
  simp only [Prod.mk.injEq, true_and]
  cases c.waited with
  | true => exact setProxy_self hp
  | false => exact setProxy_self hp

theorem follow_miss {links : Links} {waited : Bool} {a : Association S.Ty} {relation : String}
    {state : ProxyState S t} (hm : state.memory.lookup relation = none) (s : Traces S) :
    (Handler.follow service links waited a relation state).after s =
      match (Handler.fetch service links a relation).after s with
      | (.ok value, s') => (.ok (.linked value, { state with memory := (relation, value) :: state.memory }), s')
      | (.error e, s') => (.error e, s') := by
  unfold Handler.follow
  rw [hm]
  simp only [after_bind]
  rcases (Handler.fetch service links a relation).after s with ⟨_ | _, _⟩ <;> rfl

/-- **A call that follows an association that is not remembered** fetches it, and remembers it if that succeeds. -/
theorem call_miss {a : Association S.Ty} {relation : String} (hp : s.proxy? c.id = some ⟨t, p⟩)
    (ha : (p.table.lookup c.method).role = .association a)
    (hr : a.linkName (p.table.lookup c.method).name = relation) (hm : p.memory.lookup relation = none) :
    (service.call c).after s = match (Handler.fetch service p.links a relation).after s with
      | (.ok value, s') =>
        (.ok (.linked value), s'.setProxy c.id ({ p with memory := (relation, value) :: p.memory } : Proxy S t))
      | (.error e, s') => (.error e, s') := by
  subst hr
  rw [service.after_call_association hp ha, service.follow_miss hm]
  rcases (Handler.fetch service p.links a _).after s with ⟨_ | value, s'⟩ <;> rfl

/-! ## Fetching -/

/-- The request for an association, if its link is there and leads to an address. -/
def asked (service : Service S) (links : Links) (a : Association S.Ty) (relation : String) : List Request :=
  match Handler.target? service.base links a relation with
  | .ok (some uri) => [{ method := .get, uri }]
  | _ => []

theorem fetch_eq (links : Links) (a : Association S.Ty) (relation : String) :
    Handler.fetch service links a relation =
      match Handler.target? service.base links a relation with
      | .error e => throw e
      | .ok none => pure (Handler.emptyValue a)
      | .ok (some uri) => measure (.fetch relation) >>= fun _ => service.load a uri := by
  unfold Handler.fetch
  rcases Handler.target? service.base links a relation with e | _ | uri <;> rfl

theorem target?_of_linked {base : Uri} {links : Links} {relation : String} {link : Link}
    (linked : links.get? relation = some link) (a : Association S.Ty) :
    Handler.target? base links a relation = (base.resolve link.expand).map some := by
  unfold Handler.target?
  rw [linked]

theorem target?_of_missing {base : Uri} {links : Links} {relation : String} (missing : links.get? relation = none)
    (a : Association S.Ty) :
    Handler.target? base links a relation = if a.mayLack then .ok none else .error (.noSuchLink relation) := by
  unfold Handler.target?
  rw [missing]

/-- **Fetching an association sends the request for it and no other.** -/
theorem requests_fetch (links : Links) (a : Association S.Ty) (relation : String) (s : Traces S) :
    ((Handler.fetch service links a relation).after s).2.requests =
      service.asked links a relation ++ s.requests := by
  rw [service.fetch_eq]
  unfold asked
  rcases Handler.target? service.base links a relation with e | _ | uri
  · rfl
  · rfl
  · rw [after_bind_ok (after_measure _ s), service.requests_load]
    rfl

theorem sends_fetch (links : Links) (a : Association S.Ty) (relation : String) :
    Sends (fun _ => True) (Handler.fetch service links a relation) := by
  rw [service.fetch_eq]
  split
  · exact sends_throw _
  · exact sends_pure _
  · exact sends_bind (sends_measure _) fun _ => service.sends_load a (by trivial)

end Service

namespace Traces

theorem proxy?_setProxy_self {s : Traces S} {id : Nat} {x : (t : S.Ty) × Proxy S t} (h : s.proxy? id = some x)
    (p : Proxy S t) : (s.setProxy id p).proxy? id = some ⟨t, p⟩ :=
  List.getElem?_set_self (List.getElem?_eq_some_iff.1 h).1

theorem proxy?_setProxy_of_ne {s : Traces S} {id id' : Nat} (h : id ≠ id') (p : Proxy S t) :
    (s.setProxy id p).proxy? id' = s.proxy? id' :=
  List.getElem?_set_ne h

theorem equalProxies_iff {s : Traces S} {id other : Nat} : s.equalProxies id other = true ↔
    id = other ∨ ∃ (t : S.Ty) (p q : Proxy S t), s.proxy? id = some ⟨t, p⟩ ∧ s.proxy? other = some ⟨t, q⟩ ∧
      (S.entity t).equal p.content q.content = true := by
  unfold equalProxies
  rw [Bool.or_eq_true, beq_iff_eq]
  refine or_congr_right ⟨fun h => ?_, ?_⟩
  · rcases hp : s.proxy? id with _ | ⟨t, p⟩ <;> rcases hq : s.proxy? other with _ | ⟨u, q⟩ <;> simp only [hp, hq] at h
    · cases h
    · cases h
    · cases h
    · by_cases hty : u = t
      · subst hty
        exact ⟨u, p, q, rfl, rfl, by simpa using h⟩
      · simp [hty] at h
  · rintro ⟨t, p, q, hp, hq, hequal⟩
    simpa [hp, hq] using hequal

theorem equalProxies_self (s : Traces S) (id : Nat) : s.equalProxies id id = true := equalProxies_iff.2 (.inl rfl)

/-- **Proxies are equal both ways** when contents are. -/
theorem equalProxies_symm (symm : ∀ (t : S.Ty) a b, (S.entity t).equal a b = true → (S.entity t).equal b a = true)
    {s : Traces S} {id other : Nat} (h : s.equalProxies id other = true) : s.equalProxies other id = true := by
  rcases equalProxies_iff.1 h with rfl | ⟨t, p, q, hp, hq, hequal⟩
  · exact h
  · exact equalProxies_iff.2 (.inr ⟨t, q, p, hq, hp, symm t _ _ hequal⟩)

end Traces

/-! ## What stays -/

/-- **A proxy later on**: it has the links and the accessors that it had, and remembers what it remembered. -/
structure Proxy.Onward (p p' : Proxy S t) : Prop where
  links : p'.links = p.links
  table : p'.table = p.table
  memory : ∀ relation value, p.memory.lookup relation = some value → p'.memory.lookup relation = some value

namespace Proxy.Onward

theorem refl (p : Proxy S t) : p.Onward p := ⟨rfl, rfl, fun _ _ h => h⟩

theorem trans {p p' p'' : Proxy S t} (h : p.Onward p') (h' : p'.Onward p'') : p.Onward p'' :=
  ⟨h'.links.trans h.links, h'.table.trans h.table, fun r v hv => h'.memory r v (h.memory r v hv)⟩

/-- A proxy that remembers something new forgets nothing. -/
theorem remember {p : Proxy S t} {relation : String} (hm : p.memory.lookup relation = none) (value : LinkedValue S) :
    p.Onward { p with memory := (relation, value) :: p.memory } := by
  refine ⟨rfl, rfl, fun r v hr => ?_⟩
  have hne : (r == relation) = false := beq_eq_false_iff_ne.2 fun heq => by rw [heq, hm] at hr; cases hr
  show List.lookup r ((relation, value) :: p.memory) = some v
  rw [List.lookup_cons, hne]
  exact hr

end Proxy.Onward

/-- **Later traces**: every proxy is there under its number. -/
def Traces.Onward (s s' : Traces S) : Prop :=
  ∀ id (t : S.Ty) (p : Proxy S t), s.proxy? id = some ⟨t, p⟩ → ∃ p', s'.proxy? id = some ⟨t, p'⟩ ∧ p.Onward p'

namespace Traces.Onward

variable {s s' s'' : Traces S} {P : Request → Prop}

theorem refl (s : Traces S) : s.Onward s := fun _ _ p hp => ⟨p, hp, .refl p⟩

theorem trans (h : s.Onward s') (h' : s'.Onward s'') : s.Onward s'' := by
  intro id t p hp
  obtain ⟨p', hp', on⟩ := h id t p hp
  obtain ⟨p'', hp'', on'⟩ := h' id t p' hp'
  exact ⟨p'', hp'', on.trans on'⟩

theorem of_extends (h : s.Extends P s') : s.Onward s' := fun _ _ p hp => ⟨p, h.proxy? hp, .refl p⟩

theorem setProxy {id : Nat} {p p' : Proxy S t} (hp : s.proxy? id = some ⟨t, p⟩) (on : p.Onward p') :
    s.Onward (s.setProxy id p') := by
  intro id' t' q hq
  by_cases h : id = id'
  · subst h
    rw [hp, Option.some.injEq] at hq
    cases hq
    exact ⟨p', proxy?_setProxy_self hp p', on⟩
  · exact ⟨q, (proxy?_setProxy_of_ne h p').trans hq, .refl q⟩

end Traces.Onward

namespace Service

variable (service : Service S)

/-- **No call loses anything.** -/
theorem onward_call (s : Traces S) (c : ProxyCall) : s.Onward ((service.call c).after s).2 := by
  rcases hp : s.proxy? c.id with _ | ⟨t, p⟩
  · rw [service.call_absent hp]
    exact .refl s
  rcases hf : p.table.followed? c.method with _ | relation
  · rcases service.call_local hp hf with ⟨e, h⟩ | ⟨v, content, h⟩
    · rw [h]
      exact .refl s
    · rw [h]
      exact .setProxy hp ⟨rfl, rfl, fun _ _ h => h⟩
  rcases hm : p.memory.lookup relation with _ | value
  · obtain ⟨a, ha, hr⟩ := followed?_eq_some.1 hf
    have hs := service.sends_fetch p.links a relation s
    rw [service.call_miss hp ha hr hm]
    rcases hv : (Handler.fetch service p.links a relation).after s with ⟨e | value, s'⟩ <;> rw [hv] at hs
    · exact .of_extends hs
    · exact (Traces.Onward.of_extends hs).trans (.setProxy (hs.proxy? hp) (.remember hm value))
  · rw [service.call_hit hp hf hm]
    cases c.waited with
    | true => exact .refl s
    | false => exact fun _ _ p hp => ⟨p, hp, .refl p⟩

theorem onward_calls : ∀ (cs : List ProxyCall) (s : Traces S), s.Onward (service.calls cs s)
  | [], s => .refl s
  | c :: cs, s => (service.onward_call s c).trans (onward_calls cs _)

end Service
end Hypermedia
