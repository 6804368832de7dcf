import Hypermedia.Proofs.Proxy.Calls
/-!
# Accesses to proxies

Applications call the accessors of a proxy as they are, or ask for a value of a certain form: the address, what an
association leads to, a property.  Whatever they ask for, an access makes one call at most and leaves the traces of that
call (`Answers`); a value that has not the form asked for is refused after the call ran.
-/
namespace Hypermedia

open Hypermedia.Action

variable {S : Schema} {t : S.Ty} {α : Type}

inductive ProxyAccess (S : Schema) where
  | call (c : ProxyCall)
  | resourceId (id : Nat)
  | linked (id : Nat) (method : String) (target : S.Ty)
  | linkedAll (id : Nat) (method : String) (target : S.Ty)
  | property (id : Nat) (method : String)
  | setProperty (id : Nat) (method : String) (value : Json)

namespace ProxyAccess

/-- The number of the proxy that is accessed. -/
def id : ProxyAccess S → Nat
  | .call c => c.id
  | .resourceId id => id
  | .linked id _ _ => id
  | .linkedAll id _ _ => id
  | .property id _ => id
  | .setProperty id _ _ => id

/-- The call that an access makes of a proxy with the given accessors.  Only the address may be had without a call. -/
def call? (table : AccessorTable S.Ty) : ProxyAccess S → Option ProxyCall
  | .call c => some c
  | .resourceId id => table.resourceId?.map fun a => { id, method := a.name }
  | .linked id method _ => some { id, method }
  | .linkedAll id method _ => some { id, method }
  | .property id method => some { id, method }
  | .setProperty id method value => some { id, method, args := [value] }

theorem id_of_call? {table : AccessorTable S.Ty} {x : ProxyAccess S} {c : ProxyCall} (h : x.call? table = some c) :
    c.id = x.id := by
  rcases x with c' | id | ⟨id, method, u⟩ | ⟨id, method, u⟩ | ⟨id, method⟩ | ⟨id, method, v⟩
  · cases h; rfl
  · obtain ⟨a, -, rfl⟩ := Option.map_eq_some_iff.1 h
    rfl
  all_goals cases h; rfl

end ProxyAccess

namespace Service

def access (service : Service S) : ProxyAccess S → Action S Unit
  | .call c => discard (service.call c)
  | .resourceId id => discard (service.resourceId id)
  | .linked id method u => discard (service.linked id method u)
  | .linkedAll id method u => discard (service.linkedAll id method u)
  | .property id method => discard (service.property id method)
  | .setProperty id method value => service.setProperty id method value

/-- The traces after accesses made one after the other, whether they succeed or not. -/
def accesses (service : Service S) (xs : List (ProxyAccess S)) (s : Traces S) : Traces S :=
  xs.foldl (fun s x => ((service.access x).after s).2) s

theorem after_discard (a : Action S α) (s : Traces S) :
    (discard a).after s = ((a.after s).1.map fun _ => (), (a.after s).2) := by
  show (a >>= fun _ => pure ()).after s = _
  rw [after_bind]
  rcases a.after s with ⟨_ | _, _⟩ <;> rfl

/-! ## One access -/

variable (service : Service S) {s : Traces S} {c : ProxyCall} {p : Proxy S t}

/-- **An action that takes the value of a call or refuses it**: it leaves what the call leaves, and fails as the call
does or because it refuses the value. -/
structure Answers (c : ProxyCall) (s : Traces S) (a : Action S α) : Prop where
  traces : (a.after s).2 = ((service.call c).after s).2
  failure : ∀ e, (a.after s).1 = .error e →
    ((service.call c).after s).1 = .error e ∨ ∃ kind expected, e = .unsupportedMethod kind c.method expected

/-- What may be done with the value of a call. -/
inductive Takes (c : ProxyCall) : Action S α → Prop
  | value (x : α) : Takes c (pure x)
  | refused (expected : Expectation) : Takes c (do throw (← mismatch c.id c.method expected))

theorem after_mismatch (hp : s.proxy? c.id = some ⟨t, p⟩) (expected : Expectation) :
    (do throw (← mismatch c.id c.method expected) : Action S α).after s =
      (.error (.unsupportedMethod p.kind c.method expected), s) := by
  have h : (mismatch c.id c.method expected).after s = (.ok (.unsupportedMethod p.kind c.method expected), s) :=
    after_bind_ok (after_proxy hp) _
  rw [after_bind_ok h, after_throw]

theorem answers_bind {k : Invocation S → Action S α} (hp : s.proxy? c.id = some ⟨t, p⟩) (hk : ∀ v, Takes c (k v)) :
    service.Answers c s (service.call c >>= k) := by
  obtain ⟨q, hq, -⟩ := service.onward_call s c c.id t p hp
  rcases hc : (service.call c).after s with ⟨e | v, s'⟩
  · refine ⟨by rw [after_bind_error hc, hc], fun e' h => .inl ?_⟩
    rw [after_bind_error hc] at h
    cases h
    rw [hc]
  · rw [hc] at hq
    have hafter := after_bind_ok hc k
    have hv := hk v
    generalize k v = a at hafter hv
    cases hv with
    | value x => exact ⟨by rw [hafter, hc]; rfl, fun e' h => by rw [hafter] at h; cases h⟩
    | refused expected =>
      rw [after_mismatch hq] at hafter
      refine ⟨by rw [hafter, hc], fun e' h => .inr ?_⟩
      rw [hafter] at h
      cases h
      exact ⟨q.kind, expected, rfl⟩

variable {service} in
theorem Answers.proxy_bind {id : Nat} {f : (t : S.Ty) × Proxy S t → Action S α} (hp : s.proxy? id = some ⟨t, p⟩)
    (h : service.Answers c s (f ⟨t, p⟩)) : service.Answers c s (proxy id >>= f) := by
  have hafter := after_bind_ok (after_proxy hp) f
  exact ⟨by rw [hafter, h.traces], fun e he => h.failure e (by rw [← hafter, he])⟩

variable {service} in
theorem Answers.discard {a : Action S α} (h : service.Answers c s a) : service.Answers c s (discard a) := by
  refine ⟨by rw [after_discard, h.traces], fun e he => h.failure e ?_⟩
  rw [after_discard] at he
  rcases ha : (a.after s).1 with e' | x <;> rw [ha] at he <;> cases he
  rfl

theorem linked_answers {id : Nat} (hp : s.proxy? id = some ⟨t, p⟩) (method : String) (u : S.Ty) :
    service.Answers { id, method } s (service.linked id method u) := by
  refine service.answers_bind (c := { id, method }) hp fun v => ?_
  rcases v with uri | value | v | _
  · exact .refused _
  · rcases value with ⟨u', proxy⟩ | ⟨u', proxies⟩
    · by_cases h : u' = u
      · simp only [h, if_true]
        exact .value _
      · simp only [h, if_false]
        exact .refused _
    · exact .refused _
  · exact .refused _
  · exact .refused _

theorem linkedAll_answers {id : Nat} (hp : s.proxy? id = some ⟨t, p⟩) (method : String) (u : S.Ty) :
    service.Answers { id, method } s (service.linkedAll id method u) := by
  refine service.answers_bind (c := { id, method }) hp fun v => ?_
  rcases v with uri | value | v | _
  · exact .refused _
  · rcases value with ⟨u', proxy⟩ | ⟨u', proxies⟩
    · exact .refused _
    · by_cases h : u' = u
      · simp only [h, if_true]
        exact .value _
      · simp only [h, if_false]
        exact .refused _
  · exact .refused _
  · exact .refused _

/-- A proxy without an accessor for the address gives the one that it was made with. -/
theorem after_resourceId_undeclared {id : Nat} (hp : s.proxy? id = some ⟨t, p⟩) (ha : p.table.resourceId? = none) :
    (service.resourceId id).after s = (.ok p.selfUri, s) := by
  unfold resourceId
  rw [after_bind_ok (after_proxy hp)]
  simp only [ha]
  rfl

theorem resourceId_answers {id : Nat} {accessor : Accessor S.Ty} (hp : s.proxy? id = some ⟨t, p⟩)
    (ha : p.table.resourceId? = some accessor) :
    service.Answers { id, method := accessor.name } s (service.resourceId id) := by
  refine .proxy_bind hp ?_
  simp only [ha]
  refine service.answers_bind (c := { id, method := accessor.name }) hp fun v => ?_
  rcases v with uri | value | v | _
  · exact .value _
  all_goals exact .refused _

theorem property_answers {id : Nat} (hp : s.proxy? id = some ⟨t, p⟩) (method : String) :
    service.Answers { id, method } s (service.property id method) := by
  refine service.answers_bind (c := { id, method }) hp fun v => ?_
  rcases v with uri | value | v | _
  · exact .refused _
  · exact .refused _
  · exact .value _
  · exact .refused _

theorem setProperty_answers {id : Nat} (hp : s.proxy? id = some ⟨t, p⟩) (method : String) (value : Json) :
    service.Answers { id, method, args := [value] } s (service.setProperty id method value) := by
  refine service.answers_bind (c := { id, method, args := [value] }) hp fun v => ?_
  rcases v with uri | value | v | _
  · exact .refused _
  · exact .refused _
  · exact .refused _
  · exact .value _

/-- **An access makes the call that it stands for**, and one that stands for no call succeeds and changes nothing. -/
theorem access_answers {x : ProxyAccess S} (hp : s.proxy? x.id = some ⟨t, p⟩) :
    match x.call? p.table with
    | some c => service.Answers c s (service.access x)
    | none => (service.access x).after s = (.ok (), s) := by
  rcases x with c | id | ⟨id, method, u⟩ | ⟨id, method, u⟩ | ⟨id, method⟩ | ⟨id, method, value⟩
  · exact Answers.discard ⟨rfl, fun e h => .inl h⟩
  · simp only [ProxyAccess.call?]
    replace hp : s.proxy? id = some ⟨t, p⟩ := hp
    rcases ha : p.table.resourceId? with _ | accessor
    · show (discard (service.resourceId id)).after s = _
      rw [after_discard, service.after_resourceId_undeclared hp ha]
      rfl
    · exact (service.resourceId_answers hp ha).discard
  · exact (service.linked_answers hp method u).discard
  · exact (service.linkedAll_answers hp method u).discard
  · exact (service.property_answers hp method).discard
  · exact service.setProperty_answers hp method value

theorem access_absent {x : ProxyAccess S} (hp : s.proxy? x.id = none) :
    (service.access x).after s = (.error (.protocol (.other "no such proxy")), s) := by
  have hcall : ∀ c : ProxyCall, c.id = x.id →
      (service.call c).after s = (.error (.protocol (.other "no such proxy")), s) :=
    fun c hc => service.call_absent (hc ▸ hp)
  rcases x with c | id | ⟨id, method, u⟩ | ⟨id, method, u⟩ | ⟨id, method⟩ | ⟨id, method, value⟩
  · exact after_bind_error (hcall c rfl) _
  · exact after_bind_error (after_bind_error (after_proxy_absent hp) _) _
  · exact after_bind_error (after_bind_error (hcall { id, method } rfl) _) _
  · exact after_bind_error (after_bind_error (hcall { id, method } rfl) _) _
  · exact after_bind_error (after_bind_error (hcall { id, method } rfl) _) _
  · exact after_bind_error (hcall { id, method, args := [value] } rfl) _

/-- **An access leaves what one call of its proxy leaves**, or everything as it is. -/
theorem traces_access (x : ProxyAccess S) (s : Traces S) :
    ((service.access x).after s).2 = s ∨
    ∃ c, c.id = x.id ∧ ((service.access x).after s).2 = ((service.call c).after s).2 := by
  rcases hp : s.proxy? x.id with _ | ⟨t, p⟩
  · rw [service.access_absent hp]
    exact .inl rfl
  · have h := service.access_answers hp
    rcases hc : x.call? p.table with _ | c <;> rw [hc] at h
    · rw [h]
      exact .inl rfl
    · exact .inr ⟨c, ProxyAccess.id_of_call? hc, h.traces⟩

/-! ## All accesses -/

/-- **What every call keeps, accesses keep**, however many there are. -/
theorem kept_accesses {I : Traces S → Prop} (kept : ∀ s c, I s → I ((service.call c).after s).2) :
    ∀ (xs : List (ProxyAccess S)) {s : Traces S}, I s → I (service.accesses xs s)
  | [], _, h => h
  | x :: xs, s, h => by
    refine kept_accesses kept xs ?_
    show I ((service.access x).after s).2
    rcases service.traces_access x s with hx | ⟨c, -, hx⟩ <;> rw [hx]
    · exact h
    · exact kept s c h

theorem onward_accesses (xs : List (ProxyAccess S)) (s : Traces S) : s.Onward (service.accesses xs s) :=
  service.kept_accesses (fun s' c h => h.trans (service.onward_call s' c)) xs (.refl s)

end Service
end Hypermedia
