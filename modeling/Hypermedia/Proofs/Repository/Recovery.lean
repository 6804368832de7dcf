import Hypermedia.Family.Schema
import Hypermedia.Proofs.Proxy.Address
import Hypermedia.Repository.Basic
/-!
# Recovery from conflicts

When the creation of an entity meets a conflict, the stored resource is looked for, compared with the entity, changed
when it differs, and compared once more.  `conflict_recovery` says for every server how that goes.
-/
namespace Hypermedia

open Hypermedia.Action

variable {S : Schema} {t : S.Ty}

/-- The requests for changes among those that were sent, the latest first. -/
def Traces.patches (s : Traces S) : List Request := s.requests.filter (·.method == .patch)

theorem Traces.Extends.patches_eq {P : Request → Prop} {s s' : Traces S} (h : s.Extends P s')
    (hP : ∀ q, P q → q.method = .get) : s'.patches = s.patches := by
  obtain ⟨sent, hsent, hall⟩ := h.requests
  have hnone : sent.filter (·.method == .patch) = [] := List.filter_eq_nil_iff.2 fun q hq => by
    rw [hP q (hall q hq)]
    decide
  unfold Traces.patches
  rw [hsent, List.filter_append, hnone, List.nil_append]

namespace Repository

variable (r : Repository S t) (a : S.Content t)

/-- The request for the creation of an entity, which is sent if the entity can be written. -/
def creation : Request := { method := .post, uri := r.collection.uri, body := ((S.entity t).encode a).toOption }

/-- The request for a change into what an entity says, which is sent if the entity can be written. -/
def amendment (_ : Repository S t) (a : S.Content t) (uri : Uri) : Request :=
  { method := .patch, uri, body := ((S.entity t).encode a).toOption }

/-- **The creation of an entity is answered**: the entity can be written, and the server answers to the request. -/
structure Answered (s : Traces S) (answer : Response) : Prop where
  written : ((S.entity t).encode a).isOk = true
  answer_eq : r.collection.service.transport.answer s.requests (r.creation a) = .ok answer

/-! ## Looking for the stored resource -/

/-- The address at which the stored resource of an entity is looked for: that of the search for its natural id if the
repository has one, or else its own, or else that of the member with its id. -/
def lookupUri? : Option Uri :=
  match r.naturalId, r.identity.slot.get a, r.identity.id a with
  | some n, _, _ => some (r.collection.searchUri n.path n.name (n.value a))
  | none, some uri, _ => some uri
  | none, none, some id => some (r.collection.memberUri (r.identity.text id))
  | none, none, none => none

/-- Reading at the address at which the stored resource of an entity is looked for. -/
def Looks (q : Request) : Prop := q.method = .get ∧ r.lookupUri? a = some q.uri

/-- **Looking for the stored resource only reads**, and only at one address. -/
theorem sends_locate? : Sends (r.Looks a) (r.locate? a) := by
  unfold locate? locator find? entityUri? Collection.entityUri?
  rcases hn : r.naturalId with _ | n
  · rcases hu : r.identity.slot.get a with _ | uri
    · rcases hi : r.identity.id a with _ | id
      · exact sends_pure _
      · exact r.collection.sends_get? ⟨rfl, by simp only [lookupUri?, hn, hu, hi]⟩
    · exact r.collection.sends_get? ⟨rfl, by simp only [lookupUri?, hn, hu]⟩
  · exact sends_execute (r.collection.sends_search? _ _ _ ⟨rfl, by simp only [lookupUri?, hn]⟩) r.retry _

/-- **Looking for the stored resource does read**, when there is an address to look at. -/
theorem locate?_asks {uri : Uri} (h : r.lookupUri? a = some uri) (s : Traces S) :
    ∃ sent, ((r.locate? a).after s).2.requests = sent ++ { method := .get, uri } :: s.requests := by
  unfold lookupUri? at h
  unfold locate? locator find? entityUri? Collection.entityUri?
  rcases hn : r.naturalId with _ | n
  · rcases hu : r.identity.slot.get a with _ | u
    · rcases hi : r.identity.id a with _ | id <;> rw [hn, hu, hi] at h <;> cases h
      exact ⟨[], r.collection.requests_get? _ s⟩
    · rw [hn, hu] at h
      cases h
      exact ⟨[], r.collection.requests_get? _ s⟩
  · rw [hn] at h
    cases h
    have hlooks := r.collection.sends_search? (P := fun _ => True) n.path n.name (n.value a) trivial
    obtain ⟨sent, hsent, -⟩ := (extends_after_execute hlooks r.retry
      (r.collection.searchUri n.path n.name (n.value a)).text s).requests
    rw [r.collection.requests_search?] at hsent
    exact ⟨sent, hsent⟩

theorem locate?_ensures : Ensures (r.locate? a) (r.collection.service.NumbersFresh t) := by
  unfold locate? find?
  rcases r.locator a with _ | uri | _
  · simp only
    rcases r.naturalId with _ | n
    · exact ensures_throw _
    · exact ensures_execute (r.collection.search?_ensures _ _ _) r.retry _
  · exact r.collection.get?_ensures uri
  · exact r.collection.service.pure_none_ensures

theorem locate?_nowhere (hn : r.naturalId = none) (hu : r.identity.slot.get a = none) (hi : r.identity.id a = none) :
    r.locate? a = pure none := by
  simp only [locate?, locator, entityUri?, Collection.entityUri?, hn, hu, hi, Option.map_none, Option.or_none]

/-- The stored resource that is found for an entity, with the traces behind that. -/
def Finds (s : Traces S) (p : Proxy S t) (s' : Traces S) : Prop :=
  ∃ id, (r.locate? a).after s = (.ok (some id), s') ∧ s'.proxy? id = some ⟨t, p⟩

theorem finds_of_ok {r : Repository S t} {a : S.Content t} {s : Traces S} {id : Nat}
    (h : ((r.locate? a).after s).1 = .ok (some id)) :
    ∃ p, ((r.locate? a).after s).2.proxy? id = some ⟨t, p⟩ ∧ r.Finds a s p ((r.locate? a).after s).2 := by
  obtain ⟨p, hp, -⟩ := r.locate?_ensures a s (some id) _ (Prod.ext h rfl) id rfl
  exact ⟨p, hp, id, Prod.ext h rfl, hp⟩

/-! ## Changing the stored resource -/

/-- The changed resource that a server gives: in the answer to the request for the change, or in the answer to one
read when that has none. -/
def Brings (uri : Uri) (s : Traces S) (p : Proxy S t) (s' : Traces S) : Prop :=
  ∃ id, s'.proxy? id = some ⟨t, p⟩ ∧
    ((r.collection.patch? uri ((S.entity t).encode a)).after s = (.ok (some id), s') ∨
      ∃ s₁, (r.collection.patch? uri ((S.entity t).encode a)).after s = (.ok none, s₁) ∧
        (r.collection.get? uri).after s₁ = (.ok (some id), s'))

/-- The resource is gone after an empty answer to the request for the change. -/
def Loses (uri : Uri) (s s' : Traces S) : Prop :=
  ∃ s₁, (r.collection.patch? uri ((S.entity t).encode a)).after s = (.ok none, s₁) ∧
    (r.collection.get? uri).after s₁ = (.ok none, s')

def confirm (a : S.Content t) (uri : Uri) (id : Nat) : Action S Uri := do
  let after ← contentOf id
  if !(S.entity t).equal after a then throw (.reconciliation uri (.stillDiffers (S.kind t)))
  return uri

/-- Changes a stored resource into what an entity says, and makes sure that it is that. -/
def amend (uri : Uri) : Action S Uri := do confirm a uri (← r.patched uri a)

/-- The changed resource, read again when the answer to the change does not tell. -/
def reread (uri : Uri) : Option Nat → Action S Nat
  | some id => return id
  | none => do
    match ← r.collection.get? uri with
    | some id => return id
    | none => throw (.reconciliation uri .disappeared)

theorem patched_eq (uri : Uri) :
    r.patched uri a = r.collection.patch? uri ((S.entity t).encode a) >>= r.reread uri := by
  unfold patched
  refine congrArg _ (funext fun id? => ?_)
  cases id? <;> rfl

variable {r a} {s s' : Traces S} {id : Nat} {p : Proxy S t} {uri : Uri}

theorem after_contentOf (hp : s.proxy? id = some ⟨t, p⟩) :
    (contentOf id : Action S (S.Content t)).after s = (.ok p.content, s) := by
  unfold contentOf
  rw [after_bind_ok (Service.after_proxy hp)]
  simp only [dite_true]
  rfl

theorem after_reread (h : (r.collection.get? uri).after s = (.ok (some id), s')) :
    (r.reread uri none).after s = (.ok id, s') := by
  unfold reread
  rw [after_bind_ok h]
  rfl

theorem after_patched (h : r.Brings a uri s p s') :
    ∃ id, (r.patched uri a).after s = (.ok id, s') ∧ s'.proxy? id = some ⟨t, p⟩ := by
  obtain ⟨id, hp, h | ⟨s₁, h, hget⟩⟩ := h
  · exact ⟨id, by rw [patched_eq, after_bind_ok h]; rfl, hp⟩
  · exact ⟨id, by rw [patched_eq, after_bind_ok h, after_reread hget], hp⟩

theorem brings_of_patched (h : (r.patched uri a).after s = (.ok id, s')) :
    ∃ p, r.Brings a uri s p s' ∧ s'.proxy? id = some ⟨t, p⟩ := by
  obtain ⟨id?, s₁, hpatch, h⟩ := of_after_bind h
  rcases id? with _ | id₁
  · obtain ⟨id?, s₂, hget, h⟩ := of_after_bind h
    rcases id? with _ | id₂ <;> cases h
    obtain ⟨p, hp, -⟩ := r.collection.get?_ensures uri s₁ _ _ hget id rfl
    exact ⟨p, ⟨id, hp, .inr ⟨s₁, hpatch, hget⟩⟩, hp⟩
  · cases h
    obtain ⟨p, hp, -⟩ := r.collection.patch?_ensures uri _ s _ _ hpatch id rfl
    exact ⟨p, ⟨id, hp, .inl hpatch⟩, hp⟩

theorem after_amend_of_brings (h : r.Brings a uri s p s') :
    (r.amend a uri).after s =
      (if (S.entity t).equal p.content a then .ok uri
        else .error (.reconciliation uri (.stillDiffers (S.kind t))), s') := by
  obtain ⟨id, hpatched, hp⟩ := after_patched h
  unfold amend confirm
  rw [after_bind_ok hpatched, after_bind_ok (after_contentOf hp)]
  rcases he : (S.entity t).equal p.content a with _ | _ <;> rfl

theorem after_amend_of_loses (h : r.Loses a uri s s') :
    (r.amend a uri).after s = (.error (.reconciliation uri .disappeared), s') := by
  obtain ⟨s₁, hpatch, hget⟩ := h
  have hpatched : (r.patched uri a).after s = (.error (.reconciliation uri .disappeared), s') := by
    rw [patched_eq, after_bind_ok hpatch]
    unfold reread
    rw [after_bind_ok hget]
    rfl
  exact after_bind_error hpatched _

/-- **A change that succeeds brought what the entity says.** -/
theorem of_after_amend {u : Uri} (h : (r.amend a uri).after s = (.ok u, s')) :
    u = uri ∧ ∃ p, r.Brings a uri s p s' ∧ (S.entity t).equal p.content a = true := by
  obtain ⟨id, s₁, hpatched, -⟩ := of_after_bind h
  obtain ⟨p, hbrings, -⟩ := brings_of_patched hpatched
  rw [after_amend_of_brings hbrings, Prod.mk.injEq] at h
  obtain ⟨hu, rfl⟩ := h
  rcases he : (S.entity t).equal p.content a with _ | _
  · rw [he] at hu
    cases hu
  · rw [he] at hu
    cases hu
    exact ⟨rfl, p, hbrings, he⟩

theorem sends_contentOf {P : Request → Prop} (id : Nat) : Sends P (contentOf id : Action S (S.Content t)) :=
  sends_bind (Service.sends_proxy id) fun ⟨u, p⟩ => by
    by_cases h : u = t
    · simp only [dif_pos h]
      exact sends_pure _
    · simp only [dif_neg h]
      exact sends_throw _

theorem sends_confirm {P : Request → Prop} (uri : Uri) (id : Nat) : Sends P (confirm a uri id) :=
  sends_bind (sends_contentOf id) fun b => by
    by_cases h : (S.entity t).equal b a = true
    · simp only [h]
      exact sends_pure _
    · simp only [h]
      exact sends_throw _

theorem sends_reread (uri : Uri) : ∀ id?, Sends (·.method = .get) (r.reread uri id?)
  | some _ => sends_pure _
  | none => sends_bind (r.collection.sends_get? rfl) fun id? => by
    cases id? with
    | some _ => exact sends_pure _
    | none => exact sends_throw _

/-- **A change sends the request for it**, and behind it only reads. -/
theorem extends_amend (uri : Uri) (s : Traces S) :
    ((r.collection.patch? uri ((S.entity t).encode a)).after s).2.Extends (·.method = .get)
      ((r.amend a uri).after s).2 := by
  have hreread := extends_after_bind (sends_reread (r := r) uri)
    (r.collection.patch? uri ((S.entity t).encode a)) s
  rw [← patched_eq] at hreread
  exact hreread.trans (extends_after_bind (sends_confirm (a := a) uri) (r.patched uri a) s)

theorem requests_amendment (written : ((S.entity t).encode a).isOk = true) (uri : Uri) (s : Traces S) :
    ((r.collection.patch? uri ((S.entity t).encode a)).after s).2.requests = r.amendment a uri :: s.requests := by
  rw [r.collection.requests_patch?]
  unfold amendment
  rcases hdocument : (S.entity t).encode a with reason | document
  · rw [hdocument] at written
    cases written
  · rfl

theorem patches_amend (written : ((S.entity t).encode a).isOk = true) (uri : Uri) (s : Traces S) :
    ((r.amend a uri).after s).2.patches = r.amendment a uri :: s.patches := by
  rw [(extends_amend uri s).patches_eq fun _ h => h]
  unfold Traces.patches
  rw [requests_amendment written]
  rfl

/-! ## Recovering -/

theorem after_storedUri (hp : s.proxy? id = some ⟨t, p⟩) (fresh : r.collection.service.Fresh p) :
    (r.storedUri id).after s = match p.selfUri with
      | some uri => (.ok uri, s)
      | none => (.error (.protocol .conflictWithoutUri), s) := by
  unfold storedUri
  rw [after_bind_ok (r.collection.service.after_resourceId hp fresh)]
  rcases hu : p.selfUri with _ | uri
  · simp only
    rw [after_bind_ok (Service.after_proxy hp)]
    simp only [hu, after_throw]
  · rfl

theorem after_reconcile (hp : s.proxy? id = some ⟨t, p⟩) (fresh : r.collection.service.Fresh p)
    (hu : p.selfUri = some uri) :
    (r.reconcile a id).after s = if (S.entity t).equal p.content a then (.ok uri, s) else (r.amend a uri).after s := by
  have hstored := after_storedUri hp fresh
  simp only [hu] at hstored
  unfold reconcile
  rw [after_bind_ok hstored, after_bind_ok (after_contentOf hp)]
  rcases he : (S.entity t).equal p.content a with _ | _
  · simp only [Bool.not_false, if_true, Bool.false_eq_true, if_false]
    rfl
  · rfl

theorem after_recover_of_finds (conflict : Failure) {s₂ : Traces S} (h : r.Finds a s p s₂) (hu : p.selfUri = some uri) :
    (r.recover a conflict).after s =
      if (S.entity t).equal p.content a then (.ok uri, s₂) else (r.amend a uri).after s₂ := by
  obtain ⟨id, hid, hp⟩ := h
  obtain ⟨p', hp', fresh⟩ := r.locate?_ensures a s _ _ hid id rfl
  rw [hp, Option.some.injEq] at hp'
  cases hp'
  unfold recover
  rw [after_bind_ok hid]
  exact after_reconcile hp fresh hu

theorem after_recover_of_equal (conflict : Failure) {s₂ : Traces S} (h : r.Finds a s p s₂) (hu : p.selfUri = some uri)
    (heq : (S.entity t).equal p.content a = true) : (r.recover a conflict).after s = (.ok uri, s₂) := by
  rw [after_recover_of_finds _ h hu, if_pos heq]

theorem after_recover_of_unequal (conflict : Failure) {s₂ : Traces S} (h : r.Finds a s p s₂) (hu : p.selfUri = some uri)
    (heq : (S.entity t).equal p.content a = false) : (r.recover a conflict).after s = (r.amend a uri).after s₂ := by
  rw [after_recover_of_finds _ h hu, if_neg (ne_true_of_eq_false heq)]

theorem after_recover_of_none (conflict : Failure) {s₂ : Traces S} (h : (r.locate? a).after s = (.ok none, s₂)) :
    (r.recover a conflict).after s = (.error conflict, s₂) := by
  unfold recover
  rw [after_bind_ok h]
  rfl

/-- **How a recovery starts**: a stored resource with an address is found, or there is none and it fails at once. -/
theorem recover_cases (r : Repository S t) (a : S.Content t) (conflict : Failure) (s : Traces S) :
    (∃ p s₂ uri, r.Finds a s p s₂ ∧ p.selfUri = some uri) ∨
    (∀ p s₂ uri, r.Finds a s p s₂ → p.selfUri ≠ some uri) ∧
      ∃ e, (r.recover a conflict).after s = (.error e, ((r.locate? a).after s).2) := by
  rcases hl : (r.locate? a).after s with ⟨e | _ | id, s₂⟩
  · refine .inr ⟨fun p s₂ uri ⟨id, hid, _⟩ => ?_, e, after_bind_error hl _⟩
    rw [hl] at hid
    cases hid
  · refine .inr ⟨fun p s₂ uri ⟨id, hid, _⟩ => ?_, conflict, after_recover_of_none _ hl⟩
    rw [hl] at hid
    cases hid
  obtain ⟨p, hp, fresh⟩ := r.locate?_ensures a s _ _ hl id rfl
  rcases hu : p.selfUri with _ | uri
  · refine .inr ⟨fun p' s' uri ⟨id', hid', hp'⟩ => ?_, .protocol .conflictWithoutUri, ?_⟩
    · rw [hl] at hid'
      cases hid'
      rw [hp, Option.some.injEq] at hp'
      cases hp'
      intro hsome
      rw [hu] at hsome
      cases hsome
    · have hstored := after_storedUri hp fresh
      simp only [hu] at hstored
      unfold recover
      rw [after_bind_ok hl]
      exact after_bind_error hstored _
  · exact .inl ⟨p, s₂, uri, ⟨id, hl, hp⟩, hu⟩

/-- **When a recovery succeeds.** -/
theorem recover_ok_iff (conflict : Failure) :
    (r.recover a conflict).after s = (.ok uri, s') ↔
      ∃ p s₂, r.Finds a s p s₂ ∧ p.selfUri = some uri ∧
        ((S.entity t).equal p.content a = true ∧ s' = s₂ ∨
          (S.entity t).equal p.content a = false ∧
            ∃ p', r.Brings a uri s₂ p' s' ∧ (S.entity t).equal p'.content a = true) := by
  constructor
  · intro h
    rcases r.recover_cases a conflict s with ⟨p, s₂, u, hfinds, hu⟩ | ⟨-, e, he⟩
    · rcases heq : (S.entity t).equal p.content a with _ | _
      · rw [after_recover_of_unequal _ hfinds hu heq] at h
        obtain ⟨rfl, p', hbrings, hequal⟩ := of_after_amend h
        exact ⟨p, s₂, hfinds, hu, .inr ⟨heq, p', hbrings, hequal⟩⟩
      · rw [after_recover_of_equal _ hfinds hu heq] at h
        cases h
        exact ⟨p, _, hfinds, hu, .inl ⟨heq, rfl⟩⟩
    · rw [he] at h
      cases h
  · rintro ⟨p, s₂, hfinds, hu, ⟨heq, hs⟩ | ⟨heq, p', hbrings, hequal⟩⟩
    · subst hs
      exact after_recover_of_equal _ hfinds hu heq
    · rw [after_recover_of_unequal _ hfinds hu heq, after_amend_of_brings hbrings, if_pos hequal]

/-- A stored resource is found at an address, and it is not what the entity says. -/
def Differs (r : Repository S t) (a : S.Content t) (s : Traces S) (uri : Uri) : Prop :=
  ∃ p s₂, r.Finds a s p s₂ ∧ p.selfUri = some uri ∧ (S.entity t).equal p.content a = false

theorem patches_locate? (s : Traces S) : ((r.locate? a).after s).2.patches = s.patches :=
  (r.sends_locate? a s).patches_eq fun _ h => h.1

theorem patches_of_finds {s₂ : Traces S} (h : r.Finds a s p s₂) : s₂.patches = s.patches := by
  obtain ⟨id, hid, -⟩ := h
  rw [← patches_locate? (r := r) (a := a) s, hid]

theorem patches_recover_of_differs (written : ((S.entity t).encode a).isOk = true) (conflict : Failure)
    (h : r.Differs a s uri) : ((r.recover a conflict).after s).2.patches = r.amendment a uri :: s.patches := by
  obtain ⟨p, s₂, hfinds, hu, heq⟩ := h
  rw [after_recover_of_unequal _ hfinds hu heq, patches_amend written, patches_of_finds hfinds]

theorem patches_recover (conflict : Failure) (h : ∀ uri, ¬ r.Differs a s uri) :
    ((r.recover a conflict).after s).2.patches = s.patches := by
  rcases r.recover_cases a conflict s with ⟨p, s₂, uri, hfinds, hu⟩ | ⟨-, e, he⟩
  · rcases heq : (S.entity t).equal p.content a with _ | _
    · exact absurd ⟨p, s₂, hfinds, hu, heq⟩ (h uri)
    · rw [after_recover_of_equal _ hfinds hu heq, patches_of_finds hfinds]
  · rw [he, patches_locate?]

/-! ## Saving -/

/-- What comes behind the storing of an entity: it gets its address and its id. -/
def finish (r : Repository S t) (a : S.Content t) (uri : Uri) : Action S (S.Content t) := do
  let a ← ofOutcome (r.identity.slot.set a uri)
  r.withId uri a

theorem sends_fetched (uri : Uri) : Sends (·.method = .get) (r.fetched uri) :=
  sends_bind (r.collection.sends_get? rfl) fun id? => by
    cases id? with
    | none => exact sends_throw _
    | some id =>
      refine sends_bind (sends_contentOf id) fun a => ?_
      split
      · exact sends_pure _
      · exact sends_throw _

theorem sends_finish (r : Repository S t) (a : S.Content t) (uri : Uri) : Sends (·.method = .get) (r.finish a uri) :=
  sends_bind (sends_ofOutcome _) fun a => by
    unfold withId
    split
    · exact sends_pure _
    · exact sends_pure _
    · exact sends_fetched uri

/-- **An entity that can be written is sent** to the collection. -/
theorem post_of_written (written : ((S.entity t).encode a).isOk = true) :
    r.collection.post a = r.collection.service.send (r.creation a) >>= fun answer =>
      ofOutcome (Service.locationOf r.collection.uri answer) := by
  unfold Collection.post Service.post
  rw [r.collection.service.write_of_isOk .post r.collection.uri written]
  rfl

/-- **An entity that cannot be written is not sent**, and what its writer says is the outcome. -/
theorem after_post_of_unwritten {reason : String} (unwritten : (S.entity t).encode a = .error reason) (s : Traces S) :
    (r.collection.post a).after s = (.error (.json (.unencodable reason)), s) := by
  unfold Collection.post
  rw [unwritten]
  rfl

theorem after_post_of_answered {answer : Response} (answered : r.Answered a s answer) :
    (r.collection.post a).after s =
      (Service.locationOf r.collection.uri answer, r.collection.service.noted s (r.creation a)) := by
  have hsend := r.collection.service.after_send s (r.creation a)
  rw [answered.answer_eq] at hsend
  rw [post_of_written answered.written, after_bind_ok hsend, after_ofOutcome]

theorem after_post_of_refused {answer : Response} (answered : r.Answered a s answer)
    (refused : Status.isSuccess answer.status = false) :
    (r.collection.post a).after s = (.error answer.refusal, r.collection.service.noted s (r.creation a)) := by
  rw [after_post_of_answered answered, Service.locationOf_of_refused _ refused]

/-- **A save that meets a conflict is a recovery.** -/
theorem after_storeUri_of_conflict {answer : Response}
    (answered : r.Answered a s answer)
    (status : answer.status = Status.conflict) :
    (r.storeUri a).after s =
      (r.recover a answer.refusal).after (r.collection.service.noted s (r.creation a)) := by
  have hpost := after_post_of_refused answered (by rw [status]; rfl)
  unfold storeUri
  rw [after_tryCatch, hpost]
  simp only [Response.isConflict_refusal status, if_true]

theorem patches_save_of_conflict {answer : Response}
    (answered : r.Answered a s answer)
    (status : answer.status = Status.conflict) :
    ((r.save a).after s).2.patches =
      ((r.recover a answer.refusal).after (r.collection.service.noted s (r.creation a))).2.patches := by
  rw [← after_storeUri_of_conflict answered status]
  exact (extends_after_bind (r.sends_finish a) (r.storeUri a) s).patches_eq fun _ h => h

theorem after_save_of_error {answer : Response} {e : Failure}
    (answered : r.Answered a s answer)
    (status : answer.status = Status.conflict)
    (h : (r.recover a answer.refusal).after (r.collection.service.noted s (r.creation a)) = (.error e, s')) :
    (r.save a).after s = (.error e, s') := by
  rw [← after_storeUri_of_conflict answered status] at h
  exact after_bind_error h _

/-- **Conflict recovery follows its decision procedure.**  The server refuses to create an entity because of a conflict.
Without a natural id, an address and an id of the entity that conflict is the outcome, and nothing else is sent.
Otherwise the stored resource is read at one address; the conflict is the outcome when it is not found, and a failure
of the lookup is.  A change is sent just when a stored resource is found at an address and differs from the entity, and
then once and to that address.  The recovery gives that address just when the resource that was found, or else the one
that the change brought, counts as the entity; when the changed resource still differs or is gone, the outcome says
so. -/
theorem conflict_recovery (r : Repository S t) (a : S.Content t) (s : Traces S) (answer : Response)
    (answered : r.Answered a s answer)
    (status : answer.status = Status.conflict) :
    let equal := (S.entity t).equal
    let s₁ := r.collection.service.noted s (r.creation a)
    (r.naturalId = none → r.identity.slot.get a = none → r.identity.id a = none →
      (r.save a).after s = (.error answer.refusal, s₁)) ∧
    s₁.Extends (r.Looks a) ((r.locate? a).after s₁).2 ∧
    (∀ uri, r.lookupUri? a = some uri →
      ∃ sent, ((r.locate? a).after s₁).2.requests = sent ++ { method := .get, uri } :: s₁.requests) ∧
    (∀ e s₂, (r.locate? a).after s₁ = (.error e, s₂) → (r.save a).after s = (.error e, s₂)) ∧
    (∀ s₂, (r.locate? a).after s₁ = (.ok none, s₂) → (r.save a).after s = (.error answer.refusal, s₂)) ∧
    (∀ uri, r.Differs a s₁ uri → ((r.save a).after s).2.patches = r.amendment a uri :: s.patches) ∧
    ((∀ uri, ¬ r.Differs a s₁ uri) → ((r.save a).after s).2.patches = s.patches) ∧
    (∀ uri s', (r.recover a answer.refusal).after s₁ = (.ok uri, s') ↔
      ∃ p s₂, r.Finds a s₁ p s₂ ∧ p.selfUri = some uri ∧
        (equal p.content a = true ∧ s' = s₂ ∨
          equal p.content a = false ∧ ∃ p', r.Brings a uri s₂ p' s' ∧ equal p'.content a = true)) ∧
    ∀ p s₂ uri, r.Finds a s₁ p s₂ → p.selfUri = some uri → equal p.content a = false →
      (∀ p' s', r.Brings a uri s₂ p' s' → equal p'.content a = false →
        (r.save a).after s = (.error (.reconciliation uri (.stillDiffers (S.kind t))), s')) ∧
      (∀ s', r.Loses a uri s₂ s' → (r.save a).after s = (.error (.reconciliation uri .disappeared), s')) := by
  intro equal s₁
  have patches := patches_save_of_conflict answered status
  refine ⟨fun hn hu hi => ?_, r.sends_locate? a s₁, fun uri huri => r.locate?_asks a huri s₁, fun e s₂ hfails => ?_,
    fun s₂ hnone => ?_, fun uri hdiffers => ?_, fun hnone => ?_, fun uri s' => recover_ok_iff _,
    fun p s₂ uri hfinds hu heq => ⟨fun p' s' hbrings hstill => ?_, fun s' hloses => ?_⟩⟩
  · refine after_save_of_error answered status (after_recover_of_none _ ?_)
    rw [r.locate?_nowhere a hn hu hi, after_pure]
  · exact after_save_of_error answered status (after_bind_error hfails _)
  · exact after_save_of_error answered status (after_recover_of_none _ hnone)
  · rw [patches, patches_recover_of_differs answered.written _ hdiffers]
    rfl
  · rw [patches, patches_recover _ hnone]
    rfl
  · refine after_save_of_error answered status ?_
    rw [after_recover_of_unequal _ hfinds hu heq, after_amend_of_brings hbrings, if_neg (ne_true_of_eq_false hstill)]
  · refine after_save_of_error answered status ?_
    rw [after_recover_of_unequal _ hfinds hu heq, after_amend_of_loses hloses]

end Repository

namespace Family

def parents (script : Script) : Repository schema Ty.parent where
  collection := { service := service script, uri := base.append "/parents", batchUri := base.append "/batch" }
  identified := parentIdentified
  retry := .once

/-- A repository of entities that are written only under a name. -/
def parcels (script : Script) : Repository schema Ty.parcel where
  collection := { service := service script, uri := base.append "/parcels", batchUri := base.append "/batch" }
  identified := parcelIdentified
  retry := .once

/-- The answer to the creation of a parent that is there already. -/
def taken : Response := { status := Status.conflict }

/-- A server with a parent of another name, who can be renamed. -/
def misnamed : Script :=
  [ { method := "POST"
      uri := "http://host/parents"
      replies := [.ok taken] },
    { method := "GET"
      uri := "http://host/parents/1"
      replies := [.ok (answering (.object [("name", .text "Bart")]))] },
    { method := "PATCH"
      uri := "http://host/parents/1"
      replies := [.ok (answering (.object [("name", .text "Homer")]))] }]

def homer : Person := { id := some 1, name := "Homer" }

/-- The document of a batch that holds one parent. -/
def homerBatch : Json :=
  .object [("entities", .array [.object [("id", Json.ofNat 1), ("name", .text "Homer"), ("@class", .text "Parent")]])]

/-- A parent meets a conflict, is found by the number under another name, and is renamed. -/
theorem parent_renamed :
    let r := parents misnamed
    let s₁ := r.collection.service.noted {} (r.creation homer)
    r.Answered homer {} taken ∧ taken.status = Status.conflict ∧
    r.Differs homer s₁ (base.append "/parents/1") ∧
    ((r.save homer).after {}).2.patches = [r.amendment homer (base.append "/parents/1")] := by
  intro r s₁
  have answered : r.Answered homer {} taken := ⟨rfl, by decide +kernel⟩
  have hfound : ((r.locate? homer).after s₁).1 = .ok (some 0) := by decide +kernel
  have hdiffers : r.Differs homer s₁ (base.append "/parents/1") := by
    obtain ⟨p, hp, hfinds⟩ := Repository.finds_of_ok hfound
    have hself : (((r.locate? homer).after s₁).2.proxy? 0).map (·.2.selfUri) =
        some (some (base.append "/parents/1")) := by decide +kernel
    have hname : (((r.locate? homer).after s₁).2.proxy? 0).map (fun
      | ⟨.parent, p⟩ => Person.same p.content homer
      | _ => true) = some false := by decide +kernel
    rw [hp] at hself hname
    exact ⟨p, _, hfinds, Option.some.inj hself, Option.some.inj hname⟩
  obtain ⟨-, -, -, -, -, hpatch, -⟩ := r.conflict_recovery homer {} taken answered rfl
  exact ⟨answered, rfl, hdiffers, hpatch _ hdiffers⟩

end Family
end Hypermedia
