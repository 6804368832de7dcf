import Hypermedia.Proofs.Proxy.Accesses
import Hypermedia.Proofs.Proxy.FetchOnce
import Hypermedia.Proofs.Reading
/-!
# Associations as they are declared

An association is declared to lead to one resource or to many, of one type: its shape.  Asked for just that, its
accessor gives it or fails as a read does, unless the proxy remembers something of another shape.  What a proxy
remembers belongs to a relation, and accessors of different shapes may follow the same relation (`linked_as_declared`,
`owners_refused`).
-/
namespace Hypermedia

open Hypermedia.Action

variable {S : Schema} {t : S.Ty}

def Association.shape {κ : Type} (a : Association κ) : κ × Cardinality := (a.target, a.cardinality)

/-- What a caller is told to expect of an association. -/
def Cardinality.expectation : Cardinality → Expectation
  | .one => .singleLink
  | .many => .linkCollection

namespace LinkedValue

def shape : LinkedValue S → S.Ty × Cardinality
  | .one u _ => (u, .one)
  | .many u _ => (u, .many)

def proxies : LinkedValue S → List Nat
  | .one _ proxy => proxy.toList
  | .many _ proxies => proxies

/-- The proxies of a value are there, and they are of its type. -/
def Present (value : LinkedValue S) (s : Traces S) : Prop :=
  ∀ id ∈ value.proxies, ∃ p : Proxy S value.shape.1, s.proxy? id = some ⟨value.shape.1, p⟩

theorem Present.onward {value : LinkedValue S} {s s' : Traces S} (h : value.Present s) (on : s.Onward s') :
    value.Present s' := by
  intro id hid
  obtain ⟨p, hp⟩ := h id hid
  obtain ⟨p', hp', -⟩ := on id _ p hp
  exact ⟨p', hp'⟩

end LinkedValue

/-- The association that an access of a proxy follows along a relation. -/
def AccessorTable.followedBy? (table : AccessorTable S.Ty) (id : Nat) (relation : String) (x : ProxyAccess S) :
    Option (Association S.Ty) :=
  (x.call? table).bind fun c =>
    if c.id = id ∧ table.followed? c.method = some relation then (table.lookup c.method).association? else none

/-- The associations that accesses of a proxy follow along a relation. -/
def AccessorTable.followedIn (table : AccessorTable S.Ty) (id : Nat) (relation : String) (xs : List (ProxyAccess S)) :
    List (Association S.Ty) :=
  xs.filterMap (table.followedBy? id relation)

theorem AccessorTable.declared_of_mem_followedIn {table : AccessorTable S.Ty} {id : Nat} {relation : String}
    {xs : List (ProxyAccess S)} {b : Association S.Ty} (h : b ∈ table.followedIn id relation xs) :
    ∃ method, (table.lookup method).association? = some b ∧ table.followed? method = some relation := by
  obtain ⟨x, -, hx⟩ := List.mem_filterMap.1 h
  obtain ⟨c, -, hc⟩ := Option.bind_eq_some_iff.1 hx
  split at hc
  · rename_i hfollowed
    exact ⟨c.method, hc, hfollowed.2⟩
  · cases hc

namespace Service

/-- What an association leads to, asked for as the association is declared. -/
def linkedAs (service : Service S) (id : Nat) (method : String) (a : Association S.Ty) : Action S (LinkedValue S) :=
  match a.cardinality with
  | .one => do return .one a.target (← service.linked id method a.target)
  | .many => do return .many a.target (← service.linkedAll id method a.target)

variable (service : Service S) {s s' : Traces S} {id : Nat} {p : Proxy S t} {method relation : String}
  {a : Association S.Ty} {value : LinkedValue S}

/-! ## What is fetched -/

theorem createOption_present (u : S.Ty) (r? : Option (Resource (S.Content u))) :
    Ensures (service.createOption u r?) fun proxy s => (LinkedValue.one u proxy).Present s := by
  intro s proxy s' h id hid
  obtain ⟨p, hp, -⟩ := service.createOption_ensures r? s proxy s' h id (Option.mem_toList.1 hid)
  exact ⟨p, hp⟩

theorem createEach_present (u : S.Ty) : ∀ rs : List (Resource (S.Content u)),
    Ensures (service.createEach u rs) fun ids s => (LinkedValue.many u ids).Present s
  | [] => by
    intro s ids s' h id hid
    cases h
    cases hid
  | r :: rs => by
    intro s ids s' h
    obtain ⟨first, s₁, hfirst, h⟩ := of_after_bind h
    obtain ⟨others, s₂, hothers, h⟩ := of_after_bind h
    cases h
    obtain ⟨p, hp, -⟩ := service.create_ok hfirst
    have hlater : s₁.Extends (fun _ => False) s' := by
      have hsilent := service.silent_createEach u rs s₁
      rwa [hothers] at hsilent
    intro id hid
    rcases List.mem_cons.1 hid with rfl | hid
    · exact ⟨p, hlater.proxy? hp⟩
    · exact createEach_present u rs s₁ others s' hothers id hid

/-- **What an association leads to has its shape.** -/
theorem load_gives (a : Association S.Ty) (uri : Uri) :
    Ensures (service.load a uri) fun value s => value.shape = a.shape ∧ value.Present s := by
  unfold load Association.shape
  rcases hc : a.cardinality with _ | _
  · refine ensures_bind fun r? s value s' h => ?_
    obtain ⟨proxy, _, hproxy, h⟩ := of_after_bind h
    cases h
    exact ⟨rfl, service.createOption_present a.target r? s proxy s' hproxy⟩
  · refine ensures_bind fun rs s value s' h => ?_
    obtain ⟨ids, _, hids, h⟩ := of_after_bind h
    cases h
    exact ⟨rfl, service.createEach_present a.target rs s ids s' hids⟩

theorem emptyValue_gives (a : Association S.Ty) (s : Traces S) :
    (Handler.emptyValue a).shape = a.shape ∧ (Handler.emptyValue a).Present s := by
  unfold Handler.emptyValue Association.shape
  rcases a.cardinality with _ | _
  · exact ⟨rfl, fun id hid => by cases hid⟩
  · exact ⟨rfl, fun id hid => by cases hid⟩

theorem fetch_gives (links : Links) (a : Association S.Ty) (relation : String) :
    Ensures (Handler.fetch service links a relation) fun value s => value.shape = a.shape ∧ value.Present s := by
  rw [service.fetch_eq]
  rcases Handler.target? service.base links a relation with e | _ | uri
  · exact ensures_throw e
  · intro s value s' h
    cases h
    exact emptyValue_gives a s
  · exact ensures_bind fun _ => service.load_gives a uri

/-! ## What slots hold -/

/-- **A call fills a slot with what its association leads to**, or leaves what was there. -/
theorem slot?_call {c : ProxyCall} (hp : s.proxy? id = some ⟨t, p⟩)
    (h : ((service.call c).after s).2.slot? id relation = some value) :
    s.slot? id relation = some value ∨
    c.id = id ∧ p.table.followed? c.method = some relation ∧ ∃ a, (p.table.lookup c.method).association? = some a ∧
      value.shape = a.shape ∧ value.Present ((service.call c).after s).2 := by
  by_cases hc : c.id = id ∧ p.table.followed? c.method = some relation
  · obtain ⟨rfl, hf⟩ := hc
    rcases hs : s.slot? c.id relation with _ | known
    · obtain ⟨a, ha, hr⟩ := followed?_eq_some.1 hf
      have hassoc : (p.table.lookup c.method).association? = some a := by
        unfold Accessor.association?
        rw [ha]
      have hgives := service.fetch_gives p.links a relation s
      have hsends := service.sends_fetch p.links a relation s
      have hmemory : p.memory.lookup relation = none := (slot?_eq hp).symm.trans hs
      rw [service.call_miss hp ha hr hmemory] at h ⊢
      rcases hv : (Handler.fetch service p.links a relation).after s with ⟨e | fetched, s'⟩ <;> rw [hv] at h hsends
      · rw [slot?_eq (hsends.proxy? hp), hmemory] at h
        cases h
      · rw [slot?_eq (Traces.proxy?_setProxy_self (hsends.proxy? hp) _), List.lookup_cons_self] at h
        cases h
        obtain ⟨hshape, hpresent⟩ := hgives value s' hv
        exact .inr ⟨rfl, hf, a, hassoc, hshape,
          hpresent.onward (.setProxy (hsends.proxy? hp) (.remember hmemory value))⟩
    · rw [slot?_of_onward hp (service.onward_call s c) hs] at h
      exact .inl h
  · rw [service.slot?_call_of_other hp hc] at h
    exact .inl h

theorem slot?_access {x : ProxyAccess S} (hp : s.proxy? id = some ⟨t, p⟩)
    (h : ((service.access x).after s).2.slot? id relation = some value) :
    s.slot? id relation = some value ∨
    ∃ b, p.table.followedBy? id relation x = some b ∧ value.shape = b.shape ∧
      value.Present ((service.access x).after s).2 := by
  by_cases hid : x.id = id
  · subst hid
    have hx := service.access_answers hp
    unfold AccessorTable.followedBy?
    rcases hc : x.call? p.table with _ | c <;> rw [hc] at hx
    · rw [hx] at h
      exact .inl h
    · rw [hx.traces] at h ⊢
      rcases service.slot?_call hp h with hold | ⟨hcid, hf, a, ha, hshape, hpresent⟩
      · exact .inl hold
      · refine .inr ⟨a, ?_, hshape, hpresent⟩
        rw [Option.bind_some, if_pos ⟨hcid, hf⟩, ha]
  · refine .inl ?_
    rcases service.traces_access x s with hx | ⟨c, hcid, hx⟩ <;> rw [hx] at h
    · exact h
    · rwa [service.slot?_call_of_other hp fun hc => hid (hcid.symm.trans hc.1)] at h

/-- **What a slot holds after accesses** was there before, or has the shape of an association that one of them followed
along the relation. -/
theorem slot?_accesses : ∀ (xs : List (ProxyAccess S)) {s : Traces S} {q : Proxy S t},
    s.proxy? id = some ⟨t, q⟩ → q.table = p.table → (service.accesses xs s).slot? id relation = some value →
    s.slot? id relation = some value ∨
    (∃ b ∈ p.table.followedIn id relation xs, value.shape = b.shape) ∧ value.Present (service.accesses xs s)
  | [], _, _, _, _, h => .inl h
  | x :: xs, s, q, hq, htable, h => by
    -- the proxy changes with every access but keeps its table, which alone tells what an access follows
    obtain ⟨q', hq', on⟩ := service.onward_accesses [x] s id t q hq
    rcases slot?_accesses xs hq' (on.table.trans htable) h with h | ⟨⟨b, hb, hshape⟩, hpresent⟩
    · rcases service.slot?_access hq h with h | ⟨b, hb, hshape, hpresent⟩
      · exact .inl h
      · rw [htable] at hb
        exact .inr ⟨⟨b, List.mem_filterMap.2 ⟨x, List.mem_cons_self, hb⟩, hshape⟩,
          hpresent.onward (service.onward_accesses xs _)⟩
    · obtain ⟨x', hx', hb⟩ := List.mem_filterMap.1 hb
      exact .inr ⟨⟨b, List.mem_filterMap.2 ⟨x', List.mem_cons_of_mem x hx', hb⟩, hshape⟩, hpresent⟩

/-! ## What is given -/

theorem linkedAs_of_error {e : Failure} (h : (service.call { id, method }).after s = (.error e, s'))
    (a : Association S.Ty) : (service.linkedAs id method a).after s = (.error e, s') := by
  unfold linkedAs
  rcases a.cardinality with _ | _
  · exact after_bind_error (after_bind_error h _) _
  · exact after_bind_error (after_bind_error h _) _

/-- **A value of the declared shape is given**, any other is refused. -/
theorem linkedAs_of_linked (hp : s'.proxy? id = some ⟨t, p⟩)
    (h : (service.call { id, method }).after s = (.ok (.linked value), s')) (a : Association S.Ty) :
    (service.linkedAs id method a).after s =
      (if value.shape = a.shape then .ok value
        else .error (.unsupportedMethod p.kind method a.cardinality.expectation), s') := by
  have hrefused : ∀ (α : Type) (expected : Expectation),
      (do throw (← mismatch id method expected) : Action S α).after s' =
        (.error (.unsupportedMethod p.kind method expected), s') :=
    fun α expected => after_mismatch (c := { id, method }) hp expected
  have hinvoked : (service.invoke id method []).after s = (.ok (.linked value), s') := h
  unfold linkedAs Association.shape
  rcases a.cardinality with _ | _
  · simp only [after_bind, linked, hinvoked]
    rcases value with ⟨u, proxy⟩ | ⟨u, proxies⟩
    · by_cases hu : u = a.target
      · simp [LinkedValue.shape, hu]
      · simp [LinkedValue.shape, hu, hrefused, Cardinality.expectation]
    · simp [LinkedValue.shape, hrefused, Cardinality.expectation]
  · simp only [after_bind, linkedAll, hinvoked]
    rcases value with ⟨u, proxy⟩ | ⟨u, proxies⟩
    · simp [LinkedValue.shape, hrefused, Cardinality.expectation]
    · by_cases hu : u = a.target
      · simp [LinkedValue.shape, hu]
      · simp [LinkedValue.shape, hu, hrefused, Cardinality.expectation]

/-- **An empty slot is filled with what is fetched**, which is given as it is. -/
theorem after_linkedAs_of_empty (hp : s.proxy? id = some ⟨t, p⟩) (ha : (p.table.lookup method).association? = some a)
    (hf : p.table.followed? method = some relation) (hs : s.slot? id relation = none) :
    (service.linkedAs id method a).after s =
      (((Handler.fetch service p.links a relation).after s).1, ((service.call { id, method }).after s).2) := by
  let ask : ProxyCall := { id, method }
  have hcall := (service.call_of_empty (c := ask) hp ha hf hs).1
  have hgives := service.fetch_gives p.links a relation s
  rcases hv : (Handler.fetch service p.links a relation).after s with ⟨e | value, s₁⟩ <;> rw [hv] at hcall
  · rcases hc : (service.call ask).after s with ⟨o, s'⟩
    rw [hc] at hcall
    cases hcall
    exact service.linkedAs_of_error hc a
  · rcases hc : (service.call ask).after s with ⟨o, s'⟩
    rw [hc] at hcall
    cases hcall
    obtain ⟨p', hp', -⟩ := service.onward_call s ask id t p hp
    rw [hc] at hp'
    rw [service.linkedAs_of_linked hp' hc, if_pos (hgives value s₁ hv).1]

/-- An empty slot is filled as the association is declared, or nothing is given. -/
theorem linkedAs_of_empty (hp : s.proxy? id = some ⟨t, p⟩) (ha : (p.table.lookup method).association? = some a)
    (hf : p.table.followed? method = some relation) (hs : s.slot? id relation = none) :
    Outcome.Ends (fun e => e = .noSuchLink relation ∨ service.ReadFailure e)
      (fun value => value.shape = a.shape ∧ value.Present ((service.linkedAs id method a).after s).2)
      ((service.linkedAs id method a).after s).1 := by
  let ask : ProxyCall := { id, method }
  have hends := service.fetch_ends p.links a relation s
  have hcall := (service.call_of_empty (c := ask) hp ha hf hs).1
  rw [service.after_linkedAs_of_empty hp ha hf hs]
  rcases hv : ((Handler.fetch service p.links a relation).after s).1 with e | value <;> rw [hv] at hends hcall
  · exact .error hends.of_error
  · obtain ⟨_, hlinked, hslot⟩ := service.filled_of_ok (c := ask) hp hf hcall
    cases hlinked
    rcases service.slot?_call (c := ask) hp hslot with hold | ⟨-, -, a', ha', hshape, hpresent⟩
    · rw [show s.slot? ask.id relation = none from hs] at hold
      cases hold
    · cases Option.some.inj (ha'.symm.trans ha)
      exact .ok ⟨hshape, hpresent⟩

/-- A filled slot gives what it holds, if that is what is asked for. -/
theorem linkedAs_of_filled (hp : s.proxy? id = some ⟨t, p⟩) (hf : p.table.followed? method = some relation)
    (hs : s.slot? id relation = some value) (a : Association S.Ty) :
    (service.linkedAs id method a).after s =
      (if value.shape = a.shape then .ok value
        else .error (.unsupportedMethod p.kind method a.cardinality.expectation),
        { s with measurements := .hit relation :: s.measurements }) := by
  rw [slot?_eq hp] at hs
  have hcall := service.call_hit (c := { id, method }) hp hf hs
  have hp' : Traces.proxy? { s with measurements := .hit relation :: s.measurements } id = some ⟨t, p⟩ := hp
  exact service.linkedAs_of_linked hp' hcall a

/-- **An accessor gives what it is declared to give, unless its relation is remembered in another shape.**  An accessor
of an association is asked for just what it is declared to lead to, behind any accesses of any proxies.  While the slot
of its relation is empty, it gives a value of the declared shape, whose proxies are there, or fails as a read does or
because its link is missing.  A slot that is filled gives what it holds if that has the declared shape, and is refused
otherwise.  What it holds has the shape of an association that was followed before along the relation; so nothing is
refused as long as these have the declared shape, and never if all associations along the relation are declared so. -/
theorem linked_as_declared (service : Service S) {t : S.Ty} {r : Resource (S.Content t)} {s₀ s₁ : Traces S} {id : Nat}
    (made : (service.create t r).after s₀ = (.ok id, s₁)) :
    ∃ table, S.table t = .ok table ∧ ∀ (before : List (ProxyAccess S)) (method relation : String)
        (a : Association S.Ty), (table.lookup method).association? = some a → table.followed? method = some relation →
      let s := service.accesses before s₁
      let given := (service.linkedAs id method a).after s
      let followed := table.followedIn id relation before
      let reads := Outcome.Ends (fun e => e = .noSuchLink relation ∨ service.ReadFailure e)
        (fun value => value.shape = a.shape ∧ value.Present given.2) given.1
      (s.slot? id relation = none → reads) ∧
      (∀ value, s.slot? id relation = some value →
        (∃ b ∈ followed, value.shape = b.shape) ∧ value.Present s ∧
        (value.shape = a.shape → given.1 = .ok value) ∧
        (value.shape ≠ a.shape → ∃ p : Proxy S t, s.proxy? id = some ⟨t, p⟩ ∧
          given.1 = .error (.unsupportedMethod p.kind method a.cardinality.expectation))) ∧
      ((∀ b ∈ followed, b.shape = a.shape) → reads) ∧
      ((∀ other b, (table.lookup other).association? = some b → table.followed? other = some relation →
        b.shape = a.shape) → reads) := by
  obtain ⟨p₁, hp₁, fresh, -⟩ := service.create_ok made
  refine ⟨p₁.table, fresh.table, fun before method relation a ha hf => ?_⟩
  intro s given followed reads
  obtain ⟨p, hp, on⟩ := service.onward_accesses before s₁ id t p₁ hp₁
  rw [← on.table] at ha hf
  have hempty : s.slot? id relation = none → reads := service.linkedAs_of_empty hp ha hf
  have hheld : ∀ value, s.slot? id relation = some value →
      (∃ b ∈ followed, value.shape = b.shape) ∧ value.Present s := by
    intro value hs
    rcases service.slot?_accesses (p := p₁) before hp₁ rfl hs with h | h
    · rw [slot?_eq hp₁, fresh.memory] at h
      cases h
    · exact h
  have hsame : (∀ b ∈ followed, b.shape = a.shape) → reads := by
    intro hsame
    rcases hs : s.slot? id relation with _ | value
    · exact hempty hs
    · obtain ⟨⟨b, hb, hshape⟩, hpresent⟩ := hheld value hs
      have hdeclared : value.shape = a.shape := hshape.trans (hsame b hb)
      have hgiven : given = (.ok value, { s with measurements := .hit relation :: s.measurements }) := by
        have h := service.linkedAs_of_filled hp hf hs a
        rwa [if_pos hdeclared] at h
      show Outcome.Ends _ (fun value => value.shape = a.shape ∧ value.Present given.2) given.1
      rw [hgiven]
      exact .ok ⟨hdeclared, hpresent⟩
  refine ⟨hempty, fun value hs => ?_, hsame, fun hall => hsame fun b hb => ?_⟩
  · obtain ⟨hfollowed, hpresent⟩ := hheld value hs
    have hgiven := congrArg Prod.fst (service.linkedAs_of_filled hp hf hs a)
    refine ⟨hfollowed, hpresent, fun h => ?_, fun h => ⟨p, hp, ?_⟩⟩
    · rw [if_pos h] at hgiven
      exact hgiven
    · rw [if_neg h] at hgiven
      exact hgiven
  · obtain ⟨other, hb, hother⟩ := AccessorTable.declared_of_mem_followedIn hb
    exact hall other b hb hother

end Service

namespace Family

def gizmo : Resource Widget := ⟨{ name := "Gizmo" }, [⟨"owner", "http://host/owner", false⟩]⟩

/-- A server that knows an owner of the widget, alone and among all owners. -/
def owned : Script :=
  [ { method := "GET"
      uri := "http://host/owner"
      replies := [.ok (answering (.object [("name", .text "Homer"),
        ("_embedded", .object [("owners", .array [.object [("name", .text "Homer")]])])]))] }]

/-- A widget gives its owner as often as it is asked, also behind other accesses. -/
theorem owner_as_declared :
    let made := ((service owned).create Ty.widget gizmo).after {}
    let before : List (ProxyAccess schema) :=
      [.linked 0 "getOwner" Ty.parent, .setProperty 0 "setName" (.text "Gadget"), .linked 0 "getSelf" Ty.widget]
    let a : Association Ty := { target := Ty.parent, cardinality := .one }
    let given := ((service owned).linkedAs 0 "getOwner" a).after ((service owned).accesses before made.2)
    made.1.toOption = some 0 ∧ given.1.toOption = some (.one Ty.parent (some 1)) ∧
    Outcome.Ends (fun e => e = .noSuchLink "owner" ∨ (service owned).ReadFailure e)
      (fun value => value.shape = a.shape ∧ value.Present given.2) given.1 := by
  intro made before a given
  have hmade : made = (.ok 0, made.2) := by rfl
  obtain ⟨table, htable, h⟩ := (service owned).linked_as_declared hmade
  have hassociation : (table.lookup "getOwner").association? = some a := by cases htable; rfl
  have hfollowed : table.followed? "getOwner" = some "owner" := by cases htable; decide +kernel
  have hbefore : table.followedIn 0 "owner" before = [a] := by cases htable; rfl
  obtain ⟨-, -, hsame, -⟩ := h before "getOwner" "owner" a hassociation hfollowed
  refine ⟨rfl, by decide +kernel, hsame fun b hb => ?_⟩
  rw [hbefore] at hb
  rw [List.mem_singleton.1 hb]

/-- **A declared access that is refused**: the widget gives its owner, and no longer its owners then. -/
theorem owners_refused :
    let made := ((service owned).create Ty.widget gizmo).after {}
    let s := (service owned).accesses [.linked 0 "getOwner" Ty.parent] made.2
    let given := ((service owned).linkedAll 0 "owner" Ty.parent).after s
    made.1.toOption = some 0 ∧
    (schema.table Ty.widget).toOption.map (fun table =>
        ((table.lookup "owner").association?.map Association.shape, table.followed? "owner")) =
      some (some (Ty.parent, .many), some "owner") ∧
    ∃ kind, given.1 = .error (.unsupportedMethod kind "owner" .linkCollection) := by
  intro made s given
  have hrefused : (match given.1 with
      | .error (.unsupportedMethod _ method expected) => decide (method = "owner" ∧ expected = .linkCollection)
      | _ => false) = true := by decide +kernel
  refine ⟨rfl, by decide +kernel, ?_⟩
  split at hrefused
  · rename_i kind method expected hgiven
    obtain ⟨rfl, rfl⟩ := of_decide_eq_true hrefused
    exact ⟨kind, hgiven⟩
  · cases hrefused

end Family
end Hypermedia
