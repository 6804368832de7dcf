import Hypermedia.Proofs.Proxy.FetchOnce
/-!
# Missing links

A call that follows a relation without a link fails and names the relation, unless the association may lack its link.
What an association that may lack its link leaves behind is remembered under the relation like any other value, so that
it also answers the calls of other accessors that follow the same relation, those that need the link among them
(`missing_link`, `needed_link_excused`).
-/
namespace Hypermedia

open Hypermedia.Action

variable {S : Schema} {t : S.Ty}

/-- The association that a name stands for, if it follows the relation and may lack its link. -/
def AccessorTable.excuse? {κ : Type} (table : AccessorTable κ) (relation method : String) : Option (Association κ) :=
  if table.followed? method = some relation then (table.lookup method).association?.filter (·.mayLack) else none

/-- The first association of a proxy that calls follow along the relation though it may lack its link. -/
def AccessorTable.excused? {κ : Type} (table : AccessorTable κ) (id : Nat) (relation : String) (cs : List ProxyCall) :
    Option (Association κ) :=
  cs.findSome? fun c => if c.id = id then table.excuse? relation c.method else none

namespace Service

variable (service : Service S) {s : Traces S} {id : Nat} {p : Proxy S t} {relation : String}

theorem after_fetch_missing {links : Links} (missing : links.get? relation = none) (a : Association S.Ty)
    (s : Traces S) :
    (Handler.fetch service links a relation).after s =
      (if a.mayLack then .ok (Handler.emptyValue a) else .error (.noSuchLink relation), s) := by
  rw [service.fetch_eq, target?_of_missing missing]
  cases a.mayLack <;> rfl

/-- **A call of an accessor whose link is missing** gives what is in the slot, or the empty value if the association may
lack its link, or else names the relation; it sends nothing. -/
theorem call_missing {c : ProxyCall} {a : Association S.Ty} (hp : s.proxy? c.id = some ⟨t, p⟩)
    (missing : p.links.get? relation = none) (ha : (p.table.lookup c.method).association? = some a)
    (hf : p.table.followed? c.method = some relation) :
    ((service.call c).after s).2.requests = s.requests ∧
    ((service.call c).after s).1 = match s.slot? c.id relation with
      | some value => .ok (.linked value)
      | none => if a.mayLack then .ok (.linked (Handler.emptyValue a)) else .error (.noSuchLink relation) := by
  rcases hs : s.slot? c.id relation with _ | value
  · obtain ⟨hvalue, hrequests⟩ := service.call_of_empty hp ha hf hs
    rw [hvalue, hrequests, ← service.requests_fetch, service.after_fetch_missing missing]
    cases a.mayLack <;> exact ⟨rfl, rfl⟩
  · obtain ⟨hvalue, hrequests⟩ := service.call_of_filled hp hf hs
    exact ⟨hrequests, hvalue⟩

/-- **What one call leaves in the slot** of a relation without a link: the value that was there, or else the empty value
of an association that may lack its link. -/
theorem slot?_call_of_missing (hp : s.proxy? id = some ⟨t, p⟩) (missing : p.links.get? relation = none)
    (c : ProxyCall) :
    ((service.call c).after s).2.slot? id relation = (s.slot? id relation).or
      ((if c.id = id then p.table.excuse? relation c.method else none).map Handler.emptyValue) := by
  unfold AccessorTable.excuse?
  by_cases hid : c.id = id
  · by_cases hf : p.table.followed? c.method = some relation
    · subst hid
      obtain ⟨a, ha⟩ := association_of_followed? hf
      obtain ⟨-, hvalue⟩ := service.call_missing hp missing ha hf
      rw [if_pos rfl, if_pos hf, ha]
      rcases hs : s.slot? c.id relation with _ | value
      · rw [hs] at hvalue
        rcases hl : a.mayLack with _ | _
        · rw [hl] at hvalue
          simp only [Option.filter_some, hl]
          exact service.empty_of_error hp hf hvalue
        · rw [hl] at hvalue
          simp only [Option.filter_some, hl]
          obtain ⟨value, hv, hslot⟩ := service.filled_of_ok hp hf hvalue
          cases hv
          exact hslot
      · rw [Option.some_or]
        exact slot?_of_onward hp (service.onward_call s c) hs
    · rw [service.slot?_call_of_other hp fun h => hf h.2, if_pos hid, if_neg hf, Option.map_none, Option.or_none]
  · rw [service.slot?_call_of_other hp fun h => hid h.1, if_neg hid, Option.map_none, Option.or_none]

theorem slot?_calls_of_missing (missing : p.links.get? relation = none) :
    ∀ (cs : List ProxyCall) {s : Traces S} {q : Proxy S t}, s.proxy? id = some ⟨t, q⟩ → p.Onward q →
      (service.calls cs s).slot? id relation =
        (s.slot? id relation).or ((p.table.excused? id relation cs).map Handler.emptyValue)
  | [], s, q, _, _ => Option.or_none.symm
  | c :: cs, s, q, hq, on => by
    have hfirst := service.slot?_call_of_missing hq (on.links ▸ missing) c
    obtain ⟨q', hq', on'⟩ := service.onward_call s c id t q hq
    have hrest := slot?_calls_of_missing missing cs hq' (on.trans on')
    unfold AccessorTable.excused?
    rw [List.findSome?_cons]
    refine hrest.trans ?_
    rw [hfirst, on.table, Option.or_assoc]
    rcases (if c.id = id then p.table.excuse? relation c.method else none) with _ | a
    · rfl
    · rfl

/-- **A missing link that is needed is named, unless an association that may lack it was followed before.**  A call of
an accessor that needs its link, behind any calls of any proxies, sends nothing when there is no link for its relation.
It fails and names the relation as long as no earlier call of the proxy followed the relation for an association that
may lack its link, which is always so when the type declares none; behind such a call it succeeds with the empty value
of the first of these associations. -/
theorem missing_link (service : Service S) {t : S.Ty} {r : Resource (S.Content t)} {s₀ s₁ : Traces S} {id : Nat}
    (made : (service.create t r).after s₀ = (.ok id, s₁)) :
    ∃ table, S.table t = .ok table ∧ ∀ relation, r.links.get? relation = none →
      ∀ (before : List ProxyCall) (c : ProxyCall) (a : Association S.Ty), c.id = id →
        (table.lookup c.method).association? = some a → table.followed? c.method = some relation → a.mayLack = false →
        let s := service.calls before s₁
        ((service.call c).after s).2.requests = s.requests ∧
        ((service.call c).after s).1 = (match table.excused? id relation before with
          | none => .error (.noSuchLink relation)
          | some b => .ok (.linked (Handler.emptyValue b))) ∧
        ((∀ method, table.excuse? relation method = none) →
          ((service.call c).after s).1 = .error (.noSuchLink relation)) := by
  obtain ⟨p₁, hp₁, fresh, hlinks⟩ := service.create_ok made
  refine ⟨p₁.table, fresh.table, ?_⟩
  rintro relation missing before c a rfl ha hf needed s
  rw [← hlinks] at missing
  have hslot := service.slot?_calls_of_missing missing before hp₁ (.refl p₁)
  rw [slot?_eq hp₁, fresh.memory, List.lookup_nil, Option.none_or] at hslot
  obtain ⟨p, hp, on⟩ := service.onward_calls before s₁ c.id t p₁ hp₁
  rw [← on.table] at ha hf
  obtain ⟨hrequests, hvalue⟩ := service.call_missing hp (on.links ▸ missing) ha hf
  rw [hslot, needed] at hvalue
  have hends : ((service.call c).after s).1 = match p₁.table.excused? c.id relation before with
      | none => .error (.noSuchLink relation)
      | some b => .ok (.linked (Handler.emptyValue b)) := by
    rw [hvalue]
    cases p₁.table.excused? c.id relation before <;> rfl
  refine ⟨hrequests, hends, fun unexcused => ?_⟩
  have hnone : p₁.table.excused? c.id relation before = none := by
    refine List.findSome?_eq_none_iff.2 fun c' _ => ?_
    rw [unexcused, ite_self]
  rw [hends, hnone]

end Service

namespace Family

def gadget : Resource Widget := ⟨{ name := "Gadget" }, []⟩

/-- A widget without links is asked for its owner, behind calls that follow other relations or need the link too. -/
theorem owner_missing :
    let made := ((service []).create Ty.widget gadget).after {}
    let before : List ProxyCall := [{ id := 0, method := "getSelf" }, { id := 0, method := "owner" }]
    let ask : ProxyCall := { id := 0, method := "getOwner" }
    let s := (service []).calls before made.2
    made.1.toOption = some 0 ∧ gadget.links.get? "owner" = none ∧
    (((service []).call ask).after s).1 = .error (.noSuchLink "owner") ∧
      (((service []).call ask).after s).2.requests = s.requests := by
  intro made before ask
  have hmade : made = (.ok 0, made.2) := rfl
  obtain ⟨table, htable, h⟩ := (service []).missing_link hmade
  have hlookup : (table.lookup ask.method).association? = some { target := Ty.parent, cardinality := .one } := by
    cases htable
    rfl
  have hfollowed : table.followed? ask.method = some "owner" := by cases htable; decide +kernel
  have hunexcused : table.excused? 0 "owner" before = none := by cases htable; rfl
  obtain ⟨hrequests, hends, -⟩ := h "owner" rfl before ask _ rfl hlookup hfollowed rfl
  rw [hunexcused] at hends
  exact ⟨rfl, rfl, hends, hrequests⟩

/-- **A missing link that is needed and not named**: the widget gives no owner after it was asked whether it is one. -/
theorem needed_link_excused :
    let made := ((service []).create Ty.widget gadget).after {}
    let s := (service []).calls [{ id := 0, method := "isOwner" }] made.2
    made.1.toOption = some 0 ∧ gadget.links.get? "owner" = none ∧
    (schema.table Ty.widget).toOption.map (fun table =>
        ((table.lookup "getOwner").association?.map (·.mayLack), table.followed? "getOwner")) =
      some (some false, some "owner") ∧
    (((service []).call { id := 0, method := "getOwner" }).after s).1 = .ok (.linked (.one Ty.child none)) := by
  intro made s
  exact ⟨rfl, rfl, by decide +kernel, rfl⟩

end Family
end Hypermedia
