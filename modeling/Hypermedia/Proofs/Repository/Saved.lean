import Hypermedia.Proofs.Collection.Place
import Hypermedia.Proofs.Repository.Recovery
/-!
# Saved entities

An entity that was saved has an id: its own, the one that its address spells, or else the one that it has when it is
read back.  It also has its address, unless it was read back as content of a type whose proxies do not see the place of
the address (`saved_identified`, `lamp_unaddressed`).
-/
namespace Hypermedia

open Hypermedia.Action

variable {S : Schema} {t : S.Ty}

/-- Content without an address has the one that it is assigned just if proxies see the place for it. -/
theorem EntityType.get_of_assign {κ α : Type} {e : EntityType κ α} {slot : AddressSlot α} {a b : α} {u : Uri}
    (hslot : e.slot = some slot) (blank : e.Blank a) (h : e.assign a (some u) = .ok b) :
    slot.get b = if e.exposed then some u else none := by
  rcases hexposed : e.exposed with _ | _
  · have haddress : e.address? = none := if_neg (by rw [hexposed]; decide)
    unfold EntityType.assign at h
    rw [haddress] at h
    cases h
    exact blank slot hslot
  · have haddress : e.address? = some slot := (if_pos hexposed).trans hslot
    have hends := EntityType.assign_ends blank (some u) fun _ => False
    rw [h] at hends
    exact hends.of_ok slot haddress

namespace Collection

theorem selfUri?_settled {base uri : Uri} {r : Resource (S.Content t)} {u? : Option Uri}
    (h : (settled uri r).links.selfUri? base = .ok u?) : ∃ u, u? = some u := by
  obtain ⟨l, hl⟩ : ∃ l, (settled uri r).links.self? = some l := by
    unfold settled
    rcases hself : r.links.self? with _ | l
    · exact ⟨_, Links.self?_append hself uri.text false⟩
    · exact ⟨l, hself⟩
  rw [Links.selfUri?_eq hl] at h
  rcases hu : base.resolve l.expand with e | u <;> rw [hu] at h <;> cases h
  exact ⟨u, rfl⟩

/-- **A resource that was read has an address**, and its content has it just if proxies see the place for it. -/
theorem get?_addressed {c : Collection S t} {slot : AddressSlot (S.Content t)} (hslot : (S.entity t).slot = some slot)
    {uri : Uri} {id : Nat} {s s' : Traces S} (h : (c.get? uri).after s = (.ok (some id), s')) :
    ∃ (p : Proxy S t) (u : Uri), s'.proxy? id = some ⟨t, p⟩ ∧ p.selfUri = some u ∧
      slot.get p.content = if (S.entity t).exposed then some u else none := by
  obtain ⟨r?, s₁, hread, h⟩ := of_after_bind h
  have hblank : ∀ r, r? = some r → (S.entity t).Blank r.content := by
    have hends := (c.service.getResource?_receives t uri s).ends fun _ hr => by cases hr
    rw [hread] at hends
    exact hends.of_ok
  rcases r? with _ | r
  · cases h
  obtain ⟨id', s₂, hmade, h⟩ := of_after_bind h
  cases h
  obtain ⟨p, table, hp, -, hproxy⟩ := c.service.create_made hmade
  obtain ⟨-, -, -, hself, hcontent⟩ := c.service.proxyOf_ok hproxy
  obtain ⟨u, hu⟩ := selfUri?_settled hself
  rw [content_settled, hu] at hcontent
  exact ⟨p, u, hp, hu, EntityType.get_of_assign hslot (hblank r rfl) hcontent⟩

end Collection

namespace Repository

variable {r : Repository S t} {a b : S.Content t} {uri : Uri} {s s' : Traces S}

/-- **An entity that was read back has an id**, and has an address just if proxies see the place for it. -/
theorem fetched_ok (h : (r.fetched uri).after s = (.ok b, s')) :
    (r.identity.id b).isSome ∧ ∃ u, r.identity.slot.get b = if (S.entity t).exposed then some u else none := by
  obtain ⟨id?, s₁, hread, h⟩ := of_after_bind h
  rcases id? with _ | id
  · cases h
  obtain ⟨p, u, hp, -, hget⟩ := Collection.get?_addressed r.identified.slot_eq hread
  obtain ⟨content, s₂, hcontent, h⟩ := of_after_bind h
  rw [after_contentOf hp] at hcontent
  cases hcontent
  rcases hid : r.identity.id p.content with _ | i
  · rw [hid] at h
    cases h
  · rw [hid] at h
    cases h
    exact ⟨by rw [hid]; rfl, u, hget⟩

/-- **How an entity gets its id** once it has its address: it has one already, the address spells it, or it is read
back. -/
theorem withId_ok (hget : r.identity.slot.get a = some uri) (h : (r.withId uri a).after s = (.ok b, s')) :
    (r.identity.id b).isSome ∧
    ((r.identity.id a).isSome ∨ (r.idOf? uri).isSome → r.identity.slot.get b = some uri) ∧
    (r.identity.id a = none → r.idOf? uri = none →
      ∃ u, r.identity.slot.get b = if (S.entity t).exposed then some u else none) := by
  unfold withId at h
  rcases hid : r.identity.id a with _ | i
  · rcases hread : r.idOf? uri with _ | i
    · simp only [hid, hread] at h
      obtain ⟨hb, hu⟩ := fetched_ok h
      exact ⟨hb, by simp, fun _ _ => hu⟩
    · simp only [hid, hread] at h
      cases h
      refine ⟨by rw [r.identity.id_setId]; rfl, fun _ => ?_, fun _ h => by cases h⟩
      rw [r.identity.get_setId, hget]
  · simp only [hid] at h
    cases h
    exact ⟨by rw [hid]; rfl, fun _ => hget, fun h => by cases h⟩

/-- **A saved entity has an id, and mostly its address.**  An entity was saved, whatever it was and whatever the server
answered, under some address.  Then it has an id.  If it had one before, or its address spells one, it has that address.
Otherwise it was read back, and then it has an address just if proxies of its type see the place for it. -/
theorem saved_identified (r : Repository S t) {a b : S.Content t} {s s' : Traces S}
    (h : (r.save a).after s = (.ok b, s')) :
    ∃ uri s₁, (r.storeUri a).after s = (.ok uri, s₁) ∧ (r.identity.id b).isSome ∧
      ((r.identity.id a).isSome ∨ (r.idOf? uri).isSome → r.identity.slot.get b = some uri) ∧
      (r.identity.id a = none → r.idOf? uri = none →
        ((r.identity.slot.get b).isSome ↔ (S.entity t).exposed = true)) := by
  obtain ⟨uri, s₁, hstored, h⟩ := of_after_bind h
  obtain ⟨a', s₂, hset, h⟩ := of_after_bind h
  rw [after_ofOutcome, Prod.mk.injEq] at hset
  obtain ⟨hset, rfl⟩ := hset
  have hid : r.identity.id a' = r.identity.id a := by rw [AddressSlot.eq_put_of_set hset, r.identity.id_put]
  obtain ⟨hb, hknown, hread⟩ := withId_ok (Service.get_of_set hset) h
  rw [hid] at hknown hread
  refine ⟨uri, s₁, hstored, hb, hknown, fun hnone hunread => ?_⟩
  obtain ⟨u, hu⟩ := hread hnone hunread
  rw [hu]
  cases (S.entity t).exposed <;> simp

end Repository

namespace Family

/-- A server that creates what is posted to a collection under an address, and knows the resource there. -/
def creating (collection location uri : String) (stored : Json) : Script :=
  [ { method := "POST"
      uri := collection
      replies := [.ok { status := 201, location := some location }] },
    { method := "GET"
      uri := uri
      replies := [.ok (answering stored)] }]

def lisa : Person := { name := "Lisa" }

/-- A parent whose address spells no number is read back, with number and address. -/
theorem lisa_identified :
    let r := parents (creating "http://host/parents" "/parents/new" "http://host/parents/new"
      (.object [("id", Json.ofNat 5), ("name", .text "Lisa")]))
    ∃ saved s', (r.save lisa).after {} = (.ok saved, s') ∧ saved.id.isSome ∧ saved.uri.isSome := by
  intro r
  have hok : ((r.save lisa).after {}).1.isOk = true := by decide +kernel
  rcases hsave : (r.save lisa).after {} with ⟨e | saved, s'⟩
  · rw [hsave] at hok
    cases hok
  obtain ⟨uri, s₁, hstored, hid, -, hread⟩ := r.saved_identified hsave
  have huri : ((r.storeUri lisa).after {}).1 = .ok (base.append "/parents/new") := by decide +kernel
  rw [hstored] at huri
  cases huri
  exact ⟨saved, s', rfl, hid, (hread rfl (by decide +kernel)).2 rfl⟩

def items (script : Script) : Repository schema Ty.item where
  collection := { service := service script, uri := base.append "/items/all/", batchUri := base.append "/batch" }
  identified := itemIdentified
  retry := .once

/-- **A saved entity without an address**: a lamp is created under an address without segments and is read back, with
its code but without the address that it was created under. -/
theorem lamp_unaddressed :
    let r := items (creating "http://host/items/all/" "mailto:x" "mailto:x"
      (.object [("code", .text "1"), ("name", .text "Lamp")]))
    let saved := ((r.save { name := "Lamp" }).after {}).1.toOption
    ((r.storeUri { name := "Lamp" }).after {}).1.toOption.map Uri.text = some "mailto:x" ∧
    saved.map Item.code = some (some "1") ∧ saved.map Item.uri = some none := by
  refine ⟨by decide +kernel, by decide +kernel, by decide +kernel⟩

end Family
end Hypermedia
