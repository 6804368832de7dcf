import Hypermedia.Proofs.Accessor.Table
import Hypermedia.Proofs.Proxy.Calls
/-!
# The address of a proxy

A proxy as it was made gives the address that it was made with, whether its type declares an accessor for the address or
not, and asking for the address changes nothing.
-/
namespace Hypermedia

open Hypermedia.Action

variable {S : Schema} {t : S.Ty}

theorem Uri.same_self (u : Uri) : u.same u = true := beq_self_eq_true _

theorem AddressSlot.set_get {α : Type} {slot : AddressSlot α} {a : α} {u : Uri} (h : slot.get a = some u) :
    slot.set a u = .ok (slot.put a u) := by
  unfold AddressSlot.set
  rw [h]
  simp only [u.same_self, if_true]

/-- Setting the address that content has changes nothing. -/
theorem EntityType.assign_known {κ α : Type} (e : EntityType κ α) {a : α} {u? : Option Uri}
    (h : ∀ slot u, e.address? = some slot → u? = some u → slot.get a = some u) : e.assign a u? = .ok a := by
  unfold EntityType.assign
  rcases hs : e.address? with _ | slot
  · rfl
  rcases hu : u? with _ | u
  · rfl
  have hget := h slot u hs hu
  simp only [AddressSlot.set_get hget, e.put_get slot (EntityType.slot_of_address? hs) a u hget]

theorem AddressSlot.eq_put_of_set {α : Type} {slot : AddressSlot α} {a b : α} {u : Uri} (h : slot.set a u = .ok b) :
    b = slot.put a u := by
  unfold AddressSlot.set at h
  split at h
  · cases h
    rfl
  · split at h
    · cases h
      rfl
    · cases h

/-- Content that was assigned an address has it in its place, if it changed at all. -/
theorem EntityType.of_assign {κ α : Type} {e : EntityType κ α} {a b : α} {u? : Option Uri} (h : e.assign a u? = .ok b) :
    b = a ∨ ∃ slot u, e.slot = some slot ∧ b = slot.put a u := by
  unfold EntityType.assign at h
  split at h
  · rename_i slot u hs
    exact .inr ⟨slot, u, slot_of_address? hs, AddressSlot.eq_put_of_set h⟩
  · cases h
    exact .inl rfl

/-- **An address that is assigned is not part of the document.** -/
theorem EntityType.encode_assign {κ α : Type} {e : EntityType κ α} {a b : α} {u? : Option Uri}
    (h : e.assign a u? = .ok b) : e.encode b = e.encode a := by
  rcases of_assign h with rfl | ⟨slot, u, hs, rfl⟩
  · rfl
  · exact e.encode_put slot hs a u

theorem EntityType.contentKind_assign {κ α : Type} {e : EntityType κ α} {a b : α} {u? : Option Uri}
    (h : e.assign a u? = .ok b) : e.contentKind b = e.contentKind a := by
  rcases of_assign h with rfl | ⟨slot, u, hs, rfl⟩
  · rfl
  · exact e.contentKind_put slot hs a u

theorem Schema.found_table {S : Schema} {t : S.Ty} {table : AccessorTable S.Ty} (h : S.table t = .ok table) :
    AccessorTable.Found table.accessors := by
  unfold Schema.table at h
  rcases hd : AccessorTable.ofDeclarations S.kind (S.kind t) (S.entity t).declarations with _ | table'
  · rw [hd] at h; cases h
  · rw [hd] at h; cases h
    exact AccessorTable.found_ofDeclarations hd

namespace Service

variable (service : Service S) {s : Traces S} {id : Nat} {p : Proxy S t}

/-- The content of a proxy as it was made has the address already. -/
theorem Fresh.assign (fresh : service.Fresh p) : (S.entity t).assign p.content p.selfUri = .ok p.content :=
  (S.entity t).assign_known fresh.address

/-- The address in the links is that of the proxy, and the content has it already. -/
theorem readAddress_known (hself : p.links.selfUri? service.base = .ok p.selfUri)
    (hassign : (S.entity t).assign p.content p.selfUri = .ok p.content) :
    Handler.readAddress service.base p.links p.toProxyState = .ok (.resourceId p.selfUri, p.toProxyState) := by
  unfold Handler.readAddress
  rw [hself]
  simp only [bind, Except.bind]
  rw [hassign]
  rfl

/-- Asking for the address of a proxy whose content has it. -/
theorem after_resourceId_known (hp : s.proxy? id = some ⟨t, p⟩)
    (hself : p.links.selfUri? service.base = .ok p.selfUri) (htable : S.table t = .ok p.table)
    (hassign : (S.entity t).assign p.content p.selfUri = .ok p.content) :
    (service.resourceId id).after s = (.ok p.selfUri, s) := by
  unfold resourceId
  rw [after_bind_ok (after_proxy hp)]
  simp only
  rcases ha : p.table.resourceId? with _ | accessor
  · rfl
  have hrole := AccessorTable.role_resourceId (Schema.found_table htable) ha
  have hcall : (service.invoke id accessor.name []).after s = (.ok (.resourceId p.selfUri), s) := by
    have hafter := service.after_call (c := { id, method := accessor.name }) hp
    rw [run_chain, hrole] at hafter
    simp only [after_ofOutcome, service.readAddress_known hself hassign] at hafter
    rw [setProxy_self hp] at hafter
    exact hafter
  simp only
  rw [after_bind_ok hcall, after_pure]

/-- **Asking for the address** of a proxy as it was made. -/
theorem after_resourceId (hp : s.proxy? id = some ⟨t, p⟩) (fresh : service.Fresh p) :
    (service.resourceId id).after s = (.ok p.selfUri, s) :=
  service.after_resourceId_known hp fresh.selfUri fresh.table (fresh.assign service)

end Service
end Hypermedia
