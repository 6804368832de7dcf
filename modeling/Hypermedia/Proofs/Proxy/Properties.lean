import Hypermedia.Family.Schema
import Hypermedia.Proofs.Accessor.FieldName
import Hypermedia.Proofs.Accessor.Table
import Hypermedia.Proofs.Proxy.Accesses
/-!
# Properties of proxies

A plain property is read from the document of the content and written into it; which field that is, the name of the
accessor tells (`Property.useOf`).  Neither sends a request.  A name that is not declared reads the field of that very
name only if it is plain: another one reads a field of another name, or is taken for a setter (`field_by_name`).
-/
namespace Hypermedia

open Hypermedia.Action

variable {S : Schema} {t : S.Ty}

namespace Property

theorem run_nil (name : String) (content : S.Content t) :
    run name [] content = match useOf name with
      | .read field => (read name field content).map fun v => (.property v, content)
      | .write _ => .error (refused t name .setter) := by
  unfold run
  cases useOf name <;> rfl

theorem run_singleton (name : String) (value : Json) (content : S.Content t) :
    run name [value] content = match useOf name with
      | .read _ => .error (refused t name .getter)
      | .write field => (write name field value content).map fun c => (.updated, c) := by
  unfold run
  cases useOf name <;> rfl

end Property

namespace Service

variable (service : Service S) {s : Traces S} {id : Nat} {p : Proxy S t} {name : String}

/-- A call of a plain property works on the content. -/
theorem after_call_property {c : ProxyCall} (hp : s.proxy? c.id = some ⟨t, p⟩)
    (hrole : (p.table.lookup c.method).role = .property) :
    (service.call c).after s = match Property.run c.method c.args p.content with
      | .ok (v, content) => (.ok v, s.setProxy c.id { p with content })
      | .error e => (.error e, s) := by
  rw [service.after_call hp, run_chain, hrole, AccessorTable.lookup_name, after_ofOutcome]
  rcases Property.run c.method c.args p.content with e | ⟨v, content⟩ <;> rfl

/-- **Reading a property** gives the value of the field that the name stands for, and changes nothing. -/
theorem after_property (hp : s.proxy? id = some ⟨t, p⟩) (hrole : (p.table.lookup name).role = .property) :
    (service.property id name).after s = match Property.useOf name with
      | .read field => (Property.read name field p.content, s)
      | .write _ => (.error (Property.refused t name .setter), s) := by
  have hcall := service.after_call_property (c := { id, method := name }) hp hrole
  show (service.call { id, method := name } >>= _).after s = _
  rw [Property.run_nil] at hcall
  rcases huse : Property.useOf name with field | field
  · rcases hread : Property.read name field p.content with e | v
    · simp only [huse, hread, Except.map] at hcall ⊢
      rw [after_bind_error hcall]
    · simp only [huse, hread, Except.map] at hcall ⊢
      rw [after_bind_ok hcall, after_pure]
      show (_, s.setProxy id p) = _
      rw [setProxy_self hp]
  · simp only [huse] at hcall ⊢
    rw [after_bind_error hcall]

/-- **Writing a property** puts other content into the proxy if the value fits, and changes nothing otherwise. -/
theorem after_setProperty (hp : s.proxy? id = some ⟨t, p⟩) (hrole : (p.table.lookup name).role = .property)
    (value : Json) :
    (service.setProperty id name value).after s = match Property.useOf name with
      | .read _ => (.error (Property.refused t name .getter), s)
      | .write field => match Property.write name field value p.content with
        | .ok content => (.ok (), s.setProxy id { p with content })
        | .error e => (.error e, s) := by
  have hcall := service.after_call_property (c := { id, method := name, args := [value] }) hp hrole
  show (service.call { id, method := name, args := [value] } >>= _).after s = _
  rw [Property.run_singleton] at hcall
  rcases huse : Property.useOf name with field | field
  · simp only [huse] at hcall ⊢
    rw [after_bind_error hcall]
  · rcases hwrite : Property.write name field value p.content with e | content
    · simp only [huse, hwrite, Except.map] at hcall ⊢
      rw [after_bind_error hcall]
    · simp only [huse, hwrite, Except.map] at hcall ⊢
      rw [after_bind_ok hcall, after_pure]

/-- **Names and fields.**  A name that the table does not declare is asked for, in a proxy whose content has a field of
that name.  If the name is plain it gives the value of the field, and changes nothing.  Any other name never reads the
field: it is taken for a setter and refused, or it reads a field of another name, and is refused if there is none. -/
theorem field_by_name (service : Service S) {t : S.Ty} {s : Traces S} {id : Nat} {p : Proxy S t} {fields : Json.Fields}
    {name : String} {v : Json} (hp : s.proxy? id = some ⟨t, p⟩)
    (hcontent : (S.entity t).encode p.content = .ok (.object fields)) (hv : Json.Fields.find? fields name = some v)
    (undeclared : ∀ a ∈ p.table.accessors, a.name ≠ name) :
    let asked := (service.property id name).after s
    (Property.Plain name → asked = (.ok v, s)) ∧
    (¬ Property.Plain name →
      (∃ field, Property.useOf name = .write field ∧ asked = (.error (Property.refused t name .setter), s)) ∨
      ∃ field, field ≠ name ∧ Property.useOf name = .read field ∧
        asked = (match Json.Fields.find? fields field with
          | some w => .ok w
          | none => .error (Property.refused t name .existingProperty), s)) := by
  intro asked
  have hrole : (p.table.lookup name).role = .property := by rw [AccessorTable.lookup_of_undeclared undeclared]
  have hasked := service.after_property hp hrole
  have hread : ∀ field, Property.read name field p.content = match Json.Fields.find? fields field with
      | some w => .ok w
      | none => .error (Property.refused t name .existingProperty) := by
    intro field
    unfold Property.read EntityType.toJson
    rw [hcontent]
    rfl
  constructor
  · intro plain
    rw [Property.useOf_self_iff.2 plain] at hasked
    simp only [hread, hv] at hasked
    exact hasked
  · intro other
    rcases huse : Property.useOf name with field | field
    · rw [huse] at hasked
      simp only [hread] at hasked
      exact .inr ⟨field, fun he => other (Property.useOf_self_iff.1 (he ▸ huse)), rfl, hasked⟩
    · rw [huse] at hasked
      exact .inl ⟨field, rfl, hasked⟩

end Service

namespace Family

/-- A document with a field of a plain name, and one of a name that begins like a test. -/
def report : Resource Json.Fields := ⟨[("title", .text "Delay"), ("issue", .text "late")], []⟩

/-- The title of a document is read by its name. -/
theorem title_by_name :
    let made := ((service []).create Ty.document report).after {}
    made.1 = .ok 0 ∧ ((service []).property 0 "title").after made.2 = (.ok (.text "Delay"), made.2) := by
  intro made
  have hnumber : made.1 = .ok 0 := by decide +kernel
  have hmade : made = (.ok 0, made.2) := by rw [← hnumber]
  obtain ⟨p, table, hp, htable, hproxy⟩ := (service []).create_made hmade
  obtain ⟨-, rfl, -, -, hcontent⟩ := (service []).proxyOf_ok hproxy
  have hfields : report.content = p.content := Except.ok.inj hcontent
  have haccessors : [] = p.table.accessors := congrArg AccessorTable.accessors (Except.ok.inj htable)
  have htitle : Property.Plain "title" := Property.useOf_self_iff.1 (by decide +kernel)
  have hdocument : (schema.entity Ty.document).encode p.content = .ok (.object report.content) := by
    rw [← hfields]
    rfl
  have undeclared : ∀ a ∈ p.table.accessors, a.name ≠ "title" := by
    rw [← haccessors]
    rintro a ⟨⟩
  exact ⟨hnumber, ((service []).field_by_name hp hdocument rfl undeclared).1 htitle⟩

/-- **A field that its own name does not read**: the issue of a document is looked for under `sue`. -/
theorem issue_unread :
    let made := ((service []).create Ty.document report).after {}
    made.1 = .ok 0 ∧ Json.Fields.find? report.content "issue" = some (.text "late") ∧
      ((service []).property 0 "issue").after made.2 =
        (.error (Property.refused (S := schema) Ty.document "issue" .existingProperty), made.2) := by
  refine ⟨by decide +kernel, rfl, rfl⟩

end Family
end Hypermedia
