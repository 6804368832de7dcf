import Hypermedia.Proofs.Entity.Fields
import Hypermedia.Proofs.Proxy.OneAddress
import Hypermedia.Proofs.Proxy.PropertyRole
/-!
# Properties that are written

A property is written into the document of the content, and other content is read from that document.  So a write that
does not fit changes nothing, and one that fits changes one field: how the others fare, the type tells, which may leave
out a null (`EntityType.GivesBack`).  The getter of the property reads then what was written (`property_written`).  A
field that tells the kind of the content is one that takes others with it (`snowball_changed`).
-/
namespace Hypermedia

open Hypermedia.Action
open Json (Fields)

variable {S : Schema} {t : S.Ty}

namespace Property

variable {accessor field key : String} {value v : Json} {content updated : S.Content t}

/-- **A write that fits, taken apart**: the field is there, the document with another value in it is read as content of
the same kind, and that gets the address of the content that it replaces. -/
theorem of_write (h : write accessor field value content = .ok updated) :
    ∃ fields decoded, (S.entity t).encode content = .ok (.object fields) ∧ (Fields.find? fields field).isSome ∧
      (S.entity t).decode ((S.entity t).contentKind content) (.object (Fields.put fields field value)) = .ok decoded ∧
      (S.entity t).assign decoded ((S.entity t).address?.bind (·.get content)) = .ok updated := by
  unfold write replaceField EntityType.toJson Failure.encoded at h
  rcases hdocument : (S.entity t).encode content with reason | _ | _ | _ | _ | _ | fields
  case ok.object =>
    simp only [hdocument, mapError_ok, bind, Except.bind] at h
    rcases hsome : (Fields.find? fields field).isSome with _ | _
    · simp only [hsome] at h
      cases h
    · rcases hdecoded : (S.entity t).decode ((S.entity t).contentKind content)
          (.object (Fields.put fields field value)) with e | decoded
      · simp only [hsome, if_true, hdecoded, Failure.decoded] at h
        cases h
      · simp only [hsome, if_true, hdecoded, Failure.decoded] at h
        exact ⟨fields, decoded, rfl, hsome, hdecoded, h⟩
  all_goals
    simp only [hdocument, Except.mapError, bind, Except.bind] at h
    cases h

theorem field?_of_write (h : write accessor field value content = .ok updated) :
    ((S.entity t).field? content field).isSome := by
  obtain ⟨fields, _, hfields, hsome, -⟩ := of_write h
  rw [EntityType.field?_of_encode hfields]
  exact hsome

theorem address_of_write (h : write accessor field value content = .ok updated) {slot : AddressSlot (S.Content t)}
    (hs : (S.entity t).address? = some slot) : slot.get updated = slot.get content := by
  have hhas : (S.entity t).Has content (slot.get content) := by
    intro slot' hs'
    rw [hs, Option.some.injEq] at hs'
    rw [hs']
  have hends := write_ends accessor field value hhas
  rw [h] at hends
  exact hends.of_ok slot hs

/-- **The new content is what is read from the document with the value in the field**, but for its address. -/
theorem read_of_write (h : write accessor field value content = .ok updated) :
    ∃ fields decoded, (S.entity t).encode content = .ok (.object fields) ∧
      (S.entity t).decode ((S.entity t).contentKind content) (.object (Fields.put fields field value)) = .ok decoded ∧
      (S.entity t).contentKind updated = (S.entity t).contentKind decoded ∧
      ∀ key, (S.entity t).field? updated key = (S.entity t).field? decoded key := by
  obtain ⟨fields, decoded, hfields, -, hdecoded, hassigned⟩ := of_write h
  refine ⟨fields, decoded, hfields, hdecoded, EntityType.contentKind_assign hassigned, fun key => ?_⟩
  unfold EntityType.field?
  rw [EntityType.encode_assign hassigned]

theorem kind_of_write (keeps : (S.entity t).KeepsKind) (h : write accessor field value content = .ok updated) :
    (S.entity t).contentKind updated = (S.entity t).contentKind content := by
  obtain ⟨_, decoded, -, hdecoded, hkind, -⟩ := read_of_write h
  rw [hkind, keeps content decoded _ hdecoded]

/-- The document that the new content is read from has the value in the field, and the other fields as they were.  The
content is written like what was read there, and has its kind. -/
theorem document_of_write (keyed : (S.entity t).Keyed content) (h : write accessor field value content = .ok updated) :
    ∃ fields decoded, (Fields.keys fields).Nodup ∧ Fields.find? fields field = some value ∧
      (∀ key, key ≠ field → Fields.find? fields key = (S.entity t).field? content key) ∧
      (S.entity t).decode ((S.entity t).contentKind content) (.object fields) = .ok decoded ∧
      (∀ key, (S.entity t).field? updated key = (S.entity t).field? decoded key) ∧
      (S.entity t).contentKind updated = (S.entity t).contentKind decoded := by
  obtain ⟨fields, decoded, hfields, hdecoded, hkind, hwritten⟩ := read_of_write h
  refine ⟨Fields.put fields field value, decoded, Fields.nodup_put value (keyed fields hfields),
    Fields.find?_put_self value fields, fun key hkey => ?_, hdecoded, hwritten, hkind⟩
  rw [Fields.find?_put_of_ne value hkey, EntityType.field?_of_encode hfields]
  rfl

section GivesBack

variable (gives : (S.entity t).GivesBack) (keyed : (S.entity t).Keyed content)
  (h : write accessor field value content = .ok updated)
  (hkind : (S.entity t).contentKind updated = (S.entity t).contentKind content)
include gives keyed h hkind

/-- **A write that keeps the kind keeps the other fields**; a null may be left out. -/
theorem other_of_write (hkey : key ≠ field) (hv : (S.entity t).field? content key = some v) :
    (S.entity t).field? updated key = some v ∨ v = .null ∧ (S.entity t).field? updated key = none := by
  obtain ⟨fields, decoded, hkeys, -, hothers, hdecoded, hwritten, hsame⟩ := document_of_write keyed h
  have known : (S.entity t).Knows decoded key := ⟨content, hkind.symm.trans hsame, by rw [hv]; rfl⟩
  rw [hwritten]
  exact gives _ _ decoded hkeys hdecoded key v known (by rw [hothers key hkey, hv])

/-- A steady type leaves out nothing. -/
theorem other_of_write_steady (steady : (S.entity t).Steady) (hkey : key ≠ field)
    (hv : (S.entity t).field? content key = some v) : (S.entity t).field? updated key = some v := by
  obtain ⟨fields, decoded, hkeys, -, hothers, hdecoded, hwritten, hsame⟩ := document_of_write keyed h
  rw [hwritten]
  exact gives.steady steady hkeys hdecoded (by rw [hothers key hkey, hv]) (hkind.symm.trans hsame) hv

/-- **What was written is there**, unless it is a null. -/
theorem value_of_write (hnull : value ≠ .null) : (S.entity t).field? updated field = some value := by
  obtain ⟨fields, decoded, hkeys, hvalue, -, hdecoded, hwritten, hsame⟩ := document_of_write keyed h
  have known : (S.entity t).Knows decoded field := ⟨content, hkind.symm.trans hsame, field?_of_write h⟩
  rw [hwritten]
  exact gives.not_null hkeys hdecoded known hvalue hnull

end GivesBack

theorem read_eq_ok {name : String} : read name field content = .ok v ↔ (S.entity t).field? content field = some v := by
  unfold read EntityType.toJson EntityType.field?
  rcases (S.entity t).encode content with reason | document
  · exact ⟨nofun, nofun⟩
  · simp only [Failure.encoded, mapError_ok, bind, Except.bind, Except.toOption, Option.bind_some]
    rcases document.field? field with _ | w <;> simp [pure, Except.pure, throw, throwThe, MonadExceptOf.throw]

end Property

namespace Service

variable (service : Service S) {s : Traces S} {id : Nat} {p : Proxy S t} {name : String}

/-- **Only fields that are there are read.** -/
theorem read_of_property {v : Json} (hp : s.proxy? id = some ⟨t, p⟩)
    (h : ((service.property id name).after s).1 = .ok v) :
    ∃ field, Property.useOf name = .read field ∧ (S.entity t).field? p.content field = some v := by
  have hrole : (p.table.lookup name).role = .property := by
    refine service.role_of_property (x := .property id name) rfl hp ?_
    show ((discard (service.property id name)).after s).1 = _
    rw [after_discard, h]
    rfl
  rw [service.after_property hp hrole] at h
  rcases huse : Property.useOf name with field | field
  · rw [huse] at h
    exact ⟨field, rfl, Property.read_eq_ok.1 h⟩
  · rw [huse] at h
    cases h

/-- **Only fields that are there are written to.** -/
theorem write_of_setProperty {value : Json} (hp : s.proxy? id = some ⟨t, p⟩)
    (h : ((service.setProperty id name value).after s).1 = .ok ()) :
    ∃ field content, Property.useOf name = .write field ∧ Property.write name field value p.content = .ok content ∧
      ((service.setProperty id name value).after s).2 = s.setProxy id { p with content } := by
  have hrole : (p.table.lookup name).role = .property :=
    service.role_of_property (x := .setProperty id name value) rfl hp h
  rw [service.after_setProperty hp hrole value] at h ⊢
  rcases huse : Property.useOf name with field | field
  · rw [huse] at h
    cases h
  · rcases hc : Property.write name field value p.content with e | content
    · simp only [huse, hc] at h
      cases h
    · exact ⟨field, content, rfl, hc, by simp only [hc]⟩

/-- A write that succeeds puts what was written into the proxy. -/
theorem proxy?_of_setProperty {value : Json} {field : String} {content : S.Content t} (hp : s.proxy? id = some ⟨t, p⟩)
    (h : ((service.setProperty id name value).after s).1 = .ok ()) (huse : Property.useOf name = .write field)
    (hwrite : Property.write name field value p.content = .ok content) :
    ((service.setProperty id name value).after s).2.proxy? id = some ⟨t, { p with content }⟩ := by
  obtain ⟨field', content', huse', hwrite', htraces⟩ := service.write_of_setProperty hp h
  rw [huse, Property.Use.write.injEq] at huse'
  rw [← huse', hwrite, Except.ok.injEq] at hwrite'
  rw [htraces, ← hwrite']
  exact Traces.proxy?_setProxy_self hp _

/-- A write that fails changes nothing. -/
theorem unchanged_of_setProperty {value : Json} {failure : Failure} (hp : s.proxy? id = some ⟨t, p⟩)
    (hrole : (p.table.lookup name).role = .property)
    (h : ((service.setProperty id name value).after s).1 = .error failure) :
    ((service.setProperty id name value).after s).2 = s := by
  rw [service.after_setProperty hp hrole value] at h ⊢
  rcases huse : Property.useOf name with field | field
  · simp only
  · rcases hc : Property.write name field value p.content with e | content
    · simp only [hc]
    · simp only [huse, hc] at h
      cases h

/-- **Properties are written whole or not at all.**  A proxy has an accessor that sets a property and one that gets it.
If the write fails, whatever the reason, everything is as before.  If it succeeds, no request was sent and only the
content of the proxy is another one: the field was there, and the new content has the kind and the fields of what is
read from the document with the value in the field, under the kind of the old one.  So its kind is the same if the type
keeps kinds; and its address is the same in any case.  If the kind is the same and the type gives back its fields, all
others are as they were, but for a null that is left out (which a steady type never does), and the getter gives the
value that was written, if that is no null.  Whatever the name and the role of an accessor are, a field that is not
there is neither read nor written to. -/
theorem property_written (service : Service S) {t : S.Ty} {s : Traces S} {id : Nat} {p : Proxy S t} {stem : String}
    (hp : s.proxy? id = some ⟨t, p⟩) (hstem : stem ≠ "") (hset : (p.table.lookup ("set" ++ stem)).role = .property)
    (hget : (p.table.lookup ("get" ++ stem)).role = .property) (value : Json) :
    let e := S.entity t
    let field := Text.decapitalize stem
    let written := (service.setProperty id ("set" ++ stem) value).after s
    (∀ failure, written.1 = .error failure → written.2 = s) ∧
    (written.1 = .ok () → ∃ content : S.Content t,
      written.2 = s.setProxy id { p with content } ∧ written.2.requests = s.requests ∧
      (e.field? p.content field).isSome ∧
      (∃ fields decoded, e.encode p.content = .ok (.object fields) ∧
        e.decode (e.contentKind p.content) (.object (Fields.put fields field value)) = .ok decoded ∧
        e.contentKind content = e.contentKind decoded ∧ ∀ key, e.field? content key = e.field? decoded key) ∧
      (∀ slot, e.address? = some slot → slot.get content = slot.get p.content) ∧
      (e.KeepsKind → e.contentKind content = e.contentKind p.content) ∧
      (e.contentKind content = e.contentKind p.content → e.GivesBack → e.Keyed p.content →
        (∀ key v, key ≠ field → e.field? p.content key = some v →
          e.field? content key = some v ∨ v = .null ∧ e.field? content key = none) ∧
        (e.Steady → ∀ key v, key ≠ field → e.field? p.content key = some v → e.field? content key = some v) ∧
        (value ≠ .null → (service.property id ("get" ++ stem)).after written.2 = (.ok value, written.2)))) ∧
    ∀ name,
      (∀ v, ((service.property id name).after s).1 = .ok v →
        ∃ field, Property.useOf name = .read field ∧ e.field? p.content field = some v) ∧
      (∀ v, ((service.setProperty id name v).after s).1 = .ok () →
        ∃ field, Property.useOf name = .write field ∧ (e.field? p.content field).isSome) := by
  intro e field written
  refine ⟨fun failure hfailure => service.unchanged_of_setProperty hp hset hfailure, fun hok => ?_,
    fun name => ⟨fun v hv => service.read_of_property hp hv, fun v hv => ?_⟩⟩
  · obtain ⟨field', content, huse, hwrite, htraces⟩ := service.write_of_setProperty hp hok
    rw [Property.useOf_setter hstem, Property.Use.write.injEq] at huse
    subst huse
    refine ⟨content, htraces, by rw [htraces]; rfl, Property.field?_of_write hwrite, Property.read_of_write hwrite,
      fun slot hs => Property.address_of_write hwrite hs, fun keeps => Property.kind_of_write keeps hwrite,
      fun hkind gives keyed => ⟨fun key v hkey hv => Property.other_of_write gives keyed hwrite hkind hkey hv,
        fun steady key v hkey hv => Property.other_of_write_steady gives keyed hwrite hkind steady hkey hv,
        fun hnull => ?_⟩⟩
    have hafter := service.after_property (Traces.proxy?_setProxy_self hp ({ p with content } : Proxy S t)) hget
    rw [Property.useOf_getter hstem] at hafter
    rw [htraces, hafter]
    simp only [Property.read_eq_ok.2 (Property.value_of_write gives keyed hwrite hkind hnull)]
  · obtain ⟨field', content, huse, hwrite, -⟩ := service.write_of_setProperty hp hv
    exact ⟨field', huse, Property.field?_of_write hwrite⟩

end Service

namespace Family

def bartender : Resource Person :=
  ⟨{ id := some 7, name := "Moe" }, [⟨"self", "http://host/parents/7", false⟩]⟩

/-- A parent that is given another name keeps number, address and kind, and gives the new name then. -/
theorem bartender_renamed :
    let made := ((service []).create Ty.parent bartender).after {}
    let written := ((service []).setProperty 0 ("set" ++ "Name") (.text "Moses")).after made.2
    let e := schema.entity Ty.parent
    made.1 = .ok 0 ∧ e.GivesBack ∧ e.Steady ∧ e.KeepsKind ∧ written.1 = .ok () ∧
    ((service []).property 0 ("get" ++ "Name")).after written.2 = (.ok (.text "Moses"), written.2) ∧
    ∃ p q : Proxy schema Ty.parent, made.2.proxy? 0 = some ⟨Ty.parent, p⟩ ∧ written.2.proxy? 0 = some ⟨Ty.parent, q⟩ ∧
      e.field? q.content "id" = some (Json.ofNat 7) ∧ q.content.uri = p.content.uri ∧ q.kind = p.kind := by
  intro made written e
  obtain ⟨gives, steady, keeps⟩ := written_as_read Ty.parent (by decide)
  have hnumber : made.1 = .ok 0 := by decide +kernel
  have hmade : made = (.ok 0, made.2) := by rw [← hnumber]
  have hok : written.1 = .ok () := by decide +kernel
  obtain ⟨p, table, hp, htable, hproxy⟩ := (service []).create_made hmade
  obtain ⟨-, rfl, -, hself, hcontent⟩ := (service []).proxyOf_ok hproxy
  have hdocument : e.encode p.content = e.encode bartender.content := EntityType.encode_assign hcontent
  have keyed : e.Keyed p.content := by
    intro fields hfields
    rw [hdocument] at hfields
    cases hfields
    decide
  have hset : (p.table.lookup ("set" ++ "Name")).role = .property := by
    rw [← Except.ok.inj htable]
    rfl
  have hget : (p.table.lookup ("get" ++ "Name")).role = .property := by
    rw [← Except.ok.inj htable]
    rfl
  obtain ⟨-, hwritten, -⟩ := (service []).property_written hp (by decide) hset hget (.text "Moses")
  obtain ⟨content, htraces, -, -, -, haddress, hkind, hfields⟩ := hwritten hok
  obtain ⟨-, hothers, hvalue⟩ := hfields (hkind keeps) gives keyed
  refine ⟨hnumber, gives, steady, keeps, hok, hvalue (by rintro ⟨⟩), p, { p with content }, hp, ?_, ?_,
    haddress Person.slot rfl, hkind keeps⟩
  · show written.2.proxy? 0 = _
    rw [htraces]
    exact Traces.proxy?_setProxy_self hp _
  · exact hothers steady "id" _ (by decide +kernel) (by rw [EntityType.field?_of_encode hdocument]; rfl)

def snowball : Resource Animal := ⟨.cat "Snowball" "Springfield", []⟩

/-- An item in which an address was put. -/
def lantern : Proxy schema Ty.item where
  content := { name := "Lamp", uri := some base }
  links := []
  table := .empty "Item"
  selfUri := none

/-- **Writes that change more than a field**: a cat whose species is set to that of dogs is a dog and has no home any
more, though animals are written with what was read; and an item, which does not show its address to proxies, has none
any more when its name was set. -/
theorem snowball_changed :
    let made := ((service []).create Ty.animal snowball).after {}
    let written := ((service []).setProperty 0 ("set" ++ "Species") (.text "dog")).after made.2
    let put : Traces schema := ({} : Traces schema).addProxy lantern
    let renamed := ((service []).setProperty 0 ("set" ++ "Name") (.text "Torch")).after put
    let e := schema.entity Ty.animal
    (e.GivesBack ∧ made.1 = .ok 0 ∧ written.1 = .ok () ∧
      ∃ p q : Proxy schema Ty.animal, made.2.proxy? 0 = some ⟨Ty.animal, p⟩ ∧ written.2.proxy? 0 = some ⟨Ty.animal, q⟩ ∧
        p.kind = "Cat" ∧ q.kind = "Dog" ∧ e.field? p.content "home" = some (.text "Springfield") ∧
        e.field? q.content "home" = none) ∧
    renamed.1 = .ok () ∧ ∃ q : Proxy schema Ty.item, renamed.2.proxy? 0 = some ⟨Ty.item, q⟩ ∧ q.content.uri = none := by
  intro made written put renamed e
  have hnumber : made.1 = .ok 0 := by decide +kernel
  have hmade : made = (.ok 0, made.2) := by rw [← hnumber]
  have hwritten : written.1 = .ok () := by decide +kernel
  have hrenamed : renamed.1 = .ok () := by decide +kernel
  refine ⟨⟨Animal.givesBack_entity Ty, hnumber, hwritten, ?_⟩, hrenamed, ?_⟩
  · obtain ⟨p, table, hp, -, hproxy⟩ := (service []).create_made hmade
    obtain ⟨-, -, -, -, hcontent⟩ := (service []).proxyOf_ok hproxy
    have hcat : p.content = snowball.content := (Except.ok.inj hcontent).symm
    have hwrite : Property.write ("set" ++ "Species") "species" (.text "dog") p.content =
        .ok (Animal.dog "Snowball") := by
      rw [hcat]
      rfl
    refine ⟨p, { p with content := .dog "Snowball" }, hp,
      (service []).proxy?_of_setProperty hp hwritten (by decide +kernel) hwrite, ?_, rfl, ?_, rfl⟩
    · show Animal.kind p.content = _
      rw [hcat]
      rfl
    · rw [hcat]
      rfl
  · have huse : Property.useOf ("set" ++ "Name") = .write "name" := by decide +kernel
    exact ⟨{ lantern with content := { name := "Torch" } },
      (service []).proxy?_of_setProperty (p := lantern) rfl hrenamed huse rfl, rfl⟩

end Family
end Hypermedia
