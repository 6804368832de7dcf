import Hypermedia.Family.Schema
import Hypermedia.Proofs.Href
import Hypermedia.Proofs.Proxy.Address
import Hypermedia.Proofs.Proxy.OneAddress
/-!
# Where resources live

A resource without a link to itself is taken to live where it was read from: it gets such a link, and its address is
where that link leads, like any other link of a resource to itself (`get?_linked`, `get?_settled`).  The link holds the
text of the address, which is the text of a link that is not a template; but the sections in braces are taken out of it
all the same.  So the resource lives where it was read from as long as that address is restored by its text and has no
braces (`lives_where_read`).
-/
namespace Hypermedia

open Hypermedia.Action

variable {S : Schema} {t : S.Ty}

/-! ## Reading a resource -/

namespace Service

variable (service : Service S)

/-- What was decoded is of a type that was prepared. -/
theorem metadata_of_decode {document : Json} {r : Resource (S.Content t)} {s s' : Traces S}
    (h : (service.decode t document).after s = (.ok r, s')) : ∃ m, service.configuration.metadata t = .ok m := by
  obtain ⟨split, s₁, -, h⟩ := of_after_bind h
  obtain ⟨kind, s₂, h, -⟩ := of_after_bind h
  obtain ⟨m, s₃, h, -⟩ := of_after_bind h
  obtain ⟨m', s₄, h, -⟩ := of_after_bind h
  exact ⟨m', congrArg Prod.fst h⟩

/-- **A resource that was decoded is made into a proxy** if its link to itself can be followed. -/
theorem create_of_blank {m : Metadata S} (hm : service.configuration.metadata t = .ok m) {r : Resource (S.Content t)}
    (blank : (S.entity t).Blank r.content) {u? : Option Uri} (hself : r.links.selfUri? service.base = .ok u?)
    (s : Traces S) : ∃ id s', (service.create t r).after s = (.ok id, s') := by
  obtain ⟨content, hcontent⟩ : ∃ content, (S.entity t).assign r.content u? = .ok content := by
    have hends := EntityType.assign_ends blank u? fun _ => False
    rcases ha : (S.entity t).assign r.content u? with e | content
    · rw [ha] at hends
      exact hends.of_error.elim
    · exact ⟨content, rfl⟩
  have hproxy : service.proxyOf m.table r = .ok { content, links := r.links, table := m.table, selfUri := u? } := by
    unfold proxyOf
    simp only [hself, bind, Except.bind, hcontent]
    rfl
  unfold create
  rw [after_bind_ok (service.after_metadata hm s), after_bind_ok (by rw [after_ofOutcome, hproxy]),
    after_bind_ok (after_get _), after_bind_ok (after_modify _ _)]
  exact ⟨_, _, rfl⟩

/-- An answer that reports success and holds a document is decoded. -/
theorem after_getResource? {uri : Uri} {answer : Response} {document : Json} {s : Traces S}
    (answered : service.transport.answer s.requests { method := .get, uri } = .ok answer)
    (success : Status.isSuccess answer.status = true) (read : answer.json = .ok (some document))
    {r : Resource (S.Content t)} {s' : Traces S}
    (decoded : (service.decode t document).after (service.noted s { method := .get, uri }) = (.ok r, s')) :
    (service.getResource? t uri).after s = (.ok (some r), s') := by
  have hfound : (answer.status == Status.notFound) = false := by
    rcases hs : answer.status == Status.notFound with _ | _
    · rfl
    · rw [eq_of_beq hs] at success
      exact absurd success (by decide)
  have hdocument : document? answer = .ok (some document) := by
    have haccepted : answer.success = .ok answer := if_pos success
    simp only [document?, haccepted, bind, Except.bind, read]
  have hsent := service.after_send s { method := .get, uri }
  rw [answered] at hsent
  unfold getResource?
  rw [after_bind_ok hsent, hfound]
  simp only [Bool.false_eq_true, if_false]
  unfold decodeAnswer?
  rw [after_bind_ok (by rw [after_ofOutcome, hdocument]), after_bind_ok decoded]
  rfl

end Service

namespace Collection

variable (c : Collection S t)

/-- **A resource that was read lives where its link to itself leads**, be it its own or the one that it gets: the proxy,
its resource id and its content agree about it. -/
theorem get?_leads {u v : Uri} {answer : Response} {document : Json} {s s₁ : Traces S} {r : Resource (S.Content t)}
    (answered : c.service.transport.answer s.requests { method := .get, uri := u } = .ok answer)
    (success : Status.isSuccess answer.status = true) (read : answer.json = .ok (some document))
    (decoded : (c.service.decode t document).after (c.service.noted s { method := .get, uri := u }) = (.ok r, s₁))
    (leads : (settled u r).links.selfUri? c.service.base = .ok (some v)) :
    ∃ (id : Nat) (s' : Traces S) (p : Proxy S t), (c.get? u).after s = (.ok (some id), s') ∧
      s'.proxy? id = some ⟨t, p⟩ ∧ p.selfUri = some v ∧ (c.service.resourceId id).after s' = (.ok (some v), s') ∧
      ∀ slot, (S.entity t).address? = some slot → slot.get p.content = some v := by
  obtain ⟨m, hm⟩ := c.service.metadata_of_decode decoded
  have hblank : (S.entity t).Blank (settled u r).content := by
    have hends := c.service.decode_ends t document (c.service.noted s { method := .get, uri := u })
    rw [decoded] at hends
    rw [content_settled]
    exact hends.of_ok
  obtain ⟨id, s', hmade⟩ := c.service.create_of_blank hm hblank leads s₁
  obtain ⟨p, hp, settled', hlinks⟩ := c.service.settled_of_create hblank hmade
  have huri : p.selfUri = some v := by
    have hsettled := settled'.selfUri
    rw [hlinks, leads] at hsettled
    exact (Except.ok.inj hsettled).symm
  refine ⟨id, s', p, ?_, hp, huri, ?_, fun slot hs => (settled'.content slot hs).trans huri⟩
  · unfold get?
    rw [after_bind_ok (c.service.after_getResource? answered success read decoded), after_bind_ok hmade]
    rfl
  · rw [← huri]
    exact c.service.after_resourceId_known hp settled'.selfUri settled'.table settled'.assign

/-- **A resource that links to itself lives where that link leads**, wherever it was read from. -/
theorem get?_linked {u v : Uri} {answer : Response} {document : Json} {s s₁ : Traces S} {r : Resource (S.Content t)}
    {l : Link} (answered : c.service.transport.answer s.requests { method := .get, uri := u } = .ok answer)
    (success : Status.isSuccess answer.status = true) (read : answer.json = .ok (some document))
    (decoded : (c.service.decode t document).after (c.service.noted s { method := .get, uri := u }) = (.ok r, s₁))
    (self : r.links.self? = some l) (leads : c.service.base.resolve l.expand = .ok v) :
    ∃ (id : Nat) (s' : Traces S) (p : Proxy S t), (c.get? u).after s = (.ok (some id), s') ∧
      s'.proxy? id = some ⟨t, p⟩ ∧ p.selfUri = some v ∧ (c.service.resourceId id).after s' = (.ok (some v), s') ∧
      ∀ slot, (S.entity t).address? = some slot → slot.get p.content = some v := by
  refine c.get?_leads answered success read decoded ?_
  unfold settled
  rw [self]
  exact (Links.selfUri?_eq self).trans (by rw [leads]; rfl)

/-- **A resource without a link to itself lives where the text of the address leads that it was read from.** -/
theorem get?_settled {u v : Uri} {answer : Response} {document : Json} {s s₁ : Traces S} {r : Resource (S.Content t)}
    (answered : c.service.transport.answer s.requests { method := .get, uri := u } = .ok answer)
    (success : Status.isSuccess answer.status = true) (read : answer.json = .ok (some document))
    (decoded : (c.service.decode t document).after (c.service.noted s { method := .get, uri := u }) = (.ok r, s₁))
    (unlinked : r.links.self? = none)
    (leads : c.service.base.resolve (Link.expand ⟨selfRelation, u.text, false⟩) = .ok v) :
    ∃ (id : Nat) (s' : Traces S) (p : Proxy S t), (c.get? u).after s = (.ok (some id), s') ∧
      s'.proxy? id = some ⟨t, p⟩ ∧ p.selfUri = some v ∧ (c.service.resourceId id).after s' = (.ok (some v), s') ∧
      ∀ slot, (S.entity t).address? = some slot → slot.get p.content = some v := by
  refine c.get?_leads answered success read decoded ?_
  unfold settled
  rw [unlinked]
  simp only [Links.selfUri?, Links.self?_append unlinked, leads]
  rfl

/-- **A resource without a link to itself lives where it was read from**, if the text of that address restores it and
has no braces. -/
theorem lives_where_read {u : Uri} {answer : Response} {document : Json} {s s₁ : Traces S} {r : Resource (S.Content t)}
    (sound : u.Sound) (restorable : u.Restorable) (plain : '\x7b' ∉ u.chars)
    (answered : c.service.transport.answer s.requests { method := .get, uri := u } = .ok answer)
    (success : Status.isSuccess answer.status = true) (read : answer.json = .ok (some document))
    (decoded : (c.service.decode t document).after (c.service.noted s { method := .get, uri := u }) = (.ok r, s₁))
    (unlinked : r.links.self? = none) :
    ∃ (id : Nat) (s' : Traces S) (p : Proxy S t), (c.get? u).after s = (.ok (some id), s') ∧
      s'.proxy? id = some ⟨t, p⟩ ∧ p.selfUri = some u ∧ (c.service.resourceId id).after s' = (.ok (some u), s') ∧
      ∀ slot, (S.entity t).address? = some slot → slot.get p.content = some u :=
  c.get?_settled answered success read decoded unlinked
    (Uri.resolve_expand sound restorable plain c.service.base rfl)

end Collection

namespace Family

/-- The first parent, with a wish for how it is shown. -/
def parentAt (query : String) : Uri where
  scheme := "http"
  authority := some { host := some (.name "host") }
  path := "/parents/1"
  query := some query

def homerAnswer : Response := answering (.object [("name", .text "Homer")])

/-- A server that knows the first parent, but not the link of it to itself. -/
def unlinked (uri : Uri) : Script := [{ method := "GET", uri := uri.text, replies := [.ok homerAnswer] }]

theorem answer_unlinked (u : Uri) :
    (unlinked u).transport.answer [] { method := .get, uri := u } = .ok homerAnswer := by
  have hfirst : Route.answers { method := "GET", uri := u.text, replies := [.ok homerAnswer] }
      { method := .get, uri := u } = true := by
    rw [Route.answers, Bool.and_eq_true]
    exact ⟨rfl, beq_self_eq_true _⟩
  unfold unlinked Script.transport Script.answer
  simp only [List.find?_cons, hfirst]
  rfl

def household (script : Script) : Collection schema Ty.parent where
  service := service script
  uri := base.append "/parents"
  batchUri := base.append "/batch"

def homerDocument : Json := homerAnswer.json.toOption.join.getD .null

theorem json_of_isSome {r : Response} (h : r.json.toOption.join.isSome = true) :
    r.json = .ok (some (r.json.toOption.join.getD .null)) := by
  rcases hjson : r.json with e | _ | document <;> rw [hjson] at h
  · cases h
  · cases h
  · rfl

theorem json_homerAnswer : homerAnswer.json = .ok (some homerDocument) := json_of_isSome (by decide +kernel)

theorem decoded_of_links (run : Outcome (Resource Parent) × Traces schema)
    (h : run.1.toOption.map (·.links) = some []) : ∃ r s, run = (.ok r, s) ∧ r.links.self? = none := by
  obtain ⟨e | r, s⟩ := run
  · cases h
  · obtain ⟨content, links⟩ := r
    cases h
    exact ⟨_, s, rfl, rfl⟩

/-- A parent that is read with a query lives there with the query. -/
theorem homer_lives_where_read :
    let u := parentAt "view=short"
    let c := household (unlinked u)
    '\x7b' ∉ u.chars ∧ u.text = "http://host/parents/1?view=short" ∧
    ∃ (id : Nat) (s' : Traces schema) (p : Proxy schema Ty.parent), (c.get? u).after {} = (.ok (some id), s') ∧
      s'.proxy? id = some ⟨Ty.parent, p⟩ ∧ p.selfUri = some u ∧
        (c.service.resourceId id).after s' = (.ok (some u), s') ∧ p.content.uri = some u := by
  intro u c
  have hplain : '\x7b' ∉ u.chars := by decide
  have hsound : u.Sound := Uri.sound_of_parse? (s := u.text) (by decide +kernel)
  have hrestorable : u.Restorable := restorable_of_authority (.inl rfl) rfl
  have hanswer : c.service.transport.answer [] { method := .get, uri := u } = .ok homerAnswer := answer_unlinked u
  obtain ⟨r, s₁, hdecoded, hunlinked⟩ := decoded_of_links ((c.service.decode Ty.parent homerDocument).after
      (c.service.noted {} { method := .get, uri := u })) (by decide +kernel)
  obtain ⟨id, s', p, hget, hp, hself, hid, hcontent⟩ :=
    c.lives_where_read (s := {}) hsound hrestorable hplain hanswer (by decide) json_homerAnswer hdecoded hunlinked
  exact ⟨hplain, by decide +kernel, id, s', p, hget, hp, hself, hid, hcontent _ rfl⟩

/-- A parent that is read with braces in the query lives elsewhere: the section in braces is taken for one of a
template, though the link to it is not a template. -/
theorem homer_lives_elsewhere :
    let u := parentAt "view=\x7bshort\x7d"
    let v := parentAt "view="
    let c := household (unlinked u)
    Uri.parse? u.text = .ok u ∧ v ≠ u ∧
    c.service.transport.answer [] { method := .get, uri := u } = .ok homerAnswer ∧
    Status.isSuccess homerAnswer.status = true ∧ homerAnswer.json = .ok (some homerDocument) ∧
    (∃ r s₁, (c.service.decode Ty.parent homerDocument).after (c.service.noted {} { method := .get, uri := u }) =
      (.ok r, s₁) ∧ r.links.self? = none) ∧
    ∃ (id : Nat) (s' : Traces schema) (p : Proxy schema Ty.parent), (c.get? u).after {} = (.ok (some id), s') ∧
      s'.proxy? id = some ⟨Ty.parent, p⟩ ∧ p.selfUri = some v ∧
        (c.service.resourceId id).after s' = (.ok (some v), s') ∧ p.content.uri = some v := by
  intro u v c
  have hanswer : c.service.transport.answer [] { method := .get, uri := u } = .ok homerAnswer := answer_unlinked u
  obtain ⟨r, s₁, hdecoded, hunlinked⟩ := decoded_of_links ((c.service.decode Ty.parent homerDocument).after
      (c.service.noted {} { method := .get, uri := u })) (by decide +kernel)
  have hleads : c.service.base.resolve (Link.expand ⟨selfRelation, u.text, false⟩) = .ok v := by decide +kernel
  obtain ⟨id, s', p, hget, hp, hself, hid, hcontent⟩ :=
    c.get?_settled (s := {}) hanswer (by decide) json_homerAnswer hdecoded hunlinked hleads
  exact ⟨by decide +kernel, by decide +kernel, hanswer, by decide, json_homerAnswer, ⟨r, s₁, hdecoded, hunlinked⟩,
    id, s', p, hget, hp, hself, hid, hcontent _ rfl⟩

end Family
end Hypermedia
