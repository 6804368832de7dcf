import Hypermedia.CommandLine.Run
/-!
# Walks along relations

A walk starts at a href and goes on from resource to resource, at each one along the first link of the next relation
(`Walk`).  A walk that arrives can be gone on with from wherever its last address is written (`Walk.arrives`), and one
that fails ends where it failed, however many relations are left (`Walk.stops`).
-/
namespace Hypermedia
namespace CommandLine

/-- **What is read at each address**, and the base that hrefs are relative to. -/
structure Site where
  base : Uri
  page : Uri → Outcome (Option DocumentResource)

/-- The resource at an address, where none is a failure. -/
def Site.found (site : Site) (uri : Uri) : Outcome DocumentResource := do
  match ← site.page uri with
  | some r => return r
  | none => throw (.protocol (.notFound uri))

namespace Site

variable {site : Site} {uri : Uri}

theorem found_of_error {e : Failure} (page : site.page uri = .error e) : site.found uri = .error e := by
  unfold found
  rw [page]
  rfl

theorem found_of_none (page : site.page uri = .ok none) : site.found uri = .error (.protocol (.notFound uri)) := by
  unfold found
  rw [page]
  rfl

theorem found_of_some {r : DocumentResource} (page : site.page uri = .ok (some r)) : site.found uri = .ok r := by
  unfold found
  rw [page]
  rfl

end Site

/-- **A walk from a href along relations**, with the addresses that it asks for, in order, and how it ends.  Every step
leads where the first link of its relation leads in the resource that the step before it brought. -/
inductive Walk (site : Site) : String → List String → List Uri → Outcome DocumentResource → Prop
  | astray {href relations e} (address : site.base.resolve href = .error e) : Walk site href relations [] (.error e)
  | refused {href relations uri e} (address : site.base.resolve href = .ok uri) (page : site.page uri = .error e) :
      Walk site href relations [uri] (.error e)
  | absent {href relations uri} (address : site.base.resolve href = .ok uri) (page : site.page uri = .ok none) :
      Walk site href relations [uri] (.error (.protocol (.notFound uri)))
  | arrived {href uri r} (address : site.base.resolve href = .ok uri) (page : site.page uri = .ok (some r)) :
      Walk site href [] [uri] (.ok r)
  | unlinked {href relation relations uri r} (address : site.base.resolve href = .ok uri)
      (page : site.page uri = .ok (some r)) (missing : r.links.get? relation = none) :
      Walk site href (relation :: relations) [uri] (.error (.noSuchLink relation))
  | onward {href relation relations uri r link asked outcome} (address : site.base.resolve href = .ok uri)
      (page : site.page uri = .ok (some r)) (linked : r.links.get? relation = some link)
      (rest : Walk site link.expand relations asked outcome) :
      Walk site href (relation :: relations) (uri :: asked) outcome

namespace Walk

variable {site : Site} {href href' : String} {relations relations' : List String} {asked asked' : List Uri}
  {outcome : Outcome DocumentResource} {r : DocumentResource}

theorem exists_walk (site : Site) : ∀ (relations : List String) (href : String),
    ∃ asked outcome, Walk site href relations asked outcome
  | relations, href => by
    rcases hu : site.base.resolve href with e | uri
    · exact ⟨_, _, .astray hu⟩
    rcases hp : site.page uri with e | _ | r
    · exact ⟨_, _, .refused hu hp⟩
    · exact ⟨_, _, .absent hu hp⟩
    cases relations with
    | nil => exact ⟨_, _, .arrived hu hp⟩
    | cons relation relations =>
      rcases hl : r.links.get? relation with _ | link
      · exact ⟨_, _, .unlinked hu hp hl⟩
      · obtain ⟨asked, outcome, rest⟩ := exists_walk site relations link.expand
        exact ⟨_, _, .onward hu hp hl rest⟩

/-- A walk depends on where its href leads only. -/
theorem congr (h : site.base.resolve href = site.base.resolve href') (w : Walk site href' relations asked outcome) :
    Walk site href relations asked outcome := by
  cases w with
  | astray address => exact .astray (h.trans address)
  | refused address page => exact .refused (h.trans address) page
  | absent address page => exact .absent (h.trans address) page
  | arrived address page => exact .arrived (h.trans address) page
  | unlinked address page missing => exact .unlinked (h.trans address) page missing
  | onward address page linked rest => exact .onward (h.trans address) page linked rest

/-- **A walk that fails ends where it failed**, whatever there is left to follow. -/
theorem stops {e : Failure} (w : Walk site href relations asked (.error e)) (more : List String) :
    Walk site href (relations ++ more) asked (.error e) := by
  generalize ho : (Except.error e : Outcome DocumentResource) = outcome at w
  induction w with
  | astray address => exact .astray address
  | refused address page => exact .refused address page
  | absent address page => exact .absent address page
  | arrived address page => cases ho
  | unlinked address page missing => exact .unlinked address page missing
  | onward address page linked rest ih => exact .onward address page linked (ih ho)

/-- **A walk that arrives** asked for one address more than it followed relations.  The last of them is where it has the
resource from, and any walk that starts there goes on with it. -/
theorem arrives (w : Walk site href relations asked (.ok r)) : ∃ before last, asked = before ++ [last] ∧
    before.length = relations.length ∧ site.page last = .ok (some r) ∧ (∃ href', site.base.resolve href' = .ok last) ∧
    ∀ {href' relations' asked' outcome}, site.base.resolve href' = .ok last →
      Walk site href' relations' asked' outcome →
        Walk site href (relations ++ relations') (before ++ asked') outcome := by
  generalize ho : (Except.ok r : Outcome DocumentResource) = outcome at w
  induction w with
  | astray address => cases ho
  | refused address page => cases ho
  | absent address page => cases ho
  | @arrived href uri r address page =>
    cases ho
    exact ⟨[], uri, rfl, rfl, page, ⟨href, address⟩, fun h' w' => w'.congr (address.trans h'.symm)⟩
  | unlinked address page missing => cases ho
  | @onward href relation relations uri r' link asked outcome address page linked rest ih =>
    obtain ⟨before, last, rfl, hlength, hpage, led, append⟩ := ih ho
    exact ⟨uri :: before, last, rfl, congrArg (· + 1) hlength, hpage, led,
      fun h' w' => .onward address page linked (append h' w')⟩

end Walk

end CommandLine
end Hypermedia
