import Hypermedia.Proofs.CommandLine.Walk
import Hypermedia.Proofs.Href
import Hypermedia.Proofs.Settings
import Hypermedia.Proofs.Uri.Ascent
import Hypermedia.Proofs.Uri.LongDomain
/-!
# Following relations

At a server whose answers depend on nothing but the addresses asked, the command that follows relations does what the
walk along them does (`after_follow`): what it reads at an address is the same whenever it reads it.  So to follow
relations is to follow some of them, and then the others from where they lead (`follow_in_steps`).  Where they lead may
be an address whose text is not read (`loop_unread`).
-/
namespace Hypermedia
namespace CommandLine

open Hypermedia.Action

/-! ## Reading a resource -/

def resourceIn (document : Json) : Outcome DocumentResource := do
  let ⟨fields, links⟩ ← Document.split document
  let content ← (Json.Decoder.fields fields).mapError fun e => .proxy "Document" (.content e)
  return ⟨content, links⟩

def resourceIn? (r : Response) : Outcome (Option DocumentResource) := do
  match ← Service.document? r with
  | some document => return some (← resourceIn document)
  | none => return none

/-- **The resource in the answer to a read**, none if the server has none there or sends no document. -/
def pageIn (service : Service documents) (uri : Uri) (answer : Except TransportFault Response) :
    Outcome (Option DocumentResource) := do
  let r ← answer.mapError (·.toFailure (service.transport.named uri))
  if r.status == Status.notFound then return none else resourceIn? r

/-- What a service reads at a server that has one answer for each address. -/
def siteOf (service : Service documents) (answer : Uri → Except TransportFault Response) : Site where
  base := service.base
  page uri := pageIn service uri (answer uri)

section Reading

variable {service : Service documents} {answer : Uri → Except TransportFault Response}

/-- Documents are of one kind, whatever their links are. -/
theorem resolve_yields (untyped : service.configuration.typeInfos = []) (links : Links) :
    Yields (.ok "Document") (service.resolve () links) := by
  intro s
  have hinfo : service.configuration.typeInfo? () = none := by
    unfold Configuration.typeInfo?
    rw [untyped]
    rfl
  obtain ⟨table, htable⟩ : ∃ table, documents.table () = .ok table := ⟨_, rfl⟩
  have hmetadata : service.configuration.metadata () = .ok ⟨table, none⟩ := by
    unfold Configuration.metadata
    rw [htable, hinfo]
    rfl
  unfold Service.resolve
  rw [after_bind_ok (service.after_metadata hmetadata s), after_bind_ok (after_get _)]
  rfl

theorem decode_yields (untyped : service.configuration.typeInfos = []) (document : Json) :
    Yields (resourceIn document) (service.decode () document) :=
  yields_bind (yields_ofOutcome _) fun r =>
    yields_bind (resolve_yields untyped r.links) fun _ => yields_bind (yields_ofOutcome _) fun _ => yields_pure _

theorem decodeAnswer?_yields (untyped : service.configuration.typeInfos = []) (r : Response) :
    Yields (resourceIn? r) (service.decodeAnswer? () r) :=
  yields_bind (yields_ofOutcome _) fun
    | some document => yields_bind (decode_yields untyped document) fun _ => yields_pure _
    | none => yields_pure _

variable (untyped : service.configuration.typeInfos = [])
  (stable : ∀ sent uri, service.transport.answer sent { method := .get, uri } = answer uri)
include untyped stable

/-- **What is read at an address is what is there**, whatever was read before. -/
theorem getResource?_yields (uri : Uri) : Yields ((siteOf service answer).page uri) (service.getResource? () uri) := by
  have hsend : Yields ((answer uri).mapError (·.toFailure (service.transport.named uri)))
      (service.send { method := .get, uri }) := fun s => by rw [service.after_send, stable]
  refine yields_bind hsend fun r => ?_
  split
  · exact yields_pure _
  · exact decodeAnswer?_yields untyped r

theorem fetch_yields (uri : Uri) : Yields ((siteOf service answer).found uri) (fetch service uri) :=
  yields_bind (getResource?_yields untyped stable uri) fun
    | some _ => yields_pure _
    | none => yields_throw _

end Reading

theorem requests_fetch (service : Service documents) (uri : Uri) (s : Traces documents) :
    ((fetch service uri).after s).2.requests = { method := .get, uri } :: s.requests := by
  refine (requests_after_bind (fun r => ?_) _ s).trans (service.requests_getResource? () uri s)
  rcases r with _ | r
  · exact sends_throw _
  · exact sends_pure _

/-! ## Following relations -/

def readRequest (uri : Uri) : Request := { method := .get, uri }

/-- What is printed of a resource: its document. -/
def shown (r : DocumentResource) : String :=
  printed (.object (Json.Fields.put r.content Document.linksKey (Links.toDocument r.links)))

theorem run_ofAction {α : Type} (a : Action documents α) (s : Traces documents) :
    (Step.ofAction a).run.run s = ((a.after s).1.mapError .failure, (a.after s).2) := rfl

section Following

variable {service : Service documents} {answer : Uri → Except TransportFault Response} {href : String} {uri : Uri}

theorem after_astray {e : Failure} (address : service.base.resolve href = .error e) (s : Traces documents) :
    (resourceAt service href).after s = (.error e, s) :=
  after_bind_error (by rw [after_ofOutcome, address]) _

theorem follow_unlinked {r : DocumentResource} {relation : String} (missing : r.links.get? relation = none)
    (relations : List String) (s : Traces documents) :
    (follow service r (relation :: relations)).after s = (.error (.noSuchLink relation), s) := by
  unfold follow followOne
  rw [missing]
  rfl

theorem follow_linked {r : DocumentResource} {relation : String} {link : Link}
    (linked : r.links.get? relation = some link) (relations : List String) :
    follow service r (relation :: relations) =
      (do follow service (← resourceAt service link.expand) relations) := by
  have hone : followOne service r relation = resourceAt service link.expand := by
    unfold followOne
    rw [linked]
  rw [follow, hone]

variable (untyped : service.configuration.typeInfos = [])
  (stable : ∀ sent uri, service.transport.answer sent { method := .get, uri } = answer uri)
include untyped stable

theorem after_resourceAt (address : service.base.resolve href = .ok uri) (s : Traces documents) :
    ∃ s', (resourceAt service href).after s = ((siteOf service answer).found uri, s') ∧
      s'.requests = readRequest uri :: s.requests := by
  refine ⟨_, ?_, requests_fetch service uri s⟩
  unfold resourceAt
  rw [after_bind_ok (by rw [after_ofOutcome, address])]
  exact Prod.ext (fetch_yields untyped stable uri s) rfl

/-- A resource that cannot be read is the end. -/
theorem after_unread {f : DocumentResource → Action documents DocumentResource} {e : Failure}
    (address : service.base.resolve href = .ok uri) (h : (siteOf service answer).found uri = .error e)
    (s : Traces documents) :
    ∃ s', (resourceAt service href >>= f).after s = (.error e, s') ∧ s'.requests = readRequest uri :: s.requests := by
  obtain ⟨s', hread, hrequests⟩ := after_resourceAt untyped stable address s
  rw [h] at hread
  exact ⟨s', after_bind_error hread f, hrequests⟩

theorem after_read {f : DocumentResource → Action documents DocumentResource} {r : DocumentResource}
    (address : service.base.resolve href = .ok uri) (h : (siteOf service answer).found uri = .ok r)
    (s : Traces documents) :
    ∃ s', (resourceAt service href >>= f).after s = (f r).after s' ∧ s'.requests = readRequest uri :: s.requests := by
  obtain ⟨s', hread, hrequests⟩ := after_resourceAt untyped stable address s
  rw [h] at hread
  exact ⟨s', after_bind_ok hread f, hrequests⟩

/-- **The command does what the walk does**: it asks for the same addresses, in the same order, and ends in the same
way. -/
theorem after_follow {relations : List String} {asked : List Uri} {outcome : Outcome DocumentResource}
    (w : Walk (siteOf service answer) href relations asked outcome) (s : Traces documents) :
    ∃ s', (do follow service (← resourceAt service href) relations : Action documents DocumentResource).after s =
        (outcome, s') ∧
      s'.requests = asked.reverse.map readRequest ++ s.requests := by
  induction w generalizing s with
  | astray address => exact ⟨s, after_bind_error (after_astray address s) _, rfl⟩
  | refused address page => exact after_unread untyped stable address (Site.found_of_error page) s
  | absent address page => exact after_unread untyped stable address (Site.found_of_none page) s
  | arrived address page => exact after_read untyped stable address (Site.found_of_some page) s
  | unlinked address page missing =>
    obtain ⟨s', hrun, hrequests⟩ := after_read untyped stable address (Site.found_of_some page) s
    exact ⟨s', hrun.trans (follow_unlinked missing _ s'), hrequests⟩
  | onward address page linked rest ih =>
    obtain ⟨s', hrun, hrequests⟩ := after_read untyped stable address (Site.found_of_some page) s
    obtain ⟨s'', hrest, hrequests'⟩ := ih s'
    refine ⟨s'', ?_, ?_⟩
    · rw [hrun, follow_linked linked, hrest]
    · rw [hrequests', hrequests, List.reverse_cons, List.map_append, List.append_assoc]
      rfl

/-- **What is followed from the resource at an address** ends like a walk from there, whatever was read before. -/
theorem follow_yields {r : DocumentResource} {relations : List String} {asked : List Uri}
    {outcome : Outcome DocumentResource} (address : service.base.resolve href = .ok uri)
    (page : (siteOf service answer).page uri = .ok (some r))
    (w : Walk (siteOf service answer) href relations asked outcome) : Yields outcome (follow service r relations) := by
  intro s
  cases w with
  | astray address' => cases address.symm.trans address'
  | refused address' page' =>
    cases address.symm.trans address'
    cases page.symm.trans page'
  | absent address' page' =>
    cases address.symm.trans address'
    cases page.symm.trans page'
  | arrived address' page' =>
    cases address.symm.trans address'
    cases page.symm.trans page'
    rfl
  | unlinked address' page' missing =>
    cases address.symm.trans address'
    cases page.symm.trans page'
    rw [follow_unlinked missing]
  | onward address' page' linked rest =>
    cases address.symm.trans address'
    cases page.symm.trans page'
    obtain ⟨s', hrest, -⟩ := after_follow untyped stable rest s
    rw [follow_linked linked, hrest]

/-- **The command prints the document of the resource where the walk arrives.** -/
theorem run_follow {relations : List String} {asked : List Uri} {outcome : Outcome DocumentResource}
    (w : Walk (siteOf service answer) href relations asked outcome) (s : Traces documents) :
    ∃ s', (execute service (.follow href relations)).run.run s = ((outcome.map shown).mapError .failure, s') ∧
      s'.requests = asked.reverse.map readRequest ++ s.requests := by
  obtain ⟨s', hrun, hrequests⟩ := after_follow untyped stable w s
  have hprint : (do printedResource (← follow service (← resourceAt service href) relations)).after s =
      (outcome.map shown, s') := by
    rw [← bind_assoc]
    cases outcome with
    | error e => exact after_bind_error hrun _
    | ok r => exact after_bind_ok hrun _
  refine ⟨s', ?_, hrequests⟩
  rw [execute, run_ofAction, hprint]

end Following

/-- To read a resource is to follow no relation from it. -/
theorem execute_get (service : Service documents) (href : String) :
    execute service (.get href) = execute service (.follow href []) := by
  simp only [execute, follow, pure_bind]

/-! ## The program -/

section Program

variable {files : String → Option ByteArray} {transport : Transport} {o : Options} {service : Service documents}
  {answer : Uri → Except TransportFault Response}

theorem serviceFor_eq {settings : Settings} {base : Uri} (hsettings : settingsFor files o = .ok settings)
    (hlog : LogFilter.check settings.logging = .ok ()) (hbase : Uri.parse? settings.service.location = .ok base)
    (transport : Transport) : serviceFor files transport o = .ok ⟨{ base, settings }, transport⟩ := by
  unfold serviceFor configure
  simp only [hsettings, hlog, Configuration.ofSettings_eq, hbase, bind, Except.bind, Except.mapError]
  rfl

/-- **A service of the program** has no types registered, and its base is an address that was read. -/
theorem of_serviceFor (h : serviceFor files transport o = .ok service) :
    ∃ base settings, Uri.parse? settings.service.location = .ok base ∧
      service = ⟨{ base, settings }, transport⟩ := by
  rcases hsettings : settingsFor files o with e | settings
  · unfold serviceFor at h
    rw [hsettings] at h
    cases h
  rcases hlog : LogFilter.check settings.logging with e | _
  · unfold serviceFor configure at h
    simp only [hsettings, hlog, bind, Except.bind, Except.mapError] at h
    cases h
  rcases hbase : Uri.parse? settings.service.location with reason | base
  · unfold serviceFor configure at h
    simp only [hsettings, hlog, Configuration.ofSettings_eq, hbase, bind, Except.bind, Except.mapError] at h
    cases h
  · rw [serviceFor_eq hsettings hlog hbase] at h
    cases h
    exact ⟨base, settings, hbase, rfl⟩

/-- How a command ends that reads a resource: it prints its document, or fails and prints nothing. -/
def ending : Outcome DocumentResource → Ending
  | .ok r => .done (shown r)
  | .error e => .failed (.failure e)

/-- **What the program does on a walk.** -/
theorem run_walk (configured : serviceFor files transport o = .ok service)
    (stable : ∀ sent uri, transport.answer sent { method := .get, uri } = answer uri) {href : String}
    {relations : List String} {asked : List Uri} {outcome : Outcome DocumentResource}
    (w : Walk (siteOf service answer) href relations asked outcome) :
    (⟨o, .follow href relations⟩ : Arguments).run files transport = ending outcome ∧
      ((execute service (.follow href relations)).run.run service.start).2.requests.reverse =
        asked.map readRequest := by
  obtain ⟨base, settings, -, rfl⟩ := of_serviceFor configured
  obtain ⟨s', hrun, hrequests⟩ := run_follow rfl stable w (Service.start ⟨{ base, settings }, transport⟩)
  constructor
  · unfold Arguments.run
    simp only [configured, hrun]
    cases outcome with
    | error e => rfl
    | ok r => rfl
  · rw [hrun, hrequests]
    show (asked.reverse.map readRequest ++ []).reverse = _
    rw [List.append_nil, List.map_reverse, List.reverse_reverse]

theorem run_get (href : String) :
    (⟨o, .get href⟩ : Arguments).run files transport = (⟨o, .follow href []⟩ : Arguments).run files transport := by
  unfold Arguments.run
  simp only [execute_get]

/-- **To follow relations is to follow some of them, and then the others from where they lead.**  At a server whose
answers depend on nothing but the addresses asked, the command that follows relations does what the walk along them
does: it asks for the addresses of the walk and no others, in order, and prints the resource where the walk arrives, or
fails as the walk does and prints nothing.  A walk that fails ends the command, whatever relations come behind.  Behind
a walk that arrives the command goes on as it does from the resource that was reached, and as a command does that starts
at the last address, wherever that is written; and what the walk brings is what the command prints that reads the last
address.  The text of the last address is one way to write it, wherever it is read as that address. -/
theorem follow_in_steps (configured : serviceFor files transport o = .ok service)
    (stable : ∀ sent uri, transport.answer sent { method := .get, uri } = answer uri) (start : String)
    (relations : List String) :
    let site := siteOf service answer
    let ends (c : Command) : Ending := (⟨o, c⟩ : Arguments).run files transport
    let sent (c : Command) : List Request := ((execute service c).run.run service.start).2.requests.reverse
    ∃ asked outcome, Walk site start relations asked outcome ∧
      ends (.follow start relations) = ending outcome ∧ sent (.follow start relations) = asked.map readRequest ∧
      (∀ e, outcome = .error e → ∀ more,
        ends (.follow start (relations ++ more)) = .failed (.failure e) ∧
          sent (.follow start (relations ++ more)) = asked.map readRequest) ∧
      ∀ r, outcome = .ok r → ∃ before last, asked = before ++ [last] ∧ before.length = relations.length ∧
        site.page last = .ok (some r) ∧ (∃ href, site.base.resolve href = .ok last) ∧
        (∀ more s, ends (.follow start (relations ++ more)) = ending ((follow service r more).after s).1) ∧
        (∀ href, site.base.resolve href = .ok last →
          ends (.get href) = ends (.follow start relations) ∧
          ∀ more, ends (.follow start (relations ++ more)) = ends (.follow href more) ∧
            sent (.follow start (relations ++ more)) = before.map readRequest ++ sent (.follow href more)) ∧
        (Uri.parse? last.text = .ok last → ends (.get last.text) = ends (.follow start relations)) ∧
        (service.base.IsWeb → last.Restorable → Uri.parse? last.text = .ok last) := by
  intro site ends sent
  have walked : ∀ {href relations asked outcome}, Walk site href relations asked outcome →
      ends (.follow href relations) = ending outcome ∧ sent (.follow href relations) = asked.map readRequest :=
    run_walk configured stable
  obtain ⟨asked, outcome, w⟩ := Walk.exists_walk site relations start
  obtain ⟨hends, hsent⟩ := walked w
  refine ⟨asked, outcome, w, hends, hsent, ?_, ?_⟩
  · rintro e rfl more
    exact walked (w.stops more)
  · rintro r rfl
    obtain ⟨before, last, rfl, hlength, page, ⟨led, hled⟩, append⟩ := w.arrives
    have onward : ∀ href, site.base.resolve href = .ok last → ∀ more,
        ends (.follow start (relations ++ more)) = ends (.follow href more) ∧
          sent (.follow start (relations ++ more)) = before.map readRequest ++ sent (.follow href more) := by
      intro href address more
      obtain ⟨asked', outcome', w'⟩ := Walk.exists_walk site more href
      obtain ⟨hends', hsent'⟩ := walked w'
      obtain ⟨hall, hasked⟩ := walked (append address w')
      rw [hall, hends', hasked, hsent', List.map_append]
      exact ⟨rfl, rfl⟩
    have got : ∀ href, site.base.resolve href = .ok last → ends (.get href) = ends (.follow start relations) := by
      intro href address
      obtain ⟨hall, -⟩ := onward href address []
      rw [List.append_nil] at hall
      exact (run_get href).trans hall.symm
    refine ⟨before, last, rfl, hlength, page, ⟨led, hled⟩, fun more s => ?_, fun href address => ?_,
      fun restored => got _ ?_, fun web restorable => ?_⟩
    · obtain ⟨asked', outcome', w'⟩ := Walk.exists_walk site more led
      obtain ⟨hall, -⟩ := walked (append hled w')
      obtain ⟨base, settings, -, rfl⟩ := of_serviceFor configured
      rw [hall, follow_yields rfl stable hled page w' s]
    · exact ⟨got href address, onward href address⟩
    · show Uri.resolve _ _ = _
      unfold Uri.resolve
      rw [restored]
    · obtain ⟨base, settings, hbase, rfl⟩ := of_serviceFor configured
      exact Uri.parse?_text (Uri.sound_resolve (Uri.sound_of_parse? hbase) web hled) restorable

end Program

/-- A family at a server: Homer leads to Bart, who leads to Milhouse, and there is nobody else. -/
def kin (uri : Uri) : Except TransportFault Response :=
  let linkTo (relation href : String) : String × Json :=
    (Document.linksKey, .object [(relation, .object [("href", .text href)])])
  match uri.text with
  | "http://host/parents/1" =>
    .ok (Family.answering (.object [("name", .text "Homer"), linkTo "child" "/children/1\x7b?full\x7d"]))
  | "http://host/children/1" =>
    .ok (Family.answering (.object [("name", .text "Bart"), linkTo "friend" "children/2"]))
  | "http://host/children/2" => .ok (Family.answering (.object [("name", .text "Milhouse")]))
  | _ => .ok { status := Status.notFound }

/-- A server that has one answer for each address. -/
def byAddress (answer : Uri → Except TransportFault Response) : Transport where
  answer _ q := answer q.uri

theorem byAddress_answer (answer : Uri → Except TransportFault Response) (sent : List Request) (uri : Uri) :
    (byAddress answer).answer sent { method := .get, uri } = answer uri := rfl

/-- Homer's child is read at the same address, and has the same friend, who has none. -/
theorem friend_followed :
    let o : Options := { url := some "http://host/" }
    let ends (c : Command) : Ending := (⟨o, c⟩ : Arguments).run (fun _ => none) (byAddress kin)
    (ends (.get "children/1")).exit = 0 ∧ ends (.get "children/1") = ends (.follow "parents/1" ["child"]) ∧
    ends (.follow "parents/1" (["child"] ++ ["friend"])) = ends (.follow "children/1" ["friend"]) ∧
    ends (.follow "parents/1" (["child"] ++ ["friend", "friend"])) = ends (.follow "children/1" ["friend", "friend"]) ∧
    (ends (.follow "children/1" ["friend"])).exit = 0 ∧
    (ends (.follow "children/1" ["friend", "friend"])).exit = 1 := by
  intro o ends
  let settings : Settings := { service := { location := "http://host/" } }
  let service : Service documents := ⟨{ base := Family.base, settings }, byAddress kin⟩
  have configured : serviceFor (fun _ => none) (byAddress kin) o = .ok service :=
    serviceFor_eq rfl (by decide +kernel) (by decide +kernel) (byAddress kin)
  obtain ⟨asked, outcome, -, hends, hsent, -, harrived⟩ :=
    follow_in_steps configured (byAddress_answer kin) "parents/1" ["child"]
  have hexit : (ends (.follow "parents/1" ["child"])).exit = 0 := by decide +kernel
  rcases outcome with e | r
  · rw [show ends (.follow "parents/1" ["child"]) = ending (.error e) from hends] at hexit
    cases hexit
  obtain ⟨before, last, rfl, -, -, -, -, honward, -⟩ := harrived r rfl
  have hlast : service.base.resolve "children/1" = .ok last := by
    have hasked : ((execute service (.follow "parents/1" ["child"])).run.run service.start).2.requests.map (·.uri) =
        [{ Family.base with path := "/children/1" }, { Family.base with path := "/parents/1" }] := by decide +kernel
    rw [List.reverse_eq_iff.1 hsent, List.map_append, List.map_singleton, List.reverse_concat, List.map_cons] at hasked
    rw [show last = { Family.base with path := "/children/1" } from List.head_eq_of_cons_eq hasked]
    decide +kernel
  obtain ⟨hget, hmore⟩ := honward "children/1" hlast
  exact ⟨by decide +kernel, hget, (hmore ["friend"]).1, (hmore ["friend", "friend"]).1, by decide +kernel,
    by decide +kernel⟩

/-- A page that leads to itself. -/
def loop : Response :=
  Family.answering (.object [("name", .text "Loop"),
    (Document.linksKey, .object [("next", .object [("href", .text "/7")])])])

/-- The program goes round at the page, and does not read it again where the text of its address cannot be read. -/
theorem loop_followed {text : String} {base last : Uri} {e : Failure} (hbase : Uri.parse? text = .ok base)
    (hlast : base.resolve "/7" = .ok last) (hunread : base.resolve last.text = .error e) :
    let o : Options := { url := some text }
    let transport := byAddress fun _ => .ok loop
    let ends (c : Command) : Ending := (⟨o, c⟩ : Arguments).run (fun _ => none) transport
    ∃ service r, serviceFor (fun _ => none) transport o = .ok service ∧
      Walk (siteOf service fun _ => .ok loop) "/7" ["next"] [last, last] (.ok r) ∧
      ends (.follow "/7" ["next"]) = .done (shown r) ∧ ends (.get last.text) = .failed (.failure e) := by
  intro o transport ends
  let settings : Settings := { service := { location := text } }
  let service : Service documents := ⟨{ base, settings }, transport⟩
  have hlogging : LogFilter.check settings.logging = .ok () := by
    show LogFilter.check ({} : Settings).logging = _
    decide +kernel
  have configured : serviceFor (fun _ => none) transport o = .ok service :=
    serviceFor_eq rfl hlogging hbase transport
  have hnext : (resourceIn? loop).toOption.join.map (fun r => (r.links.get? "next").map Link.expand) =
      some (some "/7") := by decide +kernel
  rcases hloop : resourceIn? loop with e | _ | r <;> rw [hloop] at hnext
  · cases hnext
  · cases hnext
  obtain ⟨link, hlink, hexpand⟩ := Option.map_eq_some_iff.1 (Option.some.inj hnext)
  have hpage : (siteOf service fun _ => .ok loop).page last = .ok (some r) := by
    have hstatus : (loop.status == Status.notFound) = false := rfl
    show pageIn service last (.ok loop) = _
    unfold pageIn
    simp only [Except.mapError, bind, Except.bind, hstatus, Bool.false_eq_true, if_false]
    exact hloop
  have walk : Walk (siteOf service fun _ => .ok loop) "/7" ["next"] [last, last] (.ok r) := by
    refine .onward hlast hpage hlink ?_
    rw [hexpand]
    exact .arrived hlast hpage
  have astray : Walk (siteOf service fun _ => .ok loop) last.text [] [] (.error e) := .astray hunread
  exact ⟨service, r, configured, walk, (run_walk configured (byAddress_answer _) walk).1,
    (run_get last.text).trans (run_walk configured (byAddress_answer _) astray).1⟩

/-- **What was followed to and cannot be read**: below a host of ideographs a page is reached, and the text of its
address has a host that is too long to be read. -/
theorem loop_unread :
    let o : Options := { url := some (String.ofList ("http://".toList ++ Domain.ideographs)) }
    let transport := byAddress fun _ => .ok loop
    let ends (c : Command) : Ending := (⟨o, c⟩ : Arguments).run (fun _ => none) transport
    let last := Uri.ideographBase.append "/7"
    ∃ service r, serviceFor (fun _ => none) transport o = .ok service ∧
      Walk (siteOf service fun _ => .ok loop) "/7" ["next"] [last, last] (.ok r) ∧
      ends (.follow "/7" ["next"]) = .done (shown r) ∧
      ends (.get last.text) = .failed (.failure (.invalidUri last.text .invalidDomain)) := by
  have sound : Uri.ideographBase.Sound := Uri.sound_of_parse? Uri.parse?_ideographs
  have web : Uri.ideographBase.IsWeb := .inl rfl
  refine loop_followed Uri.parse?_ideographs ?_ ?_
  · have hrelative : Uri.parse? "/7" = .error .relativeWithoutBase := by decide +kernel
    unfold Uri.resolve
    rw [hrelative]
  · have hunread : Uri.parse? (Uri.ideographBase.append "/7").text = .error .invalidDomain :=
      Uri.parseFrom?_ideographs (Uri.sound_append sound web "/7") (Uri.isWeb_append sound web "/7")
        (Uri.authority_append sound web "/7").2 none
    unfold Uri.resolve
    rw [hunread]

end CommandLine
end Hypermedia
