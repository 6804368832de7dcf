import Hypermedia.Proofs.Resolution.FirstMatch
import Mathlib.Data.List.Induction
/-!
# What is registered

What a builder was told, call by call, decides what comes of it: the faults are those of the calls, in order, and for
everything else the last call counts.  A registration that does not fit its type fails the build, whatever is registered
behind it; and a type that is registered is prepared when the configuration is built, so that nothing about it can be
wrong later (`checked_when_built`).  Whether resources may have the declared kind is noticed only then
(`kids_registered`).
-/
namespace Hypermedia

open Outcome (Ends ends_bind)

variable {S : Schema}

/-! ## Calls of a builder -/

namespace Configuration

inductive BuilderCall (S : Schema) where
  | location (text : String)
  | base (uri : Uri)
  | settings (s : Settings)
  | resourceType (t : S.Ty) (info : TypeInfo)
  | entity (t : S.Ty)

namespace BuilderCall

def address? : BuilderCall S → Option (Except UriError Uri)
  | .location text => some (Uri.parse? text)
  | .base uri => some (.ok uri)
  | _ => none

def settings? : BuilderCall S → Option Settings
  | .settings s => some s
  | _ => none

def info? (t : S.Ty) : BuilderCall S → Option TypeInfo
  | .resourceType u info => if u = t then some info else none
  | _ => none

/-- The type that a call registers. -/
def type? : BuilderCall S → Option S.Ty
  | .resourceType t _ => some t
  | .entity t => some t
  | _ => none

def fault? : BuilderCall S → Option ConfigurationFault
  | .location text =>
    match Uri.parse? text with
    | .ok _ => none
    | .error reason => some (.badLocation text reason)
  | .resourceType t info => info.fault? (S.entity t).descriptor (S.entity t).accepts
  | _ => none

/-- **A faulty call**: a location that is no address, or type information that does not fit the type. -/
def Faulty : BuilderCall S → Prop
  | .location text => ∀ uri, Uri.parse? text ≠ .ok uri
  | .resourceType t info => ¬ info.Fits (S.entity t)
  | _ => False

theorem fault?_ne_none_iff (c : BuilderCall S) : c.fault? ≠ none ↔ c.Faulty := by
  cases c with
  | location text =>
    simp only [fault?, Faulty]
    rcases Uri.parse? text with reason | uri <;> simp
  | resourceType t info =>
    simp only [fault?, Faulty]
    rw [← TypeInfo.fault?_eq_none_iff]
  | base uri => simp [fault?, Faulty]
  | settings s => simp [fault?, Faulty]
  | entity t => simp [fault?, Faulty]

end BuilderCall

/-- What the last of the calls that say something says. -/
def last? {β : Type} (f : BuilderCall S → Option β) (calls : List (BuilderCall S)) : Option β :=
  (calls.filterMap f).getLast?

theorem last?_concat {β : Type} (f : BuilderCall S → Option β) (calls : List (BuilderCall S)) (c : BuilderCall S) :
    last? f (calls ++ [c]) = (f c).or (last? f calls) := by
  unfold last?
  rw [List.filterMap_append, List.getLast?_append]
  cases h : f c <;> simp [h]

namespace Builder

def perform (b : Builder S) : BuilderCall S → Builder S
  | .location text => b.location text
  | .base uri => b.withBase uri
  | .settings s => b.withSettings s
  | .resourceType t info => b.resourceType t info
  | .entity t => b.entity t

def ofCalls (calls : List (BuilderCall S)) : Builder S := calls.foldl perform {}

theorem ofCalls_concat (calls : List (BuilderCall S)) (c : BuilderCall S) :
    ofCalls (calls ++ [c]) = (ofCalls calls).perform c := by
  unfold ofCalls
  rw [List.foldl_append]
  rfl

/-- A list that every call adds to holds what the calls add, in order. -/
theorem ofCalls_filterMap {β : Type} {field : Builder S → List β} {f : BuilderCall S → Option β} (start : field {} = [])
    (step : ∀ b c, field (b.perform c) = field b ++ (f c).toList) (calls : List (BuilderCall S)) :
    field (ofCalls calls) = calls.filterMap f := by
  induction calls using List.reverseRecOn with
  | nil => exact start
  | append_singleton calls c ih =>
    rw [ofCalls_concat, step, ih, List.filterMap_append]
    cases h : f c <;> simp [h]

theorem faults_perform (b : Builder S) (c : BuilderCall S) : (b.perform c).faults = b.faults ++ c.fault?.toList := by
  cases c with
  | location text =>
    simp only [perform, Builder.location, BuilderCall.fault?]
    rcases Uri.parse? text with reason | uri <;> simp
  | resourceType t info => rfl
  | base uri => exact (List.append_nil _).symm
  | settings s => exact (List.append_nil _).symm
  | entity t => exact (List.append_nil _).symm

theorem faults_ofCalls (calls : List (BuilderCall S)) : (ofCalls calls).faults = calls.filterMap BuilderCall.fault? :=
  ofCalls_filterMap rfl faults_perform calls

theorem registrations_perform (b : Builder S) (c : BuilderCall S) :
    (b.perform c).registrations = b.registrations ++ c.type?.toList := by
  cases c with
  | location text =>
    simp only [perform, Builder.location]
    rcases Uri.parse? text with reason | uri <;> exact (List.append_nil _).symm
  | resourceType t info => rfl
  | entity t => rfl
  | base uri => exact (List.append_nil _).symm
  | settings s => exact (List.append_nil _).symm

theorem registrations_ofCalls (calls : List (BuilderCall S)) :
    (ofCalls calls).registrations = calls.filterMap BuilderCall.type? :=
  ofCalls_filterMap rfl registrations_perform calls

theorem settings_perform (b : Builder S) (c : BuilderCall S) :
    (b.perform c).settings = c.settings?.getD b.settings := by
  cases c with
  | location text =>
    simp only [perform, Builder.location]
    rcases Uri.parse? text with reason | uri <;> rfl
  | _ => rfl

theorem settings_ofCalls (calls : List (BuilderCall S)) :
    (ofCalls calls).settings = (last? BuilderCall.settings? calls).getD {} := by
  induction calls using List.reverseRecOn with
  | nil => rfl
  | append_singleton calls c ih =>
    rw [ofCalls_concat, settings_perform, ih, last?_concat]
    cases c.settings? <;> rfl

theorem base_perform (b : Builder S) {c : BuilderCall S} (h : c.fault? = none) :
    (b.perform c).base.map .ok = c.address?.or (b.base.map .ok) := by
  cases c with
  | location text =>
    simp only [BuilderCall.fault?] at h
    simp only [perform, Builder.location, BuilderCall.address?]
    rcases hparse : Uri.parse? text with reason | uri
    · rw [hparse] at h
      cases h
    · rfl
  | _ => rfl

/-- Without a fault, the address of a builder is the last that it was given. -/
theorem base_ofCalls (calls : List (BuilderCall S)) (h : (ofCalls calls).faults = []) :
    last? BuilderCall.address? calls = (ofCalls calls).base.map .ok := by
  induction calls using List.reverseRecOn with
  | nil => rfl
  | append_singleton calls c ih =>
    rw [ofCalls_concat, faults_perform, List.append_eq_nil_iff] at h
    rw [last?_concat, ih h.1, ofCalls_concat, base_perform _ (Option.toList_eq_nil_iff.1 h.2)]

/-- Without a fault, the address of the service is the last that was given, or else that of the last settings. -/
theorem baseOf_ofCalls {calls : List (BuilderCall S)} {base : Uri} (faultless : (ofCalls calls).faults = [])
    (h : (ofCalls calls).baseOf = .ok base) :
    (last? BuilderCall.address? calls).getD
      (Uri.parse? ((last? BuilderCall.settings? calls).getD {}).service.location) = .ok base := by
  unfold baseOf at h
  rw [base_ofCalls calls faultless, ← settings_ofCalls]
  rcases hgiven : (ofCalls calls).base with _ | uri
  · rw [hgiven] at h
    rcases hparse : Uri.parse? (ofCalls calls).settings.service.location with reason | uri
    · simp [hparse, mapError_error] at h
    · simp only [hparse, mapError_ok] at h
      cases h
      rfl
  · rw [hgiven] at h
    cases h
    rfl

theorem lookup_filter_ne {β : Type} {k k' : String} (h : k ≠ k') : ∀ l : List (String × β),
    (l.filter (·.1 != k')).lookup k = l.lookup k
  | [] => rfl
  | (a, x) :: l => by
    rw [List.filter_cons, List.lookup_cons]
    by_cases ha : a = k'
    · subst ha
      have hk : (k == a) = false := beq_eq_false_iff_ne.2 h
      simp [hk, lookup_filter_ne h l]
    · simp [ha, List.lookup_cons, lookup_filter_ne h l]

theorem typeInfos_perform (distinct : ∀ t u : S.Ty, S.kind t = S.kind u → t = u) (t : S.Ty) (b : Builder S)
    (c : BuilderCall S) :
    (b.perform c).typeInfos.lookup (S.kind t) = (c.info? t).or (b.typeInfos.lookup (S.kind t)) := by
  cases c with
  | location text =>
    simp only [perform, Builder.location]
    rcases Uri.parse? text with reason | uri <;> rfl
  | resourceType u info =>
    simp only [perform, resourceType, BuilderCall.info?, List.lookup_cons]
    by_cases hu : u = t
    · subst hu
      simp
    · have hkind : S.kind t ≠ S.kind u := fun he => hu (distinct t u he).symm
      simp [hu, beq_eq_false_iff_ne.2 hkind, lookup_filter_ne hkind]
  | _ => rfl

/-- The type information of a type is the last that was registered for it. -/
theorem typeInfos_ofCalls (distinct : ∀ t u : S.Ty, S.kind t = S.kind u → t = u) (t : S.Ty)
    (calls : List (BuilderCall S)) :
    (ofCalls calls).typeInfos.lookup (S.kind t) = last? (BuilderCall.info? t) calls := by
  induction calls using List.reverseRecOn with
  | nil => rfl
  | append_singleton calls c ih => rw [ofCalls_concat, last?_concat, typeInfos_perform distinct, ih]

end Builder

/-! ## Building -/

theorem of_prepareAll : ∀ {ts : List S.Ty} {c c' : Configuration S}, prepareAll c ts = .ok c' →
    c'.base = c.base ∧ c'.typeInfos = c.typeInfos ∧ ∀ t ∈ ts, ∃ m, c'.metadata t = .ok m
  | [], c, c', h => by
    cases h
    exact ⟨rfl, rfl, fun t ht => by cases ht⟩
  | t :: ts, c, c', h => by
    unfold prepareAll at h
    rcases hm : c.metadata t with e | m
    · rw [hm] at h
      cases h
    · rw [hm] at h
      obtain ⟨hbase, hinfos, hrest⟩ := of_prepareAll h
      refine ⟨hbase, hinfos, fun u hu => ?_⟩
      rcases List.mem_cons.1 hu with rfl | hu
      · exact ⟨m, (metadata_congr hinfos u).trans hm⟩
      · exact hrest u hu

theorem Builder.of_build {b : Builder S} {c : Configuration S} (h : b.build = .ok c) :
    b.faults = [] ∧ b.baseOf = .ok c.base ∧ c.typeInfos = b.typeInfos ∧
      ∀ t ∈ b.registrations, ∃ m, c.metadata t = .ok m := by
  unfold build at h
  rcases hfaults : b.faults with _ | ⟨fault, faults⟩
  · rcases hbase : b.baseOf with e | base
    · simp [hfaults, hbase, bind, Except.bind] at h
    · simp only [hfaults, hbase, bind, Except.bind] at h
      obtain ⟨hbase', hinfos, hprepared⟩ := of_prepareAll h
      exact ⟨rfl, congrArg _ hbase'.symm, hinfos, hprepared⟩
  · simp [hfaults, bind, Except.bind] at h

theorem Builder.build_of_fault {b : Builder S} (h : b.faults ≠ []) :
    b.build = .error (.configuration (.collected b.faults)) := by
  unfold build
  rcases hfaults : b.faults with _ | ⟨fault, faults⟩
  · exact absurd hfaults h
  · rfl

end Configuration

/-! ## Registered types in use -/

/-- A failure that is not one of the configuration. -/
def Failure.OutsideConfiguration (e : Failure) : Prop := ∀ fault, e ≠ .configuration fault

theorem Resolver.bySelfLink_ends_outside {candidates : List Descriptor} {context : ResolutionContext}
    {declared : Descriptor} (known : ∀ c ∈ candidates, context.isSubtype declared.kind c.kind = true) (links : Links) :
    Ends Failure.OutsideConfiguration (fun kind => kind = declared.kind ∨ ∃ c ∈ candidates, kind = c.kind)
      (bySelfLink candidates context declared links) := by
  rw [bySelfLink_of_known context known]
  rcases hself : links.selfUri? context.base with e | uri?
  · obtain ⟨l, reason, -, -, rfl⟩ := Links.selfUri?_error hself
    exact .error fun fault hf => by cases hf
  · refine .ok ?_
    simp only
    rcases hfind : uri?.bind (candidate? context.base candidates) with _ | c
    · exact .inl rfl
    · obtain ⟨u, -, hc⟩ := Option.bind_eq_some_iff.1 hfind
      exact .inr ⟨c, List.mem_of_find?_eq_some hc, rfl⟩

namespace Service

open Hypermedia.Action (after_bind_ok after_get after_ofOutcome)

variable {service : Service S} {t : S.Ty} {m : Metadata S}

theorem after_collection (h : service.configuration.metadata t = .ok m) (s : Traces S) :
    ∃ c, ((service.collection t).after s).1 = .ok c := by
  unfold collection
  rw [after_bind_ok (service.after_metadata h s)]
  exact ⟨_, rfl⟩

/-- **A type with subtypes that was prepared is resolved without a failure of the configuration.** -/
theorem resolve_ends_outside (known : S.WellKnown t) {info : TypeInfo}
    (hm : service.configuration.metadata t = .ok m) (hinfo : service.configuration.typeInfo? t = some info)
    (hsubtypes : info.subtypes ≠ []) (links : Links) (s : Traces S) :
    Outcome.Ends Failure.OutsideConfiguration (fun _ => True) ((service.resolve t links).after s).1 := by
  obtain ⟨-, hresolver, hfits⟩ := Configuration.metadata_eq_ok hm
  have fits := hfits info hinfo
  have hnone : info.resolver = none := by
    by_contra hne
    exact hsubtypes (fits.one.2 hne)
  rw [hinfo, Option.map_some, TypeInfo.resolverToUse, hnone, Option.getD_none] at hresolver
  unfold resolve
  rw [after_bind_ok (service.after_metadata hm s), after_bind_ok (after_get _), after_ofOutcome, hresolver]
  unfold Configuration.resolve
  refine ends_bind (Resolver.bySelfLink_ends_outside (fun c hc => ?_) links) fun kind hkind => ?_
  · exact isSubtype_prepare known s.prepared (fits.accepted c hc)
  · have haccepts : (S.entity t).accepts kind = true := by
      rcases hkind with rfl | ⟨c, hc, rfl⟩
      · exact known.accepts
      · exact fits.accepted c hc
    simp only [haccepts, if_true]
    exact .ok trivial

end Service

namespace Configuration

/-- **Registrations are checked when the configuration is built, and never fail later.**  Kinds are distinct.  If a call
of a builder is faulty, building fails and tells the faults of all calls.  If building succeeds, the address of the
configuration is the last one that was given, or else that of the last settings.  Every registered type has metadata
from then on, with the type information that was registered for it last, or else its own; collections of it can be
made, and if it has subtypes and accepts its own kind, no resource of it fails to be resolved over the configuration. -/
theorem checked_when_built (distinct : ∀ t u : S.Ty, S.kind t = S.kind u → t = u) (calls : List (BuilderCall S)) :
    ((∃ c ∈ calls, c.Faulty) →
      (Builder.ofCalls calls).build = .error (.configuration (.collected (calls.filterMap BuilderCall.fault?)))) ∧
    ∀ configuration, (Builder.ofCalls calls).build = .ok configuration →
      let settings := (last? BuilderCall.settings? calls).getD {}
      (last? BuilderCall.address? calls).getD (Uri.parse? settings.service.location) = .ok configuration.base ∧
      ∀ t, (∃ c ∈ calls, c.type? = some t) →
        let info? := (last? (BuilderCall.info? t) calls).or (S.entity t).typeInfo
        ∃ m, S.table t = .ok m.table ∧ m.resolver = info?.map TypeInfo.resolverToUse ∧
          ∀ (transport : Transport) (s : Traces S),
            let service : Service S := ⟨configuration, transport⟩
            ((service.metadata t).after s).1 = .ok m ∧ (∃ c, ((service.collection t).after s).1 = .ok c) ∧
            ((S.entity t).accepts (S.kind t) = true → ∀ info, info? = some info → info.subtypes ≠ [] →
              ∀ links fault, ((service.resolve t links).after s).1 ≠ .error (.configuration fault)) := by
  refine ⟨?_, fun configuration hbuilt => ?_⟩
  · rintro ⟨c, hc, hfaulty⟩
    obtain ⟨fault, hfault⟩ := Option.ne_none_iff_exists'.1 (c.fault?_ne_none_iff.2 hfaulty)
    have hmem : fault ∈ (Builder.ofCalls calls).faults := by
      rw [Builder.faults_ofCalls]
      exact List.mem_filterMap.2 ⟨c, hc, hfault⟩
    rw [Builder.build_of_fault (List.ne_nil_of_mem hmem), Builder.faults_ofCalls]
  · intro settings
    obtain ⟨hfaults, hbase, hinfos, hprepared⟩ := Builder.of_build hbuilt
    refine ⟨?_, fun t ht => ?_⟩
    · exact Builder.baseOf_ofCalls hfaults hbase
    · intro info?
      have htype : configuration.typeInfo? t = info? := by
        unfold typeInfo?
        rw [hinfos, Builder.typeInfos_ofCalls distinct]
      obtain ⟨c, hc, hct⟩ := ht
      obtain ⟨m, hm⟩ := hprepared t (by
        rw [Builder.registrations_ofCalls]
        exact List.mem_filterMap.2 ⟨c, hc, hct⟩)
      obtain ⟨htable, hresolver, -⟩ := metadata_eq_ok hm
      refine ⟨m, htable, htype ▸ hresolver, fun transport s => ?_⟩
      intro service
      refine ⟨by rw [service.after_metadata hm], Service.after_collection hm s, ?_⟩
      intro haccepts info hinfo hsubtypes links fault hfails
      have known : S.WellKnown t := ⟨fun u hu => distinct u t hu, haccepts⟩
      have hends : Ends Failure.OutsideConfiguration (fun _ => True) ((service.resolve t links).after s).1 :=
        Service.resolve_ends_outside known hm (htype.trans hinfo) hsubtypes links s
      rw [hfails] at hends
      exact hends.of_error fault rfl

end Configuration

namespace Family

open Hypermedia.Configuration

theorem distinct_kinds (t u : schema.Ty) (h : schema.kind t = schema.kind u) : t = u := by
  have hfound : ∀ t : Ty, Ty.ofKind? (schema.kind t) = some t := by
    intro t
    cases t <;> decide
  exact Option.some.inj ((hfound t).symm.trans (h ▸ hfound u))

/-- Contents are registered twice, with girls before boys in the end: this is what is known about them, and contents are
resolved without a failure of the configuration. -/
theorem girls_registered_last :
    let calls : List (BuilderCall schema) :=
      [.location "http://host", .resourceType Ty.content { subtypes := [boys] },
        .resourceType Ty.content { subtypes := [girls, boys] }]
    (∀ t u, schema.kind t = schema.kind u → t = u) ∧
      (schema.entity Ty.content).accepts (schema.kind Ty.content) = true ∧
    ∃ configuration, (Builder.ofCalls calls).build = .ok configuration ∧
      Uri.parse? "http://host" = .ok configuration.base ∧
      let service : Service schema := ⟨configuration, Script.transport []⟩
      ∃ m, ((service.metadata Ty.content).after {}).1 = .ok m ∧ m.resolver = some (.bySelfLink [girls, boys]) ∧
        ∀ links fault, ((service.resolve Ty.content links).after {}).1 ≠ .error (.configuration fault) := by
  intro calls
  have haccepts : (schema.entity Ty.content).accepts (schema.kind Ty.content) = true := by decide
  have hbuilt : (Builder.ofCalls calls).build.isOk = true := by decide +kernel
  obtain ⟨-, hlater⟩ := checked_when_built distinct_kinds calls
  rcases hbuild : (Builder.ofCalls calls).build with e | configuration
  · rw [hbuild] at hbuilt
    cases hbuilt
  · obtain ⟨hbase, htypes⟩ := hlater configuration hbuild
    obtain ⟨m, -, hresolver, huse⟩ := htypes Ty.content ⟨_, List.mem_cons_of_mem _ List.mem_cons_self, rfl⟩
    obtain ⟨hmetadata, -, hresolve⟩ := huse (Script.transport []) {}
    have hlast : (last? (BuilderCall.info? Ty.content) calls).or (schema.entity Ty.content).typeInfo =
      some { subtypes := [girls, boys] } := rfl
    rw [hlast, Option.map_some, TypeInfo.resolverToUse, Option.getD_none] at hresolver
    have houtside := hresolve haccepts _ hlast (List.cons_ne_nil _ _)
    exact ⟨distinct_kinds, haccepts, configuration, rfl, hbase, m, hmetadata, hresolver, houtside⟩

/-- **What is noticed late, or otherwise.**  Kids have subtypes that they accept, but are no kids themselves: they are
registered without a complaint, and one that has no link to itself fails to be resolved because of the configuration.
And a location that is not given to the builder but stands in the settings makes building fail for the address
itself. -/
theorem kids_registered :
    let calls : List (BuilderCall schema) := [.location "http://host", .entity Ty.kid]
    let astray : List (BuilderCall schema) := [.settings { service := { location := "::nope" } }]
    (∃ configuration, (Builder.ofCalls calls).build = .ok configuration ∧
      let service : Service schema := ⟨configuration, Script.transport []⟩
      ((service.resolve Ty.kid []).after {}).1 = .error (.configuration (.foreignResolution "Kid" "Kid"))) ∧
    (Builder.ofCalls astray).build = .error (.invalidUri "::nope" .relativeWithoutBase) := by
  intro calls astray
  have hhost : Uri.parse? "http://host" = .ok base := by decide +kernel
  refine ⟨⟨{ base, prepared := [Ty.kid] }, ?_, rfl⟩, Outcome.failure?_eq_some.1 (by decide +kernel)⟩
  have hcalls : Builder.ofCalls calls = { base := some base, registrations := [Ty.kid] } := by
    simp only [calls, Builder.ofCalls, List.foldl_cons, List.foldl_nil, Builder.perform, Builder.location, hhost,
      Builder.entity]
    rfl
  rw [hcalls]
  rfl

end Family
end Hypermedia
