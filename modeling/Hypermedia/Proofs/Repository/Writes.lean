import Hypermedia.Proofs.Reading
import Hypermedia.Proofs.Repository.Batches
import Hypermedia.Proofs.Repository.Conservation
import Hypermedia.Proofs.Repository.Recovery
/-!
# Writes are sent once

A repository tries only its reads again.  A save sends its creation once, and a change only behind a conflict; a
deletion and a batch are sent once.  When the exchange of a write fails in a way that may pass, the write is the last
request of the operation and its failure the outcome, so that no operation sends a write again (`Service.Careful`,
`writes_once`).  What keeps waiting is sent again by the next operation (`batch_sent_again`).
-/
namespace Hypermedia

open Hypermedia.Action

variable {S : Schema} {t : S.Ty} {α β : Type}

namespace Service

/-- The failure of an exchange: the fault of the transport, or the refusal of the server. -/
def fault? (service : Service S) (sent : List Request) (q : Request) : Option Failure :=
  match service.transport.answer sent q with
  | .error fault => some (fault.toFailure (service.transport.named q.uri))
  | .ok r => if Status.isSuccess r.status then none else some r.refusal

/-! ## Runs that do not send a write again -/

/-- **A run that is careful with its writes.**  It only adds requests; when the exchange of one that is not a read fails
in a way that may pass, this is the last request of the run, and its failure is the outcome. -/
structure Careful (service : Service S) (s : Traces S) (run : Outcome α × Traces S) : Prop where
  grows : s.requests <:+ run.2.requests
  last : ∀ q earlier e, q.method ≠ .get → s.requests <:+ earlier → q :: earlier <:+ run.2.requests →
    service.fault? earlier q = some e → e.isRetryable = true → run.2.requests = q :: earlier ∧ run.1 = .error e

theorem split_of_suffix {q : Request} {sent earlier before : List Request} (hbefore : before <:+ earlier)
    (h : q :: earlier <:+ sent ++ before) :
    ∃ later between, sent = later ++ q :: between ∧ earlier = between ++ before := by
  obtain ⟨between, rfl⟩ := hbefore
  obtain ⟨later, hlater⟩ := h
  rw [← List.cons_append, ← List.append_assoc] at hlater
  exact ⟨later, between, (List.append_cancel_right hlater).symm, rfl⟩

variable {service : Service S} {s s' : Traces S}

/-- Reads are careful, whatever comes of them. -/
theorem Careful.of_reads {run : Outcome α × Traces S} (h : s.Extends (·.method = .get) run.2) :
    service.Careful s run := by
  obtain ⟨sent, hsent, hget⟩ := h.requests
  refine ⟨⟨sent, hsent.symm⟩, fun q earlier e hq hbefore hlater _ _ => ?_⟩
  rw [hsent] at hlater
  obtain ⟨later, between, rfl, -⟩ := split_of_suffix hbefore hlater
  exact absurd (hget q (by simp)) hq

theorem Careful.of_error {e : Failure} (h : service.Careful s ((.error e, s') : Outcome α × Traces S)) :
    service.Careful s ((.error e, s') : Outcome β × Traces S) := by
  refine ⟨h.grows, fun q earlier e' hq hbefore hlater hfault he => ?_⟩
  obtain ⟨hlast, herror⟩ := h.last q earlier e' hq hbefore hlater hfault he
  cases herror
  exact ⟨hlast, rfl⟩

/-- **Two runs one behind the other are careful**, if the first one does not end with a failure that may pass. -/
theorem Careful.trans {first : Outcome α × Traces S} {second : Outcome β × Traces S} (h : service.Careful s first)
    (settled : ∀ e, first.1 = .error e → e.isRetryable = false) (h' : service.Careful first.2 second) :
    service.Careful s second := by
  refine ⟨h.grows.trans h'.grows, fun q earlier e hq hbefore hlater hfault he => ?_⟩
  -- a request that the first run sent would have been its last one, and would have made it fail
  have hsecond : ¬ q :: earlier <:+ first.2.requests := by
    intro hfirst
    obtain ⟨-, herror⟩ := h.last q earlier e hq hbefore hfirst hfault he
    rw [settled e herror] at he
    cases he
  rcases List.suffix_or_suffix_of_suffix hlater h'.grows with hfirst | hbehind
  · exact absurd hfirst hsecond
  · rcases List.suffix_cons_iff.1 hbehind with heq | hbehind
    · exact absurd (heq ▸ List.suffix_refl _) hsecond
    · exact h'.last q earlier e hq hbehind hlater hfault he

theorem Careful.after_reads {run : Outcome α × Traces S} (h : s.Extends (·.method = .get) s')
    (h' : service.Careful s' run) : service.Careful s run := by
  have hreads : service.Careful s ((.ok (), s') : Outcome Unit × Traces S) := .of_reads h
  exact hreads.trans nofun h'

theorem Careful.bind {a : Action S α} {f : α → Action S β} (h : service.Careful s (a.after s))
    (hf : ∀ x s', service.Careful s' ((f x).after s')) : service.Careful s ((a >>= f).after s) := by
  rw [after_bind]
  rcases ha : a.after s with ⟨e | x, s'⟩ <;> rw [ha] at h
  · exact h.of_error
  · exact h.trans nofun (hf x s')

/-- What is done about failures is careful if it does nothing about those that may pass. -/
theorem Careful.tryCatch {a : Action S α} {f : Failure → Action S α} (h : service.Careful s (a.after s))
    (hf : ∀ e s', e.isRetryable = false → service.Careful s' ((f e).after s'))
    (passing : ∀ e, e.isRetryable = true → f e = throw e) : service.Careful s ((tryCatch a f).after s) := by
  rw [after_tryCatch]
  rcases ha : a.after s with ⟨e | x, s'⟩ <;> rw [ha] at h
  · simp only
    rcases he : e.isRetryable with _ | _
    · refine h.trans (fun e' herror => ?_) (hf e s' he)
      cases herror
      exact he
    · rw [passing e he]
      exact h
  · exact h

/-- **A request is careful if its failure is the outcome when it may pass.** -/
theorem careful_send {q : Request} {k : Response → Action S α} (hk : ∀ r, Silent (k r))
    (refused : ∀ r s', Status.isSuccess r.status = false → r.refusal.isRetryable = true →
      ((k r).after s').1 = .error r.refusal) (s : Traces S) : service.Careful s ((service.send q >>= k).after s) := by
  have hsent := service.requests_after_send q hk s
  refine ⟨⟨[q], hsent.symm⟩, fun q' earlier e _ hbefore hlater hfault he => ?_⟩
  rw [hsent] at hlater ⊢
  have hbehind : q' :: earlier <:+ [q] ++ s.requests := hlater
  obtain ⟨later, between, hone, rfl⟩ := split_of_suffix hbefore hbehind
  obtain ⟨rfl, hq⟩ | ⟨_, _, hnil⟩ := List.cons_eq_append_iff.1 hone
  · cases hq
    refine ⟨rfl, ?_⟩
    rw [List.nil_append] at hfault
    unfold fault? at hfault
    rw [after_bind, after_send]
    rcases hanswer : service.transport.answer s.requests q with fault | r <;> rw [hanswer] at hfault
    · cases hfault
      rfl
    · rcases hr : Status.isSuccess r.status with _ | _
      · simp only [hr, Bool.false_eq_true, if_false] at hfault
        cases hfault
        exact refused r _ hr he
      · simp only [hr, if_true] at hfault
        cases hfault
  · simp at hnil

/-- **A write is careful if its failure is the outcome when it may pass**; without a body nothing is sent. -/
theorem careful_write {method : Method} {uri : Uri} {body : Json.Encoded} {k : Response → Action S α}
    (hk : ∀ r, Silent (k r)) (refused : ∀ r s', Status.isSuccess r.status = false → r.refusal.isRetryable = true →
      ((k r).after s').1 = .error r.refusal) (s : Traces S) :
    service.Careful s ((service.write method uri body >>= k).after s) := by
  rcases body with reason | document
  · rw [after_bind_error (service.after_write_of_error method uri reason s)]
    exact .of_reads (.refl s)
  · exact careful_send hk refused s

/-! ## Single writes -/

theorem locationOf_ends (uri : Uri) (r : Response) :
    Outcome.Ends (fun e => e = r.refusal ∨ e.status? = none) (fun _ => True) (locationOf uri r) := by
  unfold locationOf
  refine Outcome.ends_bind (R := fun _ => True) ?_ fun r _ => ?_
  · unfold Response.success
    split
    · exact .ok trivial
    · exact .error (.inl rfl)
  · split
    · exact .error (.inr rfl)
    · rcases uri.join? _ with reason | location
      · exact .error (.inr rfl)
      · exact .ok trivial

variable (service)

theorem careful_post (uri : Uri) (body : Json.Encoded) (s : Traces S) :
    service.Careful s ((service.post uri body).after s) := by
  refine careful_write (fun _ => sends_ofOutcome _) (fun r s' refused _ => ?_) s
  rw [locationOf_of_refused uri refused, after_ofOutcome]

/-- Only the failure of an answer is looked at. -/
theorem after_success_of_refused (r : Response) (s : Traces S) (refused : Status.isSuccess r.status = false) :
    ((ofOutcome r.success >>= fun _ => pure () : Action S Unit).after s).1 = .error r.refusal := by
  rw [Response.success_of_refused refused]
  rfl

theorem careful_put (uri : Uri) (body : Json.Encoded) (s : Traces S) :
    service.Careful s ((service.put uri body).after s) :=
  careful_write (fun _ => sends_bind (sends_ofOutcome _) fun _ => sends_pure _)
    (fun r s' refused _ => after_success_of_refused r s' refused) s

theorem careful_delete (uri : Uri) (s : Traces S) : service.Careful s ((service.delete uri).after s) :=
  careful_send (fun _ => sends_bind (sends_ofOutcome _) fun _ => sends_pure _)
    (fun r s' refused _ => after_success_of_refused r s' refused) s

theorem careful_patch? (uri : Uri) (body : Json.Encoded) (s : Traces S) :
    service.Careful s ((service.patch? t uri body).after s) := by
  refine careful_write (service.silent_decodeAnswer? t) (fun r s' refused _ => ?_) s
  unfold decodeAnswer?
  rw [document?_of_refused refused]
  rfl

/-- A batch that finds nothing is no failure, but that does not pass. -/
theorem careful_postBatch (uri : Uri) (body : Json.Encoded) (s : Traces S) :
    service.Careful s ((service.postBatch t uri body).after s) := by
  refine careful_write (service.silent_decodeAnswerEach t) (fun r s' refused passing => ?_) s
  have hstatus := Failure.isTransient_of_isRetryable passing r.status?_refusal
  have hfound : ¬ (r.status == Status.notFound) = true := by
    intro h
    rw [eq_of_beq h] at hstatus
    exact absurd hstatus (by decide)
  unfold decodeAnswerEach
  rw [if_neg hfound, document?_of_refused refused]
  rfl

end Service

namespace Collection

variable (c : Collection S t)

theorem careful_put (I : Identity (S.Content t)) (a : S.Content t) (s : Traces S) :
    c.service.Careful s ((c.put I a).after s) := by
  unfold put
  rcases c.entityUri? I a with _ | uri
  · exact .of_reads (.refl s)
  · exact c.service.careful_put uri _ s

theorem careful_patch? (uri : Uri) (body : Json.Encoded) (s : Traces S) :
    c.service.Careful s ((c.patch? uri body).after s) :=
  (c.service.careful_patch? uri body s).bind fun r? s' =>
    .of_reads ((c.service.silent_createOption t r?).mono (fun _ => False.elim) s')

theorem careful_saveAll (batch : List (S.Content t)) (s : Traces S) :
    c.service.Careful s ((c.saveAll batch).after s) :=
  c.service.careful_postBatch c.batchUri (Batch.encode (S.entity t) batch) s

end Collection

namespace Repository

open Service (Careful)

variable {r : Repository S t} {a : S.Content t}

/-! ## Saving one entity -/

theorem careful_amend (uri : Uri) (s : Traces S) : r.collection.service.Careful s ((r.amend a uri).after s) := by
  have hpatched : ∀ s, r.collection.service.Careful s ((r.patched uri a).after s) := by
    intro s
    rw [patched_eq]
    exact (r.collection.careful_patch? uri _ s).bind fun id? s' => .of_reads (sends_reread uri id? s')
  exact (hpatched s).bind fun id s' => .of_reads (sends_confirm uri id s')

/-- **A recovery looks for the stored resource**, and changes it or does nothing more. -/
theorem after_recover (r : Repository S t) (a : S.Content t) (conflict : Failure) (s : Traces S) :
    (∃ o, (r.recover a conflict).after s = (o, ((r.locate? a).after s).2)) ∨
    ∃ uri, (r.recover a conflict).after s = (r.amend a uri).after ((r.locate? a).after s).2 := by
  rcases r.recover_cases a conflict s with ⟨p, s₂, uri, hfinds, hu⟩ | ⟨-, e, he⟩
  · have hs₂ : ((r.locate? a).after s).2 = s₂ := by
      obtain ⟨id, hid, -⟩ := hfinds
      rw [hid]
    rw [hs₂]
    rcases heq : (S.entity t).equal p.content a with _ | _
    · exact .inr ⟨uri, after_recover_of_unequal conflict hfinds hu heq⟩
    · exact .inl ⟨.ok uri, after_recover_of_equal conflict hfinds hu heq⟩
  · exact .inl ⟨.error e, he⟩

theorem careful_recover (conflict : Failure) (s : Traces S) :
    r.collection.service.Careful s ((r.recover a conflict).after s) := by
  have hlocated : s.Extends (·.method = .get) ((r.locate? a).after s).2 := (r.sends_locate? a s).mono fun _ h => h.1
  rcases r.after_recover a conflict s with ⟨o, h⟩ | ⟨uri, h⟩
  · rw [h]
    exact .of_reads hlocated
  · rw [h]
    exact .after_reads hlocated (careful_amend uri _)

theorem careful_save (r : Repository S t) (a : S.Content t) (s : Traces S) :
    r.collection.service.Careful s ((r.save a).after s) := by
  have hstored : r.collection.service.Careful s ((r.storeUri a).after s) := by
    refine (r.collection.service.careful_post _ _ s).tryCatch (fun e s' _ => ?_) fun e he => ?_
    · split
      · exact careful_recover e s'
      · exact .of_reads (.refl s')
    · refine if_neg fun hconflict => ?_
      rw [Failure.isRetryable_of_isConflict hconflict] at he
      cases he
  exact hstored.bind fun uri s' => .of_reads (r.sends_finish a uri s')

/-- The creation was answered with a conflict. -/
def Conflicts (r : Repository S t) (a : S.Content t) (s : Traces S) : Prop :=
  ∃ answer, r.Answered a s answer ∧ answer.status = Status.conflict

/-- A creation that fails with a conflict was answered with one. -/
theorem answer_of_conflict {s s' : Traces S} {e : Failure} (h : (r.collection.post a).after s = (.error e, s'))
    (conflict : e.isConflict = true) : r.Conflicts a s := by
  have hstatus : e.status? = some Status.conflict := eq_of_beq conflict
  rcases hdocument : (S.entity t).encode a with reason | document
  · rw [after_post_of_unwritten hdocument] at h
    cases h
    cases hstatus
  have written : ((S.entity t).encode a).isOk = true := by rw [hdocument]; rfl
  rw [post_of_written written, after_bind, Service.after_send] at h
  rcases hanswer : r.collection.service.transport.answer s.requests (r.creation a) with fault | answer <;>
    rw [hanswer] at h
  · cases h
    rw [Failure.status?_toFailure] at hstatus
    cases hstatus
  · refine ⟨answer, ⟨written, hanswer⟩, ?_⟩
    replace h : Service.locationOf r.collection.uri answer = .error e := congrArg Prod.fst h
    have hends := Service.locationOf_ends r.collection.uri answer
    rw [h] at hends
    rcases hends.of_error with rfl | hnone
    · rw [Response.status?_refusal] at hstatus
      exact Option.some.inj hstatus
    · rw [hnone] at hstatus
      cases hstatus

/-- **The requests of a save**: its creation, behind it only reads and a change among them, and that only if the
creation was answered with a conflict. -/
def Saves (r : Repository S t) (a : S.Content t) (s s' : Traces S) : Prop :=
  ∃ (reads before : List Request) (changed : Option Uri),
    (∀ q ∈ reads, q.method = .get) ∧ (∀ q ∈ before, q.method = .get) ∧
    s'.requests = reads ++ (changed.map (r.amendment a)).toList ++ before ++ r.creation a :: s.requests ∧
    (changed.isSome → r.Conflicts a s)

theorem Saves.extends {s s' s'' : Traces S} (h : r.Saves a s s') (later : s'.Extends (·.method = .get) s'') :
    r.Saves a s s'' := by
  obtain ⟨reads, before, changed, hreads, hbefore, hsent, hconflict⟩ := h
  obtain ⟨sent, hlater, hget⟩ := later.requests
  refine ⟨sent ++ reads, before, changed, fun q hq => ?_, hbefore, ?_, hconflict⟩
  · exact (List.mem_append.1 hq).elim (hget q) (hreads q)
  · rw [hlater, hsent]
    simp only [List.append_assoc]

theorem saves_created {s s₁ : Traces S} (sent : s₁.requests = r.creation a :: s.requests) : r.Saves a s s₁ :=
  ⟨[], [], none, List.forall_mem_nil _, List.forall_mem_nil _, sent, fun h => by cases h⟩

theorem saves_amend {s s₁ s₂ : Traces S} (sent : s₁.requests = r.creation a :: s.requests)
    (located : s₁.Extends (·.method = .get) s₂) (conflicts : r.Conflicts a s) (uri : Uri) :
    r.Saves a s ((r.amend a uri).after s₂).2 := by
  obtain ⟨before, hbefore, hget⟩ := located.requests
  have hpatched : r.Saves a s ((r.collection.patch? uri ((S.entity t).encode a)).after s₂).2 := by
    refine ⟨[], before, some uri, List.forall_mem_nil _, hget, ?_, fun _ => conflicts⟩
    obtain ⟨_, answered, -⟩ := conflicts
    rw [requests_amendment answered.written, hbefore, sent]
    rfl
  exact hpatched.extends (extends_amend uri s₂)

theorem saves_storeUri (written : ((S.entity t).encode a).isOk = true) (s : Traces S) :
    r.Saves a s ((r.storeUri a).after s).2 := by
  have hsent : ((r.collection.post a).after s).2.requests = r.creation a :: s.requests := by
    rw [post_of_written written]
    exact r.collection.service.requests_after_send _ (fun _ => sends_ofOutcome _) s
  unfold storeUri
  rw [after_tryCatch]
  rcases hpost : (r.collection.post a).after s with ⟨e | uri, s₁⟩ <;> rw [hpost] at hsent
  · by_cases conflict : e.isConflict = true
    · have hconflicts : r.Conflicts a s := answer_of_conflict hpost conflict
      have hlocated : s₁.Extends (·.method = .get) ((r.locate? a).after s₁).2 :=
        (r.sends_locate? a s₁).mono fun _ h => h.1
      simp only [if_pos conflict]
      rcases r.after_recover a e s₁ with ⟨o, h⟩ | ⟨uri, h⟩
      · rw [h]
        exact (saves_created hsent).extends hlocated
      · rw [h]
        exact saves_amend hsent hlocated hconflicts uri
    · simp only [if_neg conflict]
      exact saves_created hsent
  · exact saves_created hsent

theorem saves_save (written : ((S.entity t).encode a).isOk = true) (s : Traces S) :
    r.Saves a s ((r.save a).after s).2 :=
  (saves_storeUri written s).extends (extends_after_bind (r.sends_finish a) (r.storeUri a) s)

/-- **An entity that cannot be written is not saved**, and nothing is sent for it. -/
theorem after_save_of_unwritten {reason : String} (unwritten : (S.entity t).encode a = .error reason) (s : Traces S) :
    (r.save a).after s = (.error (.json (.unencodable reason)), s) := by
  have hstored : (r.storeUri a).after s = (.error (.json (.unencodable reason)), s) := by
    unfold storeUri
    rw [after_tryCatch, after_post_of_unwritten unwritten]
    rfl
  exact after_bind_error hstored _

/-! ## Deleting -/

variable (r a)

theorem requests_delete (s : Traces S) : ((r.delete a).after s).2.requests =
    ((r.entityUri? a).map fun uri => ({ method := .delete, uri } : Request)).toList ++ s.requests := by
  unfold delete
  rcases r.entityUri? a with _ | uri
  · rfl
  · exact r.collection.service.requests_after_send _ (fun _ => sends_bind (sends_ofOutcome _) fun _ => sends_pure _) s

theorem careful_delete (s : Traces S) : r.collection.service.Careful s ((r.delete a).after s) := by
  unfold delete
  rcases r.entityUri? a with _ | uri
  · exact .of_reads (.refl s)
  · exact r.collection.service.careful_delete uri s

theorem careful_deleteAll : ∀ (as : List (S.Content t)) (s : Traces S),
    r.collection.service.Careful s ((r.deleteAll as).after s)
  | [], s => .of_reads (.refl s)
  | a :: as, s => (r.careful_delete a s).bind fun _ s' => careful_deleteAll as s'

/-! ## Batches -/

/-- At most one batch is sent, and nothing else. -/
def SendsBatch (s s' : Traces S) : Prop :=
  s'.requests = s.requests ∨
    ∃ body, s'.requests = { method := .post, uri := r.collection.batchUri, body := some body } :: s.requests

variable (b : Buffer (S.Content t)) (s : Traces S)

theorem sendsBatch_afterBatch (batch : List (S.Content t)) : r.SendsBatch s (r.afterBatch b s batch).2 := by
  rw [r.afterBatch_traces]
  unfold Collection.saveAll
  rcases Batch.encode (S.entity t) batch with e | body
  · exact .inl rfl
  · exact .inr ⟨body, r.collection.service.requests_after_send _ (r.collection.service.silent_decodeAnswerEach t) s⟩

/-- A call of a buffer as a run. -/
def run (x : (Outcome α × Buffer (S.Content t)) × Traces S) : Outcome α × Traces S := (x.1.1, x.2)

theorem careful_afterBatch (batch : List (S.Content t)) :
    r.collection.service.Careful s (run (r.afterBatch b s batch)) := by
  have hadopted : run (r.afterBatch b s batch) =
      (r.collection.saveAll batch >>= fun saved => ofOutcome (r.adoptEach saved)).after s := by
    rw [after_bind]
    unfold afterBatch run
    rcases (r.collection.saveAll batch).after s with ⟨e | saved, s'⟩ <;> rfl
  rw [hadopted]
  exact (r.collection.careful_saveAll batch s).bind fun saved s' => .of_reads (.refl s')

/-- **One call of a buffer** sends one batch at most, and is careful. -/
theorem perform_batch (c : BufferCall (S.Content t)) :
    r.SendsBatch s ((r.perform c).after b s).2 ∧ r.collection.service.Careful s (run ((r.perform c).after b s)) := by
  rw [r.after_perform]
  rcases b.batch? c with _ | batch
  · exact ⟨.inl rfl, .of_reads (.refl s)⟩
  · exact ⟨r.sendsBatch_afterBatch b s batch, r.careful_afterBatch b s batch⟩

theorem careful_persistAll : ∀ (as : List (S.Content t)) (b : Buffer (S.Content t)) (s : Traces S),
    r.collection.service.Careful s (run ((r.persistAll as).after b s))
  | [], b, s => .of_reads (.refl s)
  | a :: as, b, s => by
    have hfirst := (r.perform_batch b s (.persist a)).2
    unfold perform at hfirst
    rw [after_persistAll_cons]
    rcases hpersist : (r.persist a).after b s with ⟨⟨e | saved, b₁⟩, s₁⟩ <;> rw [hpersist] at hfirst
    · exact hfirst
    · have hrest := careful_persistAll as b₁ s₁
      refine hfirst.trans nofun ?_
      simp only
      rcases hall : (r.persistAll as).after b₁ s₁ with ⟨⟨e | others, b₂⟩, s₂⟩ <;> rw [hall] at hrest
      · exact hrest
      · exact hrest.trans nofun (.of_reads (.refl s₂))

/-! ## Reading -/

/-- **A read tries**: it sends the request for one address again and again, but not more often than the policy says. -/
def Tries (uri : Uri) (a : Action S α) : Prop :=
  ∀ s, ∃ k < r.retry.maxAttempts.toNat, (a.after s).2.requests =
    List.replicate (k + 1) { method := .get, uri } ++ s.requests

variable {r}

theorem tries_execute {uri : Uri} {a : Action S α}
    (one : ∀ s, (a.after s).2.requests = { method := .get, uri } :: s.requests)
    (label : String) : r.Tries uri (r.retry.execute label a) := by
  intro s
  obtain ⟨k, hk, s', hs', hafter, -⟩ := after_execute one r.retry label s
  refine ⟨k, hk, ?_⟩
  rw [hafter, one, hs', List.replicate_succ, List.cons_append]

variable (r)

theorem find?_tries (a : S.Content t) :
    match r.naturalId with
    | some n => r.Tries (r.collection.searchUri n.path n.name (n.value a)) (r.find? a)
    | none => Silent (r.find? a) := by
  unfold find?
  rcases r.naturalId with _ | n
  · exact sends_throw _
  · exact tries_execute (r.collection.requests_search? n.path n.name (n.value a)) _

/-- **Writes are never repeated, whatever the retry policy.**  The reads of a repository send the request for one
address, as often as the policy says at most, which is once at least; a search without a natural id sends nothing.  The
save of an entity that can be written sends its creation once, and one change at most, which needs a conflict; all else
that it sends are reads.  If the entity cannot be written, its save sends nothing.  A deletion sends nothing else, and
no more than one request; a call of the buffer sends one batch at most, and nothing else.  No operation goes on behind a
write whose exchange fails in a way that may pass. -/
theorem writes_once (r : Repository S t) :
    let c := r.collection
    ((∀ n base most, (RetryPolicy.new n base most).maxAttempts.toNat = max n.toNat 1) ∧
      (∀ id, r.Tries (c.memberUri (r.identity.text id)) (r.get? id)) ∧ r.Tries c.uri r.getAll ∧
      r.Tries (c.uri.append "/search/findAll") r.findAll ∧
      ∀ a, match r.naturalId with
        | some n => r.Tries (c.searchUri n.path n.name (n.value a)) (r.find? a)
        | none => Silent (r.find? a)) ∧
    (∀ a s, (((S.entity t).encode a).isOk = true → r.Saves a s ((r.save a).after s).2) ∧
      (∀ reason, (S.entity t).encode a = .error reason →
        (r.save a).after s = (.error (.json (.unencodable reason)), s)) ∧
      c.service.Careful s ((r.save a).after s)) ∧
    (∀ a s, ((r.delete a).after s).2.requests =
        ((r.entityUri? a).map fun uri => ({ method := .delete, uri } : Request)).toList ++ s.requests ∧
      c.service.Careful s ((r.delete a).after s)) ∧
    (∀ as s, c.service.Careful s ((r.deleteAll as).after s)) ∧
    (∀ b s call, r.SendsBatch s ((r.perform call).after b s).2 ∧
      c.service.Careful s (run ((r.perform call).after b s))) ∧
    (∀ as b s, c.service.Careful s (run ((r.persistAll as).after b s))) ∧
    ∀ s, (∀ a, c.service.Careful s ((c.post a).after s)) ∧ (∀ I a, c.service.Careful s ((c.put I a).after s)) ∧
      (∀ uri body, c.service.Careful s ((c.patch? uri body).after s)) ∧
      (∀ uri, c.service.Careful s ((c.delete uri).after s)) ∧
      ∀ batch, c.service.Careful s ((c.saveAll batch).after s) := by
  intro c
  refine ⟨⟨RetryPolicy.maxAttempts_new, fun id => ?_, ?_, ?_, r.find?_tries⟩,
    fun a s => ⟨fun written => saves_save written s, fun _ unwritten => after_save_of_unwritten unwritten s,
      r.careful_save a s⟩, fun a s => ⟨r.requests_delete a s, r.careful_delete a s⟩,
    r.careful_deleteAll, r.perform_batch, r.careful_persistAll, fun s => ⟨fun a => ?_, fun I a => c.careful_put I a s,
      fun uri body => c.careful_patch? uri body s, fun uri => ?_, fun batch => c.careful_saveAll batch s⟩⟩
  · exact tries_execute (c.requests_get? _) _
  · exact tries_execute (c.requests_getAllAt _) _
  · exact tries_execute (c.requests_getAllAt _) _
  · exact c.service.careful_post c.uri ((S.entity t).encode a) s
  · exact c.service.careful_delete uri s

end Repository

namespace Family

/-- A server that has too much to do to save parents. -/
def busy : Script := [{ method := "POST", uri := "http://host/parents", replies := [.ok { status := 503 }] }]

/-- Under a policy of three attempts the creation of a parent is sent once when the server has too much to do. -/
theorem homer_sent_once :
    let r : Repository schema Ty.parent := { parents busy with retry := .new 3 0 0 }
    r.retry.maxAttempts = 3 ∧ ((r.save homer).after {}).2.requests = [r.creation homer] ∧
      ((r.save homer).after {}).1 = .error (Response.refusal { status := 503 }) := by
  intro r
  have hanswer : r.collection.service.transport.answer [] (r.creation homer) =
    .ok { status := 503 } := by decide +kernel
  have hfault : r.collection.service.fault? [] (r.creation homer) = some (Response.refusal { status := 503 }) := by
    unfold Service.fault?
    rw [hanswer]
    exact if_neg (by decide)
  obtain ⟨-, hsave, -⟩ := r.writes_once
  obtain ⟨hsaves, -, hcareful⟩ := hsave homer {}
  obtain ⟨reads, before, changed, -, -, hsent, -⟩ := hsaves rfl
  have hcreated : [r.creation homer] <:+ ((r.save homer).after {}).2.requests := ⟨_, hsent.symm⟩
  have hpassing : (Response.refusal { status := 503 }).isRetryable = true := Response.isRetryable_refusal _
  exact ⟨rfl, hcareful.last (r.creation homer) [] _ (by decide) (List.suffix_refl _) hcreated hfault hpassing⟩

/-- A server that has too much to do to save batches. -/
def congested : Script := [{ method := "POST", uri := "http://host/batch", replies := [.ok { status := 503 }] }]

/-- **Writes that are not sent once**: a parcel without a name is saved, and no creation is sent; and a batch that
failed in a way that may pass is sent again by the next operation. -/
theorem batch_sent_again :
    let r := parents congested
    let first := (r.persist homer).after r.collection.buffer {}
    let second := r.flush.after first.1.2 first.2
    let q := r.collection.batchRequest homerBatch
    let e := Response.refusal { status := 503 }
    (((parcels []).save { name := "" }).after {}).2.requests = [] ∧
    first.2.requests = [q] ∧ r.collection.service.fault? [] q = some e ∧ e.isRetryable = true ∧
      second.2.requests = [q, q] := by
  intro r first second q e
  have hbody : Batch.Holds (schema.entity Ty.parent) homerBatch [homer] := ⟨_, rfl, .cons ⟨_, rfl, rfl⟩ .nil⟩
  have hrefused : r.accepts {} [homer] = false := by decide +kernel
  have hfirst : first = r.afterBatch r.collection.buffer {} [homer] :=
    (r.after_persist r.collection.buffer {} homer).trans (if_pos (by decide))
  have hsent : first.2.requests = [q] := by
    rw [hfirst, r.afterBatch_traces]
    exact Collection.requests_saveAll hbody
  have hqueue : first.1.2.queue = [homer] := by
    rw [hfirst, r.afterBatch_queue, hrefused]
    rfl
  have hsecond : second = r.afterBatch first.1.2 first.2 first.1.2.queue :=
    (r.after_flush first.1.2 first.2).trans (if_neg (by rw [hqueue]; nofun))
  have htraces : second.2 = ((r.collection.saveAll first.1.2.queue).after first.2).2 :=
    (congrArg Prod.snd hsecond).trans (r.afterBatch_traces _ _ _)
  rw [hqueue] at htraces
  have hanswer : r.collection.service.transport.answer [] q = .ok { status := 503 } := by decide +kernel
  refine ⟨by decide +kernel, hsent, ?_, Response.isRetryable_refusal _, ?_⟩
  · unfold Service.fault?
    rw [hanswer]
    exact if_neg (by decide)
  · rw [htraces]
    exact (Collection.requests_saveAll hbody).trans (congrArg _ hsent)

end Family
end Hypermedia
