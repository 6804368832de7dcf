import Hypermedia.Proofs.Reading
import Hypermedia.Proofs.Repository.Conservation
import Hypermedia.Proofs.Repository.Recovery
/-!
# What a failed flush keeps

A flush fails before the batch is accepted, and then everything keeps waiting, or behind it.  The answer to an accepted
batch was read by then, so the one thing left that can fail is to give the saved entities their addresses: a link of a
saved resource to itself may lead nowhere.  The queue is empty at that point (`failed_flush`, `accepted_batch_lost`).
-/
namespace Hypermedia

open Outcome (Ends ends_bind)

variable {S : Schema} {t : S.Ty}

theorem Collection.saveAll_ends (c : Collection S t) (batch : List (S.Content t)) :
    Action.Ends (fun _ => True) (Service.AllBlank t) (c.saveAll batch) := by
  unfold saveAll
  rcases Batch.encode (S.entity t) batch with reason | body
  · exact fun s => .error trivial
  · exact (c.service.postBatch_ends t c.batchUri body).mono (fun _ _ => trivial) fun _ h => h

namespace Repository

open Buffered

variable (r : Repository S t) {m : Resource (S.Content t)} {saved : List (Resource (S.Content t))} {e : Failure}

/-- A saved resource without an address is adopted unless its link to itself leads nowhere. -/
theorem adopt_of_blank (h : (S.entity t).Blank m.content) :
    r.adopt m = (m.links.selfUri? r.collection.service.base).map fun uri? =>
      uri?.elim m.content (r.identity.slot.put m.content) := by
  unfold adopt
  rcases m.links.selfUri? r.collection.service.base with e | _ | uri
  · rfl
  · rfl
  · have hblank : r.identity.slot.get m.content = none := h r.identity.slot r.identified.slot_eq
    show r.identity.slot.set m.content uri = .ok _
    unfold AddressSlot.set
    rw [hblank]
    rfl

/-- The link of a saved resource to itself leads nowhere, which is the given failure. -/
def Astray (m : Resource (S.Content t)) (e : Failure) : Prop :=
  m.links.selfUri? r.collection.service.base = .error e

/-- **Saved resources are adopted unless one of them has a link to itself that leads nowhere.** -/
theorem adoptEach_ends : ∀ {saved : List (Resource (S.Content t))}, Service.AllBlank t saved →
    Ends (fun e => ∃ m ∈ saved, r.Astray m e) (fun _ => ∀ m ∈ saved, ∀ e, ¬ r.Astray m e) (r.adoptEach saved)
  | [], _ => .ok fun m hm => by cases hm
  | m :: ms, h => by
    unfold adoptEach
    rw [r.adopt_of_blank (List.forall_mem_cons.1 h).1]
    rcases hm : m.links.selfUri? r.collection.service.base with e | uri?
    · exact .error ⟨m, List.mem_cons_self, hm⟩
    have hfirst : ∀ e, ¬ r.Astray m e := fun e he => by cases hm.symm.trans he
    have hrest := adoptEach_ends (List.forall_mem_cons.1 h).2
    show Ends _ _ (r.adoptEach ms >>= fun as => pure (_ :: as))
    rcases ho : r.adoptEach ms with e | as <;> rw [ho] at hrest
    · obtain ⟨m', hm', he⟩ := hrest.of_error
      exact .error ⟨m', List.mem_cons_of_mem m hm', he⟩
    · exact .ok (List.forall_mem_cons.2 ⟨hfirst, hrest.of_ok⟩)

/-- **Everything about a flush that fails.**  It fails just when something waits and its batch is not accepted, whether
it cannot be encoded, the exchange fails, the server refuses or the answer cannot be read, or a link of a saved resource
to itself leads nowhere.  A batch that is not accepted leaves the buffer as it was; in the other case nothing waits any
more, although something did. -/
theorem failed_flush (b : Buffer (S.Content t)) (s : Traces S) :
    let save := (r.collection.saveAll b.queue).after s
    let flushed := r.flush.after b s
    (∀ e, flushed.1.1 = .error e → b.queue ≠ [] ∧
      (save.1 = .error e ∧ flushed.1.2 = b ∨
        ∃ saved, save.1 = .ok saved ∧ (∃ m ∈ saved, r.Astray m e) ∧ flushed.1.2.queue = [])) ∧
    (b.queue ≠ [] →
      (∀ e, save.1 = .error e → flushed.1.1 = .error e) ∧
      ∀ saved, save.1 = .ok saved → ∀ m ∈ saved, ∀ e, r.Astray m e → ∃ e', flushed.1.1 = .error e') := by
  intro save flushed
  have hblank : Ends (fun _ => True) (Service.AllBlank t) save.1 := r.collection.saveAll_ends b.queue s
  by_cases hempty : b.queue = []
  · have hflushed : flushed = ((.ok [], b), s) := by
      show r.flush.after b s = _
      rw [after_flush, if_pos (List.isEmpty_iff.2 hempty)]
    refine ⟨fun e he => ?_, fun h => absurd hempty h⟩
    rw [hflushed] at he
    cases he
  have hflushed : flushed = r.afterBatch b s b.queue := by
    show r.flush.after b s = _
    rw [after_flush, if_neg fun h => hempty (List.isEmpty_iff.1 h)]
  rcases hsave : save with ⟨e | saved, s'⟩
  · have hkept : flushed = ((.error e, b), s') := by
      rw [hflushed]
      unfold afterBatch
      rw [show (r.collection.saveAll b.queue).after s = (.error e, s') from hsave]
    rw [hkept]
    refine ⟨fun e' he => ⟨hempty, .inl ⟨?_, rfl⟩⟩, fun _ => ⟨fun e' he => ?_, fun saved h => by cases h⟩⟩
    · cases he; rfl
    · cases he; rfl
  · have hlost : flushed = ((r.adoptEach saved, { b with queue := [] }), s') := by
      rw [hflushed]
      unfold afterBatch
      rw [show (r.collection.saveAll b.queue).after s = (.ok saved, s') from hsave]
    rw [hsave] at hblank
    have hadopt := r.adoptEach_ends hblank.of_ok
    rw [hlost]
    refine ⟨fun e he => ⟨hempty, .inr ⟨saved, rfl, ?_, rfl⟩⟩, fun _ => ⟨fun e h => ?_, ?_⟩⟩
    · rw [show r.adoptEach saved = .error e from he] at hadopt
      exact hadopt.of_error
    · cases h
    · rintro saved' h m hm e he
      cases h
      rcases ho : r.adoptEach saved with e' | as
      · exact ⟨e', rfl⟩
      · rw [ho] at hadopt
        exact absurd he (hadopt.of_ok m hm e)

end Repository

namespace Family

def waitingHomer : Buffer (schema.Content Ty.parent) := { queue := [({ name := "Homer" } : Person)], maxSize := 2 }

/-- A server that refuses batches. -/
def refusing : Script := [{ method := "POST", uri := "http://host/batch", replies := [.ok { status := 500 }] }]

/-- A parent whose batch is refused waits for the next one. -/
theorem homer_waits :
    let r := parents refusing
    waitingHomer.queue ≠ [] ∧
    ∃ e, ((r.collection.saveAll waitingHomer.queue).after {}).1 = .error e ∧
      (r.flush.after waitingHomer {}).1.1 = .error e ∧ (r.flush.after waitingHomer {}).1.2 = waitingHomer := by
  intro r
  have hqueue : waitingHomer.queue ≠ [] := List.cons_ne_nil _ _
  obtain ⟨hflushed, hfails⟩ := r.failed_flush waitingHomer {}
  have hrefused : ((r.collection.saveAll waitingHomer.queue).after {}).1.isOk = false := by decide +kernel
  rcases he : ((r.collection.saveAll waitingHomer.queue).after {}).1 with e | saved <;> rw [he] at hrefused
  · have herror := (hfails hqueue).1 e he
    obtain ⟨-, ⟨-, hkept⟩ | ⟨saved, hok, -⟩⟩ := hflushed e herror
    · exact ⟨hqueue, e, rfl, herror, hkept⟩
    · cases he.symm.trans hok
  · cases hrefused

/-- A server that saves a batch and gives a parent an address that cannot be read. -/
def careless : Script :=
  [ { method := "POST"
      uri := "http://host/batch"
      replies := [.ok (answering (.array [.object [("name", .text "Homer"),
        ("_links", .object [("self", .object [("href", .text "http://[")])])]]))] }]

/-- **An accepted batch that is lost**: the flush fails with a parent in the queue, and leaves none there. -/
theorem accepted_batch_lost :
    let flushed := (parents careless).flush.after waitingHomer {}
    flushed.1.1.isOk = false ∧ waitingHomer.queue.length = 1 ∧ flushed.1.2.queue = [] := by
  intro flushed
  have hfailed : flushed.1.1.isOk = false := by decide +kernel
  have hlost : flushed.1.2.queue.length = 0 := by decide +kernel
  exact ⟨hfailed, rfl, List.eq_nil_of_length_eq_zero hlost⟩

end Family
end Hypermedia
