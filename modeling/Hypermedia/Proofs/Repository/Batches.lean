import Hypermedia.Proofs.Batch
import Hypermedia.Proofs.Repository.FailedFlush
/-!
# Where batches begin and end

Entities that are handed over together are saved in batches of the size that is waited for, one behind the other, and
the batches begin with what waited before.  As long as fewer wait than are waited for, one more entity either waits or
fills a batch, so every batch that is sent is full and what is left over keeps waiting (`persistAll_batches`).  Entities
that are saved at once go into one batch together with the queue, however many they are (`saveAll_one_batch`), as long
as all of them can be written (`batches_kept`).
-/
namespace Hypermedia

open Hypermedia.Action

/-! ## Full batches -/

namespace Batch

variable {α : Type}

/-- The batches of `n` entities that a list fills, one behind the other. -/
def full (n : Nat) (as : List α) : List (List α) := (List.range (as.length / n)).map fun i => (as.drop (i * n)).take n

/-- What is left over behind the full batches. -/
def rest (n : Nat) (as : List α) : List α := as.drop (as.length / n * n)

variable {n : Nat} {as batch : List α}

theorem full_of_lt (h : as.length < n) : full n as = [] := by
  unfold full
  rw [Nat.div_eq_of_lt h]
  rfl

theorem rest_of_lt (h : as.length < n) : rest n as = as := by
  unfold rest
  rw [Nat.div_eq_of_lt h, Nat.zero_mul, List.drop_zero]

theorem length_append_div (hn : 0 < n) (h : batch.length = n) (as : List α) :
    (batch ++ as).length / n = as.length / n + 1 := by
  rw [List.length_append, h, Nat.add_comm, Nat.add_div_right _ hn]

theorem drop_append_batch (h : batch.length = n) (as : List α) (i : Nat) :
    (batch ++ as).drop ((i + 1) * n) = as.drop (i * n) := by
  rw [Nat.succ_mul, Nat.add_comm, ← h, List.drop_append]
  simp

theorem full_append (hn : 0 < n) (h : batch.length = n) (as : List α) : full n (batch ++ as) = batch :: full n as := by
  have hfirst : ((batch ++ as).drop (0 * n)).take n = batch := by
    rw [Nat.zero_mul, List.drop_zero, List.take_left' h]
  unfold full
  rw [length_append_div hn h, List.range_succ_eq_map, List.map_cons, List.map_map, hfirst]
  congr 1
  apply List.map_congr_left
  intro i _
  simp only [Function.comp_apply, Nat.succ_eq_add_one, drop_append_batch h]

theorem rest_append (hn : 0 < n) (h : batch.length = n) (as : List α) : rest n (batch ++ as) = rest n as := by
  unfold rest
  rw [length_append_div hn h, drop_append_batch h]

theorem length_full (n : Nat) (as : List α) : (full n as).length = as.length / n := by
  simp [full]

theorem length_of_mem_full (h : batch ∈ full n as) : batch.length = n := by
  simp only [full, List.mem_map, List.mem_range] at h
  obtain ⟨i, hi, rfl⟩ := h
  have hend : (i + 1) * n ≤ as.length := Nat.le_trans (Nat.mul_le_mul_right n hi) (Nat.div_mul_le_self _ _)
  rw [Nat.succ_mul] at hend
  simp only [List.length_take, List.length_drop]
  omega

theorem length_rest (n : Nat) (as : List α) : (rest n as).length = as.length % n := by
  have h := Nat.div_add_mod' as.length n
  simp only [rest, List.length_drop]
  omega

/-- **Full batches and what is left over make up the whole list**, in order. -/
theorem flatten_full_append_rest (n : Nat) (as : List α) : (full n as).flatten ++ rest n as = as := by
  have hfront : ∀ k, ((List.range k).map fun i => (as.drop (i * n)).take n).flatten = as.take (k * n) := by
    intro k
    induction k with
    | zero => simp
    | succ k ih =>
      rw [List.range_succ, List.map_append, List.flatten_append, ih, Nat.succ_mul, List.take_add]
      simp
  unfold full rest
  rw [hfront, List.take_append_drop]

end Batch

variable {S : Schema} {t : S.Ty}

/-! ## Batches that are saved one after the other -/

namespace Collection

variable (c : Collection S t)

/-- Saves batches one after the other, as long as each of them is accepted; gives the answers to all of them. -/
def saveEach : List (List (S.Content t)) → Action S (List (List (Resource (S.Content t))))
  | [] => return []
  | batch :: batches => do
    let saved ← c.saveAll batch
    return saved :: (← saveEach batches)

def batchRequest (body : Json) : Request := { method := .post, uri := c.batchUri, body := some body }

variable {c} {s s' : Traces S} {batch : List (S.Content t)}

/-- A batch that can be written is sent once, whatever is answered. -/
theorem requests_saveAll {body : Json} (h : Batch.Holds (S.entity t) body batch) :
    ((c.saveAll batch).after s).2.requests = c.batchRequest body :: s.requests := by
  unfold saveAll
  rw [Batch.encode_eq_ok_iff.2 h]
  exact c.service.requests_after_send _ (c.service.silent_decodeAnswerEach t) s

/-- A batch that cannot be written fails before anything is sent. -/
theorem saveAll_of_unwritten (c : Collection S t) (h : ¬ ∃ body, Batch.Holds (S.entity t) body batch) (s : Traces S) :
    ∃ e, (c.saveAll batch).after s = (.error e, s) := by
  unfold saveAll
  rcases hbody : Batch.encode (S.entity t) batch with reason | body
  · exact ⟨.json (.unencodable reason), rfl⟩
  · exact absurd ⟨body, Batch.encode_eq_ok_iff.1 hbody⟩ h

/-- A batch that is accepted was sent once. -/
theorem sent_of_saveAll {saved : List (Resource (S.Content t))} (h : (c.saveAll batch).after s = (.ok saved, s')) :
    ∃ body, Batch.Holds (S.entity t) body batch ∧ s'.requests = c.batchRequest body :: s.requests := by
  by_cases hbody : ∃ body, Batch.Holds (S.entity t) body batch
  · obtain ⟨body, hbody⟩ := hbody
    have hsent := requests_saveAll (c := c) (s := s) hbody
    rw [h] at hsent
    exact ⟨body, hbody, hsent⟩
  · obtain ⟨e, he⟩ := c.saveAll_of_unwritten hbody s
    rw [he] at h
    cases h

theorem of_saveEach_cons {batches : List (List (S.Content t))} {answers : List (List (Resource (S.Content t)))}
    (h : (c.saveEach (batch :: batches)).after s = (.ok answers, s')) : ∃ saved s₁ others,
      (c.saveAll batch).after s = (.ok saved, s₁) ∧ (c.saveEach batches).after s₁ = (.ok others, s') ∧
        answers = saved :: others := by
  obtain ⟨saved, s₁, hsave, hbehind⟩ := of_after_bind h
  obtain ⟨others, s₂, hothers, hpure⟩ := of_after_bind hbehind
  cases hpure
  exact ⟨saved, s₁, others, hsave, hothers, rfl⟩

/-- **One request is sent for each batch**, in order, and holds the entities of the batch. -/
theorem requests_saveEach : ∀ (batches : List (List (S.Content t))) {s : Traces S}
    {answers : List (List (Resource (S.Content t)))}, (c.saveEach batches).after s = (.ok answers, s') →
    ∃ bodies, List.Forall₂ (Batch.Holds (S.entity t)) bodies batches ∧
      s'.requests = (bodies.map c.batchRequest).reverse ++ s.requests
  | [], _, _, h => by
    cases h
    exact ⟨[], .nil, rfl⟩
  | batch :: batches, s, _, h => by
    obtain ⟨saved, s₁, others, hsave, hothers, rfl⟩ := of_saveEach_cons h
    obtain ⟨body, hbody, hfirst⟩ := sent_of_saveAll hsave
    obtain ⟨bodies, hbodies, hrest⟩ := requests_saveEach batches hothers
    refine ⟨body :: bodies, .cons hbody hbodies, ?_⟩
    rw [hrest, hfirst]
    simp

end Collection

namespace Repository

open Buffered

variable (r : Repository S t)

/-- **A saved resource as the entity that is given back**: its content, with the address to which its link to itself
leads, if it has one. -/
structure Adopted (m : Resource (S.Content t)) (a : S.Content t) : Prop where
  uri? : m.links.selfUri? r.collection.service.base = .ok (r.identity.slot.get a)
  content : a = (r.identity.slot.get a).elim m.content (r.identity.slot.put m.content)

theorem adopt_of_resolved {m : Resource (S.Content t)} (blank : (S.entity t).Blank m.content)
    (resolved : ∀ e, ¬ r.Astray m e) : ∃ a, r.adopt m = .ok a ∧ r.Adopted m a := by
  rw [r.adopt_of_blank blank]
  rcases hm : m.links.selfUri? r.collection.service.base with e | _ | uri
  · exact absurd hm (resolved e)
  · have hget : r.identity.slot.get m.content = none := blank r.identity.slot r.identified.slot_eq
    exact ⟨m.content, rfl, by rw [hm, hget], by rw [hget]; rfl⟩
  · have hget := r.identity.slot.get_put m.content uri
    exact ⟨r.identity.slot.put m.content uri, rfl, by rw [hm, hget], by rw [hget]; rfl⟩

theorem adoptEach_of_resolved : ∀ {saved : List (Resource (S.Content t))}, Service.AllBlank t saved →
    (∀ m ∈ saved, ∀ e, ¬ r.Astray m e) → ∃ as, r.adoptEach saved = .ok as ∧ List.Forall₂ r.Adopted saved as
  | [], _, _ => ⟨[], rfl, .nil⟩
  | m :: ms, hblank, resolved => by
    obtain ⟨hfirst, hrest⟩ := List.forall_mem_cons.1 hblank
    obtain ⟨hm, hms⟩ := List.forall_mem_cons.1 resolved
    obtain ⟨a, ha, hadopted⟩ := r.adopt_of_resolved hfirst hm
    obtain ⟨as, has, hall⟩ := adoptEach_of_resolved hrest hms
    refine ⟨a :: as, ?_, .cons hadopted hall⟩
    unfold adoptEach
    rw [ha, has]
    rfl

variable (b : Buffer (S.Content t)) {s s' : Traces S}

/-- A batch that is accepted is given back, and nothing waits any more. -/
theorem afterBatch_of_accepted {batch : List (S.Content t)} {saved : List (Resource (S.Content t))}
    (h : (r.collection.saveAll batch).after s = (.ok saved, s')) (resolved : ∀ m ∈ saved, ∀ e, ¬ r.Astray m e) :
    ∃ as, r.afterBatch b s batch = ((.ok as, { b with queue := [] }), s') ∧ List.Forall₂ r.Adopted saved as := by
  have hblank := r.collection.saveAll_ends batch s
  rw [h] at hblank
  obtain ⟨as, has, hadopted⟩ := r.adoptEach_of_resolved hblank.of_ok resolved
  refine ⟨as, ?_, hadopted⟩
  unfold afterBatch
  rw [h]
  simp only [has]

/-- **Handing over entities one by one saves the batches that they fill**, behind what waited, if fewer waited than are
waited for. -/
theorem after_persistAll_full : ∀ (as : List (S.Content t)) (b : Buffer (S.Content t)) {s : Traces S}
    {answers : List (List (Resource (S.Content t)))}, b.queue.length < max b.maxSize 1 →
    (r.collection.saveEach (Batch.full (max b.maxSize 1) (b.queue ++ as))).after s = (.ok answers, s') →
    (∀ m ∈ answers.flatten, ∀ e, ¬ r.Astray m e) →
    ∃ given, (r.persistAll as).after b s =
        ((.ok given, { b with queue := Batch.rest (max b.maxSize 1) (b.queue ++ as) }), s') ∧
      List.Forall₂ r.Adopted answers.flatten given
  | [], b, s, answers, short, saves, _ => by
    rw [List.append_nil] at saves ⊢
    rw [Batch.full_of_lt short] at saves
    cases saves
    rw [Batch.rest_of_lt short]
    exact ⟨[], rfl, .nil⟩
  | a :: as, b, s, answers, short, saves, resolved => by
    rw [List.append_cons] at saves ⊢
    rw [after_persistAll_cons, after_persist]
    by_cases hfull : b.maxSize ≤ b.queue.length + 1
    · -- the entity fills a batch, and the others are handed over to an empty queue
      have hsize : (b.queue ++ [a]).length = max b.maxSize 1 := by
        simp only [List.length_append, List.length_singleton]
        omega
      have hpos : 0 < max b.maxSize 1 := by omega
      rw [Batch.full_append hpos hsize] at saves
      rw [if_pos hfull, Batch.rest_append hpos hsize]
      obtain ⟨saved, s₁, others, hsave, hothers, rfl⟩ := Collection.of_saveEach_cons saves
      rw [List.flatten_cons] at resolved
      obtain ⟨first, hfirst, hadopted⟩ := r.afterBatch_of_accepted b hsave
        fun m hm => resolved m (List.mem_append_left _ hm)
      obtain ⟨given, hgiven, hall⟩ := after_persistAll_full as { b with queue := [] } hpos hothers
        fun m hm => resolved m (List.mem_append_right _ hm)
      rw [hfirst]
      simp only [hgiven]
      exact ⟨first ++ given, rfl, List.rel_append hadopted hall⟩
    · rw [if_neg hfull]
      obtain ⟨given, hgiven, hadopted⟩ := after_persistAll_full as { b with queue := b.queue ++ [a] } (by
        simp only [List.length_append, List.length_singleton]
        omega) saves resolved
      simp only [hgiven]
      exact ⟨given, rfl, hadopted⟩

/-- **Full batches are saved, and what is left over keeps waiting.**  When fewer entities wait than are waited for, and
the server accepts the batches that the queue and the new entities fill, each of them behind the ones before, then
exactly these batches are sent, one request for each, in order.  All of them have the size that is waited for, which is
at least one.  What is left over behind them waits, and everything that was saved is given back in order, every entity
with the address to which the link of its resource to itself leads. -/
theorem persistAll_batches (as : List (S.Content t)) {answers : List (List (Resource (S.Content t)))}
    (short : b.queue.length < max b.maxSize 1)
    (accepted : (r.collection.saveEach (Batch.full (max b.maxSize 1) (b.queue ++ as))).after s = (.ok answers, s'))
    (resolved : ∀ m ∈ answers.flatten, ∀ e, ¬ r.Astray m e) :
    let n := max b.maxSize 1
    let batches := Batch.full n (b.queue ++ as)
    let rest := Batch.rest n (b.queue ++ as)
    (batches.length = (b.queue.length + as.length) / n ∧ (∀ batch ∈ batches, batch.length = n) ∧
      rest.length = (b.queue.length + as.length) % n ∧ batches.flatten ++ rest = b.queue ++ as) ∧
    (∃ given, (r.persistAll as).after b s = ((.ok given, { b with queue := rest }), s') ∧
      List.Forall₂ r.Adopted answers.flatten given) ∧
    ∃ bodies, List.Forall₂ (Batch.Holds (S.entity t)) bodies batches ∧
      s'.requests = (bodies.map r.collection.batchRequest).reverse ++ s.requests := by
  intro n batches rest
  refine ⟨⟨?_, fun batch => Batch.length_of_mem_full, ?_, Batch.flatten_full_append_rest n _⟩,
    r.after_persistAll_full as b short accepted resolved, Collection.requests_saveEach batches accepted⟩
  · rw [Batch.length_full, List.length_append]
  · rw [Batch.length_rest, List.length_append]

/-- **Entities that are saved at once are one batch.**  Whatever waits and however many are waited for, the queue and
the entities behind it are sent in one request, and nothing else is.  They keep waiting, all of them, if they are not
accepted, and else nothing waits.  They are not accepted, and not even sent, if one of them cannot be written as an
object, so that the batch cannot be written.  Without entities nothing is sent and nothing changes.  In no case does it
change how many are waited for. -/
theorem saveAll_one_batch (as : List (S.Content t)) (s : Traces S) :
    let batch := b.queue ++ as
    let run := (r.saveAll as).after b s
    run.1.2.maxSize = b.maxSize ∧ (as = [] → run = ((.ok [], b), s)) ∧
    (as ≠ [] →
      run.1.2.queue = (if r.accepts s batch then [] else batch) ∧
      ((∀ a ∈ batch, ∃ fields, (S.entity t).encode a = .ok (.object fields)) → ∃ body,
        Batch.Holds (S.entity t) body batch ∧ run.2.requests = r.collection.batchRequest body :: s.requests) ∧
      ∀ a ∈ batch, (∀ fields, (S.entity t).encode a ≠ .ok (.object fields)) →
        run.2 = s ∧ r.accepts s batch = false) := by
  intro batch run
  have hrun : run = if as.isEmpty then ((.ok [], b), s) else r.afterBatch b s batch := r.after_saveAll b s as
  by_cases has : as = []
  · rw [if_pos (List.isEmpty_iff.2 has)] at hrun
    rw [hrun]
    exact ⟨rfl, fun _ => rfl, fun h => absurd has h⟩
  · rw [if_neg fun h => has (List.isEmpty_iff.1 h)] at hrun
    rw [hrun, r.afterBatch_traces b s batch]
    refine ⟨?_, fun h => absurd h has, fun _ => ⟨r.afterBatch_queue b s batch, fun h => ?_, fun a ha hno => ?_⟩⟩
    · unfold afterBatch
      rcases (r.collection.saveAll batch).after s with ⟨_ | _, _⟩ <;> rfl
    · obtain ⟨body, hbody⟩ := Batch.exists_holds_iff.2 h
      exact ⟨body, hbody, Collection.requests_saveAll hbody⟩
    · have hnone : ¬ ∃ body, Batch.Holds (S.entity t) body batch := by
        intro hbody
        obtain ⟨fields, hfields⟩ := Batch.exists_holds_iff.1 hbody a ha
        exact hno fields hfields
      obtain ⟨e, he⟩ := r.collection.saveAll_of_unwritten hnone s
      unfold accepts
      rw [he]
      exact ⟨rfl, rfl⟩

end Repository

namespace Family

/-- A server that saves two batches of parents; the second parent of each has no link to itself. -/
def crowded : Script :=
  let saved (path first second : String) : Json :=
    .array [.object [("name", .text first), ("_links", .object [("self", .object [("href", .text path)])])],
      .object [("name", .text second)]]
  [ { method := "POST"
      uri := "http://host/batch"
      replies := [.ok (answering (saved "/parents/1" "Homer" "Marge")),
        .ok (answering (saved "/parents/3" "Ned" "Maude"))] }]

def named (name : String) : schema.Content Ty.parent := ({ name } : Person)

/-- Homer waits, and four parents are handed over: two batches of two are saved, and the last parent waits. -/
theorem apu_waits :
    let r := parents crowded
    let b := waitingHomer
    let as := [named "Marge", named "Ned", named "Maude", named "Apu"]
    let batches := [[named "Homer", named "Marge"], [named "Ned", named "Maude"]]
    b.queue.length < max b.maxSize 1 ∧ ∃ answers s' given bodies,
      (r.collection.saveEach batches).after {} = (.ok answers, s') ∧
      (∀ m ∈ answers.flatten, ∀ e, ¬ r.Astray m e) ∧
      (r.persistAll as).after b {} = ((.ok given, { b with queue := [named "Apu"] }), s') ∧
      List.Forall₂ r.Adopted answers.flatten given ∧
      List.Forall₂ (Batch.Holds (schema.entity Ty.parent)) bodies batches ∧
      s'.requests = (bodies.map r.collection.batchRequest).reverse := by
  intro r b as batches
  have hshort : b.queue.length < max b.maxSize 1 := by decide
  have hall : b.queue ++ as = [named "Homer", named "Marge"] ++ ([named "Ned", named "Maude"] ++ [named "Apu"]) := rfl
  have hsize : max b.maxSize 1 = 2 := rfl
  have hbatches : Batch.full (max b.maxSize 1) (b.queue ++ as) = batches := by
    rw [hall, hsize, Batch.full_append Nat.two_pos rfl, Batch.full_append Nat.two_pos rfl, Batch.full_of_lt (by decide)]
  have hrest : Batch.rest (max b.maxSize 1) (b.queue ++ as) = [named "Apu"] := by
    rw [hall, hsize, Batch.rest_append Nat.two_pos rfl, Batch.rest_append Nat.two_pos rfl, Batch.rest_of_lt (by decide)]
  have haccepted : (match ((r.collection.saveEach (Batch.full (max b.maxSize 1) (b.queue ++ as))).after {}).1 with
      | .ok answers => answers.flatten.all fun m => (m.links.selfUri? r.collection.service.base).isOk
      | .error _ => false) = true := by decide +kernel
  rcases hrun : (r.collection.saveEach (Batch.full (max b.maxSize 1) (b.queue ++ as))).after {} with ⟨e | answers, s'⟩
  · rw [hrun] at haccepted
    cases haccepted
  · rw [hrun] at haccepted
    have hresolved : ∀ m ∈ answers.flatten, ∀ e, ¬ r.Astray m e := by
      intro m hm e he
      have hm' := List.all_eq_true.1 haccepted m hm
      rw [show m.links.selfUri? r.collection.service.base = .error e from he] at hm'
      cases hm'
    obtain ⟨-, ⟨given, hgiven, hadopted⟩, bodies, hbodies, hsent⟩ :=
      r.persistAll_batches b as hshort hrun hresolved
    rw [List.append_nil] at hsent
    rw [hbatches] at hrun hbodies
    rw [hrest] at hgiven
    exact ⟨hshort, answers, s', given, bodies, hrun, hresolved, hgiven, hadopted, hbodies, hsent⟩

/-- More parents wait than are waited for, and one more is saved: all of them go into one batch. -/
theorem overfull_queue_saved :
    let r := parents crowded
    let b : Buffer (schema.Content Ty.parent) := { queue := [named "Homer", named "Ned", named "Maude"], maxSize := 2 }
    let as := [named "Marge"]
    as ≠ [] ∧ (∀ a ∈ b.queue ++ as, ∃ fields, (schema.entity Ty.parent).encode a = .ok (.object fields)) ∧
      ((r.saveAll as).after b {}).1.2.maxSize = 2 ∧ ((r.saveAll as).after b {}).1.2.queue = [] ∧
      ∃ body, Batch.Holds (schema.entity Ty.parent) body (b.queue ++ as) ∧
        ((r.saveAll as).after b {}).2.requests = [r.collection.batchRequest body] := by
  intro r b as
  have has : as ≠ [] := List.cons_ne_nil _ _
  have hobjects : ∀ a ∈ b.queue ++ as, ∃ fields, (schema.entity Ty.parent).encode a = .ok (.object fields) :=
    fun a _ => ⟨_, rfl⟩
  obtain ⟨hsize, -, hsaved⟩ := r.saveAll_one_batch b as {}
  obtain ⟨hqueue, hsent, -⟩ := hsaved has
  have haccepted : r.accepts {} (b.queue ++ as) = true := by decide +kernel
  rw [if_pos haccepted] at hqueue
  exact ⟨has, hobjects, hsize, hqueue, hsent hobjects⟩

/-- A server that saves batches and says so in a text that is cut off. -/
def cutOff : Script := [{ method := "POST", uri := "http://host/batch", replies := [.ok { body := "[" }] }]

/-- **Batches that are not sent, or not given up**: a parcel without a name is saved at once, and no request is sent;
and a parent keeps waiting though the server answered with success, because the answer cannot be read. -/
theorem batches_kept :
    let nameless := ((parcels []).saveAll [{ name := "" }]).after (parcels []).collection.buffer {}
    let r := parents cutOff
    let run := (r.saveAll [homer]).after r.collection.buffer {}
    let q := r.collection.batchRequest homerBatch
    (nameless.2.requests = [] ∧ nameless.1.2.queue.length = 1) ∧
    run.2.requests = [q] ∧ (r.collection.service.transport.answer [] q).toOption = some { body := "[" } ∧
      run.1.2.queue = [homer] := by
  intro nameless r run q
  have hrun : run = r.afterBatch r.collection.buffer {} [homer] :=
    (r.after_saveAll r.collection.buffer {} [homer]).trans (if_neg nofun)
  have hbody : Batch.Holds (schema.entity Ty.parent) homerBatch [homer] := ⟨_, rfl, .cons ⟨_, rfl, rfl⟩ .nil⟩
  have hunread : r.accepts {} [homer] = false := by decide +kernel
  refine ⟨⟨by decide +kernel, by decide +kernel⟩, ?_, by decide +kernel, ?_⟩
  · rw [hrun, r.afterBatch_traces]
    exact Collection.requests_saveAll hbody
  · rw [hrun, r.afterBatch_queue, hunread]
    rfl

end Family
end Hypermedia
