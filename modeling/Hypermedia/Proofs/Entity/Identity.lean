import Hypermedia.Family.Schema
/-!
# When two entities are the same

What two entities are compared by depends on both of them: ids if both have one, or else addresses, or else what they
say (`Identity.ground`).  If the comparison of ids and that of what entities say are equivalences, then sameness is one
on every ground (`same_equivalence`), and entities that are the same have the same fingerprint if both fingerprints are
made on one ground (`fingerprint_eq_of_same`).  Across grounds neither holds: an entity with an address and no id is the
same as others with different ids (`ids_apart`, `fingerprints_apart`), and there is no mixture of grounds on which
sameness is transitive (`mixed_grounds`).
-/
namespace Hypermedia
namespace Identity

/-! ## Grounds -/

/-- What two entities are compared by. -/
inductive Ground where
  | id
  | address
  | content
  deriving DecidableEq

variable {α : Type} (I : Identity α)

/-- The first of the three that both entities have.  The fingerprint of an entity is made on the ground on which it is
compared with itself. -/
def ground (a b : α) : Ground :=
  if (I.id a).isSome && (I.id b).isSome then .id
  else if (I.slot.get a).isSome && (I.slot.get b).isSome then .address
  else .content

/-- Two entities agree on a ground. -/
def Agree (alike : α → α → Bool) : Ground → α → α → Prop
  | .id, a, b => Option.Rel (fun i j => I.sameId i j = true) (I.id a) (I.id b)
  | .address, a, b => (I.slot.get a).map Uri.chars = (I.slot.get b).map Uri.chars
  | .content, a, b => alike a b = true

variable {alike : α → α → Bool} {a b : α}

theorem same_iff_agree : I.same alike a b = true ↔ I.Agree alike (I.ground a b) a b := by
  unfold same ground
  rcases hi : I.id a with _ | i <;> rcases hj : I.id b with _ | j
  case some.some => simp [Agree, hi, hj]
  all_goals
    rcases hu : I.slot.get a with _ | u <;> rcases hv : I.slot.get b with _ | v <;> simp [Agree, hu, hv, Uri.same]

theorem ground_comm (a b : α) : I.ground a b = I.ground b a := by
  unfold ground
  rw [Bool.and_comm, Bool.and_comm (I.slot.get a).isSome]

/-- Entities with fingerprints on one ground are compared on it. -/
theorem ground_eq : I.ground a a = I.ground b b → I.ground a b = I.ground a a := by
  unfold ground
  rcases I.id a with _ | i <;> rcases I.id b with _ | j <;>
    rcases I.slot.get a with _ | u <;> rcases I.slot.get b with _ | v <;> simp

theorem ground_self_eq_id : I.ground a a = .id ↔ ∃ i, I.id a = some i := by
  unfold ground
  rcases I.id a with _ | i <;> rcases I.slot.get a with _ | u <;> simp

theorem ground_self_eq_address : I.ground a a = .address ↔ I.id a = none ∧ ∃ u, I.slot.get a = some u := by
  unfold ground
  rcases I.id a with _ | i <;> rcases I.slot.get a with _ | u <;> simp

theorem ground_self_eq_content : I.ground a a = .content ↔ I.id a = none ∧ I.slot.get a = none := by
  unfold ground
  rcases I.id a with _ | i <;> rcases I.slot.get a with _ | u <;> simp

theorem optionRel_equivalence {β : Type} {R : β → β → Prop} (h : Equivalence R) : Equivalence (Option.Rel R) where
  refl
    | none => .none
    | some i => .some (h.refl i)
  symm
    | .none => .none
    | .some hij => .some (h.symm hij)
  trans
    | .none, .none => .none
    | .some hij, .some hjk => .some (h.trans hij hjk)

/-- On every ground, agreement is an equivalence if the comparison of ids and alikeness are. -/
theorem agree_equivalence (ids : Equivalence fun i j => I.sameId i j = true)
    (h : Equivalence fun a b => alike a b = true) (g : Ground) : Equivalence (I.Agree alike g) := by
  cases g with
  | id =>
    have hrel := optionRel_equivalence ids
    exact ⟨fun a => hrel.refl (I.id a), hrel.symm, hrel.trans⟩
  | address => exact ⟨fun _ => rfl, Eq.symm, Eq.trans⟩
  | content => exact h

/-! ## Sameness -/

/-- **Sameness is reflexive and symmetric, and on one ground it is transitive**, if the comparison of ids and that of
what entities say are equivalences. -/
theorem same_equivalence (alike : α → α → Bool) (ids : Equivalence fun i j => I.sameId i j = true)
    (h : Equivalence fun a b => alike a b = true) :
    (∀ a, I.same alike a a = true) ∧
    (∀ a b, I.same alike a b = true → I.same alike b a = true) ∧
    ∀ a b c, I.ground a b = I.ground a c → I.ground b c = I.ground a c →
      I.same alike a b = true → I.same alike b c = true → I.same alike a c = true := by
  refine ⟨fun a => ?_, fun a b hab => ?_, fun a b c hground hground' hab hbc => ?_⟩
  · exact I.same_iff_agree.2 ((I.agree_equivalence ids h _).refl a)
  · rw [same_iff_agree] at hab ⊢
    rw [ground_comm]
    exact (I.agree_equivalence ids h _).symm hab
  · rw [same_iff_agree] at hab hbc ⊢
    rw [hground] at hab
    rw [hground'] at hbc
    exact (I.agree_equivalence ids h _).trans hab hbc

end Identity

namespace Family
namespace Person

def sameName (p q : Person) : Bool := p.name == q.name

theorem sameName_equivalence : Equivalence fun p q => sameName p q = true where
  refl _ := beq_self_eq_true _
  symm h := beq_iff_eq.2 (beq_iff_eq.1 h).symm
  trans h h' := beq_iff_eq.2 ((beq_iff_eq.1 h).trans (beq_iff_eq.1 h'))

theorem sameId_equivalence : Equivalence fun i j => identity.sameId i j = true where
  refl _ := beq_self_eq_true _
  symm h := beq_iff_eq.2 (beq_iff_eq.1 h).symm
  trans h h' := beq_iff_eq.2 ((beq_iff_eq.1 h).trans (beq_iff_eq.1 h'))

/-- Persons with one number are the same, by whatever names they go. -/
theorem one_number :
    let first : Person := { id := some 1, name := "Homer" }
    let second : Person := { id := some 1, name := "Homer Jay" }
    let third : Person := { id := some 1, name := "Homer Simpson", uri := some (base.append "/parents/1") }
    (Equivalence fun i j => identity.sameId i j = true) ∧ (Equivalence fun p q => sameName p q = true) ∧
    identity.ground first second = identity.ground first third ∧
    identity.ground second third = identity.ground first third ∧
    same first second = true ∧ same second third = true ∧ same first third = true := by
  intro first second third
  have hfirst : same first second = true := by decide
  have hsecond : same second third = true := by decide
  obtain ⟨-, -, htrans⟩ := identity.same_equivalence sameName sameId_equivalence sameName_equivalence
  exact ⟨sameId_equivalence, sameName_equivalence, rfl, rfl, hfirst, hsecond,
    htrans first second third rfl rfl hfirst hsecond⟩

/-- **Ids apart**: two persons with different numbers and one address are both the same as a person who has the address
and no number, and they are not the same.  And where no number counts as equal to itself, a person is not the same as
that person. -/
theorem ids_apart :
    let uri := base.append "/parents/1"
    let unnumbered : Person := { name := "Homer", uri := some uri }
    let numbered (i : UInt64) : Person := { id := some i, name := "Homer", uri := some uri }
    let unequal : Identity Person := { identity with sameId := fun _ _ => false }
    (Equivalence fun p q => sameName p q = true) ∧ same (numbered 1) unnumbered = true ∧
    same unnumbered (numbered 2) = true ∧ same (numbered 1) (numbered 2) = false ∧
    unequal.same sameName (numbered 1) (numbered 1) = false :=
  ⟨sameName_equivalence, by decide +kernel, by decide +kernel, by decide, rfl⟩

/-- A person with an id and an address where another one has them, and with one of two values on each ground. -/
def varied (p : Person) (x : Option Identity.Ground) : Person where
  id := p.id.map fun _ => if x = some .id then 2 else 1
  name := if x = some .content then "Marge" else "Homer"
  uri := p.uri.map fun _ => if x = some .address then base.append "/parents/2" else base.append "/parents/1"

theorem ground_varied (p p' : Person) (x x' : Option Identity.Ground) :
    identity.ground (p.varied x) (p'.varied x') = identity.ground p p' := by
  unfold Identity.ground
  simp [identity, slot, varied]

theorem ite_eq_ite_iff {β : Type} {u v : β} (h : u ≠ v) (P Q : Prop) [Decidable P] [Decidable Q] :
    ((if P then u else v) = if Q then u else v) ↔ (P ↔ Q) := by
  by_cases hP : P <;> by_cases hQ : Q <;> simp [hP, hQ, h, h.symm]

/-- Varied persons are the same when they are varied alike on the ground on which they are compared. -/
theorem same_varied (p p' : Person) (x x' : Option Identity.Ground) :
    same (p.varied x) (p'.varied x') = true ↔
      (x = some (identity.ground p p') ↔ x' = some (identity.ground p p')) := by
  have hids : (2 : UInt64) ≠ 1 := by decide
  have hnames : "Marge" ≠ "Homer" := by decide
  have haddresses : (base.append "/parents/2").chars ≠ (base.append "/parents/1").chars := by decide +kernel
  show identity.same sameName (p.varied x) (p'.varied x') = true ↔ _
  rw [Identity.same_iff_agree, ground_varied]
  unfold Identity.ground
  rcases p with ⟨_ | i, n, _ | u⟩ <;> rcases p' with ⟨_ | i', n', _ | u'⟩ <;>
    simp [identity, slot, varied, Identity.Agree, sameName, apply_ite Uri.chars, ite_eq_ite_iff, hids, hnames,
      haddresses]

def HasWhat (p p' : Person) : Prop := p'.id.isSome = p.id.isSome ∧ p'.uri.isSome = p.uri.isSome

theorem hasWhat_varied (p : Person) (x : Option Identity.Ground) : p.HasWhat (p.varied x) :=
  ⟨Option.isSome_map, Option.isSome_map⟩

/-- **Mixed grounds**: when three persons are not all compared on one ground, there are persons who have ids and
addresses where these have them, and for whom sameness is not transitive. -/
theorem mixed_grounds (p q r : Person)
    (mixed : ¬ (identity.ground p q = identity.ground p r ∧ identity.ground q r = identity.ground p r)) :
    ∃ p' q' r', p.HasWhat p' ∧ q.HasWhat q' ∧ r.HasWhat r' ∧
      same p' q' = true ∧ same q' r' = true ∧ same p' r' = false := by
  -- the first and the third differ on the ground on which they are compared, and there alone; the second takes after
  -- the one of them that it is compared with on that ground
  let g := identity.ground p r
  have hends : same (p.varied none) (r.varied (some g)) = false := by
    rw [← Bool.not_eq_true, same_varied]
    simp [g]
  by_cases h : identity.ground q r = g
  · have hne : g ≠ identity.ground p q := fun he => mixed ⟨he.symm, h⟩
    refine ⟨_, _, _, hasWhat_varied p none, hasWhat_varied q (some g), hasWhat_varied r (some g), ?_, ?_, hends⟩
    · rw [same_varied]
      simp [hne]
    · rw [same_varied]
  · refine ⟨_, _, _, hasWhat_varied p none, hasWhat_varied q none, hasWhat_varied r (some g), ?_, ?_, hends⟩
    · rw [same_varied]
    · rw [same_varied]
      simp [Ne.symm h]

end Person
end Family

/-! ## Fingerprints -/

namespace Identity

variable {α : Type} (I : Identity α) {alike : α → α → Bool} {a b : α}

/-- **The same entities have the same fingerprint when both fingerprints are made on one ground**: both have an id, or
neither has one and both have an address, or neither has either.  Ids that are equal have the same bytes, and entities
that say alike have the same fingerprint of what they say. -/
theorem fingerprint_eq_of_same {content : α → List UInt8} (ids : ∀ i j, I.sameId i j = true → I.bytes i = I.bytes j)
    (agree : ∀ a b, alike a b = true → content a = content b)
    (same : I.same alike a b = true) (ground : I.ground a a = I.ground b b) :
    I.fingerprint content a = I.fingerprint content b := by
  have hagree := I.same_iff_agree.1 same
  rw [I.ground_eq ground] at hagree
  have hb : I.ground b b = I.ground a a := ground.symm
  generalize ha : I.ground a a = g at hagree hb
  unfold fingerprint
  cases g with
  | id =>
    obtain ⟨i, hi⟩ := I.ground_self_eq_id.1 ha
    obtain ⟨j, hj⟩ := I.ground_self_eq_id.1 hb
    have hij : Option.Rel (fun i j => I.sameId i j = true) (some i) (some j) := hi ▸ hj ▸ hagree
    rw [hi, hj]
    cases hij with
    | some hij => exact ids i j hij
  | address =>
    obtain ⟨hi, u, hu⟩ := I.ground_self_eq_address.1 ha
    obtain ⟨hj, v, hv⟩ := I.ground_self_eq_address.1 hb
    have huv : u.chars = v.chars := by simpa [Agree, hu, hv] using hagree
    rw [hi, hj, hu, hv]
    simp only [Uri.text, huv]
  | content =>
    obtain ⟨hi, hu⟩ := I.ground_self_eq_content.1 ha
    obtain ⟨hj, hv⟩ := I.ground_self_eq_content.1 hb
    rw [hi, hj, hu, hv]
    exact agree a b hagree

end Identity

namespace Family
namespace Person

theorem textBytes_of_sameName (p q : Person) (h : sameName p q = true) :
    Identity.textBytes p.name = Identity.textBytes q.name :=
  congrArg Identity.textBytes (beq_iff_eq.1 h)

theorem bytes_of_sameId (i j : UInt64) (h : identity.sameId i j = true) : identity.bytes i = identity.bytes j :=
  congrArg Identity.wordBytes (beq_iff_eq.1 h)

/-- Two persons without numbers at one address have one fingerprint. -/
theorem one_address_fingerprint :
    let uri := base.append "/parents/1"
    let first : Person := { name := "Homer", uri := some uri }
    let second : Person := { name := "Homer Jay", uri := some uri }
    (∀ i j, identity.sameId i j = true → identity.bytes i = identity.bytes j) ∧
    (∀ p q, sameName p q = true → Identity.textBytes p.name = Identity.textBytes q.name) ∧
    same first second = true ∧ identity.ground first first = identity.ground second second ∧
    fingerprint first = fingerprint second := by
  intro uri first second
  have hsame : same first second = true := by decide +kernel
  exact ⟨bytes_of_sameId, textBytes_of_sameName, hsame, rfl,
    identity.fingerprint_eq_of_same bytes_of_sameId textBytes_of_sameName hsame rfl⟩

/-- **Fingerprints apart**: a person with a number and one without are the same by their address, and the one's
fingerprint is made from the number and the other's from the address. -/
theorem fingerprints_apart :
    let uri := base.append "/parents/1"
    let numbered : Person := { id := some 1, name := "Homer", uri := some uri }
    let unnumbered : Person := { name := "Homer", uri := some uri }
    (∀ p q, sameName p q = true → Identity.textBytes p.name = Identity.textBytes q.name) ∧
    same numbered unnumbered = true ∧ fingerprint numbered ≠ fingerprint unnumbered :=
  ⟨textBytes_of_sameName, by decide +kernel, by decide +kernel⟩

end Person
end Family
end Hypermedia
