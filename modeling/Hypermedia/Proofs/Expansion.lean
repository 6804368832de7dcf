import Hypermedia.Link
/-!
# What expansion takes out of an href

Braces enclose the sections of an href, and a section may hold further ones.  Expanding a link drops the outermost
sections and keeps everything else (`Link.expand_sections`): a closing brace outside of all sections is kept, and a
section that is never closed reaches to the end of the href.
-/
namespace Hypermedia
namespace Link

/-- A text in which every brace belongs to a pair. -/
inductive Balanced : List Char → Prop
  | nil : Balanced []
  | char {c : Char} {cs : List Char} (left : c ≠ '\x7b') (right : c ≠ '\x7d') (rest : Balanced cs) : Balanced (c :: cs)
  | braces {e cs : List Char} (inner : Balanced e) (rest : Balanced cs) : Balanced ('\x7b' :: (e ++ '\x7d' :: cs))

/-- A text behind which no section is open.  Closing braces may stand outside of its sections. -/
inductive Settled : List Char → Prop
  | nil : Settled []
  | char {c : Char} {cs : List Char} (left : c ≠ '\x7b') (rest : Settled cs) : Settled (c :: cs)
  | braces {e cs : List Char} (inner : Balanced e) (rest : Settled cs) : Settled ('\x7b' :: (e ++ '\x7d' :: cs))

/-- What stands behind an opening brace that is never closed. -/
def Unclosed (cs : List Char) : Prop := ∀ e rest : List Char, Balanced e → cs ≠ e ++ '\x7d' :: rest

/-! ## One character -/

theorem dropSections_left (depth : Nat) (cs : List Char) :
    dropSections depth ('\x7b' :: cs) = dropSections (depth + 1) cs := by
  cases depth <;> rfl

theorem dropSections_right (depth : Nat) (cs : List Char) :
    dropSections (depth + 1) ('\x7d' :: cs) = dropSections depth cs := by
  rw [dropSections]
  rfl

theorem dropSections_outside {c : Char} (left : c ≠ '\x7b') (cs : List Char) :
    dropSections 0 (c :: cs) = c :: dropSections 0 cs := by
  rw [dropSections, if_neg (by simpa using left)]

theorem dropSections_inside {c : Char} (left : c ≠ '\x7b') (right : c ≠ '\x7d') (depth : Nat) (cs : List Char) :
    dropSections (depth + 1) (c :: cs) = dropSections (depth + 1) cs := by
  rw [dropSections, if_neg (by simpa using left), if_neg (by simpa using right)]

theorem dropSections_of_not_mem : ∀ {cs : List Char}, '\x7b' ∉ cs → dropSections 0 cs = cs
  | [], _ => rfl
  | c :: cs, h => by
    have hc : c ≠ '\x7b' := fun he => h (he ▸ List.mem_cons_self)
    rw [dropSections_outside hc, dropSections_of_not_mem fun hm => h (List.mem_cons_of_mem c hm)]

/-! ## What is left of any text -/

theorem not_mem_dropSections (depth : Nat) (cs : List Char) : '\x7b' ∉ dropSections depth cs := by
  induction cs generalizing depth with
  | nil => exact List.not_mem_nil
  | cons c cs ih =>
    by_cases left : c = '\x7b'
    · rw [left, dropSections_left]
      exact ih (depth + 1)
    cases depth with
    | zero =>
      rw [dropSections_outside left]
      exact List.not_mem_cons_of_ne_of_not_mem (Ne.symm left) (ih 0)
    | succ depth =>
      by_cases right : c = '\x7d'
      · rw [right, dropSections_right]
        exact ih depth
      · rw [dropSections_inside left right]
        exact ih (depth + 1)

theorem dropSections_sublist (depth : Nat) (cs : List Char) : (dropSections depth cs).Sublist cs := by
  induction cs generalizing depth with
  | nil => exact List.Sublist.slnil
  | cons c cs ih =>
    by_cases left : c = '\x7b'
    · rw [left, dropSections_left]
      exact (ih (depth + 1)).cons _
    cases depth with
    | zero =>
      rw [dropSections_outside left]
      exact (ih 0).cons_cons c
    | succ depth =>
      by_cases right : c = '\x7d'
      · rw [right, dropSections_right]
        exact (ih depth).cons _
      · rw [dropSections_inside left right]
        exact (ih (depth + 1)).cons _

/-! ## Sections -/

theorem settled_of_not_mem : ∀ {cs : List Char}, '\x7b' ∉ cs → Settled cs
  | [], _ => .nil
  | _ :: _, h => .char (fun he => h (he ▸ List.mem_cons_self))
    (settled_of_not_mem fun hm => h (List.mem_cons_of_mem _ hm))

theorem dropSections_balanced {e : List Char} (h : Balanced e) (depth : Nat) (rest : List Char) :
    dropSections (depth + 1) (e ++ rest) = dropSections (depth + 1) rest := by
  -- a pair inside is one section deeper, so that the depth varies
  induction h generalizing depth rest with
  | nil => rfl
  | char left right _ ih => rw [List.cons_append, dropSections_inside left right, ih]
  | braces _ _ inner ih =>
    rw [List.cons_append, dropSections_left, List.append_assoc, inner, List.cons_append, dropSections_right, ih]

/-- **A section is dropped**, at whatever depth it begins. -/
theorem dropSections_section {e : List Char} (h : Balanced e) (depth : Nat) (rest : List Char) :
    dropSections depth ('\x7b' :: (e ++ '\x7d' :: rest)) = dropSections depth rest := by
  rw [dropSections_left, dropSections_balanced h, dropSections_right]

theorem dropSections_settled {s : List Char} (h : Settled s) (rest : List Char) :
    dropSections 0 (s ++ rest) = dropSections 0 s ++ dropSections 0 rest := by
  induction h with
  | nil => rfl
  | char left _ ih => rw [List.cons_append, dropSections_outside left, dropSections_outside left, ih, List.cons_append]
  | braces inner _ ih =>
    rw [dropSections_section inner, List.cons_append, List.append_assoc, List.cons_append, dropSections_section inner,
      ih]

/-- **A section is closed, or it reaches to the end.** -/
theorem closed_or_dropped : ∀ cs : List Char,
    (∃ e rest, Balanced e ∧ cs = e ++ '\x7d' :: rest) ∨ ∀ depth, dropSections (depth + 1) cs = []
  | [] => .inr fun _ => rfl
  | c :: cs => by
    by_cases right : c = '\x7d'
    · exact .inl ⟨[], cs, .nil, by rw [right, List.nil_append]⟩
    by_cases left : c = '\x7b'
    · subst left
      rcases closed_or_dropped cs with ⟨e, rest, he, rfl⟩ | h
      · have : rest.length < (e ++ '\x7d' :: rest).length := by simp; omega
        rcases closed_or_dropped rest with ⟨f, after, hf, rfl⟩ | h
        · exact .inl ⟨'\x7b' :: (e ++ '\x7d' :: f), after, .braces he hf, by simp⟩
        · exact .inr fun depth => by rw [dropSections_section he, h]
      · exact .inr fun depth => by rw [dropSections_left, h]
    · rcases closed_or_dropped cs with ⟨e, rest, he, rfl⟩ | h
      · exact .inl ⟨c :: e, rest, .char left right he, rfl⟩
      · exact .inr fun depth => by rw [dropSections_inside left right, h]
termination_by cs => cs.length

theorem unclosed_of_not_mem {cs : List Char} (h : '\x7d' ∉ cs) : Unclosed cs := fun e _ _ hcs =>
  h (hcs ▸ List.mem_append_right e List.mem_cons_self)

theorem dropSections_unclosed {cs : List Char} (h : Unclosed cs) (depth : Nat) : dropSections (depth + 1) cs = [] := by
  rcases closed_or_dropped cs with ⟨e, rest, he, hcs⟩ | hdropped
  · exact absurd hcs (h e rest he)
  · exact hdropped depth

/-- Every text is settled up to a section that is never closed, if there is one. -/
theorem settled_or_unclosed : ∀ cs : List Char,
    Settled cs ∨ ∃ s rest, cs = s ++ '\x7b' :: rest ∧ Settled s ∧ Unclosed rest
  | [] => .inl .nil
  | c :: cs => by
    by_cases left : c = '\x7b'
    · subst left
      by_cases h : Unclosed cs
      · exact .inr ⟨[], cs, rfl, .nil, h⟩
      obtain ⟨e, rest, he, rfl⟩ : ∃ e rest, Balanced e ∧ cs = e ++ '\x7d' :: rest := by
        simpa [Unclosed] using h
      have : rest.length < (e ++ '\x7d' :: rest).length := by simp; omega
      rcases settled_or_unclosed rest with hrest | ⟨s, after, rfl, hs, hafter⟩
      · exact .inl (.braces he hrest)
      · exact .inr ⟨'\x7b' :: (e ++ '\x7d' :: s), after, by simp, .braces he hs, hafter⟩
    · rcases settled_or_unclosed cs with hcs | ⟨s, rest, rfl, hs, hrest⟩
      · exact .inl (.char left hcs)
      · exact .inr ⟨c :: s, rest, rfl, .char left hs, hrest⟩
termination_by cs => cs.length

/-! ## Links -/

/-- Looking through an href without sections leaves it as it is, so that it may be left out. -/
theorem expand_eq (l : Link) : l.expand = String.ofList (dropSections 0 l.href.toList) := by
  unfold expand
  split
  · rename_i h
    have plain : '\x7b' ∉ l.href.toList := by
      rw [Bool.and_eq_true] at h
      simpa using h.2
    rw [dropSections_of_not_mem plain, String.ofList_toList]
  · rfl

theorem toList_expand (l : Link) : l.expand.toList = dropSections 0 l.href.toList := by
  rw [expand_eq, String.toList_ofList]

theorem dropSections_template : ∀ {parts : List (List Char × List Char)}, (∀ p ∈ parts, Balanced p.1 ∧ '\x7b' ∉ p.2) →
    dropSections 0 (parts.flatMap fun p => '\x7b' :: (p.1 ++ '\x7d' :: p.2)) = parts.flatMap (·.2)
  | [], _ => rfl
  | p :: parts, h => by
    obtain ⟨inner, plain⟩ := h p List.mem_cons_self
    rw [List.flatMap_cons, List.flatMap_cons, List.cons_append, List.append_assoc, List.cons_append,
      dropSections_section inner, dropSections_settled (settled_of_not_mem plain), dropSections_of_not_mem plain,
      dropSections_template fun q hq => h q (List.mem_cons_of_mem p hq)]

/-- **Expansion takes out the sections and nothing else.**  No opening brace is left, what is left stands in the href in
the same order, and expanding it again leaves it as it is, whether the link is a template or not.  Of texts with
sections between them the texts are left; a section that is never closed reaches to the end; a closing brace outside
of all sections is kept.  Every href is settled up to its first section that is never closed. -/
theorem expand_sections (l : Link) :
    '\x7b' ∉ l.expand.toList ∧
    l.expand.toList.Sublist l.href.toList ∧
    (∀ m : Link, m.href = l.expand → m.expand = l.expand) ∧
    (∀ (front : List Char) (parts : List (List Char × List Char)), '\x7b' ∉ front →
      (∀ p ∈ parts, Balanced p.1 ∧ '\x7b' ∉ p.2) →
      l.href.toList = front ++ parts.flatMap (fun p => '\x7b' :: (p.1 ++ '\x7d' :: p.2)) →
      l.expand.toList = front ++ parts.flatMap (·.2)) ∧
    (∀ (s rest : List Char) (m : Link), l.href.toList = s ++ '\x7b' :: rest → Settled s → Unclosed rest →
      m.href.toList = s → l.expand = m.expand) ∧
    (∀ (s rest : List Char) (m n : Link), l.href.toList = s ++ '\x7d' :: rest → Settled s →
      m.href.toList = s → n.href.toList = rest → l.expand.toList = m.expand.toList ++ '\x7d' :: n.expand.toList) ∧
    (Settled l.href.toList ∨ ∃ s rest, l.href.toList = s ++ '\x7b' :: rest ∧ Settled s ∧ Unclosed rest) := by
  have hplain : '\x7b' ∉ l.expand.toList := by
    rw [toList_expand]
    exact not_mem_dropSections 0 _
  refine ⟨hplain, ?_, fun m hm => ?_, fun front parts hfront hparts hhref => ?_, fun s rest m hhref hs hrest hm => ?_,
    fun s rest m n hhref hs hm hn => ?_, settled_or_unclosed _⟩
  · rw [toList_expand]
    exact dropSections_sublist 0 _
  · rw [m.expand_eq, hm, dropSections_of_not_mem hplain, String.ofList_toList]
  · rw [toList_expand, hhref, dropSections_settled (settled_of_not_mem hfront), dropSections_of_not_mem hfront,
      dropSections_template hparts]
  · rw [expand_eq, expand_eq, hhref, hm, dropSections_settled hs, dropSections_left, dropSections_unclosed hrest,
      List.append_nil]
  · rw [toList_expand, toList_expand, toList_expand, hhref, hm, hn, dropSections_settled hs,
      dropSections_outside (by decide)]

def nested : Link := ⟨"search", "/a\x7b?x\x7by\x7d\x7d/b\x7bz\x7d", true⟩

def loose : Link := ⟨"search", "/a\x7db\x7bc", false⟩

theorem nested_and_loose_expanded :
    nested.expand.toList = ['/', 'a', '/', 'b'] ∧
    (∀ m : Link, m.href = nested.expand → m.expand = nested.expand) ∧
    loose.expand = Link.expand ⟨"search", "/a\x7db", false⟩ ∧
    loose.expand.toList = (Link.expand ⟨"search", "/a", false⟩).toList ++
      '\x7d' :: (Link.expand ⟨"search", "b\x7bc", false⟩).toList := by
  obtain ⟨-, -, again, template, -, -⟩ := expand_sections nested
  obtain ⟨-, -, -, -, unclosed, stray, -⟩ := expand_sections loose
  have hy : Balanced ('\x7b' :: (['y'] ++ '\x7d' :: [])) := .braces (.char (by decide) (by decide) .nil) .nil
  have hx : Balanced ('?' :: 'x' :: '\x7b' :: (['y'] ++ '\x7d' :: [])) :=
    .char (by decide) (by decide) (.char (by decide) (by decide) hy)
  have hz : Balanced ['z'] := .char (by decide) (by decide) .nil
  have ha : Settled ['/', 'a'] := settled_of_not_mem (by decide)
  refine ⟨template ['/', 'a'] [(['?', 'x', '\x7b', 'y', '\x7d'], ['/', 'b']), (['z'], [])] (by decide) ?_ rfl, again,
    unclosed ['/', 'a', '\x7d', 'b'] ['c'] _ rfl (settled_of_not_mem (by decide)) (unclosed_of_not_mem (by decide)) rfl,
    stray ['/', 'a'] ['b', '\x7b', 'c'] _ _ rfl ha rfl rfl⟩
  simpa using ⟨hx, hz⟩

end Link
end Hypermedia
