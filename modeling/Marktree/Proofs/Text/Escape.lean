import Marktree.Text.Reference

/-!
# Escaping and references

Escaping is undone by replacing the references of the escaped text (`unescape_escape`), whatever
text comes after it (`unescapeChars_escapeChars_append`). Nothing in an escaped text opens or closes
a tag or a quoted value (`plain_escapeChars`), and its ampersands begin the references that escaping
writes. These texts are all that escaping can make, so the two undo each other (`escape_exact`).
-/
namespace Marktree.Text

/-- A character that opens or closes neither a tag nor a quoted value. -/
def Plain (c : Char) : Prop :=
  c ≠ '<' ∧ c ≠ '>' ∧ c ≠ '"' ∧ c ≠ '\''

instance : DecidablePred Plain := fun c =>
  inferInstanceAs (Decidable (c ≠ '<' ∧ c ≠ '>' ∧ c ≠ '"' ∧ c ≠ '\''))

theorem forall_plain {s : List Char} (h : s.all fun c => decide (Plain c)) : ∀ c ∈ s, Plain c := by
  simpa using h

/-- The references that escaping writes. -/
def entities : List String :=
  ["&amp;", "&lt;", "&gt;", "&quot;", "&#x27;"]

theorem escapeChar_of_plain {c : Char} (h : c ≠ '&') (hc : Plain c) : escapeChar c = [c] := by
  obtain ⟨h1, h2, h3, h4⟩ := hc
  unfold escapeChar
  split <;> first | contradiction | rfl

/-- The five escaped characters are written as references to themselves, all others as they are. -/
theorem escapeChar_spec (c : Char) :
    (escapeChar c = [c] ∧ c ≠ '&' ∧ Plain c) ∨
      ∃ w, escapeChar c = '&' :: (w ++ [';']) ∧ String.ofList (escapeChar c) ∈ entities ∧
        Reference.replace w = [c] ∧ ∀ x ∈ w, x ≠ ';' ∧ x ≠ '&' ∧ Plain x := by
  by_cases h1 : c = '&'
  · subst h1; exact Or.inr ⟨['a', 'm', 'p'], rfl, by decide, by decide, by simp [Plain]⟩
  by_cases h2 : c = '<'
  · subst h2; exact Or.inr ⟨['l', 't'], rfl, by decide, by decide, by simp [Plain]⟩
  by_cases h3 : c = '>'
  · subst h3; exact Or.inr ⟨['g', 't'], rfl, by decide, by decide, by simp [Plain]⟩
  by_cases h4 : c = '"'
  · subst h4; exact Or.inr ⟨['q', 'u', 'o', 't'], rfl, by decide, by decide, by simp [Plain]⟩
  by_cases h5 : c = '\''
  · subst h5; exact Or.inr ⟨['#', 'x', '2', '7'], rfl, by decide, by decide, by simp [Plain]⟩
  · have hc : Plain c := ⟨h2, h3, h4, h5⟩
    exact Or.inl ⟨escapeChar_of_plain h1 hc, h1, hc⟩

/-! ## The round trip -/

namespace Reference

/-- An open reference takes all up to its semicolon. -/
theorem unescapeFrom_reference {w : List Char} (hw : ∀ x ∈ w, x ≠ ';' ∧ x ≠ '&')
    (body rest : List Char) :
    unescapeFrom (some body) (w ++ ';' :: rest) =
      replace (body.reverse ++ w) ++ unescapeFrom none rest := by
  induction w generalizing body with
  | nil => simp [unescapeFrom]
  | cons x w ih =>
    obtain ⟨h1, h2⟩ := hw x (by simp)
    have := ih (fun y hy => hw y (by simp [hy])) (x :: body)
    simpa [unescapeFrom, h1, h2] using this

theorem unescapeFrom_escapeChar (c : Char) (rest : List Char) :
    unescapeFrom none (escapeChar c ++ rest) = c :: unescapeFrom none rest := by
  rcases escapeChar_spec c with ⟨he, hc, -⟩ | ⟨w, he, -, hr, hw⟩
  · simp [he, unescapeFrom, hc]
  · have := unescapeFrom_reference (fun x hx => ⟨(hw x hx).1, (hw x hx).2.1⟩) [] rest
    simp only [List.reverse_nil, List.nil_append, hr] at this
    simpa [he, unescapeFrom] using this

end Reference

/-- No reference of an escaped text goes on into what comes after it. -/
theorem unescapeChars_escapeChars_append (s t : List Char) :
    unescapeChars (escapeChars s ++ t) = s ++ unescapeChars t := by
  induction s with
  | nil => rfl
  | cons c s ih =>
    simp only [unescapeChars, escapeChars, List.flatMap_cons, List.append_assoc] at ih ⊢
    rw [Reference.unescapeFrom_escapeChar, ih, List.cons_append]

theorem unescapeChars_escapeChars (s : List Char) : unescapeChars (escapeChars s) = s := by
  have h := unescapeChars_escapeChars_append s []
  rw [List.append_nil] at h
  rw [h]
  exact List.append_nil s

/-- **Escaping loses nothing.** -/
@[simp] theorem unescape_escape (s : String) : unescape (escape s) = s := by
  simp [unescape, escape, unescapeChars_escapeChars]

@[simp] theorem map_unescape_map_escape (s : Option String) :
    (s.map escape).map unescape = s := by
  cases s <;> simp

/-- Without an ampersand there is no reference. -/
theorem unescapeChars_of_notMem {s : List Char} (h : '&' ∉ s) : unescapeChars s = s := by
  unfold unescapeChars
  induction s with
  | nil => rfl
  | cons c s ih =>
    simp only [List.mem_cons, not_or] at h
    simp [Reference.unescapeFrom, Ne.symm h.1, ih h.2]

/-! ## Nothing is opened or closed -/

theorem plain_escapeChar {c x : Char} (h : x ∈ escapeChar c) : Plain x := by
  rcases escapeChar_spec c with ⟨he, -, hc⟩ | ⟨w, he, -, -, hw⟩
  · rw [he, List.mem_singleton] at h
    exact h ▸ hc
  · rw [he] at h
    simp only [List.mem_cons, List.mem_append, List.not_mem_nil, or_false] at h
    rcases h with rfl | h | rfl
    · decide
    · exact (hw x h).2.2
    · decide

theorem plain_escapeChars {s : List Char} {x : Char} (h : x ∈ escapeChars s) : Plain x := by
  obtain ⟨c, -, hx⟩ := List.mem_flatMap.1 h
  exact plain_escapeChar hx

theorem plain_escape {s : String} {x : Char} (h : x ∈ (escape s).toList) : Plain x :=
  plain_escapeChars (by simpa [escape] using h)

/-! ## The escaped texts -/

/-- Nothing opens or closes, and every ampersand begins a reference that escaping writes. -/
structure Escaped (t : List Char) : Prop where
  plain : ∀ c ∈ t, Plain c
  references : ∀ u, '&' :: u <:+ t → ∃ e ∈ entities, e.toList <+: '&' :: u

namespace Escaped

variable {t : List Char}

theorem nil : Escaped [] :=
  ⟨by simp, fun u hu => absurd (List.suffix_nil.1 hu) (List.cons_ne_nil _ _)⟩

theorem of_suffix {u : List Char} (h : Escaped t) (hu : u <:+ t) : Escaped u :=
  ⟨fun c hc => h.plain c (hu.subset hc), fun v hv => h.references v (hv.trans hu)⟩

theorem cons {c : Char} (h : Escaped t) (hc : c ≠ '&') (hp : Plain c) : Escaped (c :: t) := by
  refine ⟨List.forall_mem_cons.2 ⟨hp, h.plain⟩, fun u hu => ?_⟩
  rcases List.suffix_cons_iff.1 hu with hu | hu
  · exact absurd (List.cons.inj hu).1.symm hc
  · exact h.references u hu

theorem append {w : List Char} (h : Escaped t) (hw : ∀ x ∈ w, x ≠ '&' ∧ Plain x) : Escaped (w ++ t) := by
  induction w with
  | nil => exact h
  | cons c w ih =>
    obtain ⟨⟨hc, hp⟩, hw⟩ := List.forall_mem_cons.1 hw
    exact (ih hw).cons hc hp

theorem escapeChar_append (h : Escaped t) (c : Char) : Escaped (escapeChar c ++ t) := by
  rcases escapeChar_spec c with ⟨he, hc, hp⟩ | ⟨w, he, hmem, -, hw⟩
  · rw [he]
    exact h.cons hc hp
  · have hbody : Escaped (w ++ ';' :: t) :=
      (h.cons (by decide) (by decide)).append fun x hx => ⟨(hw x hx).2.1, (hw x hx).2.2⟩
    have hsplit : escapeChar c ++ t = '&' :: (w ++ ';' :: t) := by simp [he]
    refine ⟨?_, fun u hu => ?_⟩
    · rw [hsplit]
      exact List.forall_mem_cons.2 ⟨by decide, hbody.plain⟩
    rw [hsplit] at hu
    rcases List.suffix_cons_iff.1 hu with hu | hu
    · refine ⟨_, hmem, ?_⟩
      rw [hu, ← hsplit, String.toList_ofList]
      exact List.prefix_append _ _
    · exact hbody.references u hu

end Escaped

theorem escaped_escapeChars (s : List Char) : Escaped (escapeChars s) := by
  induction s with
  | nil => exact Escaped.nil
  | cons c s ih => exact ih.escapeChar_append c

theorem exists_escapeChar {e : String} (h : e ∈ entities) : ∃ c, e.toList = escapeChar c := by
  simp only [entities, List.mem_cons, List.not_mem_nil, or_false] at h
  rcases h with rfl | rfl | rfl | rfl | rfl
  · exact ⟨'&', by decide⟩
  · exact ⟨'<', by decide⟩
  · exact ⟨'>', by decide⟩
  · exact ⟨'"', by decide⟩
  · exact ⟨'\'', by decide⟩

/-- Such a text is written by escaping: its characters one by one, its references as a whole. -/
theorem exists_escapeChars : ∀ t : List Char, Escaped t → ∃ s, escapeChars s = t
  | [], _ => ⟨[], rfl⟩
  | c :: t, h => by
    by_cases hc : c = '&'
    · subst hc
      obtain ⟨e, he, rest, hrest⟩ := h.references t (List.suffix_refl _)
      obtain ⟨d, hd⟩ := exists_escapeChar he
      have hne : ∀ e ∈ entities, e.toList ≠ [] := by decide
      have hshorter : rest.length < ('&' :: t).length := by
        have hpos := List.length_pos_iff.2 (hne e he)
        rw [← hrest, List.length_append]
        omega
      obtain ⟨s, hs⟩ := exists_escapeChars rest (h.of_suffix ⟨e.toList, hrest⟩)
      exact ⟨d :: s, by rw [← hrest, ← hs, hd]; rfl⟩
    · obtain ⟨s, hs⟩ := exists_escapeChars t (h.of_suffix (List.suffix_cons c t))
      have hwritten := escapeChar_of_plain hc (h.plain c (List.mem_cons_self ..))
      refine ⟨c :: s, ?_⟩
      rw [escapeChars, List.flatMap_cons, hwritten, ← escapeChars, hs]
      rfl
termination_by t => t.length
decreasing_by
  · exact hshorter
  · exact Nat.lt_succ_self t.length

theorem escape_unescape {t : String} (h : Escaped t.toList) : escape (unescape t) = t := by
  obtain ⟨s, hs⟩ := exists_escapeChars t.toList h
  rw [escape, unescape, String.toList_ofList, ← hs, unescapeChars_escapeChars, hs, String.ofList_toList]

/-- **Escaping loses nothing and leaves nothing unescaped.** Replacing the references gives the text
back, also in front of any other text. What escaping makes are the texts in which nothing opens or
closes and every ampersand begins one of its references, and it goes piece by piece. -/
theorem escape_exact :
    (∀ s, unescape (escape s) = s ∧ Escaped (escape s).toList) ∧
      (∀ t, Escaped t.toList → escape (unescape t) = t) ∧
      (∀ a b, unescape (escape a ++ b) = a ++ unescape b) ∧
      ∀ a b, escape (a ++ b) = escape a ++ escape b := by
  refine ⟨fun s => ⟨unescape_escape s, ?_⟩, fun _ => escape_unescape, fun a b => ?_, escape_append⟩
  · rw [escape, String.toList_ofList]
    exact escaped_escapeChars s.toList
  · simp [unescape, escape, unescapeChars_escapeChars_append, String.ofList_append]

/-- A text with whole references, parts of some and other characters. -/
theorem escape_exact_parts :
    let s := "&lt;&am<é&#x2\"&#"
    escape s = "&amp;lt;&amp;am&lt;é&amp;#x2&quot;&amp;#" ∧ unescape (escape s) = s ∧
      Escaped (escape s).toList ∧ escape (unescape (escape s)) = escape s ∧
      unescape (escape s ++ "x27;&gt;") = s ++ "x27;>" := by
  intro s
  have hs := escape_exact.1 s
  refine ⟨by decide, hs.1, hs.2, escape_exact.2.1 _ hs.2, ?_⟩
  have happend := escape_exact.2.2.1 s "x27;&gt;"
  rwa [show unescape "x27;&gt;" = "x27;>" by decide] at happend

end Marktree.Text
