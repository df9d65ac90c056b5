import Marktree.Config.Assignment

/-!
# What assignments set

An assignment says a truth value of a switch (`Edit.Sets`), or it is bad in one of three ways
(`Edit.Rejects`); which of the two is told by the text alone, and a bad one changes nothing. After
several assignments, a switch is as the last one to it says.
-/
namespace Marktree

namespace Switches

variable {α β γ : Type}

@[simp] theorem get_ofFn (f : Switch → α) (k : Switch) : (ofFn f).get k = f k := by
  cases k <;> rfl

@[simp] theorem get_zipWith (f : α → β → γ) (s : Switches α) (t : Switches β) (k : Switch) :
    (s.zipWith f t).get k = f (s.get k) (t.get k) :=
  get_ofFn _ k

theorem get_set (s : Switches α) (k : Switch) (a : α) (j : Switch) :
    (s.set k a).get j = if j = k then a else s.get j :=
  get_ofFn _ j

end Switches

/-- The texts that name a switch. -/
def Switch.spellings : Switch → List String
  | .smartLists => ["smartLists", "smart_lists"]
  | k => [k.name]

theorem Switch.named?_eq_some_iff {s : String} {k : Switch} : named? s = some k ↔ s ∈ k.spellings := by
  constructor
  · intro h
    unfold named? at h
    split at h
    · rename_i hs
      cases h
      simp [spellings, hs]
    · obtain rfl : k.name = s := by simpa using List.find?_some h
      cases k <;> simp [spellings, name]
  · intro h
    cases k with
    | smartLists =>
      simp only [spellings, List.mem_cons, List.not_mem_nil, or_false] at h
      rcases h with rfl | rfl <;> rfl
    | _ =>
      obtain rfl := List.mem_singleton.1 h
      rfl

theorem Switch.named?_eq_none_iff {s : String} : named? s = none ↔ ∀ k : Switch, s ∉ k.spellings := by
  simp [Option.eq_none_iff_forall_ne_some, named?_eq_some_iff]

namespace Edit

/-! ## One assignment -/

/-- An assignment sets a switch: after a key that spells it and the first equals sign stands the value.
Blanks around both do not count. -/
def Sets (s : String) (k : Switch) (b : Bool) : Prop :=
  ∃ key value, s = key ++ "=" ++ value ∧ '=' ∉ key.toList ∧ Text.trim key ∈ k.spellings ∧
    Text.trim value = toString b

/-- An assignment sets some switch. -/
def Assigns (s : String) : Prop :=
  ∃ k b, Sets s k b

/-- Why a text is no assignment. -/
inductive Rejects : String → ConfigError → Prop
  | noEquals {s : String} (h : '=' ∉ s.toList) : Rejects s (.notAssignment s)
  /-- The value is told as it is written, and the key too. -/
  | value {key value : String} (hkey : '=' ∉ key.toList) (h : ∀ b : Bool, Text.trim value ≠ toString b) :
    Rejects (key ++ "=" ++ value) (.invalidValue key value)
  | key {key value : String} {b : Bool} (hkey : '=' ∉ key.toList) (hvalue : Text.trim value = toString b)
    (h : ∀ k : Switch, Text.trim key ∉ k.spellings) :
    Rejects (key ++ "=" ++ value) (.unknownOption (Text.trim key))

theorem truth?_eq_some_iff {s : String} {b : Bool} : truth? s = some b ↔ s = toString b := by
  unfold truth?
  split
  · rename_i h
    cases b <;> simp [h, toString]
  · split
    · rename_i h
      cases b <;> simp [h, toString]
    · cases b <;> simp_all [toString]

theorem truth?_eq_none_iff {s : String} : truth? s = none ↔ ∀ b : Bool, s ≠ toString b := by
  simp [Option.eq_none_iff_forall_ne_some, truth?_eq_some_iff]

theorem ne_equals {s : String} (h : '=' ∉ s.toList) : ∀ c ∈ s.toList, (c != '=') = true := fun c hc => by
  simpa using fun e : c = '=' => h (e ▸ hc)

theorem assign_of_not_mem {s : String} (h : '=' ∉ s.toList) : assign s = throw (.notAssignment s) := by
  have hnone : s.toList.dropWhile (· != '=') = [] := by
    have hall : (s.toList ++ []).dropWhile (· != '=') = _ := List.dropWhile_append_of_pos (ne_equals h)
    simpa using hall
  rw [assign, hnone]

theorem assign_append {key : String} (h : '=' ∉ key.toList) (value : String) :
    assign (key ++ "=" ++ value) = set key value := by
  simp [assign, List.dropWhile_append_of_pos (ne_equals h), List.takeWhile_append_of_pos (ne_equals h)]

theorem exists_append {s : String} (h : '=' ∈ s.toList) :
    ∃ key value, s = key ++ "=" ++ value ∧ '=' ∉ key.toList := by
  obtain ⟨key, value, hs, hkey⟩ := List.eq_append_cons_of_mem h
  refine ⟨String.ofList key, String.ofList value, ?_, by simpa using hkey⟩
  rw [← String.toList_inj]
  simp [hs]

theorem set_of_spells {key value : String} {k : Switch} {b : Bool} (hkey : Text.trim key ∈ k.spellings)
    (hvalue : Text.trim value = toString b) (o : Overrides) :
    set key value o = .ok () (o.set k (some b)) := by
  rw [← Switch.named?_eq_some_iff] at hkey
  rw [← truth?_eq_some_iff] at hvalue
  simp only [set, hvalue, hkey]
  rfl

theorem assign_of_sets {s : String} {k : Switch} {b : Bool} (h : Sets s k b) (o : Overrides) :
    assign s o = .ok () (o.set k (some b)) := by
  obtain ⟨key, value, rfl, hequals, hkey, hvalue⟩ := h
  rw [assign_append hequals, set_of_spells hkey hvalue]

/-- An assignment sets one switch to one value. -/
theorem Sets.unique {s : String} {j k : Switch} {a b : Bool} (h : Sets s j a) (h' : Sets s k b) :
    j = k ∧ a = b := by
  have hsame := (assign_of_sets h .empty).symm.trans (assign_of_sets h' .empty)
  rw [EStateM.Result.ok.injEq] at hsame
  have hj := congrArg (Switches.get · j) hsame.2
  rw [Switches.get_set, if_pos rfl, Switches.get_set] at hj
  split at hj
  · exact ⟨‹_›, Option.some.inj hj⟩
  · rw [Overrides.empty, Switches.get_ofFn] at hj
    cases hj

theorem assign_of_rejects {s : String} {e : ConfigError} (h : Rejects s e) (o : Overrides) :
    assign s o = .error e o := by
  cases h with
  | noEquals h => rw [assign_of_not_mem h]; rfl
  | value hkey h =>
    rw [← truth?_eq_none_iff] at h
    rw [assign_append hkey]
    simp only [set, h]
    rfl
  | key hkey hvalue h =>
    rw [← truth?_eq_some_iff] at hvalue
    rw [← Switch.named?_eq_none_iff] at h
    rw [assign_append hkey]
    simp only [set, hvalue, h]
    rfl

/-- A text is an assignment, or it is bad in one of the three ways. -/
theorem assigns_or_rejects (s : String) : Assigns s ∨ ∃ e, Rejects s e := by
  by_cases hequals : '=' ∈ s.toList
  · obtain ⟨key, value, rfl, hkey⟩ := exists_append hequals
    cases hvalue : truth? (Text.trim value) with
    | none => exact .inr ⟨_, .value hkey (truth?_eq_none_iff.1 hvalue)⟩
    | some b =>
      rw [truth?_eq_some_iff] at hvalue
      cases hname : Switch.named? (Text.trim key) with
      | none => exact .inr ⟨_, .key hkey hvalue (Switch.named?_eq_none_iff.1 hname)⟩
      | some k => exact .inl ⟨k, b, key, value, rfl, hkey, Switch.named?_eq_some_iff.1 hname, hvalue⟩
  · exact .inr ⟨_, .noEquals hequals⟩

/-- **Either a text sets a switch, or it is bad.** -/
theorem exists_rejects_iff {s : String} : (∃ e, Rejects s e) ↔ ¬ Assigns s := by
  constructor
  · rintro ⟨e, he⟩ ⟨k, b, hs⟩
    cases (assign_of_rejects he .empty).symm.trans (assign_of_sets hs .empty)
  · exact (assigns_or_rejects s).resolve_left

/-- **A change that fails leaves the overrides as they are.** -/
theorem eq_of_set_error {key value : String} {o o' : Overrides} {e : ConfigError}
    (h : set key value o = .error e o') : o' = o := by
  cases hvalue : truth? (Text.trim value) with
  | none =>
    simp only [set, hvalue] at h
    cases h
    rfl
  | some b =>
    cases hname : Switch.named? (Text.trim key) with
    | none =>
      simp only [set, hvalue, hname] at h
      cases h
      rfl
    | some k =>
      simp only [set, hvalue, hname] at h
      cases h

theorem eq_of_assign_error {s : String} {o o' : Overrides} {e : ConfigError}
    (h : assign s o = .error e o') : o' = o := by
  rcases assigns_or_rejects s with ⟨k, b, hs⟩ | ⟨e', hs⟩
  · rw [assign_of_sets hs] at h
    cases h
  · rw [assign_of_rejects hs] at h
    cases h
    rfl

end Edit

namespace Overrides

open Edit (Sets Assigns Rejects)

variable {o o' : Overrides} {ss : List String} {k : Switch} {b : Bool}

/-! ## Several assignments -/

theorem assignText_of_sets {s : String} (h : Sets s k b) (o : Overrides) :
    o.assignText s = .ok (o.set k (some b)) := by
  simp [assignText, Edit.apply, EStateM.run, Edit.assign_of_sets h]

theorem assignText_of_rejects {s : String} {e : ConfigError} (h : Rejects s e) (o : Overrides) :
    o.assignText s = .error e := by
  simp [assignText, Edit.apply, EStateM.run, Edit.assign_of_rejects h]

theorem exists_assignAll (h : ∀ s ∈ ss, Assigns s) (o : Overrides) : ∃ o', o.assignAll ss = .ok o' := by
  induction ss generalizing o with
  | nil => exact ⟨o, rfl⟩
  | cons s ss ih =>
    obtain ⟨⟨k, b, hs⟩, hss⟩ := List.forall_mem_cons.1 h
    obtain ⟨o', ho'⟩ := ih hss (o.set k (some b))
    refine ⟨o', ?_⟩
    rw [assignAll, List.foldlM_cons, assignText_of_sets hs]
    exact ho'

theorem assignAll_append {ts : List String} {o₁ : Overrides} (h : o.assignAll ss = .ok o₁) :
    o.assignAll (ss ++ ts) = o₁.assignAll ts := by
  rw [assignAll, List.foldlM_append, ← assignAll, h]
  rfl

/-- The first bad one decides, whatever follows it. -/
theorem assignAll_of_rejects {pre post : List String} {s : String} {e : ConfigError}
    (hpre : ∀ t ∈ pre, Assigns t) (hs : Rejects s e) (o : Overrides) :
    o.assignAll (pre ++ s :: post) = .error e := by
  obtain ⟨o₁, ho₁⟩ := exists_assignAll hpre o
  rw [assignAll_append ho₁, assignAll, List.foldlM_cons, assignText_of_rejects hs]
  rfl

/-- Assignments to other switches leave a switch as it is. -/
theorem get_of_assignAll (hss : ∀ s ∈ ss, Assigns s) (hk : ∀ s ∈ ss, ∀ b, ¬ Sets s k b)
    (h : o.assignAll ss = .ok o') : o'.get k = o.get k := by
  induction ss generalizing o with
  | nil => cases h; rfl
  | cons s ss ih =>
    obtain ⟨⟨j, b, hs⟩, hss⟩ := List.forall_mem_cons.1 hss
    obtain ⟨hks, hkss⟩ := List.forall_mem_cons.1 hk
    rw [assignAll, List.foldlM_cons, assignText_of_sets hs] at h
    have hj : k ≠ j := fun e => hks b (e ▸ hs)
    rw [ih hss hkss h, Switches.get_set, if_neg hj]

/-- The last assignment to a switch decides. -/
theorem get_of_assignAll_append {pre post : List String} {s : String}
    (hss : ∀ t ∈ pre ++ s :: post, Assigns t) (hs : Sets s k b) (hpost : ∀ t ∈ post, ∀ b, ¬ Sets t k b)
    (h : o.assignAll (pre ++ s :: post) = .ok o') : o'.get k = some b := by
  obtain ⟨hpre, hrest⟩ := List.forall_mem_append.1 hss
  obtain ⟨o₁, ho₁⟩ := exists_assignAll hpre o
  rw [assignAll_append ho₁, assignAll, List.foldlM_cons, assignText_of_sets hs] at h
  rw [get_of_assignAll (List.forall_mem_cons.1 hrest).2 hpost h, Switches.get_set, if_pos rfl]

end Overrides

end Marktree
