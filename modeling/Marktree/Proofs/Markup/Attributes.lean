import Marktree.Proofs.Markup.Flow

/-!
# Reading attributes

A reader of tags finds the attributes of an HTML text with their values (`Html.attributes`). In
well-formed HTML it finds those that the grammar tells, so what holds of all attributes in the one
sense holds of them in the other (`Flow.forall_attributes`), and what it finds in a text and one after it
it finds in the two together (`Flow.attributes_append`).
-/
namespace Marktree.Html

/-- Where the reader is: in text, in a tag behind part of a word, or in a value in quotes. -/
inductive Scan
  | text
  | tag (word : List Char)
  | value (name value : List Char)

/-- The attributes with values in what is left of a text. -/
def attributesFrom : Scan → List Char → List (String × String)
  | _, [] => []
  | .text, c :: cs => attributesFrom (if c = '<' then .tag [] else .text) cs
  | .tag word, c :: cs =>
    if c = '>' then attributesFrom .text cs
    else if c = '"' then attributesFrom (.value word []) cs
    else if c = ' ' then attributesFrom (.tag []) cs
    else if c = '=' then attributesFrom (.tag word) cs
    else attributesFrom (.tag (word ++ [c])) cs
  | .value name v, c :: cs =>
    if c = '"' then (String.ofList name, String.ofList v) :: attributesFrom (.tag []) cs
    else attributesFrom (.value name (v ++ [c])) cs

/-- The attributes with values, each with its value as it is written. -/
def attributes (html : String) : List (String × String) :=
  attributesFrom .text html.toList

example : attributes "<a href=\"x>\" title=\"\">href=y</a>" = [("href", "x>"), ("title", "")] := by
  decide

/-! ## Steps of the reader -/

theorem attributesFrom_text {s : List Char} (h : '<' ∉ s) (rest : List Char) :
    attributesFrom .text (s ++ rest) = attributesFrom .text rest := by
  induction s with
  | nil => rfl
  | cons c s ih =>
    rw [List.mem_cons, not_or] at h
    rw [List.cons_append, attributesFrom, if_neg (Ne.symm h.1), ih h.2]

theorem attributesFrom_word {w : List Char} (h : ∀ c ∈ w, c.isAlphanum) (word rest : List Char) :
    attributesFrom (.tag word) (w ++ rest) = attributesFrom (.tag (word ++ w)) rest := by
  induction w generalizing word with
  | nil => simp
  | cons c w ih =>
    obtain ⟨hc, hw⟩ := List.forall_mem_cons.1 h
    have hne : c ≠ '>' ∧ c ≠ '"' ∧ c ≠ ' ' ∧ c ≠ '=' := by
      refine ⟨?_, ?_, ?_, ?_⟩ <;> rintro rfl <;> revert hc <;> decide
    obtain ⟨h₁, h₂, h₃, h₄⟩ := hne
    rw [List.cons_append, attributesFrom, if_neg h₁, if_neg h₂, if_neg h₃, if_neg h₄, ih hw,
      List.append_assoc, List.singleton_append]

theorem attributesFrom_value {v : List Char} (h : '"' ∉ v) (name before rest : List Char) :
    attributesFrom (.value name before) (v ++ '"' :: rest) =
      (String.ofList name, String.ofList (before ++ v)) :: attributesFrom (.tag []) rest := by
  induction v generalizing before with
  | nil => simp [attributesFrom]
  | cons c v ih =>
    rw [List.mem_cons, not_or] at h
    rw [List.cons_append, attributesFrom, if_neg (Ne.symm h.1), ih h.2, List.append_assoc,
      List.singleton_append]

/-- The names of tags and attributes are words. -/
theorem isAlphanum_of_mem_name (name : String) (h : name ∈ elements ++ voids ++ names ++ flags) :
    ∀ c ∈ name.toList, c.isAlphanum := by
  have hall : (elements ++ voids ++ names ++ flags).all fun n => n.toList.all Char.isAlphanum := by
    decide
  exact List.all_eq_true.1 (List.all_eq_true.1 hall name h)

/-- An attribute is read with its value. -/
theorem attributesFrom_attr {name v : String} (hn : name ∈ names) (hv : ∀ c ∈ v.toList, Text.Plain c)
    (word rest : List Char) :
    attributesFrom (.tag word) ((attr name v).toList ++ rest) =
      (name, v) :: attributesFrom (.tag []) rest := by
  have hword := isAlphanum_of_mem_name name (by simp [hn])
  have hquote : '"' ∉ v.toList := fun hm => (hv _ hm).2.2.1 rfl
  have hlist : (attr name v).toList ++ rest =
      ' ' :: (name.toList ++ '=' :: '"' :: (v.toList ++ '"' :: rest)) := by
    simp [attr]
  calc attributesFrom (.tag word) ((attr name v).toList ++ rest)
      = attributesFrom (.tag []) (name.toList ++ '=' :: '"' :: (v.toList ++ '"' :: rest)) := by
        rw [hlist]
        rfl
    _ = attributesFrom (.value name.toList []) (v.toList ++ '"' :: rest) := by
        rw [attributesFrom_word hword]
        rfl
    _ = (name, v) :: attributesFrom (.tag []) rest := by
        rw [attributesFrom_value hquote]
        simp

/-- An opening tag is read up to its attributes. -/
theorem attributesFrom_open {name : String} (hn : name ∈ elements ++ voids ++ names ++ flags) (x : String)
    (rest : List Char) :
    attributesFrom .text (("<" ++ name ++ x ++ ">").toList ++ rest) =
      attributesFrom (.tag name.toList) (x.toList ++ '>' :: rest) := by
  have hlist : ("<" ++ name ++ x ++ ">").toList ++ rest =
      '<' :: (name.toList ++ (x.toList ++ '>' :: rest)) := by
    simp
  rw [hlist]
  exact attributesFrom_word (isAlphanum_of_mem_name name hn) [] _

/-! ## What the grammar tells -/

variable {P : String → String → Prop}

theorem Attributes.read {x : String} (h : Attributes P x) :
    ∃ as : List (String × String), (∀ a ∈ as, P a.1 a.2) ∧ ∀ word, ∃ word', ∀ rest,
      attributesFrom (.tag word) (x.toList ++ rest) = as ++ attributesFrom (.tag word') rest := by
  induction h with
  | none => exact ⟨[], by simp, fun word => ⟨word, fun rest => by simp⟩⟩
  | @value name v hn hv hp =>
    exact ⟨[(name, v)], by simpa using hp, fun word => ⟨[], attributesFrom_attr hn hv word⟩⟩
  | flag name hn =>
    have hword := isAlphanum_of_mem_name name (by simp [hn])
    refine ⟨[], by simp, fun word => ⟨name.toList, fun rest => ?_⟩⟩
    have hlist : (" " ++ name).toList ++ rest = ' ' :: (name.toList ++ rest) := by simp
    rw [hlist]
    exact attributesFrom_word hword [] rest
  | append _ _ ihx ihy =>
    obtain ⟨as, has, hx⟩ := ihx
    obtain ⟨bs, hbs, hy⟩ := ihy
    refine ⟨as ++ bs, List.forall_mem_append.2 ⟨has, hbs⟩, fun word => ?_⟩
    obtain ⟨word₁, h₁⟩ := hx word
    obtain ⟨word₂, h₂⟩ := hy word₁
    refine ⟨word₂, fun rest => ?_⟩
    rw [String.toList_append, List.append_assoc, h₁, h₂, List.append_assoc]

/-- An opening tag is read up to its end. -/
theorem Attributes.read_tag {x : String} (h : Attributes P x) (name : String)
    (hn : name ∈ elements ++ voids ++ names ++ flags) :
    ∃ as : List (String × String), (∀ a ∈ as, P a.1 a.2) ∧ ∀ rest,
      attributesFrom .text (("<" ++ name ++ x ++ ">").toList ++ rest) =
        as ++ attributesFrom .text rest := by
  obtain ⟨as, has, hx⟩ := h.read
  obtain ⟨word, hword⟩ := hx name.toList
  refine ⟨as, has, fun rest => ?_⟩
  rw [attributesFrom_open hn, hword]
  rfl

theorem attributesFrom_close {name : String} (hn : name ∈ elements) (rest : List Char) :
    attributesFrom .text (("</" ++ name ++ ">").toList ++ rest) = attributesFrom .text rest := by
  have hlist : ("</" ++ name ++ ">").toList ++ rest = '<' :: '/' :: (name.toList ++ '>' :: rest) := by
    simp
  calc attributesFrom .text (("</" ++ name ++ ">").toList ++ rest)
      = attributesFrom (.tag ['/']) (name.toList ++ '>' :: rest) := by
        rw [hlist]
        rfl
    _ = attributesFrom .text rest := by
        rw [attributesFrom_word (isAlphanum_of_mem_name name (by simp [hn]))]
        rfl

theorem Flow.read {s : String} (h : Flow P s) :
    ∃ as : List (String × String), (∀ a ∈ as, P a.1 a.2) ∧ ∀ rest,
      attributesFrom .text (s.toList ++ rest) = as ++ attributesFrom .text rest := by
  induction h with
  | text hs =>
    exact ⟨[], by simp, fun rest => attributesFrom_text (fun hm => (hs _ hm).1 rfl) rest⟩
  | void name hn hx => exact hx.read_tag name (by simp [hn])
  | @element name x s hn hx hs ih =>
    obtain ⟨as, has, hx⟩ := hx.read_tag name (by simp [hn])
    obtain ⟨bs, hbs, hs⟩ := ih
    refine ⟨as ++ bs, List.forall_mem_append.2 ⟨has, hbs⟩, fun rest => ?_⟩
    have hassoc : "<" ++ name ++ x ++ ">" ++ s ++ "</" ++ name ++ ">" =
        "<" ++ name ++ x ++ ">" ++ s ++ ("</" ++ name ++ ">") := by
      simp only [String.append_assoc]
    rw [hassoc, String.toList_append, String.toList_append, List.append_assoc, List.append_assoc, hx, hs,
      attributesFrom_close hn, List.append_assoc]
  | append _ _ ihs iht =>
    obtain ⟨as, has, hs⟩ := ihs
    obtain ⟨bs, hbs, ht⟩ := iht
    refine ⟨as ++ bs, List.forall_mem_append.2 ⟨has, hbs⟩, fun rest => ?_⟩
    rw [String.toList_append, List.append_assoc, hs, ht, List.append_assoc]

theorem Flow.read_attributes {s : String} (h : Flow P s) :
    (∀ a ∈ attributes s, P a.1 a.2) ∧
      ∀ rest, attributesFrom .text (s.toList ++ rest) = attributes s ++ attributesFrom .text rest := by
  obtain ⟨as, has, hs⟩ := h.read
  have hall : attributes s = as := by
    have hend := hs []
    rwa [List.append_nil, attributesFrom, List.append_nil] at hend
  rw [hall]
  exact ⟨has, hs⟩

/-- **The reader finds in well-formed HTML the attributes that the grammar tells.** -/
theorem Flow.forall_attributes {s : String} (h : Flow P s) : ∀ a ∈ attributes s, P a.1 a.2 :=
  h.read_attributes.1

theorem Flow.attributes_append {s : String} (h : Flow P s) (t : String) :
    attributes (s ++ t) = attributes s ++ attributes t := by
  rw [attributes, String.toList_append]
  exact h.read_attributes.2 t.toList

/-- An element has the attributes of its tag before those of what is in it. -/
theorem attributes_element {name x s : String} {as : List (String × String)} (hn : name ∈ elements)
    (hx : ∀ rest, attributesFrom (.tag name.toList) (x.toList ++ '>' :: rest) =
      as ++ attributesFrom .text rest)
    (hs : Flow P s) : attributes (element name x s) = as ++ attributes s := by
  have hassoc : (element name x s).toList =
      ("<" ++ name ++ x ++ ">").toList ++ (s.toList ++ (("</" ++ name ++ ">").toList ++ [])) := by
    simp [element]
  rw [attributes, hassoc, attributesFrom_open (by simp [hn]), hx, hs.read_attributes.2,
    attributesFrom_close hn, attributesFrom, List.append_nil]

/-! ## Blanks at the ends -/

theorem attributesFrom_dropWhile {p : Char → Bool} (hp : p '<' = false) (s : List Char) :
    attributesFrom .text (s.dropWhile p) = attributesFrom .text s := by
  induction s with
  | nil => rfl
  | cons c s ih =>
    by_cases hc : p c
    · have hne : c ≠ '<' := fun he => by simp [he, hp] at hc
      rw [List.dropWhile_cons_of_pos hc, ih, attributesFrom, if_neg hne]
    · rw [List.dropWhile_cons_of_neg hc]

theorem Flow.attributes_rdropWhile {p : Char → Bool} (hend : p '>' = false) (hp : p '<' = false) {s : String}
    (h : Flow P s) : attributes (String.ofList (s.toList.rdropWhile p)) = attributes s := by
  have htext : '<' ∉ s.toList.rtakeWhile p := fun hm => by
    simpa [hp] using List.mem_rtakeWhile_imp hm
  have hsplit : s = String.ofList (s.toList.rdropWhile p) ++ String.ofList (s.toList.rtakeWhile p) := by
    rw [← String.ofList_append, List.rdropWhile_append_rtakeWhile, String.ofList_toList]
  have hrest : attributes (String.ofList (s.toList.rtakeWhile p)) = [] := by
    have hread := attributesFrom_text htext []
    rw [List.append_nil] at hread
    rw [attributes, String.toList_ofList, hread]
    rfl
  conv_rhs => rw [hsplit, (h.rdropWhile hend).attributes_append, hrest, List.append_nil]

theorem Flow.attributes_trim {s : String} (h : Flow P s) : attributes (Text.trim s) = attributes s := by
  have hstart := h.dropWhile (p := Text.isBlank) rfl
  have hend := hstart.attributes_rdropWhile (p := Text.isBlank) rfl rfl
  rw [String.toList_ofList] at hend
  refine Eq.trans hend ?_
  rw [attributes, String.toList_ofList, attributesFrom_dropWhile rfl]
  rfl

/-! ## Anchors -/

/-- The anchors of a text: the values of its `id` attributes. -/
def ids (html : String) : List String :=
  (attributes html).filterMap fun a => if a.1 = "id" then some a.2 else none

theorem ids_append {s : String} (h : Flow P s) (t : String) : ids (s ++ t) = ids s ++ ids t := by
  rw [ids, h.attributes_append, List.filterMap_append]
  rfl

theorem ids_eq_nil {s : String} (h : Flow (fun name _ => name ≠ "id") s) : ids s = [] :=
  List.filterMap_eq_nil_iff.2 fun a ha => if_neg (h.forall_attributes a ha)

theorem ids_text {s : String} (hs : ∀ c ∈ s.toList, Text.Plain c) : ids s = [] :=
  ids_eq_nil (.text hs)

theorem ids_trim {s : String} (h : Flow P s) : ids (Text.trim s) = ids s := by
  rw [ids, h.attributes_trim]
  rfl

/-- An element without an anchor has those of what is in it. -/
theorem ids_element {name x s : String} (hn : name ∈ elements)
    (hx : Attributes (fun name _ => name ≠ "id") x) (hs : Flow P s) : ids (element name x s) = ids s := by
  obtain ⟨as, has, hread⟩ := hx.read
  obtain ⟨word, hword⟩ := hread name.toList
  have hnone : (as.filterMap fun a => if a.1 = "id" then some a.2 else none) = [] :=
    List.filterMap_eq_nil_iff.2 fun a ha => if_neg (has a ha)
  rw [ids, attributes_element hn (fun rest => by rw [hword]; rfl) hs, List.filterMap_append, hnone]
  rfl

theorem ids_element_id {name v s : String} (hn : name ∈ elements) (hv : ∀ c ∈ v.toList, Text.Plain c)
    (hs : Flow P s) : ids (element name (attr "id" v) s) = v :: ids s := by
  have hread (rest : List Char) : attributesFrom (.tag name.toList) ((attr "id" v).toList ++ '>' :: rest) =
      [("id", v)] ++ attributesFrom .text rest :=
    attributesFrom_attr (by decide) hv _ _
  rw [ids, attributes_element hn hread hs]
  rfl

end Marktree.Html
