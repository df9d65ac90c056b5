import Mathlib.Data.List.Nodup
import Marktree.Proofs.Compile.Law
import Marktree.Proofs.Markup.Direct
import Marktree.Proofs.Node.Conservation
import Marktree.Proofs.Node.Cut

/-!
# Where nodes are

A builder of trees may be called with any constructs and any contents, and documents may be read
between the calls. A journal notes of each call what came out of it, which slots it emptied and which
texts it made of leaks (`entry`). At every moment each registered node is in one place: in its own
slot, among the children of one later node, or in one document (`Journal.Custody`). What a single call
does is told by `posts_call`; every entry of a journal keeps what was true before (`custody_record`).
-/
namespace Marktree.TreeBuilder

open Node (walkAll Registry)
open Node.Registry (emptied Moves)
open Node.Placeholder (encode leaksOf slots)

/-- A construct is answered, or a document is read. -/
inductive Call
  | answer (construct : Construct String)
  | finish (stream : String)
  deriving Repr, DecidableEq

/-- An answer with the node that was registered for it, or the nodes of a document. -/
inductive Outcome
  | answered (answer : String) (node : Option Node)
  | finished (nodes : List Node)
  deriving Repr

namespace Outcome

def node? : Outcome → Option Node
  | answered _ node => node
  | finished _ => none

/-- The answer that stands for a node. -/
def token? : Outcome → Option String
  | answered answer (some _) => some answer
  | _ => none

/-- The nodes of a document. -/
def document : Outcome → List Node
  | answered .. => []
  | finished nodes => nodes

/-- The nodes that are held from now on: the children of the node, or the nodes of the document. -/
def held : Outcome → List Node
  | answered _ node => (node.map Node.children).getD []
  | finished nodes => nodes

end Outcome

structure Entry where
  /-- The number of slots before the call. -/
  slot : Nat
  outcome : Outcome
  /-- The slots that were emptied. -/
  taken : List Nat
  /-- The texts that were made of leaks. -/
  leaks : List Node
  deriving Repr

section
variable (restrict : Bool) (b : TreeBuilder)

/-- The builder after a call. -/
def call : Call → TreeBuilder
  | .answer c => (markup restrict c b).2
  | .finish stream => (b.finish stream).2

def outcome : Call → Outcome
  | .answer c => .answered (markup restrict c b).1 ((b.call restrict (.answer c)).registry.get? b.registry.size)
  | .finish stream => .finished (b.finish stream).1

/-- The contents that a call reads; what is barred is not read. -/
def contents : Call → List String
  | .answer c => if (markup restrict c b).1 = "" then [] else c.contents
  | .finish stream => [stream]

def entry (k : Call) : Entry where
  slot := b.registry.size
  outcome := b.outcome restrict k
  taken := emptied b.registry (b.call restrict k).registry
  leaks := (b.contents restrict k).flatMap leaksOf

end

/-- The calls of a builder that starts empty, one after another. -/
structure Journal where
  builder : TreeBuilder := {}
  entries : List Entry := []

namespace Journal

def record (restrict : Bool) (j : Journal) (k : Call) : Journal where
  builder := j.builder.call restrict k
  entries := j.entries ++ [j.builder.entry restrict k]

def ofCalls (restrict : Bool) (ks : List Call) : Journal :=
  ks.foldl (record restrict) {}

/-- The nodes that were registered, in order. -/
def made (j : Journal) : List Node :=
  j.entries.filterMap (·.outcome.node?)

def tokens (j : Journal) : List String :=
  j.entries.filterMap (·.outcome.token?)

def taken (j : Journal) : List Nat :=
  j.entries.flatMap (·.taken)

def leaks (j : Journal) : List Node :=
  j.entries.flatMap (·.leaks)

/-- The nodes of all documents that were read. -/
def documents (j : Journal) : List Node :=
  j.entries.flatMap (·.outcome.document)

end Journal

/-- What an entry says of the nodes that were registered by the end. -/
structure Entry.Kept (e : Entry) (made : List Node) : Prop where
  node : ∀ n, e.outcome.node? = some n → made[e.slot]? = some n ∧ e.outcome.token? = some (encode e.slot)
  /-- What is taken was registered before. -/
  earlier : ∀ i ∈ e.taken, i < e.slot ∧ i < made.length
  /-- What is held are the nodes that were taken, as they were registered, and texts of leaks. -/
  held : e.outcome.held.Perm (e.leaks ++ e.taken.filterMap (made[·]?))
  barred : ∀ answer, e.outcome = .answered answer none → answer = "" ∧ e.taken = [] ∧ e.leaks = []

/-- Each registered node is in one place. -/
structure Journal.Custody (j : Journal) : Prop where
  size : j.builder.registry.size = j.made.length
  /-- Numbers are given out in order. -/
  tokens : j.tokens = (List.range j.made.length).map encode
  /-- A node is in its own slot until it is taken. -/
  slots : ∀ i, j.builder.registry.get? i = if i ∈ j.taken then none else j.made[i]?
  /-- No node is taken twice. -/
  once : j.taken.Nodup
  entries : ∀ e ∈ j.entries, e.Kept j.made
  /-- In the trees that are there are the nodes that were registered and the texts of leaks. -/
  balance : (walkAll j.builder.registry.nodes ++ walkAll j.documents).Perm (j.made ++ j.leaks)

/-! ## One call -/

/-- What an entry says of the registries before and after a call. -/
structure Entry.Posts (r r' : Registry) (e : Entry) : Prop where
  slot : e.slot = r.size
  size : r'.size = r.size + e.outcome.node?.toList.length
  slots : ∀ i < r.size, r'.get? i = if i ∈ e.taken then none else r.get? i
  node : ∀ n, e.outcome.node? = some n →
    r'.get? r.size = some n ∧ e.outcome.token? = some (encode r.size)
  once : e.taken.Nodup
  full : ∀ i ∈ e.taken, ∃ n, r.get? i = some n
  held : e.outcome.held.Perm (e.leaks ++ e.taken.filterMap r.get?)
  barred : ∀ answer, e.outcome = .answered answer none → answer = "" ∧ e.taken = [] ∧ e.leaks = []
  balance : (walkAll r'.nodes ++ walkAll e.outcome.document).Perm
    (e.outcome.node?.toList ++ e.leaks ++ walkAll r.nodes)

variable {restrict : Bool} {r r' : Registry} {ls : List Node}

theorem posts_finished {ns : List Node} (h : Moves r r' ns ls) (hls : walkAll ls = ls) :
    Entry.Posts r r' ⟨r.size, .finished ns, emptied r r', ls⟩ where
  slot := rfl
  size := h.size
  slots i _ := h.get?_eq i
  node n hn := by cases hn
  once := Registry.nodup_emptied r r'
  full i hi := (Registry.mem_emptied.1 hi).1
  held := h.perm_emptied
  barred answer he := by cases he
  balance := by
    have hwalk := Node.walkAll_perm h.perm
    rw [Node.walkAll_append, Node.walkAll_append, hls] at hwalk
    exact List.perm_append_comm.trans hwalk

theorem posts_registered {n : Node} (h : Moves r r' n.children ls) (hls : walkAll ls = ls) :
    Entry.Posts r (r'.register n).2
      ⟨r.size, .answered (encode r.size) (some n), emptied r (r'.register n).2, ls⟩ where
  slot := rfl
  size := by
    rw [← h.size]
    simp [Registry.register, Registry.size, Outcome.node?]
  slots i hi := by
    have hne : i ≠ r'.size := by
      have := h.size
      omega
    rw [Registry.get?_register, if_neg hne, Registry.emptied_register h.size]
    exact h.get?_eq i
  node m hm := by
    cases hm
    rw [Registry.get?_register, if_pos h.size.symm]
    exact ⟨rfl, rfl⟩
  once := Registry.nodup_emptied ..
  full i hi := (Registry.mem_emptied.1 hi).1
  held := by
    rw [Registry.emptied_register h.size]
    exact h.perm_emptied
  barred answer he := by cases he
  balance := by
    have hwalk := Node.walkAll_perm h.perm
    rw [Node.walkAll_append, Node.walkAll_append, hls] at hwalk
    rw [Registry.nodes_register, Node.walkAll_append]
    have hnew : walkAll [n] = n :: walkAll n.children := by
      rw [walkAll, Node.walk_eq_cons, walkAll, List.append_nil]
    rw [hnew]
    change (walkAll r'.nodes ++ n :: walkAll n.children ++ []).Perm (n :: (ls ++ walkAll r.nodes))
    rw [List.append_nil]
    exact List.perm_middle.trans ((List.perm_append_comm.trans hwalk).cons n)

theorem posts_barred (r : Registry) : Entry.Posts r r ⟨r.size, .answered "" none, emptied r r, []⟩ where
  slot := rfl
  size := rfl
  slots i _ := by simp [Registry.emptied_self]
  node n hn := by cases hn
  once := Registry.nodup_emptied r r
  full i hi := (Registry.mem_emptied.1 hi).1
  held := by simp [Registry.emptied_self, Outcome.held]
  barred answer he := by
    cases he
    exact ⟨rfl, Registry.emptied_self r, rfl⟩
  balance := by
    change (walkAll r.nodes ++ []).Perm (walkAll r.nodes)
    rw [List.append_nil]

theorem encode_ne_empty (i : Nat) : encode i ≠ "" := by
  intro h
  have hchars := congrArg String.toList h
  simp [encode, Node.Placeholder.encodeChars] at hchars

theorem moves_read (b : TreeBuilder) (content : String) :
    b.registry.Moves (b.read content).2.registry (b.read content).1 (leaksOf content) :=
  Node.Placeholder.moves_decode _ _

/-- Only where schemes are restricted is a destination barred. -/
theorem resolve?_none {escaped : String} (h : Destination.resolve? restrict escaped = none) :
    restrict = true := by
  cases restrict with
  | true => rfl
  | false => simp [Destination.resolve?] at h

theorem branch?_none {anchors : Text.Slugs} {w : Wrapper} (h : (branch? restrict anchors w).1 = none) :
    restrict = true := by
  cases w with
  | link href title => exact resolve?_none (Option.map_eq_none_iff.1 h)
  | cell header align => cases header <;> cases h
  | _ => cases h

theorem leaf?_none {hooks : Hooks} {c : Construct String} (hc : c.isLeaf)
    (h : (leaf? restrict hooks c).1 = none) : restrict = true := by
  cases c with
  | image src title alt =>
    rw [leaf?] at h
    split at h
    · cases h
    · rename_i hresolve
      exact resolve?_none hresolve
  | wrap w content => cases hc
  | table header body => cases hc
  | _ => cases h

/-- A construct is barred, and nothing happens. -/
structure Refuses (restrict : Bool) (c : Construct String) (b : TreeBuilder) : Prop where
  restricted : restrict = true
  answer : (markup restrict c b).1 = ""
  registry : (markup restrict c b).2.registry = b.registry

/-- The contents of a construct are read, and a node of what is read is registered. -/
structure Makes (restrict : Bool) (c : Construct String) (b : TreeBuilder) (n : Node) (r : Registry) :
    Prop where
  moves : b.registry.Moves r n.children (c.contents.flatMap leaksOf)
  empty : ∀ i ∈ c.contents.flatMap slots, r.get? i = none
  answer : (markup restrict c b).1 = encode b.registry.size
  registry : (markup restrict c b).2.registry = (r.register n).2

theorem get?_read (b : TreeBuilder) (content : String) (i : Nat) :
    (b.read content).2.registry.get? i = if i ∈ slots content then none else b.registry.get? i :=
  Node.Placeholder.get?_decode _ _ _

theorem markup_leaf {c : Construct String} (hc : c.isLeaf) (hcontents : c.contents = [])
    (b : TreeBuilder) : Refuses restrict c b ∨ ∃ n r, Makes restrict c b n r := by
  rcases hl : leaf? restrict b.hooks c with ⟨_ | l, hooks⟩
  · have hmarkup : markup restrict c b = ("", { b with hooks }) := by rw [markup_of_isLeaf hc, hl]
    exact .inl ⟨leaf?_none hc (congrArg Prod.fst hl), by rw [hmarkup], by rw [hmarkup]⟩
  · have hmarkup : markup restrict c b = ({ b with hooks } : TreeBuilder).emit (.leaf l) := by
      rw [markup_of_isLeaf hc, hl]
    refine .inr ⟨.leaf l, b.registry, ?_, ?_, by rw [hmarkup]; rfl, by rw [hmarkup]; rfl⟩
    · rw [hcontents]
      exact .refl _
    · simp [hcontents]

theorem markup_wrap (w : Wrapper) (content : String) (b : TreeBuilder) :
    Refuses restrict (.wrap w content) b ∨ ∃ n r, Makes restrict (.wrap w content) b n r := by
  rcases hk : branch? restrict b.anchors w with ⟨_ | k, anchors⟩
  · have hmarkup : markup restrict (.wrap w content) b = ("", { b with anchors }) := by
      rw [markup, hk]
    exact .inl ⟨branch?_none (congrArg Prod.fst hk), by rw [hmarkup], by rw [hmarkup]⟩
  · let read := ({ b with anchors } : TreeBuilder).read content
    have hread : b.registry.Moves read.2.registry read.1 (leaksOf content) := moves_read _ content
    have hmarkup : markup restrict (.wrap w content) b = read.2.emit (.branch k read.1) := by
      rw [markup, hk]
    refine .inr ⟨.branch k read.1, read.2.registry, ?_, fun i hi => ?_, ?_, ?_⟩
    · simpa [Construct.contents, Node.children] using hread
    · have hi : i ∈ slots content := by simpa [Construct.contents] using hi
      exact (get?_read _ content i).trans (if_pos hi)
    · rw [hmarkup]
      exact congrArg encode hread.size
    · rw [hmarkup]
      rfl

theorem markup_table (header body : String) (b : TreeBuilder) :
    ∃ n r, Makes restrict (.table header body) b n r := by
  let first := b.read header
  let second := first.2.read body
  have hmoves : b.registry.Moves second.2.registry (first.1 ++ second.1)
      (leaksOf header ++ leaksOf body) :=
    (moves_read b header).trans (moves_read first.2 body)
  refine ⟨.table first.1 second.1, second.2.registry, ?_, fun i hi => ?_, congrArg encode hmoves.size, rfl⟩
  · simpa [Construct.contents, Node.children] using hmoves
  · refine (get?_read first.2 body i).trans ?_
    split
    · rfl
    · rename_i hbody
      have hheader : i ∈ slots header := by simpa [Construct.contents, hbody] using hi
      exact (get?_read b header i).trans (if_pos hheader)

/-- What a markup answers with is a node of what it has read, unless the construct is barred. -/
theorem markup_cases (restrict : Bool) (c : Construct String) (b : TreeBuilder) :
    Refuses restrict c b ∨ ∃ n r, Makes restrict c b n r := by
  cases c with
  | wrap w content => exact markup_wrap w content b
  | table header body => exact .inr (markup_table header body b)
  | _ => exact markup_leaf rfl rfl b

/-- **What a call does.** -/
theorem posts_call (restrict : Bool) (b : TreeBuilder) (k : Call) :
    (b.entry restrict k).Posts b.registry (b.call restrict k).registry := by
  cases k with
  | finish stream =>
    have hread := posts_finished (moves_read b stream) (Node.Placeholder.walkAll_leaks _)
    simpa [entry, contents, outcome, call, finish] using hread
  | answer c =>
    rcases markup_cases restrict c b with ⟨-, hanswer, hregistry⟩ | ⟨n, r, hmoves, -, hanswer, hregistry⟩
    · have hnone : b.registry.get? b.registry.size = none := Registry.get?_of_size_le (Nat.le_refl _)
      have hposts := posts_barred b.registry
      simp only [entry, contents, outcome, call, hanswer, hregistry, hnone, if_pos, List.flatMap_nil]
      exact hposts
    · have hnode : (r.register n).2.get? b.registry.size = some n := by
        rw [Registry.get?_register, if_pos hmoves.size.symm]
      have hposts := posts_registered hmoves (Node.Placeholder.walkAll_leaksOf _)
      simp only [entry, contents, outcome, call, hanswer, hregistry, hnode, if_neg (encode_ne_empty _)]
      exact hposts

/-! ## All calls -/

theorem Entry.Kept.append {e : Entry} {made : List Node} (h : e.Kept made) (more : List Node) :
    e.Kept (made ++ more) where
  node n hn := by
    obtain ⟨hmade, htoken⟩ := h.node n hn
    have hlt := (List.getElem?_eq_some_iff.1 hmade).1
    exact ⟨by rw [List.getElem?_append_left hlt, hmade], htoken⟩
  earlier i hi := by
    obtain ⟨hslot, hlt⟩ := h.earlier i hi
    rw [List.length_append]
    omega
  held := by
    have hsame : e.taken.filterMap ((made ++ more)[·]?) = e.taken.filterMap (made[·]?) :=
      List.filterMap_congr fun i hi => List.getElem?_append_left (h.earlier i hi).2
    rw [hsame]
    exact h.held
  barred := h.barred

namespace Journal

variable {j : Journal}

theorem Custody.lt (h : j.Custody) {i : Nat} (hi : i ∈ j.taken) : i < j.made.length := by
  obtain ⟨e, he, hi⟩ := List.mem_flatMap.1 hi
  exact ((h.entries e he).earlier i hi).2

/-- A slot that is full holds the node that was registered for it, and it was not taken. -/
theorem Custody.of_get? (h : j.Custody) {i : Nat} {n : Node} (hn : j.builder.registry.get? i = some n) :
    i ∉ j.taken ∧ j.made[i]? = some n := by
  rw [h.slots] at hn
  split at hn
  · cases hn
  · exact ⟨‹_›, hn⟩

/-- A slot that is taken by a call held its node until then. -/
theorem Custody.of_taken (h : j.Custody) {b : TreeBuilder} {e : Entry}
    (hp : e.Posts j.builder.registry b.registry) {i : Nat} (hi : i ∈ e.taken) :
    i ∉ j.taken ∧ i < j.made.length := by
  obtain ⟨n, hn⟩ := hp.full i hi
  obtain ⟨hnot, hget⟩ := h.of_get? hn
  exact ⟨hnot, (List.getElem?_eq_some_iff.1 hget).1⟩

section
variable (b : TreeBuilder) (e : Entry)

theorem made_append : made ⟨b, j.entries ++ [e]⟩ = j.made ++ e.outcome.node?.toList := by
  cases h : e.outcome.node? <;> simp [made, h]

theorem tokens_append : tokens ⟨b, j.entries ++ [e]⟩ = j.tokens ++ e.outcome.token?.toList := by
  cases h : e.outcome.token? <;> simp [tokens, h]

theorem taken_append : taken ⟨b, j.entries ++ [e]⟩ = j.taken ++ e.taken := by
  simp [taken]

theorem leaks_append : leaks ⟨b, j.entries ++ [e]⟩ = j.leaks ++ e.leaks := by
  simp [leaks]

theorem documents_append : documents ⟨b, j.entries ++ [e]⟩ = j.documents ++ e.outcome.document := by
  simp [documents]

end

/-- The next slot holds the next node, if one is registered. -/
theorem Custody.slots_append (h : j.Custody) {b : TreeBuilder} {e : Entry}
    (hp : e.Posts j.builder.registry b.registry) (i : Nat) :
    b.registry.get? i =
      if i ∈ j.taken ++ e.taken then none else (j.made ++ e.outcome.node?.toList)[i]? := by
  have hnext : ∀ k ∈ j.taken ++ e.taken, k < j.made.length := by
    intro k hk
    rcases List.mem_append.1 hk with hk | hk
    · exact h.lt hk
    · exact (h.of_taken hp hk).2
  have hsize := h.size
  by_cases hlt : i < j.made.length
  · rw [List.getElem?_append_left hlt, hp.slots i (by omega), h.slots]
    by_cases hi : i ∈ e.taken <;> by_cases hi' : i ∈ j.taken <;> simp [hi, hi']
  · rw [if_neg fun hi => hlt (hnext i hi), List.getElem?_append_right (by omega)]
    have hsize' := hp.size
    cases hn : e.outcome.node? with
    | none =>
      rw [hn] at hsize'
      exact Registry.get?_of_size_le (by simpa [hsize', hsize] using hlt)
    | some n =>
      obtain ⟨hget, -⟩ := hp.node n hn
      rw [hn] at hsize'
      by_cases he : i = j.made.length
      · subst he
        rw [← hsize, hget]
        simp
      · rw [Registry.get?_of_size_le (by simp at hsize'; omega), List.getElem?_eq_none (by simp; omega)]

theorem Custody.tokens_append (h : j.Custody) {b : TreeBuilder} {e : Entry}
    (hp : e.Posts j.builder.registry b.registry) :
    j.tokens ++ e.outcome.token?.toList =
      (List.range (j.made ++ e.outcome.node?.toList).length).map encode := by
  cases hn : e.outcome.node? with
  | none =>
    have htoken : e.outcome.token? = none := by
      cases ho : e.outcome with
      | answered answer node =>
        obtain rfl : node = none := by simpa [ho, Outcome.node?] using hn
        rfl
      | finished nodes => rfl
    simp [htoken, h.tokens]
  | some n => simp [(hp.node n hn).2, h.tokens, h.size, List.range_succ]

/-- What a call notes of itself stays so. -/
theorem Custody.kept_append (h : j.Custody) {b : TreeBuilder} {e : Entry}
    (hp : e.Posts j.builder.registry b.registry) : e.Kept (j.made ++ e.outcome.node?.toList) where
  node n hn := by
    obtain ⟨-, htoken⟩ := hp.node n hn
    rw [hp.slot, hn]
    refine ⟨?_, htoken⟩
    simp [h.size]
  earlier i hi := by
    have hlt := (h.of_taken hp hi).2
    rw [hp.slot, h.size, List.length_append]
    omega
  held := by
    have hsame : e.taken.filterMap ((j.made ++ e.outcome.node?.toList)[·]?) =
        e.taken.filterMap j.builder.registry.get? := by
      refine List.filterMap_congr fun i hi => ?_
      obtain ⟨hnot, hlt⟩ := h.of_taken hp hi
      rw [List.getElem?_append_left hlt, h.slots, if_neg hnot]
    rw [hsame]
    exact hp.held
  barred := hp.barred

theorem Custody.append (h : j.Custody) {b : TreeBuilder} {e : Entry}
    (hp : e.Posts j.builder.registry b.registry) : Custody ⟨b, j.entries ++ [e]⟩ where
  size := by
    rw [made_append, List.length_append, ← h.size]
    exact hp.size
  tokens := by
    rw [Journal.tokens_append, made_append]
    exact h.tokens_append hp
  slots := by
    rw [taken_append, made_append]
    exact h.slots_append hp
  once := by
    rw [taken_append]
    refine List.nodup_append.2 ⟨h.once, hp.once, ?_⟩
    rintro i hi _ hi' rfl
    exact (h.of_taken hp hi').1 hi
  entries e' he' := by
    rw [made_append]
    rcases List.mem_append.1 he' with he' | he'
    · exact (h.entries e' he').append _
    · obtain rfl := List.mem_singleton.1 he'
      exact h.kept_append hp
  balance := by
    rw [made_append, leaks_append, documents_append, Node.walkAll_append]
    have hbefore : (walkAll j.documents ++ walkAll j.builder.registry.nodes).Perm (j.made ++ j.leaks) :=
      List.perm_append_comm.trans h.balance
    have hswap : ∀ new old : List Node, (new ++ e.leaks ++ (old ++ j.leaks)).Perm
        (old ++ new ++ (j.leaks ++ e.leaks)) := by
      intro new old
      refine List.perm_append_comm.trans ?_
      rw [List.append_assoc, List.append_assoc]
      exact (List.perm_append_comm_assoc ..).append_left old
    calc walkAll b.registry.nodes ++ (walkAll j.documents ++ walkAll e.outcome.document)
      List.Perm _ (walkAll j.documents ++ (walkAll b.registry.nodes ++ walkAll e.outcome.document)) :=
        List.perm_append_comm_assoc ..
      List.Perm _ (walkAll j.documents ++
          (e.outcome.node?.toList ++ e.leaks ++ walkAll j.builder.registry.nodes)) :=
        hp.balance.append_left _
      List.Perm _ (e.outcome.node?.toList ++ e.leaks ++
          (walkAll j.documents ++ walkAll j.builder.registry.nodes)) := List.perm_append_comm_assoc ..
      List.Perm _ (e.outcome.node?.toList ++ e.leaks ++ (j.made ++ j.leaks)) := hbefore.append_left _
      List.Perm _ (j.made ++ e.outcome.node?.toList ++ (j.leaks ++ e.leaks)) := hswap _ _

theorem custody_empty : Custody {} where
  size := rfl
  tokens := rfl
  slots i := by simp [Registry.get?, taken, made]
  once := List.nodup_nil
  entries := by simp
  balance := .refl _

/-- **Every call keeps each node in one place.** -/
theorem custody_record (restrict : Bool) (h : j.Custody) (k : Call) : (j.record restrict k).Custody :=
  h.append (posts_call restrict j.builder k)

theorem custody_ofCalls (restrict : Bool) (ks : List Call) : (ofCalls restrict ks).Custody := by
  have run : ∀ {j : Journal}, j.Custody → (ks.foldl (record restrict) j).Custody := by
    induction ks with
    | nil => exact id
    | cons k ks ih => exact fun h => ih (custody_record restrict h k)
  exact run custody_empty

end Journal

/-- What is barred is not read and takes no slot. -/
theorem markup_barred {restrict : Bool} {href : String} (h : Destination.resolve? restrict href = none)
    (b : TreeBuilder) (title : Option String) (content alt : String) :
    markup restrict (.wrap (.link href title) content) b = ("", b) ∧
      markup restrict (.image href title alt) b = ("", b) := by
  constructor
  · simp [markup, branch?, h]
  · simp [markup, leaf?, h]

/-- **Each node is in one place.** Whatever a builder of trees is called with, and whenever documents are
read, the nodes are registered under the numbers 0, 1, 2, ... in order, and at the end each of them is
in its own slot or was taken once, unchanged, into the children of one later node or into one document.
The nodes in all trees are as many as were registered and texts made of leaks. What is barred changes
nothing. -/
theorem custody_of_calls (restrict : Bool) (ks : List Call) :
    let j := Journal.ofCalls restrict ks
    j.Custody ∧
      (∀ i n, j.made[i]? = some n →
        (j.builder.registry.get? i = some n ∧ j.taken.count i = 0) ∨
          (j.builder.registry.get? i = none ∧ j.taken.count i = 1)) ∧
      (walkAll j.builder.registry.nodes).length + (walkAll j.documents).length =
        j.builder.registry.size + j.leaks.length ∧
      ∀ href, Destination.resolve? restrict href = none → ∀ b title content alt,
        markup restrict (.wrap (.link href title) content) b = ("", b) ∧
          markup restrict (.image href title alt) b = ("", b) := by
  intro j
  have hj : j.Custody := Journal.custody_ofCalls restrict ks
  refine ⟨hj, fun i n hn => ?_, ?_, fun href hbar b title content alt =>
    markup_barred hbar b title content alt⟩
  · have hslot := hj.slots i
    by_cases hi : i ∈ j.taken
    · rw [if_pos hi] at hslot
      exact .inr ⟨hslot, List.count_eq_one_of_mem hj.once hi⟩
    · rw [if_neg hi, hn] at hslot
      exact .inl ⟨hslot, List.count_eq_zero.2 hi⟩
  · have hlength := hj.balance.length_eq
    rw [List.length_append, List.length_append] at hlength
    rw [hj.size]
    exact hlength

/-- A node whose token comes twice, a link that is barred, and a leak in a document. -/
theorem custody_of_calls_barred :
    let token (i : Nat) := encode i
    let ks : List Call :=
      [.answer (.text "a"), .answer (.wrap .strong (token 0 ++ "x" ++ token 0)),
        .answer (.wrap (.link "javascript:a" none) (token 1)), .finish (token 1 ++ token 0 ++ "!")]
    let j := Journal.ofCalls true ks
    Destination.resolve? true "javascript:a" = none ∧
      markup true (.wrap (.link "javascript:a" none) (token 1)) j.builder = ("", j.builder) ∧
      j.tokens = [token 0, token 1] ∧ j.taken = [0, 1] ∧ (walkAll j.documents).length = 4 ∧
      (walkAll j.builder.registry.nodes).length = 0 := by
  intro token ks j
  obtain ⟨-, -, hbalance, hbarred⟩ := custody_of_calls true ks
  have hbar : Destination.resolve? true "javascript:a" = none := by decide +kernel
  have htaken : j.taken = [0, 1] := by
    simp only [j, ks, token]
    decide +kernel
  have hdocuments : (walkAll j.documents).length = 4 := by
    simp only [j, ks, token]
    decide +kernel
  have htokens : j.tokens = [token 0, token 1] := by
    simp only [j, ks, token]
    decide +kernel
  have hsize : j.builder.registry.size = 2 := by
    simp only [j, ks, token]
    decide +kernel
  have hleaks : j.leaks.length = 2 := by
    simp only [j, ks, token]
    decide +kernel
  refine ⟨hbar, (hbarred _ hbar j.builder none (token 1) "").1, htokens, htaken, hdocuments, ?_⟩
  change (walkAll j.builder.registry.nodes).length + (walkAll j.documents).length =
    j.builder.registry.size + j.leaks.length at hbalance
  omega

end Marktree.TreeBuilder
