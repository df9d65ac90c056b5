import Mathlib.Data.List.Nodup
import Marktree.Proofs.Markup.Supply
import Marktree.Proofs.Node.Equality
import Marktree.Render

/-!
# Hooks of images

A rendering makes hooks and does nothing else with them (`Hooks.Grows`). The images of a rendered tree have
hooks that were made for them, each its own (`Render.subperm_documentFrom`), and apart from them the tree is
the same whatever hooks there were before (`Render.documentFrom_unhooked`).
-/
namespace Marktree

/-! ## Making hooks -/

namespace Hooks

/-- Hooks were made, and that is all. -/
structure Grows (h h' : Hooks) : Prop where
  callback : h'.callback = h.callback
  calls : h'.calls = h.calls
  size : h.fired.size ≤ h'.fired.size
  hasFired : ∀ k, h'.hasFired k = h.hasFired k

/-- The hooks that were made in between, in order. -/
def made (h h' : Hooks) : List LoadHook :=
  (List.range' h.fired.size (h'.fired.size - h.fired.size)).map (LoadHook.mk h.callback)

variable {h h' : Hooks}

theorem Grows.refl (h : Hooks) : h.Grows h :=
  ⟨rfl, rfl, Nat.le_refl _, fun _ => rfl⟩

theorem Grows.make (hg : h.Grows h') : h.Grows h'.make.2 where
  callback := hg.callback
  calls := hg.calls
  size := by
    have := hg.size
    simp only [Hooks.make, Array.size_push]
    omega
  hasFired k := by
    rw [← hg.hasFired]
    simp only [Hooks.hasFired, Hooks.make, Array.getD_eq_getD_getElem?, Array.getElem?_push]
    split
    · simp [*]
    · rfl

theorem made_make (hg : h.Grows h') : h.made h'.make.2 = h.made h' ++ [h'.make.1] := by
  obtain ⟨n, hn⟩ := Nat.exists_eq_add_of_le hg.size
  have hnext : h.fired.size + n + 1 - h.fired.size = n + 1 := by omega
  simp [made, make, hn, hnext, hg.callback, List.range'_1_concat]

theorem mem_made {k : LoadHook} (hk : k ∈ h.made h') :
    h.fired.size ≤ k.flag ∧ k.flag < h'.fired.size ∧ k.callback = h.callback := by
  obtain ⟨i, hi, rfl⟩ := List.mem_map.1 hk
  obtain ⟨hle, hlt⟩ := List.mem_range'_1.1 hi
  refine ⟨hle, ?_, rfl⟩
  change i < _
  omega

/-- A hook that was not made before has not fired. -/
theorem hasFired_of_mem_made {k : LoadHook} (hk : k ∈ h.made h') : h.hasFired k = false := by
  simp [hasFired, (mem_made hk).1]

/-- No two hooks have the same flag. -/
theorem nodup_flag {ks : List LoadHook} (hks : List.Subperm ks (h.made h')) :
    (ks.map LoadHook.flag).Nodup := by
  have hflags : (h.made h').map LoadHook.flag =
      List.range' h.fired.size (h'.fired.size - h.fired.size) := by
    rw [made, List.map_map]
    exact List.map_id _
  obtain ⟨l, hperm, hsublist⟩ := hks
  have hmade : ((h.made h').map LoadHook.flag).Nodup := hflags ▸ List.nodup_range'
  exact (hperm.map _).nodup_iff.1 (hmade.sublist (hsublist.map _))

/-! ## Firing hooks -/

theorem fire_fst (h : Hooks) (k : LoadHook) : (h.fire k).1 = !h.hasFired k := by
  unfold fire
  split <;> simp [*]

theorem callback_fire (h : Hooks) (k : LoadHook) : (h.fire k).2.callback = h.callback := by
  unfold fire
  split <;> rfl

theorem size_fire (h : Hooks) (k : LoadHook) : (h.fire k).2.fired.size = h.fired.size := by
  unfold fire
  split <;> simp

theorem calls_fire (h : Hooks) (k : LoadHook) :
    (h.fire k).2.calls = if !h.hasFired k && k.callback then h.calls + 1 else h.calls := by
  unfold fire
  split <;> simp [*]

/-- Exactly the hooks with the same flag fire together. -/
theorem hasFired_fire {k : LoadHook} (hk : k.flag < h.fired.size) (j : LoadHook) :
    (h.fire k).2.hasFired j = (h.hasFired j || decide (j.flag = k.flag)) := by
  unfold fire
  split
  · rename_i hf
    by_cases hj : j.flag = k.flag
    · have hj' : h.hasFired j = true := by rwa [hasFired, hj]
      simp [hj']
    · simp [hj]
  · simp only [hasFired, Array.getD_eq_getD_getElem?, Array.getElem?_setIfInBounds]
    by_cases hj : j.flag = k.flag
    · simp [hj, hk]
    · simp [hj, Ne.symm hj]

end Hooks

/-! ## Images take hooks -/

namespace Node

/-- The hook of an image. -/
def hook? (n : Node) : Option LoadHook :=
  n.image?.map Image.onLoad

theorem map_onLoad_images (n : Node) : n.images.map Image.onLoad = collect hook? [n] := by
  rw [images, collect, walkAll, walkAll, List.append_nil, List.map_filterMap]
  rfl

end Node

namespace TreeBuilder

/-- Hooks are given out to images. -/
theorem issues_hooks (restrict : Bool) (h : Hooks) :
    Issues restrict Node.hook? (fun s => h.Grows s.hooks) fun s => h.made s.hooks where
  text _ := rfl
  table _ _ := rfl
  branch {s w k? anchors} hs _ := ⟨hs, fun ns => by cases k? <;> exact .refl _⟩
  leaf {s c l? hooks} hs hl := by
    cases c with
    | image src title alt =>
      rw [leaf?] at hl
      split at hl
      · cases hl
        exact ⟨hs.make, (List.Perm.of_eq (Hooks.made_make hs)).trans List.perm_append_comm⟩
      · cases hl
        exact ⟨hs, .refl _⟩
    | _ =>
      cases hl
      exact ⟨hs, .refl _⟩

end TreeBuilder

/-! ## Whatever hooks there are -/

namespace TreeBuilder

/-- A builder without hooks. -/
def unhooked (b : TreeBuilder) : TreeBuilder where
  anchors := b.anchors
  registry := b.registry.unhooked

theorem unhooked_unhooked (b : TreeBuilder) : b.unhooked.unhooked = b.unhooked := by
  simp [unhooked]

theorem emit_unhooked (b : TreeBuilder) (n : Node) :
    b.unhooked.emit n.unhooked = ((b.emit n).1, (b.emit n).2.unhooked) := by
  simp [emit, unhooked, Node.Registry.register_unhooked]

theorem read_unhooked (b : TreeBuilder) (content : String) :
    b.unhooked.read content = (Node.unhookedAll (b.read content).1, (b.read content).2.unhooked) := by
  simp [read, unhooked, Node.Placeholder.decode_unhooked]

/-- An answer and the builder after it, hooks apart. -/
def apart (x : String × TreeBuilder) : String × TreeBuilder :=
  (x.1, x.2.unhooked)

theorem apart_emit {b b' : TreeBuilder} {m n : Node} (hb : b.unhooked = b'.unhooked)
    (hn : m.unhooked = n.unhooked) : apart (b.emit m) = apart (b'.emit n) := by
  rw [apart, apart, ← emit_unhooked, ← emit_unhooked, hb, hn]

theorem leaf?_unhooked (restrict : Bool) (hooks hooks' : Hooks) (c : Construct String) :
    (leaf? restrict hooks c).1.map Leaf.unhooked = (leaf? restrict hooks' c).1.map Leaf.unhooked := by
  cases c with
  | image src title alt =>
    rw [leaf?, leaf?]
    split <;> rfl
  | _ => rfl

theorem apart_markup_leaf {restrict : Bool} {c : Construct String} (hc : c.isLeaf) (b : TreeBuilder) :
    apart (markup restrict c b.unhooked) = apart (markup restrict c b) := by
  have hleaf := leaf?_unhooked restrict b.unhooked.hooks b.hooks c
  have hunhooked (hooks hooks' : Hooks) :
      ({ b.unhooked with hooks } : TreeBuilder).unhooked = { b with hooks := hooks' }.unhooked := by
    simp [unhooked]
  rw [markup_of_isLeaf hc, markup_of_isLeaf hc]
  generalize leaf? restrict b.unhooked.hooks c = x at hleaf ⊢
  generalize leaf? restrict b.hooks c = y at hleaf ⊢
  obtain ⟨l?, hooks⟩ := x
  obtain ⟨k?, hooks'⟩ := y
  cases l? with
  | none =>
    cases k? with
    | none => exact congrArg (Prod.mk "") (hunhooked hooks hooks')
    | some k => cases hleaf
  | some l =>
    cases k? with
    | none => cases hleaf
    | some k => exact apart_emit (hunhooked hooks hooks') (congrArg Node.leaf (Option.some.inj hleaf))

/-- **Answers do not depend on hooks.** -/
theorem apart_markup (restrict : Bool) (c : Construct String) (b : TreeBuilder) :
    apart (markup restrict c b.unhooked) = apart (markup restrict c b) := by
  cases c with
  | wrap w content =>
    have hanchors : b.unhooked.anchors = b.anchors := rfl
    rw [markup, markup, hanchors]
    rcases branch? restrict b.anchors w with ⟨_ | k, anchors⟩
    · simp [apart, unhooked]
    · let read := ({ b with anchors } : TreeBuilder).read content
      let quiet := ({ b with anchors } : TreeBuilder).unhooked.read content
      have hread : quiet = (Node.unhookedAll read.1, read.2.unhooked) := read_unhooked _ content
      change apart (quiet.2.emit (.branch k quiet.1)) = apart (read.2.emit (.branch k read.1))
      rw [hread]
      exact apart_emit (unhooked_unhooked _) (Node.unhooked_unhooked (.branch k read.1))
  | table header body =>
    let first := b.read header
    let second := first.2.read body
    let quiet := b.unhooked.read header
    let quiet' := quiet.2.read body
    have hfirst : quiet = (Node.unhookedAll first.1, first.2.unhooked) := read_unhooked b header
    have hsecond : quiet' = (Node.unhookedAll second.1, second.2.unhooked) := by
      simp only [quiet', hfirst]
      exact read_unhooked first.2 body
    change apart (quiet'.2.emit (.table quiet.1 quiet'.1)) = apart (second.2.emit (.table first.1 second.1))
    rw [hfirst, hsecond]
    exact apart_emit (unhooked_unhooked _) (Node.unhooked_unhooked (.table first.1 second.1))
  | _ => exact apart_markup_leaf rfl b

/-- The markup that builds nodes and puts all hooks aside. -/
def quiet (restrict : Bool) : Markup TreeBuilder :=
  fun c b => apart (markup restrict c b)

theorem translates_unhooked (restrict sanitize : Bool) :
    Compile.Translates id unhooked ((markup restrict).builder sanitize)
      ((quiet restrict).builder sanitize) where
  empty := rfl
  append _ _ := rfl
  verbatim _ := rfl
  answer c b := by
    have hmap : c.map id = c := by cases c <;> rfl
    rw [hmap]
    exact apart_markup restrict (c.escaped sanitize) b

/-- **What is compiled does not depend on hooks**, and neither do the nodes that it stands for. -/
theorem compile_unhooked (restrict : Bool) (o : Options) (hooks : Hooks) (events : List Event) :
    (compile (markup restrict) o ⟨{ hooks }, {}⟩ events).1 = (compile (markup restrict) o {} events).1 ∧
      (compile (markup restrict) o ⟨{ hooks }, {}⟩ events).2.unhooked =
        (compile (markup restrict) o {} events).2.unhooked := by
  have hquiet (b : TreeBuilder) : build ((quiet restrict).builder o.sanitize) o.breaks b.unhooked events =
      ((compile (markup restrict) o b events).1, (compile (markup restrict) o b events).2.unhooked) := by
    have hmap := build_map (translates_unhooked restrict o.sanitize) o.breaks b events
    rw [hmap]
    refine Prod.ext ?_ rfl
    rw [compile]
    cases (build ((markup restrict).builder o.sanitize) o.breaks b events).1 <;> rfl
  have hsame : build ((quiet restrict).builder o.sanitize) o.breaks (unhooked ⟨{ hooks }, {}⟩) events =
      build ((quiet restrict).builder o.sanitize) o.breaks (unhooked {}) events := rfl
  rw [hquiet, hquiet] at hsame
  exact Prod.ext_iff.1 hsame

theorem finish_congr {b b' : TreeBuilder} (h : b.unhooked = b'.unhooked) (stream : String) :
    Node.unhookedAll (b.finish stream).1 = Node.unhookedAll (b'.finish stream).1 := by
  have hread := read_unhooked b stream
  rw [h, read_unhooked] at hread
  exact (congrArg Prod.fst hread).symm

end TreeBuilder

/-! ## Renderings -/

namespace Render

theorem grows_treeFrom (hooks : Hooks) (o : Options) (events : List Event) :
    hooks.Grows (treeFrom hooks o events).2 := by
  have haccounts := (TreeBuilder.issues_hooks o.sanitize hooks).accounts_compile (s := { hooks })
    (o := o) (.refl hooks) events
  rw [treeFrom_snd]
  exact haccounts.good

theorem subperm_treeFrom {hooks : Hooks} {o : Options} {events : List Event} {n : Node}
    (h : (treeFrom hooks o events).1 = .ok n) :
    List.Subperm (n.images.map Image.onLoad) (hooks.made (treeFrom hooks o events).2) := by
  obtain ⟨stream, b, hcompile, rfl⟩ := exists_of_treeFrom h
  rw [treeFrom_snd, hcompile, Node.map_onLoad_images, Node.collect_singleton]
  have hissues := TreeBuilder.issues_hooks o.sanitize hooks
  exact hissues.subperm_of_compile (s := { hooks }) (.refl hooks) hcompile

theorem treeFrom_unhooked (hooks : Hooks) (o : Options) (events : List Event) :
    (treeFrom hooks o events).1.map Node.unhooked = (tree o events).map Node.unhooked := by
  obtain ⟨hresult, hstate⟩ := TreeBuilder.compile_unhooked o.sanitize o hooks events
  have hstart : compile (TreeBuilder.markup o.sanitize) o ⟨{ hooks := {} }, {}⟩ events =
      compile (TreeBuilder.markup o.sanitize) o {} events := rfl
  rw [tree, treeFrom, treeFrom, hstart]
  generalize compile (TreeBuilder.markup o.sanitize) o ⟨{ hooks }, {}⟩ events = x at hresult hstate ⊢
  generalize compile (TreeBuilder.markup o.sanitize) o {} events = y at hresult hstate ⊢
  obtain ⟨result, b⟩ := x
  obtain ⟨result', b'⟩ := y
  obtain rfl : result = result' := hresult
  cases result with
  | error e => rfl
  | ok stream =>
    have hnodes := TreeBuilder.finish_congr hstate stream
    exact congrArg (fun ns => Except.ok (Node.branch .document ns)) hnodes

theorem images_plain (s : String) : (plain s).images = [] := by
  have hplain : ∀ n ∈ plainNodes s, n.images = [] := fun n hn => by
    obtain ⟨l, -, hn⟩ := List.mem_flatMap.1 hn
    simp only [List.mem_cons, List.not_mem_nil, or_false] at hn
    rcases hn with rfl | rfl <;> rfl
  rw [plain, Node.images, Node.walk, List.filterMap_cons_none rfl, Node.walkAll_eq_flatMap,
    List.filterMap_flatMap]
  exact List.flatMap_eq_nil_iff.2 hplain

theorem images_errorDocument (e : CompileError) : (errorDocument e).images = [] :=
  rfl

/-- A rendering makes hooks and does nothing else with them. -/
theorem grows_documentFrom (hooks : Hooks) (f : Format) (o : Options) (s : String) :
    hooks.Grows (documentFrom hooks f o s).2 := by
  unfold documentFrom
  split
  · exact .refl hooks
  · cases f with
    | plain => exact .refl hooks
    | markdown => exact grows_treeFrom hooks o _

/-- **The images of a rendered tree have hooks that were made for them**, each its own. -/
theorem subperm_documentFrom {hooks : Hooks} {f : Format} {o : Options} {s : String} {n : Node}
    (h : (documentFrom hooks f o s).1 = .ok (some n)) :
    List.Subperm (n.images.map Image.onLoad) (hooks.made (documentFrom hooks f o s).2) := by
  rcases documentFrom_cases h with rfl | ⟨e, rfl⟩ | htree
  · rw [images_plain]
    exact List.nil_subperm
  · rw [images_errorDocument]
    exact List.nil_subperm
  · have hsub := subperm_treeFrom (congrArg Prod.fst htree)
    rwa [htree] at hsub

theorem recover_unhooked (o : Options) (t : Except CompileError Node) :
    (recover o t).map Node.unhooked = recover o (t.map Node.unhooked) := by
  cases t with
  | ok n => rfl
  | error e =>
    cases hsilent : o.silent with
    | true =>
      simp only [recover, hsilent, Except.map, if_true]
      rfl
    | false => simp [recover, hsilent, Except.map]

/-- **The tree of a text is the same whatever hooks there were before**, apart from its own. -/
theorem documentFrom_unhooked (hooks : Hooks) (f : Format) (o : Options) (s : String) :
    (documentFrom hooks f o s).1.map (Option.map Node.unhooked) =
      (document f o s).map (Option.map Node.unhooked) := by
  rw [document]
  unfold documentFrom
  split
  · rfl
  · cases f with
    | plain => rfl
    | markdown =>
      generalize Markdown.parse o (prepare s) = events
      have htree := congrArg (recover o) (treeFrom_unhooked hooks o events)
      rw [← recover_unhooked, ← recover_unhooked] at htree
      have hsome (t : Except CompileError Node) :
          (t.map some).map (Option.map Node.unhooked) = (t.map Node.unhooked).map some := by
        cases t <;> rfl
      exact (hsome _).trans ((congrArg (Except.map some) htree).trans (hsome _).symm)

end Render

end Marktree
