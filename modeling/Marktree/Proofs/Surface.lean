import Mathlib.Data.List.Forall2
import Mathlib.Data.List.Nodup
import Marktree.Proofs.Markup.Hooks
import Marktree.Surface

/-!
# Notifications of images

Texts are rendered for a surface, images and trees are copied and images are reported as loaded, in any
order (`Surface.Action`). Which rendered image a shown one goes back to is told by the actions alone
(`Surface.History`); on the surface only the hooks tell it, which renderings made. Each rendered image has
one hook, the copies of an image have that of the image, and the hooks of the reported ones have fired
(`Surface.Traces`). So the first report of a rendered image or of any copy of it is the one that counts, and
it counts for that image alone (`notified_once`).
-/
namespace Marktree.Surface

/-- What is done with a surface; images and trees are told by their numbers. -/
inductive Action
  | render (text : String)
  | copyImage (i : Nat)
  | copyTree (i : Nat)
  | loaded (i : Nat)
  deriving Repr, DecidableEq

def act (f : Format) (o : Options) (s : Surface) : Action → Surface
  | .render text => s.render f o text
  | .copyImage i =>
    match s.shown[i]? with
    | some x => s.copy x
    | none => s
  | .copyTree i =>
    match s.trees[i]? with
    | some n => s.display n
    | none => s
  | .loaded i =>
    match s.shown[i]? with
    | some x => (s.loaded x).2
    | none => s

/-- What actions make of a surface on which nothing is shown. -/
def after (f : Format) (o : Options) (callback : Bool) (actions : List Action) : Surface :=
  actions.foldl (act f o) { hooks := { callback } }

/-! ## What the actions tell -/

/-- A rendered image: the number of its rendering, and its place among the images there. -/
structure Origin where
  rendering : Nat
  place : Nat
  deriving Repr, DecidableEq

/-- The rendered images so far, those that the images on the surface and in the trees go back to, and
those that were reported. -/
structure History where
  renderings : Nat := 0
  rendered : List Origin := []
  shown : List Origin := []
  trees : List (List Origin) := []
  reports : List Origin := []
  deriving Repr, DecidableEq

/-- The tree of a text, if it has one. -/
def rendered? (f : Format) (o : Options) (text : String) : Option Node :=
  (Render.document f o text).toOption.join

namespace History

/-- The images of a new rendering. -/
def fresh (h : History) (count : Nat) : List Origin :=
  (List.range count).map (Origin.mk h.renderings)

/-- The images of a rendering are new. -/
def render (h : History) (count : Nat) : History :=
  { h with
    renderings := h.renderings + 1
    rendered := h.rendered ++ h.fresh count
    shown := h.shown ++ h.fresh count
    trees := h.trees ++ [h.fresh count] }

/-- The images of a copy go back to where the copied ones do. -/
def act (f : Format) (o : Options) (h : History) : Action → History
  | .render text =>
    match rendered? f o text with
    | some n => h.render n.images.length
    | none => h
  | .copyImage i => { h with shown := h.shown ++ h.shown[i]?.toList }
  | .copyTree i =>
    { h with shown := h.shown ++ h.trees[i]?.getD [], trees := h.trees ++ h.trees[i]?.toList }
  | .loaded i => { h with reports := h.reports ++ h.shown[i]?.toList }

def after (f : Format) (o : Options) (actions : List Action) : History :=
  actions.foldl (act f o) {}

/-- The images of a history are rendered ones, each of which was rendered once. -/
structure Sound (h : History) : Prop where
  nodup : h.rendered.Nodup
  earlier : ∀ w ∈ h.rendered, w.rendering < h.renderings
  reports : ∀ w ∈ h.reports, w ∈ h.rendered

variable {h : History}

theorem sound_empty : Sound {} :=
  ⟨List.nodup_nil, by simp, by simp⟩

theorem notMem_of_mem_fresh (hs : h.Sound) {count : Nat} {w : Origin} (hw : w ∈ h.fresh count) :
    w ∉ h.rendered := by
  obtain ⟨i, -, rfl⟩ := List.mem_map.1 hw
  intro hmem
  exact Nat.lt_irrefl _ (hs.earlier _ hmem)

theorem nodup_fresh (h : History) (count : Nat) : (h.fresh count).Nodup :=
  List.nodup_range.map fun i j hij => by cases hij; rfl

theorem sound_render (hs : h.Sound) (count : Nat) : (h.render count).Sound where
  nodup := hs.nodup.append (h.nodup_fresh count) fun _ hw hnew => notMem_of_mem_fresh hs hnew hw
  earlier w hw := by
    rcases List.mem_append.1 hw with hw | hw
    · exact Nat.lt_succ_of_lt (hs.earlier w hw)
    · obtain ⟨i, -, rfl⟩ := List.mem_map.1 hw
      exact Nat.lt_succ_self _
  reports w hw := List.mem_append_left _ (hs.reports w hw)

theorem sound_report (hs : h.Sound) {w : Origin} (hw : w ∈ h.rendered) :
    Sound { h with reports := h.reports ++ [w] } where
  nodup := hs.nodup
  earlier := hs.earlier
  reports u hu := by
    rcases List.mem_append.1 hu with hu | hu
    · exact hs.reports u hu
    · rwa [List.mem_singleton.1 hu]

/-- No image of a new rendering was reported. -/
theorem countP_append_fresh (hs : h.Sound) (count : Nat) :
    (h.rendered ++ h.fresh count).countP (· ∈ h.reports) = h.rendered.countP (· ∈ h.reports) := by
  have hnew : (h.fresh count).countP (· ∈ h.reports) = 0 := List.countP_eq_zero.2 fun w hw hr =>
    notMem_of_mem_fresh hs hw (hs.reports w (by simpa using hr))
  rw [List.countP_append, hnew, Nat.add_zero]

end History

/-- One more value that counts. -/
theorem countP_mem_append_singleton {l : List Origin} (hl : l.Nodup) {w : Origin} (hw : w ∈ l)
    {ws : List Origin} (hws : w ∉ ws) :
    l.countP (· ∈ ws ++ [w]) = l.countP (· ∈ ws) + 1 := by
  induction l with
  | nil => cases hw
  | cons a l ih =>
    obtain ⟨ha, hl⟩ := List.nodup_cons.1 hl
    rcases List.mem_cons.1 hw with rfl | hw
    · have hrest : l.countP (· ∈ ws ++ [w]) = l.countP (· ∈ ws) :=
        List.countP_congr fun x hx => by
          have : x ≠ w := fun e => ha (e ▸ hx)
          simp [this]
      rw [List.countP_cons, List.countP_cons, hrest]
      simp [hws]
    · have hne : a ≠ w := fun e => ha (e ▸ hw)
      have ha' : a ∈ ws ++ [w] ↔ a ∈ ws := by simp [hne]
      rw [List.countP_cons, List.countP_cons, ih hl hw]
      simp only [ha']
      omega

/-! ## What the hooks tell -/

/-- An image goes back to a rendered one with the same hook; `known` are the rendered images with their
hooks. -/
def Marks (known : List (LoadHook × Origin)) (x : Image) (w : Origin) : Prop :=
  (x.onLoad, w) ∈ known

/-- The state of a surface is what the actions tell. -/
structure Traces (s : Surface) (h : History) (known : List (LoadHook × Origin)) : Prop extends h.Sound where
  rendered : known.map Prod.snd = h.rendered
  flags : (known.map (·.1.flag)).Nodup
  made : ∀ k ∈ known, k.1.flag < s.hooks.fired.size ∧ k.1.callback = s.hooks.callback
  shown : List.Forall₂ (Marks known) s.shown h.shown
  trees : List.Forall₂ (fun n => List.Forall₂ (Marks known) n.images) s.trees h.trees
  fired : ∀ k ∈ known, s.hooks.hasFired k.1 = true ↔ k.2 ∈ h.reports
  calls : s.hooks.calls = if s.hooks.callback then h.rendered.countP (· ∈ h.reports) else 0

variable {f : Format} {o : Options} {s : Surface} {h : History} {known : List (LoadHook × Origin)}

/-- Images go back to the same rendered ones when others are rendered. -/
theorem Marks.mono {xs : List Image} {ws : List Origin} (hx : List.Forall₂ (Marks known) xs ws)
    (new : List (LoadHook × Origin)) : List.Forall₂ (Marks (known ++ new)) xs ws :=
  hx.imp fun _ _ hm => List.mem_append_left new hm

/-- The images of a new rendering go back to themselves. -/
theorem marks_fresh (known : List (LoadHook × Origin)) {xs : List Image} {ws : List Origin}
    (hlength : xs.length = ws.length) :
    List.Forall₂ (Marks (known ++ (xs.map Image.onLoad).zip ws)) xs ws := by
  have hzip : ∀ p ∈ xs.zip ws, (p.1.onLoad, p.2) ∈ (xs.map Image.onLoad).zip ws := fun p hp => by
    rw [List.zip_map_left]
    exact List.mem_map_of_mem (f := Prod.map Image.onLoad id) hp
  refine List.forall₂_iff_zip.2 ⟨hlength, fun hp => ?_⟩
  exact List.mem_append_right _ (hzip (_, _) hp)

theorem Traces.rendered_of_marks (hs : s.Traces h known) {x : Image} {w : Origin} (hx : Marks known x w) :
    w ∈ h.rendered := by
  rw [← hs.rendered]
  exact List.mem_map_of_mem (f := Prod.snd) hx

/-- Two images have the same hook exactly if they go back to the same rendered one, and hooks are told by
their flags. -/
theorem Traces.hook_eq_iff (hs : s.Traces h known) {k k' : LoadHook × Origin} (hk : k ∈ known)
    (hk' : k' ∈ known) : (k.1.flag = k'.1.flag ↔ k.2 = k'.2) ∧ (k.1 = k'.1 ↔ k.2 = k'.2) := by
  have hnodup : (known.map Prod.snd).Nodup := hs.rendered ▸ hs.nodup
  have hflag (heq : k.1.flag = k'.1.flag) : k = k' := List.inj_on_of_nodup_map hs.flags hk hk' heq
  have horigin (heq : k.2 = k'.2) : k = k' := List.inj_on_of_nodup_map hnodup hk hk' heq
  refine ⟨⟨fun heq => ?_, fun heq => ?_⟩, fun heq => ?_, fun heq => ?_⟩
  · rw [hflag heq]
  · rw [horigin heq]
  · rw [hflag (congrArg LoadHook.flag heq)]
  · rw [horigin heq]

theorem traces_empty (callback : Bool) : Traces { hooks := { callback } } {} [] where
  toSound := History.sound_empty
  rendered := rfl
  flags := List.nodup_nil
  made := by simp
  shown := .nil
  trees := .nil
  fired := by simp
  calls := by simp

/-! ## What each action keeps -/

/-- Hooks that are made for no image change nothing. -/
theorem traces_grows (hs : s.Traces h known) {hooks : Hooks} (hg : s.hooks.Grows hooks) :
    Traces { s with hooks } h known where
  toSound := hs.toSound
  rendered := hs.rendered
  flags := hs.flags
  made k hk := by
    obtain ⟨hlt, hcallback⟩ := hs.made k hk
    exact ⟨Nat.lt_of_lt_of_le hlt hg.size, hcallback.trans hg.callback.symm⟩
  shown := hs.shown
  trees := hs.trees
  fired k hk := by
    rw [hg.hasFired]
    exact hs.fired k hk
  calls := by
    simp only [hg.calls, hg.callback]
    exact hs.calls

/-- A tree with new hooks is shown, each of whose images is a new one. -/
theorem traces_render (hs : s.Traces h known) {hooks : Hooks} (hg : s.hooks.Grows hooks) {n : Node}
    (hn : List.Subperm (n.images.map Image.onLoad) (s.hooks.made hooks)) :
    ∃ known', Traces ({ s with hooks }.display n) (h.render n.images.length) known' := by
  have hlength : n.images.length = (h.fresh n.images.length).length := by simp [History.fresh]
  let new := (n.images.map Image.onLoad).zip (h.fresh n.images.length)
  have hfst : new.map Prod.fst = n.images.map Image.onLoad := List.map_fst_zip (by simp [History.fresh])
  have hsnd : new.map Prod.snd = h.fresh n.images.length := List.map_snd_zip (by simp [History.fresh])
  have hmade : ∀ k ∈ new, k.1 ∈ s.hooks.made hooks := fun k hk =>
    hn.subset (hfst ▸ List.mem_map_of_mem (f := Prod.fst) hk)
  have hold := traces_grows hs hg
  have hshown : List.Forall₂ (Marks (known ++ new)) n.images (h.fresh n.images.length) :=
    marks_fresh known hlength
  refine ⟨known ++ new, History.sound_render hs.toSound _, ?_, ?_, ?_, ?_, ?_, ?_, ?_⟩
  · rw [List.map_append, hsnd, hs.rendered]
    rfl
  · rw [List.map_append]
    refine hs.flags.append ?_ ?_
    · have hflags := Hooks.nodup_flag hn
      rwa [← hfst, List.map_map] at hflags
    · -- the new flags come after all those before
      intro flag hold hnew
      obtain ⟨k, hk, rfl⟩ := List.mem_map.1 hold
      obtain ⟨k', hk', hflag⟩ := List.mem_map.1 hnew
      have hlt := (hs.made k hk).1
      have hle := (Hooks.mem_made (hmade k' hk')).1
      omega
  · intro k hk
    rcases List.mem_append.1 hk with hk | hk
    · exact hold.made k hk
    · obtain ⟨-, hlt, hcallback⟩ := Hooks.mem_made (hmade k hk)
      exact ⟨hlt, hcallback.trans hg.callback.symm⟩
  · exact List.rel_append (Marks.mono hs.shown new) hshown
  · exact List.rel_append (hs.trees.imp fun _ _ ht => Marks.mono ht new) (.cons hshown .nil)
  · intro k hk
    rcases List.mem_append.1 hk with hk | hk
    · exact hold.fired k hk
    · -- a fresh image was not reported, and its hook has not fired
      have hnot : hooks.hasFired k.1 = false :=
        (hg.hasFired _).trans (Hooks.hasFired_of_mem_made (hmade k hk))
      have hfresh : k.2 ∈ h.fresh n.images.length := hsnd ▸ List.mem_map_of_mem (f := Prod.snd) hk
      have hnew : k.2 ∉ h.reports := fun hr =>
        History.notMem_of_mem_fresh hs.toSound hfresh (hs.reports _ hr)
      exact ⟨fun hf => absurd (hnot.symm.trans hf) Bool.false_ne_true, fun hr => absurd hr hnew⟩
  · exact hold.calls.trans (by rw [← History.countP_append_fresh hs.toSound]; rfl)

theorem traces_copy (hs : s.Traces h known) {x : Image} {w : Origin} (hx : Marks known x w) :
    Traces (s.copy x) { h with shown := h.shown ++ [w] } known :=
  { hs with
    toSound := ⟨hs.nodup, hs.earlier, hs.reports⟩
    shown := List.rel_append hs.shown (.cons hx .nil) }

theorem traces_display (hs : s.Traces h known) {n : Node} {ws : List Origin}
    (hn : List.Forall₂ (Marks known) n.images ws) :
    Traces (s.display n) { h with shown := h.shown ++ ws, trees := h.trees ++ [ws] } known :=
  { hs with
    toSound := ⟨hs.nodup, hs.earlier, hs.reports⟩
    shown := List.rel_append hs.shown hn
    trees := List.rel_append hs.trees (.cons hn .nil) }

theorem hasFired_iff (hs : s.Traces h known) {x : Image} {w : Origin} (hx : Marks known x w) :
    s.hasFired x = true ↔ w ∈ h.reports :=
  hs.fired _ hx

/-- A report makes the images fire that go back to the same rendered one. -/
theorem hasFired_loaded (hs : s.Traces h known) {x y : Image} {w u : Origin} (hx : Marks known x w)
    (hy : Marks known y u) : (s.loaded x).2.hasFired y = (s.hasFired y || decide (u = w)) := by
  have hflag : y.onLoad.flag = x.onLoad.flag ↔ u = w := (hs.hook_eq_iff hy hx).1
  refine (Hooks.hasFired_fire (hs.made _ hx).1 y.onLoad).trans ?_
  simp only [hflag]
  rfl

theorem traces_loaded (hs : s.Traces h known) {x : Image} {w : Origin} (hx : Marks known x w) :
    Traces (s.loaded x).2 { h with reports := h.reports ++ [w] } known := by
  have hw := hs.rendered_of_marks hx
  have hfired := hasFired_iff hs hx
  refine { hs with toSound := History.sound_report hs.toSound hw, made := ?_, fired := ?_, calls := ?_ }
  · intro k hk
    obtain ⟨hlt, hcallback⟩ := hs.made k hk
    exact ⟨(Hooks.size_fire _ _).symm ▸ hlt, hcallback.trans (Hooks.callback_fire _ _).symm⟩
  · intro k hk
    have hflag : k.1.flag = x.onLoad.flag ↔ k.2 = w := (hs.hook_eq_iff hk hx).1
    refine (Bool.eq_iff_iff.1 (Hooks.hasFired_fire (hs.made _ hx).1 k.1)).trans ?_
    simp only [Bool.or_eq_true, decide_eq_true_iff, hflag, hs.fired k hk, List.mem_append, List.mem_singleton]
  · have hcalls : (s.loaded x).2.hooks.calls = _ := Hooks.calls_fire s.hooks x.onLoad
    have hcallback : (s.loaded x).2.hooks.callback = s.hooks.callback := Hooks.callback_fire _ _
    rw [hcalls, hcallback, (hs.made _ hx).2, hs.calls]
    by_cases hr : w ∈ h.reports
    · -- a further report says nothing new
      have hsame (u : Origin) : u ∈ h.reports ++ [w] ↔ u ∈ h.reports := by grind
      have hbefore : s.hooks.hasFired x.onLoad = true := hfired.2 hr
      simp only [hsame, hbefore, Bool.not_true, Bool.false_and, Bool.false_eq_true, if_false]
    · have hbefore : s.hooks.hasFired x.onLoad = false := Bool.eq_false_iff.2 fun hf => hr (hfired.1 hf)
      simp only [countP_mem_append_singleton hs.nodup hw hr, hbefore, Bool.not_false, Bool.true_and]
      split <;> rfl

/-! ## Runs -/

/-- What two related lists have at a place is related. -/
theorem exists_of_forall₂ {α β : Type} {R : α → β → Prop} {xs : List α} {ys : List β}
    (h : List.Forall₂ R xs ys) {i : Nat} {x : α} (hx : xs[i]? = some x) :
    ∃ y, ys[i]? = some y ∧ R x y := by
  obtain ⟨hi, rfl⟩ := List.getElem?_eq_some_iff.1 hx
  have hi' : i < ys.length := h.length_eq ▸ hi
  exact ⟨ys[i], List.getElem?_eq_getElem hi', h.get hi hi'⟩

theorem eq_none_of_forall₂ {α β : Type} {R : α → β → Prop} {xs : List α} {ys : List β}
    (h : List.Forall₂ R xs ys) {i : Nat} (hx : xs[i]? = none) : ys[i]? = none := by
  rw [List.getElem?_eq_none_iff] at hx ⊢
  rw [← h.length_eq]
  exact hx

/-- A text is rendered to the same tree whatever hooks there are, apart from its own. -/
theorem rendered?_unhooked (hooks : Hooks) (f : Format) (o : Options) (text : String) :
    ((Render.documentFrom hooks f o text).1.toOption.join).map Node.unhooked =
      (rendered? f o text).map Node.unhooked := by
  have htree (r : Except CompileError (Option Node)) :
      (r.map (Option.map Node.unhooked)).toOption.join = r.toOption.join.map Node.unhooked := by
    cases r <;> rfl
  rw [rendered?, ← htree, ← htree, Render.documentFrom_unhooked]

/-- **Every action keeps the surface what the actions tell.** -/
theorem traces_act (hs : s.Traces h known) (a : Action) :
    ∃ known', (s.act f o a).Traces (h.act f o a) known' := by
  cases a with
  | render text =>
    have hg := Render.grows_documentFrom s.hooks f o text
    have htold := rendered?_unhooked s.hooks f o text
    have hsub {n : Node} (hn : (Render.documentFrom s.hooks f o text).1 = .ok (some n)) :=
      Render.subperm_documentFrom hn
    simp only [act, History.act, render]
    generalize Render.documentFrom s.hooks f o text = r at hg htold hsub ⊢
    obtain ⟨_ | _ | n, hooks⟩ := r
    · have hnone : rendered? f o text = none := Option.map_eq_none_iff.1 htold.symm
      rw [hnone]
      exact ⟨known, traces_grows hs hg⟩
    · have hnone : rendered? f o text = none := Option.map_eq_none_iff.1 htold.symm
      rw [hnone]
      exact ⟨known, traces_grows hs hg⟩
    · obtain ⟨m, hm, hunhooked⟩ := Option.map_eq_some_iff.1 htold.symm
      have hlength : m.images.length = n.images.length := by
        simpa [Node.images_unhooked] using congrArg (fun n => n.images.length) hunhooked
      simp only [hm, hlength]
      exact traces_render hs hg (hsub rfl)
  | copyImage i =>
    refine ⟨known, ?_⟩
    simp only [act, History.act]
    cases hx : s.shown[i]? with
    | none => simpa [eq_none_of_forall₂ hs.shown hx] using hs
    | some x =>
      obtain ⟨w, hw, hm⟩ := exists_of_forall₂ hs.shown hx
      rw [hw]
      exact traces_copy hs hm
  | copyTree i =>
    refine ⟨known, ?_⟩
    simp only [act, History.act]
    cases hn : s.trees[i]? with
    | none => simpa [eq_none_of_forall₂ hs.trees hn] using hs
    | some n =>
      obtain ⟨ws, hws, hm⟩ := exists_of_forall₂ hs.trees hn
      rw [hws]
      exact traces_display hs hm
  | loaded i =>
    refine ⟨known, ?_⟩
    simp only [act, History.act]
    cases hx : s.shown[i]? with
    | none => simpa [eq_none_of_forall₂ hs.shown hx] using hs
    | some x =>
      obtain ⟨w, hw, hm⟩ := exists_of_forall₂ hs.shown hx
      rw [hw]
      exact traces_loaded hs hm

theorem traces_run (hs : s.Traces h known) (actions : List Action) :
    ∃ known', (actions.foldl (act f o) s).Traces (actions.foldl (History.act f o) h) known' := by
  induction actions generalizing s h known with
  | nil => exact ⟨known, hs⟩
  | cons a actions ih =>
    obtain ⟨known', hs'⟩ := traces_act hs a
    exact ih hs'

theorem callback_act (s : Surface) (a : Action) : (s.act f o a).hooks.callback = s.hooks.callback := by
  cases a with
  | render text =>
    have hcallback := (Render.grows_documentFrom s.hooks f o text).callback
    simp only [act, render]
    split <;> simp_all [display]
  | copyImage i => simp only [act]; split <;> rfl
  | copyTree i => simp only [act]; split <;> rfl
  | loaded i =>
    simp only [act]
    split
    · exact Hooks.callback_fire _ _
    · rfl

theorem callback_run (s : Surface) (actions : List Action) :
    (actions.foldl (act f o) s).hooks.callback = s.hooks.callback := by
  induction actions generalizing s with
  | nil => rfl
  | cons a actions ih => exact (ih _).trans (callback_act s a)

/-- Images and trees stay on the surface as they are. -/
theorem grows_act (s : Surface) (a : Action) :
    s.shown <+: (s.act f o a).shown ∧ s.trees <+: (s.act f o a).trees := by
  cases a with
  | render text =>
    simp only [act, render]
    split
    · exact ⟨List.prefix_append _ _, List.prefix_append _ _⟩
    · exact ⟨List.prefix_rfl, List.prefix_rfl⟩
  | copyImage i =>
    simp only [act]
    split
    · exact ⟨List.prefix_append _ _, List.prefix_rfl⟩
    · exact ⟨List.prefix_rfl, List.prefix_rfl⟩
  | copyTree i =>
    simp only [act]
    split
    · exact ⟨List.prefix_append _ _, List.prefix_append _ _⟩
    · exact ⟨List.prefix_rfl, List.prefix_rfl⟩
  | loaded i =>
    simp only [act]
    split <;> exact ⟨List.prefix_rfl, List.prefix_rfl⟩

theorem grows_run (s : Surface) (actions : List Action) :
    s.shown <+: (actions.foldl (act f o) s).shown ∧ s.trees <+: (actions.foldl (act f o) s).trees := by
  induction actions generalizing s with
  | nil => exact ⟨List.prefix_rfl, List.prefix_rfl⟩
  | cons a actions ih =>
    obtain ⟨hshown, htrees⟩ := grows_act (f := f) (o := o) s a
    obtain ⟨hshown', htrees'⟩ := ih (s.act f o a)
    exact ⟨hshown.trans hshown', htrees.trans htrees'⟩

/-- **An image notifies once.** After any actions, the report of an image is the first exactly if
neither it nor any other copy of the rendered image that it goes back to was reported before; the copies of
that rendered image are those with its hook, and exactly they count as fired from then on; the callback was
called once for each rendered image that was reported; and whatever is done further, the images and trees
stay, and which nodes are equal does not change. -/
theorem notified_once (f : Format) (o : Options) (callback : Bool) (actions : List Action) :
    let s := after f o callback actions
    let h := History.after f o actions
    (∀ (i : Nat) (x : Image), s.shown[i]? = some x → ∃ w, h.shown[i]? = some w ∧ w ∈ h.rendered ∧
      ((s.loaded x).1 = true ↔ w ∉ h.reports) ∧
      (s.hasFired x = true ↔ w ∈ h.reports) ∧
      ∀ (j : Nat) (y : Image), s.shown[j]? = some y → ∃ u, h.shown[j]? = some u ∧
        (y.onLoad = x.onLoad ↔ u = w) ∧
        (s.loaded x).2.hasFired y = (s.hasFired y || decide (u = w))) ∧
    h.rendered.Nodup ∧
    s.hooks.calls = (if callback then h.rendered.countP (· ∈ h.reports) else 0) ∧
    ∀ more, let s' := after f o callback (actions ++ more)
      s.shown <+: s'.shown ∧ s.trees <+: s'.trees ∧
        ∀ m n : Node, m.equal s'.hooks n = m.equal s.hooks n := by
  intro s h
  obtain ⟨known, hs⟩ : ∃ known, s.Traces h known := traces_run (traces_empty callback) actions
  refine ⟨fun i x hx => ?_, hs.nodup, ?_, fun more => ?_⟩
  · obtain ⟨w, hw, hm⟩ := exists_of_forall₂ hs.shown hx
    have hfired := hasFired_iff hs hm
    refine ⟨w, hw, hs.rendered_of_marks hm, ?_, hfired, fun j y hy => ?_⟩
    · have hfirst : (s.loaded x).1 = !s.hasFired x := Hooks.fire_fst _ _
      rw [hfirst, ← hfired, Bool.not_eq_true']
      exact (Bool.not_eq_true _).to_iff.symm
    · obtain ⟨u, hu, hm'⟩ := exists_of_forall₂ hs.shown hy
      exact ⟨u, hu, (hs.hook_eq_iff hm' hm).2, hasFired_loaded hs hm hm'⟩
  · have hcallback : s.hooks.callback = callback := callback_run _ actions
    rw [← hcallback]
    exact hs.calls
  · intro s'
    have hmore : s' = more.foldl (act f o) s := List.foldl_append
    obtain ⟨hshown, htrees⟩ := grows_run (f := f) (o := o) s more
    rw [hmore]
    exact ⟨hshown, htrees, Node.equal_congr _ _⟩

/-- Two equal images in a text that is rendered twice, and a copy of the first tree: once the first
image was reported, its copy was, but neither the equal image beside it nor the one in the other
rendering, and all three trees are equal. -/
theorem notified_once_copies :
    let actions : List Action :=
      [.render "![](a)![](a)", .render "![](a)![](a)", .copyTree 0, .loaded 0]
    let s := after .markdown .default true actions
    let image (flag : Nat) : Image := ⟨"a", none, "", ⟨true, flag⟩⟩
    s.shown = [image 0, image 1, image 2, image 3, image 0, image 1] ∧
      (s.loaded (image 0)).1 = false ∧ s.hasFired (image 1) = false ∧
      (s.loaded (image 2)).1 = true ∧ s.hooks.calls = 1 ∧
      s.trees.length = 3 ∧ ∀ m ∈ s.trees, ∀ n ∈ s.trees, m.equal s.hooks n = true := by
  intro actions s image
  have hshown : s.shown = [image 0, image 1, image 2, image 3, image 0, image 1] := by
    decide +kernel
  have htrees : s.trees.length = 3 ∧ ∀ m ∈ s.trees, ∀ n ∈ s.trees, m.equal s.hooks n = true := by
    decide +kernel
  have hhistory : History.after .markdown .default actions =
      { renderings := 2
        rendered := [⟨0, 0⟩, ⟨0, 1⟩, ⟨1, 0⟩, ⟨1, 1⟩]
        shown := [⟨0, 0⟩, ⟨0, 1⟩, ⟨1, 0⟩, ⟨1, 1⟩, ⟨0, 0⟩, ⟨0, 1⟩]
        trees := [[⟨0, 0⟩, ⟨0, 1⟩], [⟨1, 0⟩, ⟨1, 1⟩], [⟨0, 0⟩, ⟨0, 1⟩]]
        reports := [⟨0, 0⟩] } := by
    decide +kernel
  obtain ⟨himages, -, hcalls, -⟩ := notified_once .markdown .default true actions
  simp only [hhistory] at himages hcalls
  obtain ⟨w, hw, -, hcopy, -, -⟩ := himages 4 (image 0) (by rw [hshown]; rfl)
  obtain ⟨u, hu, -, -, hbeside, -⟩ := himages 1 (image 1) (by rw [hshown]; rfl)
  obtain ⟨z, hz, -, hother, -, -⟩ := himages 2 (image 2) (by rw [hshown]; rfl)
  cases hw
  cases hu
  cases hz
  refine ⟨hshown, ?_, ?_, hother.2 (by decide), hcalls, htrees⟩
  · exact Bool.eq_false_iff.2 fun ht => hcopy.1 ht (by decide)
  · exact Bool.eq_false_iff.2 fun ht => absurd (hbeside.1 ht) (by decide)

end Marktree.Surface
