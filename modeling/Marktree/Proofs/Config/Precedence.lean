import Marktree.CommandLine.Run
import Marktree.Files.Tree
import Marktree.Proofs.Config.Assignment

/-!
# What wins over what

A switch is as the last assignment to it says; where there is none, as the file says, and where the
file says nothing, as it is by default (`Config.Effective`). The file is the one that was asked for, or
the nearest in the current directory and those above it (`FileTree.Nearest`). A text that is no
assignment ends it all, whatever the files are (`Config.configure_precedence`).
-/
namespace Marktree

open Edit (Sets Assigns Rejects)

/-! ## The nearest file -/

namespace FileTree

/-- A directory has a file of a name. -/
def Holds (name : String) (t : FileTree) : Prop :=
  ∃ entries bytes, t = directory entries ∧ entries.lookup name = some (file bytes)

/-- Of a directory and those above it, the `n`th has a file of a name, and none before it has. -/
structure Nearest (name : String) (place : Place) (n : Nat) : Prop where
  holds : ∃ t, place[n]? = some t ∧ t.Holds name
  first : ∀ m < n, ∀ t, place[m]? = some t → ¬ t.Holds name

/-- The path to a name so many directories up. -/
def above (name : String) : Nat → String
  | 0 => name
  | n + 1 => "../" ++ above name n

variable {name : String} {t : FileTree} {place : Place}

theorem nearest_zero_iff : Nearest name (t :: place) 0 ↔ t.Holds name := by
  constructor
  · rintro ⟨⟨u, hu, hholds⟩, -⟩
    cases hu
    exact hholds
  · exact fun h => ⟨⟨t, rfl, h⟩, fun m hm => by cases hm⟩

theorem nearest_succ_iff {n : Nat} :
    Nearest name (t :: place) (n + 1) ↔ ¬ t.Holds name ∧ Nearest name place n := by
  constructor
  · rintro ⟨hholds, hfirst⟩
    exact ⟨hfirst 0 (Nat.succ_pos n) t rfl, hholds, fun m hm => hfirst (m + 1) (Nat.succ_lt_succ hm)⟩
  · rintro ⟨ht, hholds, hfirst⟩
    refine ⟨hholds, fun m hm u hu => ?_⟩
    cases m with
    | zero =>
      cases hu
      exact ht
    | succ m => exact hfirst m (Nat.lt_of_succ_lt_succ hm) u hu

theorem nearest?_cons_of_holds (h : t.Holds name) : nearest? name (t :: place) = some name := by
  obtain ⟨entries, bytes, rfl, hname⟩ := h
  simp [nearest?, hname]

theorem nearest?_cons_of_not_holds (h : ¬ t.Holds name) :
    nearest? name (t :: place) = (nearest? name place).map ("../" ++ ·) := by
  cases t with
  | file bytes => rfl
  | directory entries =>
    rcases hname : entries.lookup name with _ | ⟨bytes | sub⟩
    · simp [nearest?, hname]
    · exact absurd ⟨entries, bytes, rfl, hname⟩ h
    · simp [nearest?, hname]

/-- **What is found is the nearest file of the name.** -/
theorem nearest?_eq_some_iff {p : String} :
    nearest? name place = some p ↔ ∃ n, Nearest name place n ∧ p = above name n := by
  induction place generalizing p with
  | nil =>
    constructor
    · intro h
      cases h
    · rintro ⟨n, hn, -⟩
      obtain ⟨t, ht, -⟩ := hn.holds
      cases ht
  | cons t place ih =>
    by_cases ht : t.Holds name
    · rw [nearest?_cons_of_holds ht, Option.some.injEq]
      constructor
      · rintro rfl
        exact ⟨0, nearest_zero_iff.2 ht, rfl⟩
      · rintro ⟨_ | n, hn, rfl⟩
        · rfl
        · exact absurd ht (nearest_succ_iff.1 hn).1
    · rw [nearest?_cons_of_not_holds ht, Option.map_eq_some_iff]
      constructor
      · rintro ⟨q, hq, rfl⟩
        obtain ⟨n, hn, rfl⟩ := ih.1 hq
        exact ⟨n + 1, nearest_succ_iff.2 ⟨ht, hn⟩, rfl⟩
      · rintro ⟨_ | n, hn, rfl⟩
        · exact absurd (nearest_zero_iff.1 hn) ht
        · exact ⟨_, ih.2 ⟨n, (nearest_succ_iff.1 hn).2, rfl⟩, rfl⟩

end FileTree

/-! ## Layers -/

theorem Overrides.get_extend (base top : Overrides) (k : Switch) :
    (base.extend top).get k = (top.get k <|> base.get k) :=
  Switches.get_zipWith _ base top k

theorem Options.get_merged (o : Overrides) (k : Switch) :
    (merged o).get k = (o.get k).getD (default.get k) :=
  Switches.get_zipWith _ default o k

namespace Config

theorem get_options_layer (c : Config) (format : Option Format) (o : Overrides) (k : Switch) :
    (c.layer format o).options.get k = (o.get k <|> c.overrides.get k).getD (Options.default.get k) := by
  rw [options, layer, Options.get_merged, Overrides.get_extend]

/-- The value of a switch under assignments and the overrides of a file. -/
inductive Effective (ss : List String) (file : Overrides) (k : Switch) : Bool → Prop
  | assigned {pre : List String} {s : String} {post : List String} {b : Bool} (hss : ss = pre ++ s :: post)
    (hs : Sets s k b) (hpost : ∀ t ∈ post, ∀ b, ¬ Sets t k b) : Effective ss file k b
  | file {b : Bool} (hss : ∀ s ∈ ss, ∀ b, ¬ Sets s k b) (hfile : file.get k = some b) :
    Effective ss file k b
  | default (hss : ∀ s ∈ ss, ∀ b, ¬ Sets s k b) (hfile : file.get k = none) :
    Effective ss file k (Options.default.get k)

/-- What loads: the file that was asked for, or else the nearest, or else nothing is set. -/
inductive Loads (fs : Files) : Option String → Config → Prop
  | asked {path : String} {c : Config} (h : read fs path = .ok c) : Loads fs (some path) c
  | nearest {path : String} {c : Config} (hpath : fs.nearestConfig = some path)
    (h : read fs path = .ok c) : Loads fs none c
  | nothing (h : fs.nearestConfig = none) : Loads fs none {}

theorem base_of_loads {fs : Files} {path : Option String} {c : Config} (h : Loads fs path c) :
    base fs path = .ok c := by
  cases h with
  | nearest hpath h => simp only [base, hpath, h]
  | nothing h => simp only [base, h]
  | asked h =>
    rename_i path
    have hhas : fs.has path := by
      cases hfind : fs.find path with
      | ok found => simp [Files.has, hfind, Except.isOk, Except.toBool]
      | error e =>
        have htext : fs.text path = .error e := by rw [Files.text, hfind]; rfl
        rw [read, htext] at h
        cases h
    rw [base, if_pos hhas, h]

/-- The last text in a list of those that some property holds of. -/
theorem exists_last {P : String → Prop} {ss : List String} (h : ∃ s ∈ ss, P s) :
    ∃ pre s post, ss = pre ++ s :: post ∧ P s ∧ ∀ t ∈ post, ¬ P t := by
  induction ss with
  | nil => simp at h
  | cons s ss ih =>
    by_cases hss : ∃ t ∈ ss, P t
    · obtain ⟨pre, t, post, rfl, ht, hpost⟩ := ih hss
      exact ⟨s :: pre, t, post, rfl, ht, hpost⟩
    · have hs : P s := by simpa [hss] using h
      exact ⟨[], s, ss, rfl, hs, fun t ht hP => hss ⟨t, ht, hP⟩⟩

theorem exists_effective (ss : List String) (file : Overrides) (k : Switch) :
    ∃ b, Effective ss file k b := by
  by_cases h : ∃ s ∈ ss, ∃ b, Sets s k b
  · obtain ⟨pre, s, post, hss, ⟨b, hs⟩, hpost⟩ := exists_last h
    exact ⟨b, .assigned hss hs fun t ht b' hb' => hpost t ht ⟨b', hb'⟩⟩
  · have hnone : ∀ s ∈ ss, ∀ b, ¬ Sets s k b := fun s hs b hb => h ⟨s, hs, b, hb⟩
    cases hfile : file.get k with
    | some b => exact ⟨b, .file hnone hfile⟩
    | none => exact ⟨_, .default hnone hfile⟩

theorem get_of_effective {ss : List String} {file : Config} {format : Option Format} {o : Overrides}
    {k : Switch} {b : Bool} (hss : ∀ s ∈ ss, Assigns s) (ho : Overrides.empty.assignAll ss = .ok o)
    (h : Effective ss file.overrides k b) : (file.layer format o).options.get k = b := by
  have hempty : Overrides.empty.get k = none := Switches.get_ofFn _ k
  rw [get_options_layer]
  cases h with
  | assigned hsplit hs hpost =>
    subst hsplit
    rw [Overrides.get_of_assignAll_append hss hs hpost ho]
    rfl
  | file hnone hfile =>
    rw [Overrides.get_of_assignAll hss hnone ho, hempty, hfile]
    rfl
  | default hnone hfile =>
    rw [Overrides.get_of_assignAll hss hnone ho, hempty, hfile]
    rfl

/-- **Assignments win over the file, and the file over the defaults.** The first text that is no
assignment is an error of its own, whatever follows it and whatever the files are. -/
theorem configure_precedence (ss : List String) (format : Option Format) :
    (∀ s, (∃ e, Rejects s e) ↔ ¬ Assigns s) ∧
    (∀ pre s post e, ss = pre ++ s :: post → (∀ t ∈ pre, Assigns t) → Rejects s e →
      ∀ fs path, configure fs path format ss = .error e) ∧
    ((∀ s ∈ ss, Assigns s) → ∀ fs path file, Loads fs path file →
      ∃ c, configure fs path format ss = .ok c ∧ c.format = format.getD file.format ∧
        ∀ k b, c.options.get k = b ↔ Effective ss file.overrides k b) ∧
    (∀ root directory input place path, FileTree.follow [root] directory = .ok place →
      ((FileTree.files root directory CommandLine.configName input).nearestConfig = some path ↔
        ∃ n, FileTree.Nearest CommandLine.configName place n ∧
          path = FileTree.above CommandLine.configName n)) ∧
    (∀ key value o e o', Edit.set key value o = .error e o' → o' = o) ∧
    ∀ s o e o', Edit.assign s o = .error e o' → o' = o := by
  refine ⟨fun s => Edit.exists_rejects_iff, fun pre s post e hss hpre hs fs path => ?_,
    fun hss fs path file hfile => ?_, fun root directory input place path hplace => ?_,
    fun key value o e o' => Edit.eq_of_set_error, fun s o e o' => Edit.eq_of_assign_error⟩
  · rw [configure, hss, Overrides.assignAll_of_rejects hpre hs]
    rfl
  · obtain ⟨o, ho⟩ := Overrides.exists_assignAll hss .empty
    refine ⟨file.layer format o, ?_, rfl, fun k b => ⟨?_, get_of_effective hss ho⟩⟩
    · rw [configure, ho]
      change load fs path format o = _
      rw [load, base_of_loads hfile]
      rfl
    · rintro rfl
      obtain ⟨b, hb⟩ := exists_effective ss file.overrides k
      rw [get_of_effective hss ho hb]
      exact hb
  · rw [← FileTree.nearest?_eq_some_iff, FileTree.files, hplace]
    rfl

/-- Two spellings of one switch, a file that sets two, and a bad value before a bad key. -/
theorem configure_precedence_layers :
    let toml := "format=\"plain\"\noptions=[false,true]"
    let file := Found.file (Text.Utf8.encode toml.toList)
    let files : Files := { find := fun _ => .ok file, nearestConfig := some "marknode.toml", input := [] }
    let ss := ["smartLists=true", "breaks = false", "smart_lists=false"]
    (∃ c, configure files none none ss = .ok c ∧ c.format = .plain ∧
      c.options.get .smartLists = false ∧ c.options.get .breaks = false ∧ c.options.get .gfm = false) ∧
      ∀ fs path, configure fs path none ["gfm=true", "gmf=yes", "gfm"] =
        .error (.invalidValue "gmf" "yes") := by
  intro toml file files ss
  have hset (key value : String) (k : Switch) (b : Bool) (hequals : '=' ∉ key.toList)
      (hkey : Text.trim key ∈ k.spellings) (hvalue : Text.trim value = toString b) :
      Sets (key ++ "=" ++ value) k b :=
    ⟨key, value, rfl, hequals, hkey, hvalue⟩
  constructor
  · have hdecode : Text.Utf8.decode? (Text.Utf8.encode toml.toList) = some toml.toList := by
      decide +kernel
    have hparse : parse? toml =
        some ⟨.plain, ⟨some false, some true, none, none, none, none, none⟩, none⟩ := by
      decide +kernel
    have htext : files.text "marknode.toml" = .ok toml := by
      simp [Files.text, files, file, bind, Except.bind, Files.decode, hdecode]
    have hloads : Loads files none
        ⟨.plain, ⟨some false, some true, none, none, none, none, none⟩, some "marknode.toml"⟩ := by
      refine .nearest rfl ?_
      rw [read, htext]
      simp only [hparse]
    have hlists := hset "smartLists" "true" .smartLists true (by decide) (by decide) (by decide)
    have hbreaks := hset "breaks " " false" .breaks false (by decide) (by decide) (by decide)
    have hlists' := hset "smart_lists" "false" .smartLists false (by decide) (by decide) (by decide)
    have hassigns : ∀ s ∈ ss, Assigns s :=
      List.forall_mem_cons.2 ⟨⟨_, _, hlists⟩, List.forall_mem_cons.2 ⟨⟨_, _, hbreaks⟩,
        List.forall_mem_singleton.2 ⟨_, _, hlists'⟩⟩⟩
    obtain ⟨c, hc, hformat, hoptions⟩ := (configure_precedence ss none).2.2.1 hassigns _ _ _ hloads
    refine ⟨c, hc, hformat, ?_, ?_, ?_⟩
    · have hsplit : ss = ["smartLists=true", "breaks = false"] ++ _ :: [] := rfl
      exact (hoptions _ _).2 (.assigned hsplit hlists' (by simp))
    · have hsplit : ss = ["smartLists=true"] ++ _ :: [_] := rfl
      refine (hoptions _ _).2 (.assigned hsplit hbreaks ?_)
      exact List.forall_mem_singleton.2 fun b h => by cases (hlists'.unique h).1
    · refine (hoptions _ _).2 (.file (List.forall_mem_cons.2 ⟨fun b h => ?_, List.forall_mem_cons.2
        ⟨fun b h => ?_, List.forall_mem_singleton.2 fun b h => ?_⟩⟩) rfl)
      · cases (hlists.unique h).1
      · cases (hbreaks.unique h).1
      · cases (hlists'.unique h).1
  · have hgfm := hset "gfm" "true" .gfm true (by decide) (by decide) (by decide)
    have hequals : '=' ∉ "gmf".toList := by decide
    have hgmf : Rejects ("gmf" ++ "=" ++ "yes") (.invalidValue "gmf" "yes") := .value hequals (by decide)
    exact (configure_precedence _ none).2.1 ["gfm=true"] _ ["gfm"] _ rfl
      (List.forall_mem_singleton.2 ⟨_, _, hgfm⟩) hgmf

end Config

end Marktree
