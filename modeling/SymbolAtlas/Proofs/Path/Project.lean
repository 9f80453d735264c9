import Mathlib
import SymbolAtlas.Path.Project
import SymbolAtlas.Proofs.Path

/-!
# Keys of files

The key of a file is what follows the root in the resolution of its path, or all of it where the
root does not come first. So root and key together give the resolution back
(`Project.components_locatedBy`), and keys are equal where resolutions are (`Project.keyBy_eq_iff`).
This asks of a reader of URIs no more than that its paths are absolute (`Project.ReadsAbsolute`),
as those of file URIs are (`FileUri.readsAbsolute`); `Project.key_identifies` puts both together.
-/

namespace SymbolAtlas

namespace Project

variable {root : Path} {project : Project} {uri s : String} {base more names : List (List UInt8)}

/-- The names lead from `/` to the root of the project. -/
structure RootedAt (project : Project) (base : List (List UInt8)) : Prop where
  root_eq : project.root = .root :: base.map .name
  isName : ∀ n ∈ base, Path.IsName n

theorem exists_rootedAt (h : root.isAbsolute = true) : ∃ base, (ofPath root).RootedAt base := by
  obtain ⟨base, hbase⟩ := root.exists_resolves
  exact ⟨base, hbase.normalize_eq h, hbase.isName⟩

theorem RootedAt.isPrefixOf_iff (h : project.RootedAt base) :
    project.root.isPrefixOf (.root :: names.map .name) = true ↔ base <+: names := by
  rw [List.isPrefixOf_iff_prefix, h.root_eq, List.cons_prefix_cons, and_iff_right rfl]
  exact List.prefix_map_iff_of_injective fun _ _ => Path.Component.name.inj

theorem RootedAt.contains_iff (h : project.RootedAt base) {path : Path}
    (hpath : path.normalize = .root :: names.map .name) :
    project.contains path = true ↔ base <+: names := by
  rw [contains, hpath, h.isPrefixOf_iff]

theorem RootedAt.relative_inside (h : project.RootedAt base) {path : Path}
    (hpath : path.normalize = .root :: (base ++ more).map .name) :
    project.relative path = .ofComponents (more.map .name) := by
  have hdrop : (.root :: (base ++ more).map Path.Component.name).drop project.root.length =
      more.map .name := by
    rw [h.root_eq, List.map_append, List.length_cons, List.drop_succ_cons, List.drop_left]
  rw [relative, hpath, if_pos (h.isPrefixOf_iff.2 (List.prefix_append base more)), hdrop]

theorem RootedAt.relative_outside (h : project.RootedAt base) {path : Path}
    (hpath : path.normalize = .root :: names.map .name) (hout : ¬base <+: names) :
    project.relative path = .ofComponents (.root :: names.map .name) := by
  rw [relative, hpath, if_neg (mt h.isPrefixOf_iff.1 hout)]

/-! ## Keys under any reader -/

section Reader

variable {ε : Type} (read : String → Except ε Path)

/-- Every path that is read is absolute. -/
def ReadsAbsolute : Prop := ∀ ⦃uri path⦄, read uri = .ok path → path.isAbsolute = true

/-- Whether the path that is read is in the project. -/
def containsBy (project : Project) (uri : String) : Bool :=
  match read uri with
  | .ok path => project.contains path
  | .error _ => false

/-- The name of the file with the path that is read. -/
def keyBy (project : Project) (uri : String) : String :=
  match read uri with
  | .ok path => (project.relative path).text
  | .error _ => uri

/-- The path that the key of a file stands for: the root joined with the key if the file is in the
project, and the key itself elsewhere. -/
def locatedBy (project : Project) (uri : String) : Path :=
  if project.containsBy read uri then project.rootPath.join (.ofText (project.keyBy read uri))
  else .ofText (project.keyBy read uri)

variable {read}

theorem containsBy_of_path {path : Path} (hu : read uri = .ok path) :
    project.containsBy read uri = project.contains path := by
  rw [containsBy, hu]

theorem keyBy_of_path {path : Path} (hu : read uri = .ok path) :
    project.keyBy read uri = (project.relative path).text := by
  rw [keyBy, hu]

variable (habs : ReadsAbsolute read) (h : project.RootedAt base)
  (hu : read uri = .ok (.ofText s))
include habs h hu

/-- Below the root the key is what follows the root. -/
theorem ofText_keyBy_inside (hs : (Path.ofText s).Resolves (base ++ more)) :
    project.containsBy read uri = true ∧
      Path.ofText (project.keyBy read uri) = .ofComponents (more.map .name) := by
  have hpath := hs.normalize_eq (habs hu)
  refine ⟨?_, ?_⟩
  · rw [containsBy_of_path hu, h.contains_iff hpath]
    exact List.prefix_append base more
  · have htexts : ∀ n ∈ more, ∃ t, n = Text.utf8 t := fun n hn =>
      Path.exists_text_of_mem_splitOn (hs.subset (List.mem_append_right base hn))
    obtain ⟨k, hk⟩ := Path.exists_ofText_ofComponents htexts
    rw [keyBy_of_path hu, h.relative_inside hpath, hk, Path.text_ofText]

/-- Elsewhere it is the whole path. -/
theorem ofText_keyBy_outside (hs : (Path.ofText s).Resolves names) (hout : ¬base <+: names) :
    project.containsBy read uri = false ∧
      Path.ofText (project.keyBy read uri) = .ofComponents (.root :: names.map .name) := by
  have hpath := hs.normalize_eq (habs hu)
  refine ⟨?_, ?_⟩
  · rwa [containsBy_of_path hu, Bool.eq_false_iff, Ne, h.contains_iff hpath]
  · obtain ⟨k, hk⟩ := Path.exists_ofText_ofComponents fun n hn =>
      Path.exists_text_of_mem_splitOn (hs.subset hn)
    have hslash : Path.slash :: Path.ofText k = Path.ofText ("/" ++ k) :=
      (Text.utf8_append "/" k).symm
    rw [keyBy_of_path hu, h.relative_outside hpath hout, Path.ofComponents_root, hk, hslash,
      Path.text_ofText]

theorem startsWith_keyBy_iff :
    (project.keyBy read uri).startsWith "/" = true ↔ project.containsBy read uri = false := by
  obtain ⟨names, hs⟩ := (Path.ofText s).exists_resolves
  rw [← Path.isAbsolute_ofText]
  by_cases hin : base <+: names
  · obtain ⟨more, rfl⟩ := hin
    obtain ⟨hcontains, hkey⟩ := ofText_keyBy_inside habs h hu hs
    rw [hcontains, hkey, Path.isAbsolute_ofComponents_names fun n hn =>
      hs.isName n (List.mem_append_right base hn)]
    decide
  · obtain ⟨hcontains, hkey⟩ := ofText_keyBy_outside habs h hu hs hin
    rw [hcontains, hkey, Path.isAbsolute_ofComponents_root]
    exact iff_of_true rfl rfl

/-- The key stands for the resolution of the path. -/
theorem components_locatedBy (hs : (Path.ofText s).Resolves names) :
    (project.locatedBy read uri).components = .root :: names.map .name := by
  by_cases hin : base <+: names
  · obtain ⟨more, rfl⟩ := hin
    have hmore : ∀ n ∈ more, Path.IsName n := fun n hn =>
      hs.isName n (List.mem_append_right base hn)
    obtain ⟨hcontains, hkey⟩ := ofText_keyBy_inside habs h hu hs
    rw [locatedBy, if_pos hcontains, hkey, rootPath, h.root_eq,
      Path.components_join (Path.isAbsolute_ofComponents_root base)
        (Path.isAbsolute_ofComponents_names hmore),
      Path.pieces_ofComponents_root h.isName, Path.pieces_ofComponents hmore, List.map_append]
  · obtain ⟨hcontains, hkey⟩ := ofText_keyBy_outside habs h hu hs hin
    rw [locatedBy, hcontains, hkey, if_neg Bool.false_ne_true,
      Path.components_of_isAbsolute (Path.isAbsolute_ofComponents_root names),
      Path.pieces_ofComponents_root hs.isName]

variable {uri' s' : String} (hv : read uri' = .ok (.ofText s'))
include hv

/-- Where keys are equal, so are the paths that they stand for. -/
theorem locatedBy_congr (hkey : project.keyBy read uri = project.keyBy read uri') :
    project.locatedBy read uri = project.locatedBy read uri' := by
  have hinside : project.containsBy read uri = project.containsBy read uri' := by
    rw [← Bool.not_inj_iff, Bool.eq_iff_iff, Bool.not_eq_true', Bool.not_eq_true',
      ← startsWith_keyBy_iff habs h hu, ← startsWith_keyBy_iff habs h hv, hkey]
  rw [locatedBy, locatedBy, hinside, hkey]

/-- Two files have one key if and only if their paths have one resolution. -/
theorem keyBy_eq_iff {names' : List (List UInt8)} (hs : (Path.ofText s).Resolves names)
    (ht : (Path.ofText s').Resolves names') :
    project.keyBy read uri = project.keyBy read uri' ↔ names = names' := by
  refine ⟨fun hkey => ?_, ?_⟩
  · have hcomponents := congrArg Path.components (locatedBy_congr habs h hu hv hkey)
    rw [components_locatedBy habs h hu hs, components_locatedBy habs h hv ht, List.cons_inj_right,
      Path.map_name_inj] at hcomponents
    exact hcomponents
  · rintro rfl
    rw [keyBy_of_path hu, keyBy_of_path hv, relative, relative, hs.normalize_eq (habs hu),
      ht.normalize_eq (habs hv)]

end Reader

end Project

/-! ## Paths of file URIs -/

namespace FileUri

theorem isAbsolute_append {p q : Path} (h : p.isAbsolute = true) :
    Path.isAbsolute (p ++ q) = true := by
  cases p with
  | nil => cases h
  | cons b p => exact h

theorem isAbsolute_pathBytes (segments : List (List Char)) :
    (pathBytes segments).isAbsolute = true := by
  have hbytes : ∀ names : List (List Char), names ≠ [] →
      Path.isAbsolute (names.flatMap fun s =>
        Path.slash :: Percent.decode (Text.utf8 (String.ofList s))) = true := by
    intro names hne
    cases names with
    | nil => exact absurd rfl hne
    | cons s names => rfl
  have hnames : (if segments.isEmpty then [[]] else segments) ≠ [] := by
    cases segments <;> simp
  unfold pathBytes
  dsimp only
  split
  · split
    · exact isAbsolute_append (hbytes _ hnames)
    · exact hbytes _ hnames
  · exact hbytes _ hnames

theorem isAbsolute_of_pathOnHost {cs : List Char} {p : Path} (h : pathOnHost cs = .ok p) :
    p.isAbsolute = true := by
  suffices hbytes : ∃ segments, p = pathBytes segments by
    obtain ⟨segments, rfl⟩ := hbytes
    exact isAbsolute_pathBytes segments
  unfold pathOnHost at h
  dsimp only at h
  split at h
  · exact ⟨_, (Except.ok.inj h).symm⟩
  · split at h
    · exact ⟨_, (Except.ok.inj h).symm⟩
    · split at h
      · cases h
      · split at h
        · exact ⟨_, (Except.ok.inj h).symm⟩
        · split at h
          · exact ⟨_, (Except.ok.inj h).symm⟩
          · cases h

theorem isAbsolute_of_path {uri : String} {p : Path} (h : path uri = .ok p) :
    p.isAbsolute = true := by
  unfold path at h
  split at h
  · cases h
  · split at h
    · unfold localPath at h
      split at h
      · exact isAbsolute_of_pathOnHost h
      · cases h
        exact isAbsolute_pathBytes _
    · cases h

theorem readsAbsolute : Project.ReadsAbsolute path := fun _ _ => isAbsolute_of_path

end FileUri

/-! ## Keys of file URIs -/

namespace Project

/-- The path that the key of a file stands for: the root joined with the key if the file is in the
project, and the key itself elsewhere. -/
def located (project : Project) (uri : String) : Path :=
  if project.containsUri uri then project.rootPath.join (.ofText (project.key uri))
  else .ofText (project.key uri)

theorem containsUri_eq : containsUri = containsBy FileUri.path := by
  funext project uri
  unfold containsUri containsBy
  cases FileUri.path uri <;> rfl

theorem key_eq : key = keyBy FileUri.path := by
  funext project uri
  unfold key keyBy
  cases FileUri.path uri <;> rfl

theorem located_eq : located = locatedBy FileUri.path := by
  funext project uri
  rw [located, locatedBy, containsUri_eq, key_eq]

/-- In a project with an absolute root, the key of a file starts with a slash if and only if the file
is outside. The key stands for the resolution of the path, so that two files have one key if and only
if their paths have one resolution. -/
theorem key_identifies {root : Path} (hroot : root.isAbsolute = true) {u v s t : String}
    (hu : FileUri.path u = .ok (.ofText s)) (hv : FileUri.path v = .ok (.ofText t)) :
    let project := ofPath root
    ((project.key u).startsWith "/" = true ↔ project.containsUri u = false) ∧
      (∃ names, (Path.ofText s).Resolves names ∧
        (project.located u).components = .root :: names.map .name) ∧
      ∀ names names', (Path.ofText s).Resolves names → (Path.ofText t).Resolves names' →
        (project.key u = project.key v ↔ names = names') := by
  intro project
  obtain ⟨base, h⟩ := exists_rootedAt hroot
  have habs : ReadsAbsolute FileUri.path := FileUri.readsAbsolute
  rw [containsUri_eq, key_eq, located_eq]
  refine ⟨startsWith_keyBy_iff habs h hu, ?_, fun names names' => keyBy_eq_iff habs h hu hv⟩
  obtain ⟨names, hs⟩ := (Path.ofText s).exists_resolves
  exact ⟨names, hs, components_locatedBy habs h hu hs⟩

/-- A file in the project, named in two ways that differ as long as nothing is resolved, and one in a
directory whose name goes on where that of the root ends. -/
theorem key_resolved :
    let project := ofPath (.ofText "/proj/./root")
    let u := "file:///proj/root/lib%2F..%2Fa.c"
    let v := "file:///proj/root/a.c"
    let w := "file:///proj/rooted/a.c"
    Path.isAbsolute (.ofText "/proj/./root") = true ∧
      FileUri.path u = .ok (.ofText "/proj/root/lib/../a.c") ∧
      FileUri.path v = .ok (.ofText "/proj/root/a.c") ∧
      FileUri.path w = .ok (.ofText "/proj/rooted/a.c") ∧
      project.key u = project.key v ∧ project.key u ≠ project.key w ∧
      (project.key w).startsWith "/" = true := by
  intro project u v w
  have hroot : Path.isAbsolute (.ofText "/proj/./root") = true := by decide +kernel
  have hu : FileUri.path u = .ok (.ofText "/proj/root/lib/../a.c") := by decide +kernel
  have hv : FileUri.path v = .ok (.ofText "/proj/root/a.c") := by decide +kernel
  have hw : FileUri.path w = .ok (.ofText "/proj/rooted/a.c") := by decide +kernel
  have hs : (Path.ofText "/proj/root/lib/../a.c").Resolves (["proj", "root", "a.c"].map Text.utf8) :=
    (Path.resolves_iff (by decide +kernel)).2 (by decide +kernel)
  have ht : (Path.ofText "/proj/root/a.c").Resolves (["proj", "root", "a.c"].map Text.utf8) :=
    (Path.resolves_iff (by decide +kernel)).2 (by decide +kernel)
  have hr : (Path.ofText "/proj/rooted/a.c").Resolves (["proj", "rooted", "a.c"].map Text.utf8) :=
    (Path.resolves_iff (by decide +kernel)).2 (by decide +kernel)
  obtain ⟨-, -, hkeys⟩ := key_identifies hroot hu hv
  obtain ⟨-, -, hkeys'⟩ := key_identifies hroot hu hw
  obtain ⟨hslash, -⟩ := key_identifies hroot hw hu
  exact ⟨hroot, hu, hv, hw, (hkeys _ _ hs ht).2 rfl,
    fun h => absurd ((hkeys' _ _ hs hr).1 h) (by decide +kernel), hslash.2 (by decide +kernel)⟩

end Project

end SymbolAtlas
