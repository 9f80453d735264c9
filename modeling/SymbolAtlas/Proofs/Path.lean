import Mathlib
import SymbolAtlas.Path
import SymbolAtlas.Proofs.Text.Utf8

/-!
# Lexical resolution of paths

What it is to resolve a path by its text alone is said by rewriting (`Path.Shortens`): a segment
that is empty or `.` goes, `..` goes with the name before it, and `..` goes alone where nothing is
before it. Shortened from the left, every path has a resolution; each step keeps what is reached from
the root, so an absolute path has one, and `Path.normalize` finds it (`Path.resolves_iff`). What is
written from a resolution is read as it (`Path.pieces_ofComponents`), also below a directory
(`Path.components_join`).
-/

namespace SymbolAtlas.Path

variable {p q : Path} {names : List (List UInt8)}

/-! ## Pieces -/

/-- The components between slashes. -/
def pieces (p : Path) : List Component := (p.splitOn slash).filterMap componentOf

theorem pieces_append_slash (p q : Path) : pieces (p ++ slash :: q) = p.pieces ++ q.pieces := by
  rw [pieces, List.splitOn_append_cons_self, List.filterMap_append, pieces, pieces]

theorem components_of_isAbsolute (h : p.isAbsolute = true) : p.components = .root :: p.pieces := by
  rw [components, if_pos h]
  rfl

/-- Bytes that stand for themselves between slashes. -/
structure IsName (bytes : List UInt8) : Prop where
  ne_nil : bytes ≠ []
  ne_here : bytes ≠ [dot]
  ne_up : bytes ≠ [dot, dot]
  noSlash : slash ∉ bytes

theorem IsName.componentOf_eq {bytes : List UInt8} (h : IsName bytes) :
    componentOf bytes = some (.name bytes) := by
  rw [componentOf, if_neg (not_or.2 ⟨h.ne_nil, h.ne_here⟩), if_neg h.ne_up]

theorem filterMap_componentOf (h : ∀ n ∈ names, IsName n) :
    names.filterMap componentOf = names.map .name := by
  rw [List.filterMap_congr fun n hn => (h n hn).componentOf_eq]
  exact congrFun List.filterMap_eq_map names

/-! ## Resolution -/

/-- One rewriting of segments. -/
inductive Shortens : List (List UInt8) → List (List UInt8) → Prop where
  | blank (before after : List (List UInt8)) {s : List UInt8} (h : s = [] ∨ s = [dot]) :
      Shortens (before ++ s :: after) (before ++ after)
  | up (before after : List (List UInt8)) {s : List UInt8} (h : IsName s) :
      Shortens (before ++ s :: [dot, dot] :: after) (before ++ after)
  | top (after : List (List UInt8)) : Shortens ([dot, dot] :: after) after

/-- The segments of the path can be rewritten to these names. -/
structure Resolves (p : Path) (names : List (List UInt8)) : Prop where
  steps : Relation.ReflTransGen Shortens (p.splitOn slash) names
  isName : ∀ n ∈ names, IsName n

theorem Shortens.subset {segments segments' : List (List UInt8)} (h : Shortens segments segments') :
    segments' ⊆ segments := by
  intro n hn
  cases h <;> grind

theorem Resolves.subset (h : p.Resolves names) : names ⊆ p.splitOn slash :=
  h.steps.head_induction_on (fun _ => id) fun hstep _ ih => List.Subset.trans ih hstep.subset

theorem exists_shortened {segments : List (List UInt8)} (h : ∀ s ∈ segments, slash ∉ s) :
    ∀ {done : List (List UInt8)}, (∀ n ∈ done, IsName n) →
      ∃ names, Relation.ReflTransGen Shortens (done ++ segments) names ∧ ∀ n ∈ names, IsName n := by
  induction segments with
  | nil => exact fun {done} hdone => ⟨done, by rw [List.append_nil], hdone⟩
  | cons s segments ih =>
    obtain ⟨hs, hsegments⟩ := List.forall_mem_cons.1 h
    intro done hdone
    by_cases hblank : s = [] ∨ s = [dot]
    · obtain ⟨names, hsteps, hnames⟩ := ih hsegments hdone
      exact ⟨names, .head (.blank done segments hblank) hsteps, hnames⟩
    by_cases hup : s = [dot, dot]
    · subst hup
      rcases List.eq_nil_or_concat done with rfl | ⟨done, n, rfl⟩
      · obtain ⟨names, hsteps, hnames⟩ := ih hsegments hdone
        exact ⟨names, .head (.top segments) hsteps, hnames⟩
      · rw [List.concat_eq_append, List.forall_mem_append, List.forall_mem_singleton] at hdone
        obtain ⟨names, hsteps, hnames⟩ := ih hsegments hdone.1
        rw [List.concat_eq_append, List.append_assoc]
        exact ⟨names, .head (.up done segments hdone.2) hsteps, hnames⟩
    · obtain ⟨hnil, hhere⟩ := not_or.1 hblank
      have hdone' : ∀ n ∈ done ++ [s], IsName n := by
        rw [List.forall_mem_append, List.forall_mem_singleton]
        exact ⟨hdone, hnil, hhere, hup, hs⟩
      obtain ⟨names, hsteps, hnames⟩ := ih hsegments hdone'
      rw [List.append_assoc] at hsteps
      exact ⟨names, hsteps, hnames⟩

theorem exists_resolves (p : Path) : ∃ names, p.Resolves names := by
  have hcut : ∀ s ∈ p.splitOn slash, slash ∉ s := fun _ hs => Text.notMem_of_mem_splitOn hs
  obtain ⟨names, hsteps, hnames⟩ := exists_shortened hcut (List.forall_mem_nil IsName)
  exact ⟨names, hsteps, hnames⟩

/-! ## Normalization -/

/-- What is reached from the root along segments. -/
def followAll (segments : List (List UInt8)) : List Component :=
  (segments.filterMap componentOf).foldl follow [.root]

theorem normalize_of_isAbsolute (h : p.isAbsolute = true) :
    p.normalize = followAll (p.splitOn slash) := by
  rw [normalize, components_of_isAbsolute h]
  rfl

theorem follow_name_up (stack : List Component) (bytes : List UInt8) :
    follow (follow stack (.name bytes)) .up = stack := by
  rw [follow, follow, List.getLast?_concat, List.dropLast_concat]

theorem Shortens.followAll_eq {segments segments' : List (List UInt8)}
    (h : Shortens segments segments') : followAll segments = followAll segments' := by
  cases h with
  | blank before after h =>
    rw [followAll, followAll, List.filterMap_append, List.filterMap_append, List.filterMap_cons,
      componentOf, if_pos h]
  | up before after h =>
    rw [followAll, followAll, List.filterMap_append, List.filterMap_append, List.filterMap_cons,
      h.componentOf_eq, List.filterMap_cons, show componentOf [dot, dot] = some .up from rfl,
      List.foldl_append, List.foldl_append, List.foldl_cons, List.foldl_cons, follow_name_up]
  | top after => rfl

theorem foldl_follow_names (names : List (List UInt8)) : ∀ stack : List Component,
    (names.map Component.name).foldl follow stack = stack ++ names.map .name := by
  induction names with
  | nil => simp
  | cons n names ih =>
    intro stack
    rw [List.map_cons, List.foldl_cons, ih, follow, List.append_assoc, List.singleton_append]

theorem Resolves.normalize_eq (h : p.Resolves names) (hp : p.isAbsolute = true) :
    p.normalize = .root :: names.map .name := by
  have hsteps : followAll (p.splitOn slash) = followAll names :=
    h.steps.head_induction_on rfl fun hstep _ ih => hstep.followAll_eq.trans ih
  rw [normalize_of_isAbsolute hp, hsteps, followAll, filterMap_componentOf h.isName,
    foldl_follow_names, List.singleton_append]

/-- Names are told by their components. -/
theorem map_name_inj {names names' : List (List UInt8)} :
    names.map Component.name = names'.map .name ↔ names = names' :=
  (List.map_injective_iff.2 fun _ _ => Component.name.inj).eq_iff

theorem resolves_iff (hp : p.isAbsolute = true) :
    p.Resolves names ↔ p.normalize = .root :: names.map .name := by
  refine ⟨fun h => h.normalize_eq hp, fun h => ?_⟩
  obtain ⟨names', h'⟩ := p.exists_resolves
  rw [h'.normalize_eq hp, List.cons_inj_right, map_name_inj] at h
  exact h ▸ h'

/-! ## Written paths -/

theorem ofComponents_of_ne {cs : List Component} (h : cs ≠ [.root]) :
    ofComponents cs = [slash].intercalate (cs.map Component.bytes) := by
  unfold ofComponents
  split
  · exact absurd rfl h
  · rfl

theorem map_bytes_name (names : List (List UInt8)) :
    (names.map Component.name).map Component.bytes = names := List.map_map.trans (List.map_id _)

theorem ofComponents_names (names : List (List UInt8)) :
    ofComponents (names.map .name) = [slash].intercalate names := by
  have hne : names.map Component.name ≠ [.root] := fun h => by
    have hroot : Component.root ∈ names.map Component.name := h ▸ List.mem_singleton_self _
    obtain ⟨n, -, hn⟩ := List.mem_map.1 hroot
    cases hn
  rw [ofComponents_of_ne hne, map_bytes_name]

theorem ofComponents_root (names : List (List UInt8)) :
    ofComponents (.root :: names.map .name) = slash :: ofComponents (names.map .name) := by
  cases names with
  | nil => rfl
  | cons n names =>
    rw [ofComponents_of_ne (by simp), List.map_cons, map_bytes_name, ofComponents_names,
      List.intercalate_cons_cons]
    rfl

theorem pieces_ofComponents (h : ∀ n ∈ names, IsName n) :
    pieces (ofComponents (names.map .name)) = names.map .name := by
  rw [ofComponents_names, pieces]
  by_cases hnil : names = []
  · subst hnil
    rfl
  · rw [List.splitOn_intercalate slash (fun n hn => (h n hn).noSlash) hnil, filterMap_componentOf h]

theorem isAbsolute_ofComponents_names (h : ∀ n ∈ names, IsName n) :
    (ofComponents (names.map .name)).isAbsolute = false := by
  rw [ofComponents_names]
  match names with
  | [] => rfl
  | [] :: _ => exact absurd rfl (h [] (List.mem_cons_self ..)).ne_nil
  | (b :: bytes) :: names =>
    have hb : b ≠ slash := fun hb =>
      (h (b :: bytes) (List.mem_cons_self ..)).noSlash (hb ▸ List.mem_cons_self ..)
    rw [List.intercalate_cons_cons_left, isAbsolute, List.head?_cons]
    simp [hb]

theorem isAbsolute_ofComponents_root (names : List (List UInt8)) :
    (ofComponents (.root :: names.map .name)).isAbsolute = true := by
  rw [ofComponents_root]
  rfl

theorem pieces_ofComponents_root (h : ∀ n ∈ names, IsName n) :
    pieces (ofComponents (.root :: names.map .name)) = names.map .name := by
  rw [ofComponents_root, ← List.nil_append (slash :: _), pieces_append_slash, pieces_ofComponents h]
  rfl

/-! ## Paths below a directory -/

/-- Follow one path by another; an absolute one takes its place. -/
def join (p q : Path) : Path :=
  if q.isAbsolute then q
  else if p = [] ∨ p.getLast? = some slash then p ++ q
  else p ++ slash :: q

theorem pieces_join (hq : q.isAbsolute = false) : (p.join q).pieces = p.pieces ++ q.pieces := by
  rw [join, if_neg (Bool.eq_false_iff.1 hq)]
  split
  · next hend =>
    rcases hend with rfl | hend
    · rfl
    · obtain ⟨start, rfl⟩ := List.getLast?_eq_some_iff.1 hend
      rw [List.append_assoc, List.singleton_append, pieces_append_slash, pieces_append_slash]
      exact congrArg (· ++ q.pieces) (List.append_nil _).symm
  · exact pieces_append_slash p q

theorem isAbsolute_join (hp : p.isAbsolute = true) : (p.join q).isAbsolute = true := by
  cases p with
  | nil => cases hp
  | cons b p =>
    unfold join
    split_ifs with hq
    · exact hq
    · exact hp
    · exact hp

theorem components_join (hp : p.isAbsolute = true) (hq : q.isAbsolute = false) :
    (p.join q).components = .root :: (p.pieces ++ q.pieces) := by
  rw [components_of_isAbsolute (isAbsolute_join hp), pieces_join hq]

/-! ## Texts -/

theorem exists_text_of_mem_splitOn {s : String} {segment : List UInt8}
    (h : segment ∈ (ofText s).splitOn slash) : ∃ t, segment = Text.utf8 t := by
  rw [ofText, show slash = Text.byteOf '/' from rfl, Text.splitOn_utf8 (by decide)] at h
  obtain ⟨cs, -, rfl⟩ := List.mem_map.1 h
  exact ⟨_, rfl⟩

theorem exists_ofText_ofComponents (h : ∀ n ∈ names, ∃ t, n = Text.utf8 t) :
    ∃ t, ofComponents (names.map .name) = ofText t := by
  rw [ofComponents_names]
  induction names with
  | nil => exact ⟨"", rfl⟩
  | cons n names ih =>
    obtain ⟨⟨first, hfirst⟩, hrest⟩ := List.forall_mem_cons.1 h
    cases names with
    | nil => exact ⟨first, by rw [List.intercalate_singleton, hfirst, ofText]⟩
    | cons m names =>
      obtain ⟨rest, hrest⟩ := ih hrest
      refine ⟨first ++ "/" ++ rest, ?_⟩
      rw [List.intercalate_cons_cons, hrest, hfirst, ofText, ofText, Text.utf8_append,
        Text.utf8_append]
      rfl

theorem text_ofText (s : String) : (ofText s).text = s := Text.lossy_utf8 s

theorem isAbsolute_ofText {s : String} : (ofText s).isAbsolute = true ↔ s.startsWith "/" = true := by
  rw [String.startsWith_string_iff, show "/".toList = ['/'] from rfl, isAbsolute, decide_eq_true_eq,
    ofText, Text.utf8_eq_flatMap]
  cases s.toList with
  | nil => simp
  | cons c cs =>
    rw [List.flatMap_cons, List.head?_append_of_ne_nil _ String.utf8EncodeChar_ne_nil,
      List.cons_prefix_cons, and_iff_left (List.nil_prefix)]
    refine ⟨fun h => ?_, ?_⟩
    · by_contra hc
      exact Text.notMem_utf8EncodeChar (by decide) hc (List.mem_of_head? h)
    · rintro rfl
      rfl

end SymbolAtlas.Path
