import SymbolAtlas.Proofs.Worker.Macros
import SymbolAtlas.Worker.Cache

/-!
# What a worker remembers

A run of a worker is a list of steps, each taken under the flags of the translation unit entered
last. The caches hold the keys of the claims and of the declarations in headers among the steps
taken (`Tracks`, kept by each step). A key has a hash of the flags in place of the flags, so it tells
what it is the key of only if the flag sets of the run have hashes of their own (`Distinguished`).
Then an answer depends on what was asked before under the flags in force and on nothing else
(`answers_by_flags`).
-/

namespace SymbolAtlas

namespace Worker

/-! ## Runs -/

inductive Step where
  | enter (m : Macros)
  | claim (file : String)
  | isClaimed (file : String)
  | declare (file name : String) (position : Position)
  deriving DecidableEq

namespace Step

/-- The flags in force once the step is taken under `m`. -/
def flags (m : Macros) : Step → Macros
  | enter m' => m'
  | _ => m

def entered? : Step → Option Macros
  | enter m => some m
  | _ => none

def isClaim : Step → Bool
  | claim _ => true
  | _ => false

def isDeclaration : Step → Bool
  | declare .. => true
  | _ => false

/-- The step that is asked about, whether it was taken before. -/
def asked? : Step → Option Step
  | enter _ => none
  | claim file => some (claim file)
  | isClaimed file => some (claim file)
  | declare file name position => some (declare file name position)

/-- Only a declaration asks about declarations. -/
theorem isDeclaration_of_asked {s t : Step} (h : t ∈ s.asked?) :
    t.isDeclaration = s.isDeclaration := by
  cases s <;> cases h <;> rfl

theorem isClaim_of_asked {s t : Step} (h : t ∈ s.asked?) : t.isClaim = !s.isDeclaration := by
  cases s <;> cases h <;> rfl

end Step

def step (w : Worker) : Step → Worker
  | .enter m => w.enter m
  | .claim file => (w.claim file).2
  | .isClaimed _ => w
  | .declare file name position => (w.declare file name position).2

/-- What the worker answers to a step; going on to a translation unit has no answer. -/
def answer (w : Worker) : Step → Option Bool
  | .enter _ => none
  | .claim file => some (w.claim file).1
  | .isClaimed file => some (w.isClaimed file)
  | .declare file name position => some (w.declare file name position).1

def after (w : Worker) (steps : List Step) : Worker := steps.foldl step w

/-! ## Steps with their flags -/

/-- The flags in force after steps that begin under `m`. -/
def flagsAfter (m : Macros) (steps : List Step) : Macros := steps.foldl Step.flags m

/-- Each step with the flags it is taken under, from `m` on. -/
def takenFrom (m : Macros) : List Step → List (Macros × Step)
  | [] => []
  | s :: steps => (m, s) :: takenFrom (s.flags m) steps

/-- The flag sets that steps from `m` on are taken under, and what they leave in force. -/
def flagSets (m : Macros) (steps : List Step) : List Macros := m :: steps.filterMap Step.entered?

section Steps

variable {m m' : Macros} {s : Step} {past steps : List Step}

theorem takenFrom_append (m : Macros) (past steps : List Step) :
    takenFrom m (past ++ steps) = takenFrom m past ++ takenFrom (flagsAfter m past) steps := by
  induction past generalizing m with
  | nil => rfl
  | cons s past ih => exact congrArg (List.cons _) (ih (s.flags m))

theorem flagSets_append_left_subset (m : Macros) (past steps : List Step) :
    flagSets m past ⊆ flagSets m (past ++ steps) := by
  rw [flagSets, flagSets, List.filterMap_append, ← List.cons_append]
  exact List.subset_append_left _ _

theorem flagSets_tail_subset (m : Macros) (s : Step) (steps : List Step) :
    flagSets (s.flags m) steps ⊆ flagSets m (s :: steps) := by
  intro m'
  cases s <;> simp +contextual [flagSets, Step.flags, Step.entered?, List.filterMap_cons]

theorem flagsAfter_mem_flagSets (m : Macros) (steps : List Step) :
    flagsAfter m steps ∈ flagSets m steps := by
  induction steps generalizing m with
  | nil => exact List.mem_singleton_self m
  | cons s steps ih => exact flagSets_tail_subset m s steps (ih (s.flags m))

theorem mem_flagSets_of_taken (h : (m', s) ∈ takenFrom m steps) : m' ∈ flagSets m steps := by
  induction steps generalizing m with
  | nil => cases h
  | cons t steps ih =>
    rcases List.mem_cons.1 h with h | h
    · exact (Prod.mk.inj h).1 ▸ List.mem_cons_self
    · exact flagSets_tail_subset m t steps (ih h)

/-! ### Leaving steps out -/

variable {keep : Step → Bool} (hkeep : ∀ m, keep (.enter m) = true)
include hkeep

theorem flags_of_not_keep (hs : ¬keep s = true) (m : Macros) : s.flags m = m := by
  cases s with
  | enter m' => exact absurd (hkeep m') hs
  | _ => rfl

theorem flagsAfter_filter (m : Macros) (steps : List Step) :
    flagsAfter m (steps.filter keep) = flagsAfter m steps := by
  induction steps generalizing m with
  | nil => rfl
  | cons s steps ih =>
    by_cases hs : keep s = true
    · rw [List.filter_cons_of_pos hs]
      exact ih (s.flags m)
    · rw [List.filter_cons_of_neg hs, ih]
      exact congrArg (flagsAfter · steps) (flags_of_not_keep hkeep hs m).symm

theorem takenFrom_filter (m : Macros) (steps : List Step) :
    takenFrom m (steps.filter keep) = (takenFrom m steps).filter fun e => keep e.2 := by
  induction steps generalizing m with
  | nil => rfl
  | cons s steps ih =>
    by_cases hs : keep s = true
    · rw [List.filter_cons_of_pos hs, takenFrom, ih, takenFrom, List.filter_cons_of_pos (by exact hs)]
    · rw [List.filter_cons_of_neg hs, ih, takenFrom, List.filter_cons_of_neg (by exact hs),
        flags_of_not_keep hkeep hs]

theorem flagSets_filter (m : Macros) (steps : List Step) :
    flagSets m (steps.filter keep) = flagSets m steps := by
  rw [flagSets, List.filterMap_filter, flagSets]
  refine congrArg _ (List.filterMap_congr fun s _ => ?_)
  cases s with
  | enter m => exact if_pos (hkeep m)
  | _ => exact ite_self _

end Steps

/-! ## What the caches hold -/

/-- The step was taken under flags with the hash. -/
def TakenWith (done : List (Macros × Step)) (hash : String) (s : Step) : Prop :=
  ∃ m, m.hash = hash ∧ (m, s) ∈ done

/-- The worker has flags `m` in force and remembers the steps taken. -/
structure Tracks (done : List (Macros × Step)) (m : Macros) (w : Worker) : Prop where
  macros : w.macros = m.hash
  headers : ∀ k, k ∈ w.headers ↔ TakenWith done k.macros (.claim k.file)
  declarations : ∀ k, k ∈ w.declarations ↔
    (SourceFile.ofPath (.ofText k.header.file)).isHeader = true ∧
      TakenWith done k.header.macros (.declare k.header.file k.name k.position)

section Declare

variable (w : Worker) (file name : String) (position : Position)

theorem macros_declare : (w.declare file name position).2.macros = w.macros := by
  unfold declare
  split <;> rfl

theorem headers_declare : (w.declare file name position).2.headers = w.headers := by
  unfold declare
  split <;> rfl

variable {w file name position}

theorem mem_declarations_declare {k : DeclarationKey} :
    k ∈ (w.declare file name position).2.declarations ↔
      ((SourceFile.ofPath (.ofText file)).isHeader = true ∧
        k = ⟨w.headerKey file, name, position⟩) ∨ k ∈ w.declarations := by
  unfold declare
  split
  · next h => rw [KeySet.mem_insert, and_iff_right h]
  · next h => simp [h]

end Declare

section Caches

variable {done : List (Macros × Step)} {m : Macros} {w : Worker} {hash : String} {s t : Step}

theorem takenWith_concat :
    TakenWith (done ++ [(m, t)]) hash s ↔ m.hash = hash ∧ s = t ∨ TakenWith done hash s := by
  simp only [TakenWith, List.mem_append, List.mem_singleton, Prod.mk.injEq, and_or_left,
    exists_or]
  rw [or_comm]
  refine or_congr_left ⟨?_, fun ⟨hm, hs⟩ => ⟨m, hm, rfl, hs⟩⟩
  rintro ⟨_, hm, rfl, hs⟩
  exact ⟨hm, hs⟩

theorem takenWith_concat_of_ne (hne : s ≠ t) :
    TakenWith (done ++ [(m, t)]) hash s ↔ TakenWith done hash s := by
  rw [takenWith_concat, or_iff_right fun h => hne h.2]

theorem Tracks.start (p : Project) : Tracks [] ∅ (start p) where
  macros := rfl
  headers k := by simp [Worker.start, TakenWith]
  declarations k := by simp [Worker.start, TakenWith]

/-- A step leaves a cache that it has no entries for as it is, and is taken for no key of it. -/
theorem Tracks.step (h : Tracks done m w) (s : Step) :
    Tracks (done ++ [(m, s)]) (s.flags m) (w.step s) := by
  have hheaders (t : Step) (ht : ∀ file, .claim file ≠ t) (k : HeaderKey) :
      k ∈ w.headers ↔ TakenWith (done ++ [(m, t)]) k.macros (.claim k.file) := by
    rw [h.headers, takenWith_concat_of_ne (ht _)]
  have hdeclarations (t : Step) (ht : ∀ file name position, .declare file name position ≠ t)
      (k : DeclarationKey) : k ∈ w.declarations ↔
        (SourceFile.ofPath (.ofText k.header.file)).isHeader = true ∧ TakenWith (done ++ [(m, t)])
          k.header.macros (.declare k.header.file k.name k.position) := by
    rw [h.declarations, takenWith_concat_of_ne (ht _ _ _)]
  cases s with
  | enter m' => exact ⟨rfl, hheaders _ nofun, hdeclarations _ nofun⟩
  | isClaimed file => exact ⟨h.macros, hheaders _ nofun, hdeclarations _ nofun⟩
  | claim file =>
    refine ⟨h.macros, fun ⟨kfile, kmacros⟩ => ?_, hdeclarations _ nofun⟩
    refine KeySet.mem_insert.trans ?_
    rw [takenWith_concat, h.headers, headerKey, h.macros, HeaderKey.mk.injEq, Step.claim.injEq,
      and_comm, eq_comm (a := kmacros)]
  | declare file name position =>
    refine ⟨(macros_declare ..).trans h.macros, ?_, fun ⟨⟨kfile, kmacros⟩, kname, kposition⟩ => ?_⟩
    · rw [Worker.step, headers_declare]
      exact hheaders _ nofun
    refine mem_declarations_declare.trans ?_
    rw [takenWith_concat, h.declarations, headerKey, h.macros, DeclarationKey.mk.injEq,
      HeaderKey.mk.injEq, Step.declare.injEq, and_or_left]
    refine or_congr_left ⟨?_, ?_⟩
    · rintro ⟨hfile, ⟨rfl, rfl⟩, hkey⟩
      exact ⟨hfile, rfl, rfl, hkey⟩
    · rintro ⟨hfile, rfl, rfl, hkey⟩
      exact ⟨hfile, ⟨rfl, rfl⟩, hkey⟩

theorem Tracks.after (h : Tracks done m w) (steps : List Step) :
    Tracks (done ++ takenFrom m steps) (flagsAfter m steps) (w.after steps) := by
  induction steps generalizing done m w with
  | nil => exact (List.append_nil done).symm ▸ h
  | cons s steps ih =>
    rw [takenFrom, List.append_cons]
    exact ih (h.step s)

end Caches

/-! ## What runs answer -/

/-- The flag sets of the run can be told by their hashes: their flags hold no zero character, and
different bytes that are hashed for them have different hashes. -/
@[mk_iff] structure Distinguished (steps : List Step) : Prop where
  plain : ∀ m ∈ flagSets ∅ steps, m.Plain
  no_collision : ∀ m ∈ flagSets ∅ steps, ∀ m' ∈ flagSets ∅ steps,
    m.hash = m'.hash → m.keyBytes = m'.keyBytes

instance {steps : List Step} : Decidable (Distinguished steps) :=
  decidable_of_iff' _ (distinguished_iff steps)

section Answers

variable {steps steps' past : List Step} {m m' : Macros} {s : Step} {p : Project}

namespace Distinguished

theorem hash_inj (h : Distinguished steps) (hm : m ∈ flagSets ∅ steps)
    (hm' : m' ∈ flagSets ∅ steps) : m.hash = m'.hash ↔ m = m' :=
  ⟨fun heq => (Macros.keyBytes_inj (h.plain m hm) (h.plain m' hm')).1
    (h.no_collision m hm m' hm' heq), congrArg _⟩

/-- What is filed under the hash of flags in force was taken under these flags. -/
theorem takenWith_iff (h : Distinguished steps) (hm : m ∈ flagSets ∅ steps) :
    TakenWith (takenFrom ∅ steps) m.hash s ↔ (m, s) ∈ takenFrom ∅ steps := by
  refine ⟨?_, fun hs => ⟨m, rfl, hs⟩⟩
  rintro ⟨m', hhash, hs⟩
  exact (h.hash_inj (mem_flagSets_of_taken hs) hm).1 hhash ▸ hs

/-- The hash that a step is filed under is that of one flag set of the run. -/
theorem exists_flags {hash : String} (h : Distinguished steps)
    (hs : TakenWith (takenFrom ∅ steps) hash s) :
    ∃ m, (m, s) ∈ takenFrom ∅ steps ∧ ∀ m' ∈ flagSets ∅ steps, m'.hash = hash ↔ m' = m := by
  obtain ⟨m, rfl, hs⟩ := hs
  exact ⟨m, hs, fun m' hm' => h.hash_inj hm' (mem_flagSets_of_taken hs)⟩

theorem of_flagSets_subset (h : Distinguished steps)
    (hsub : flagSets ∅ steps' ⊆ flagSets ∅ steps) : Distinguished steps' :=
  ⟨fun m hm => h.plain m (hsub hm), fun m hm m' hm' => h.no_collision m (hsub hm) m' (hsub hm')⟩

end Distinguished

theorem tracks_after (p : Project) (steps : List Step) :
    Tracks (takenFrom ∅ steps) (flagsAfter ∅ steps) ((start p).after steps) :=
  (Tracks.start p).after steps

theorem isClaimed_iff (h : Distinguished steps) {file : String} :
    ((start p).after steps).isClaimed file = true ↔
      (flagsAfter ∅ steps, .claim file) ∈ takenFrom ∅ steps := by
  have ht := tracks_after p steps
  refine (ht.headers _).trans ?_
  rw [headerKey, ht.macros]
  exact h.takenWith_iff (flagsAfter_mem_flagSets ∅ steps)

theorem claim_iff (h : Distinguished steps) {file : String} :
    (((start p).after steps).claim file).1 = true ↔
      (flagsAfter ∅ steps, .claim file) ∉ takenFrom ∅ steps := by
  rw [claim, Bool.not_eq_true', ← isClaimed_iff (p := p) h, Bool.not_eq_true]

theorem mem_declarations_iff (h : Distinguished steps) (file name : String) (position : Position) :
    ⟨((start p).after steps).headerKey file, name, position⟩ ∈ ((start p).after steps).declarations ↔
      (SourceFile.ofPath (.ofText file)).isHeader = true ∧
        (flagsAfter ∅ steps, .declare file name position) ∈ takenFrom ∅ steps := by
  have ht := tracks_after p steps
  refine (ht.declarations _).trans (and_congr_right' ?_)
  rw [headerKey, ht.macros]
  exact h.takenWith_iff (flagsAfter_mem_flagSets ∅ steps)

theorem declare_iff (h : Distinguished steps) {file name : String} {position : Position} :
    (((start p).after steps).declare file name position).1 = true ↔
      (SourceFile.ofPath (.ofText file)).isHeader = false ∨
        (flagsAfter ∅ steps, .declare file name position) ∉ takenFrom ∅ steps := by
  unfold declare
  split
  · next hfile =>
    have hnew := not_congr (mem_declarations_iff (p := p) h file name position)
    rw [and_iff_right hfile] at hnew
    rw [Bool.not_eq_true', ← Bool.not_eq_true, hfile, or_iff_right (by decide)]
    exact hnew
  · next hfile => simp [hfile]

/-- Two runs answer alike to what both or neither had asked under their flags. -/
theorem answer_congr (h : Distinguished steps) (h' : Distinguished steps')
    (hs : ∀ t ∈ s.asked?, (flagsAfter ∅ steps, t) ∈ takenFrom ∅ steps ↔
      (flagsAfter ∅ steps', t) ∈ takenFrom ∅ steps') :
    ((start p).after steps).answer s = ((start p).after steps').answer s := by
  cases s with
  | enter m => rfl
  | claim file =>
    refine congrArg some (Bool.eq_iff_iff.2 ?_)
    rw [claim_iff h, claim_iff h', hs _ rfl]
  | isClaimed file =>
    refine congrArg some (Bool.eq_iff_iff.2 ?_)
    rw [isClaimed_iff h, isClaimed_iff h', hs _ rfl]
  | declare file name position =>
    refine congrArg some (Bool.eq_iff_iff.2 ?_)
    rw [declare_iff h, declare_iff h', hs _ rfl]

/-- Leaving out steps that no flags come from changes no answer but to what was left out. -/
theorem answer_filter (h : Distinguished steps) {keep : Step → Bool}
    (hkeep : ∀ m, keep (.enter m) = true) (hs : ∀ t ∈ s.asked?, keep t = true) :
    ((start p).after steps).answer s = ((start p).after (steps.filter keep)).answer s := by
  have hflags := flagsAfter_filter hkeep ∅ steps
  refine answer_congr h (h.of_flagSets_subset ?_) fun t ht => ?_
  · rw [flagSets_filter hkeep]
    exact List.Subset.refl _
  · rw [hflags, takenFrom_filter hkeep, List.mem_filter, and_iff_left (hs t ht)]

/-- Where flags are in force again, and nothing was claimed or declared under them in the meantime,
the answers are those that they had. -/
theorem answer_return {away : List Step} (h : Distinguished (past ++ away))
    (hflags : flagsAfter ∅ (past ++ away) = flagsAfter ∅ past)
    (haway : ∀ t, (flagsAfter ∅ past, t) ∈ takenFrom (flagsAfter ∅ past) away →
      t.isClaim = false ∧ t.isDeclaration = false) :
    ((start p).after (past ++ away)).answer s = ((start p).after past).answer s := by
  refine answer_congr h (h.of_flagSets_subset (flagSets_append_left_subset ..)) fun t ht => ?_
  rw [hflags, takenFrom_append, List.mem_append]
  refine or_iff_left fun hmem => ?_
  obtain ⟨hclaim, hdeclaration⟩ := haway t hmem
  rw [Step.isClaim_of_asked ht] at hclaim
  rw [Step.isDeclaration_of_asked ht] at hdeclaration
  simp [hdeclaration] at hclaim

/-- A worker answers by what was asked before under the flags in force. A header is taken as claimed
if it was claimed under them, and is claimed only once; a declaration outside headers is always
worth a span, one in a header the first time it is asked for under them. Flags that are in force
again have the answers they had, each entry of a cache is that of one flag set, and leaving out the
declarations changes no answer on headers, nor leaving out the claims one on declarations. -/
theorem answers_by_flags (p : Project) {steps : List Step} (h : Distinguished steps) :
    let w := (start p).after steps
    let m := flagsAfter ∅ steps
    let done := takenFrom ∅ steps
    (∀ file, ((w.claim file).1 = true ↔ (m, .claim file) ∉ done) ∧
      (w.isClaimed file = true ↔ (m, .claim file) ∈ done)) ∧
    (∀ file name position, (w.declare file name position).1 = true ↔
      (SourceFile.ofPath (.ofText file)).isHeader = false ∨
        (m, .declare file name position) ∉ done) ∧
    (∀ past away, steps = past ++ away → flagsAfter ∅ past = m →
      (∀ t, (m, t) ∈ takenFrom m away → t.isClaim = false ∧ t.isDeclaration = false) →
      ∀ s, w.answer s = ((start p).after past).answer s) ∧
    (∀ k ∈ w.headers, ∃ m', (m', .claim k.file) ∈ done ∧
      ∀ m'' ∈ flagSets ∅ steps, m''.hash = k.macros ↔ m'' = m') ∧
    (∀ k ∈ w.declarations, ∃ m', (m', .declare k.header.file k.name k.position) ∈ done ∧
      ∀ m'' ∈ flagSets ∅ steps, m''.hash = k.header.macros ↔ m'' = m') ∧
    (∀ s, s.isDeclaration = false →
      w.answer s = ((start p).after (steps.filter fun t => !t.isDeclaration)).answer s) ∧
    (∀ s, s.isDeclaration = true →
      w.answer s = ((start p).after (steps.filter fun t => !t.isClaim)).answer s) := by
  intro w m done
  have ht : Tracks done m w := tracks_after p steps
  refine ⟨fun file => ⟨claim_iff h, isClaimed_iff h⟩, fun file name position => declare_iff h, ?_,
    fun k hk => h.exists_flags ((ht.headers k).1 hk),
    fun k hk => h.exists_flags ((ht.declarations k).1 hk).2, fun s hs => ?_, fun s hs => ?_⟩
  · rintro past away rfl hflags haway s
    exact answer_return h hflags.symm (hflags ▸ haway)
  · exact answer_filter h (fun _ => rfl) fun t ht => by
      rw [Step.isDeclaration_of_asked ht, hs]
      rfl
  · exact answer_filter h (fun _ => rfl) fun t ht => by
      rw [Step.isClaim_of_asked ht, hs]
      rfl

end Answers

/-- A header is claimed and a declaration in it seen under one flag, the worker goes on to another
one and sees the next declaration there, and comes back. -/
def twoModes : List Step :=
  [.enter (.ofArgs ["-DMODE=1"]), .claim "/p/a.h", .declare "/p/a.h" "f" ⟨3, 5⟩,
    .enter (.ofArgs ["-D", "MODE=2"]), .declare "/p/a.h" "g" ⟨4, 5⟩, .enter (.ofArgs ["-DMODE=1"])]

/-- Under the other flag the header is not claimed. Back under the first one it is and its declaration
is seen, the one that was seen under the other flag is not, and all answers are those from before
the worker left. -/
theorem answers_twoModes :
    let p : Project := .ofPath (.ofText "/p")
    let w := (start p).after twoModes
    Distinguished (twoModes.take 4) ∧ Distinguished twoModes ∧
      ((start p).after (twoModes.take 4)).isClaimed "/p/a.h" = false ∧
      (w.claim "/p/a.h").1 = false ∧ w.isClaimed "/p/a.h" = true ∧
      (w.declare "/p/a.h" "f" ⟨3, 5⟩).1 = false ∧ (w.declare "/p/a.h" "g" ⟨4, 5⟩).1 = true ∧
      ∀ s, w.answer s = ((start p).after (twoModes.take 3)).answer s := by
  intro p w
  have haway : Distinguished (twoModes.take 4) := by decide +kernel
  have hback : Distinguished twoModes := by decide +kernel
  obtain ⟨hheaderAway, -⟩ := answers_by_flags p haway
  obtain ⟨hheader, hdeclare, hreturn, -⟩ := answers_by_flags p hback
  refine ⟨haway, hback, ?other, ?claim, (hheader "/p/a.h").2.2 (by decide +kernel), ?seen,
    (hdeclare "/p/a.h" "g" ⟨4, 5⟩).2 (.inr (by decide +kernel)), ?same⟩
  case other =>
    rw [← Bool.not_eq_true, (hheaderAway "/p/a.h").2]
    decide +kernel
  case claim =>
    rw [← Bool.not_eq_true, (hheader "/p/a.h").1]
    decide +kernel
  case seen =>
    rw [← Bool.not_eq_true, hdeclare]
    decide +kernel
  case same =>
    have hnothing : ∀ e ∈ takenFrom (flagsAfter ∅ twoModes) (twoModes.drop 3),
        e.1 = flagsAfter ∅ twoModes → e.2.isClaim = false ∧ e.2.isDeclaration = false := by
      decide +kernel
    exact hreturn (twoModes.take 3) (twoModes.drop 3) rfl (by decide +kernel)
      fun t ht => hnothing (_, t) ht rfl

end Worker

end SymbolAtlas
