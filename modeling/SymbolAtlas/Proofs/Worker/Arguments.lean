import Mathlib
import SymbolAtlas.Worker.Macros

/-!
# Arguments that spell flags

Compile arguments are written from items (`Item`): a flag in either spelling, or an argument that
has nothing to do with flags. Reading takes the arguments of one item at a time, whatever the
payload looks like (`flagsIn_args_append`), so the flags read are those of the items and nothing
else of a list of items shows (`flags_ofArgs_argsOf`).
-/

namespace SymbolAtlas.Macros

/-- What a flag does with the macro that its payload names. -/
inductive Directive where
  | define
  | undefine
  deriving DecidableEq

def Directive.text : Directive → String
  | define => "-D"
  | undefine => "-U"

/-- A flag or an unrelated argument, as it stands among arguments. -/
inductive Item where
  /-- A flag in one argument; alone, what begins it would ask for another argument. -/
  | joined (d : Directive) (payload : String) (nonempty : payload ≠ "")
  /-- A flag in two arguments; the second may look like a flag itself. -/
  | split (d : Directive) (payload : String)
  | unrelated (arg : String) (noFlag : ∀ d : Directive, ¬d.text.toList <+: arg.toList)

namespace Item

def args : Item → List String
  | joined d payload _ => [d.text ++ payload]
  | split d payload => [d.text, payload]
  | unrelated arg _ => [arg]

/-- The flag, whichever way it is spelled. -/
def flag? : Item → Option String
  | joined d payload _ => some (d.text ++ payload)
  | split d payload => some (d.text ++ payload)
  | unrelated .. => none

end Item

def argsOf (items : List Item) : List String := items.flatMap Item.args

/-! ## Reading one item -/

theorem isFlag_iff {arg : String} :
    isFlag arg = true ↔ ∃ d : Directive, d.text.toList <+: arg.toList := by
  simp only [isFlag, String.isPrefixOf, Bool.or_eq_true, String.startsWith_string_iff]
  refine ⟨?_, ?_⟩
  · rintro (h | h)
    · exact ⟨.define, h⟩
    · exact ⟨.undefine, h⟩
  · rintro ⟨d | d, h⟩
    · exact .inl h
    · exact .inr h

theorem isLone_iff {arg : String} : (arg = "-D" ∨ arg = "-U") ↔ ∃ d : Directive, arg = d.text := by
  refine ⟨?_, ?_⟩
  · rintro (rfl | rfl)
    · exact ⟨.define, rfl⟩
    · exact ⟨.undefine, rfl⟩
  · rintro ⟨d | d, rfl⟩
    · exact .inl rfl
    · exact .inr rfl

theorem length_text (d : Directive) : d.text.length = 2 := by cases d <;> rfl

/-- With a payload in the same argument, a flag does not take the next one. -/
theorem not_isLone_joined {d : Directive} {payload : String} (h : payload ≠ "") :
    ¬(d.text ++ payload = "-D" ∨ d.text ++ payload = "-U") := by
  rw [isLone_iff]
  rintro ⟨e, he⟩
  have hlength := congrArg String.length he
  rw [String.length_append, length_text, length_text, Nat.add_eq_left] at hlength
  exact h (String.length_eq_zero_iff.1 hlength)

theorem not_isLone_of_noFlag {arg : String} (h : isFlag arg = false) :
    ¬(arg = "-D" ∨ arg = "-U") := by
  rw [isLone_iff]
  rintro ⟨d, rfl⟩
  have hflag : isFlag d.text = true := isFlag_iff.2 ⟨d, List.prefix_rfl⟩
  rw [h] at hflag
  cases hflag

theorem flagsIn_lone (d : Directive) : flagsIn [d.text] = [] := by
  rw [flagsIn, if_pos (isLone_iff.2 ⟨d, rfl⟩)]

theorem flagsIn_split (d : Directive) (payload : String) (rest : List String) :
    flagsIn (d.text :: payload :: rest) = (d.text ++ payload) :: flagsIn rest := by
  rw [flagsIn, if_pos (isLone_iff.2 ⟨d, rfl⟩)]

theorem flagsIn_joined {d : Directive} {payload : String} (h : payload ≠ "") (rest : List String) :
    flagsIn ((d.text ++ payload) :: rest) = (d.text ++ payload) :: flagsIn rest := by
  have hflag : isFlag (d.text ++ payload) = true :=
    isFlag_iff.2 ⟨d, by rw [String.toList_append]; exact List.prefix_append _ _⟩
  cases rest with
  | nil => rw [flagsIn, flagsIn, if_neg (not_isLone_joined h), if_pos hflag]
  | cons next rest => rw [flagsIn, if_neg (not_isLone_joined h), if_pos hflag]

theorem flagsIn_unrelated {arg : String} (h : isFlag arg = false) (rest : List String) :
    flagsIn (arg :: rest) = flagsIn rest := by
  have hflag : ¬isFlag arg = true := Bool.eq_false_iff.1 h
  cases rest with
  | nil => rw [flagsIn, flagsIn, if_neg (not_isLone_of_noFlag h), if_neg hflag]
  | cons next rest => rw [flagsIn, if_neg (not_isLone_of_noFlag h), if_neg hflag]

theorem flagsIn_args_append (item : Item) (rest : List String) :
    flagsIn (item.args ++ rest) = item.flag?.toList ++ flagsIn rest := by
  cases item with
  | joined d payload h => exact flagsIn_joined h rest
  | split d payload => exact flagsIn_split d payload rest
  | unrelated arg h =>
    have hflag : isFlag arg = false := by
      rw [Bool.eq_false_iff, Ne, isFlag_iff]
      exact fun ⟨d, hd⟩ => h d hd
    exact flagsIn_unrelated hflag rest

/-! ## Reading lists of items -/

/-- The flags among items, each as often as it stands there. -/
def flagsOf (items : List Item) : List String := items.filterMap Item.flag?

theorem mem_flagsOf {items : List Item} {f : String} :
    f ∈ flagsOf items ↔ ∃ item ∈ items, item.flag? = some f := List.mem_filterMap

theorem flagsOf_cons (item : Item) (items : List Item) :
    flagsOf (item :: items) = item.flag?.toList ++ flagsOf items := by
  rw [flagsOf, List.filterMap_cons]
  cases item.flag? <;> rfl

theorem flagsOf_append (items items' : List Item) :
    flagsOf (items ++ items') = flagsOf items ++ flagsOf items' := List.filterMap_append

theorem flagsIn_argsOf_append (items : List Item) (rest : List String) :
    flagsIn (argsOf items ++ rest) = flagsOf items ++ flagsIn rest := by
  induction items with
  | nil => rfl
  | cons item items ih =>
    rw [argsOf, List.flatMap_cons, List.append_assoc, flagsIn_args_append, ← argsOf, ih,
      flagsOf_cons, List.append_assoc]

theorem flagsIn_argsOf (items : List Item) : flagsIn (argsOf items) = flagsOf items := by
  have h := flagsIn_argsOf_append items []
  rwa [List.append_nil, flagsIn, List.append_nil] at h

theorem mem_flags_ofArgs {args : List String} {f : String} :
    f ∈ (ofArgs args).flags ↔ f ∈ flagsIn args := KeySet.mem_ofList

/-! ## What does not show -/

/-- One change of a list of items that leaves its flags. -/
inductive Edit : List Item → List Item → Prop where
  | permute {items items' : List Item} (h : items.Perm items') : Edit items items'
  | again {item : Item} {items : List Item} (h : item ∈ items) : Edit items (item :: items)
  | respell {item item' : Item} (before after : List Item) (h : item.flag? = item'.flag?) :
      Edit (before ++ item :: after) (before ++ item' :: after)
  | unrelated {arg : String} (before after : List Item)
      (noFlag : ∀ d : Directive, ¬d.text.toList <+: arg.toList) :
      Edit (before ++ after) (before ++ .unrelated arg noFlag :: after)

theorem Edit.mem_flagsOf_iff {items items' : List Item} (h : Edit items items') (f : String) :
    f ∈ flagsOf items ↔ f ∈ flagsOf items' := by
  cases h with
  | permute h => exact (h.filterMap Item.flag?).mem_iff
  | again h =>
    rw [mem_flagsOf, mem_flagsOf, List.exists_mem_cons_iff]
    exact (or_iff_right_of_imp fun hf => ⟨_, h, hf⟩).symm
  | respell before after h => rw [flagsOf_append, flagsOf_append, flagsOf_cons, flagsOf_cons, h]
  | unrelated before after noFlag =>
    rw [flagsOf_append, flagsOf_append, flagsOf_cons]
    rfl

theorem mem_flagsOf_iff_of_edits {items items' : List Item} (h : Relation.EqvGen Edit items items')
    (f : String) : f ∈ flagsOf items ↔ f ∈ flagsOf items' := by
  induction h with
  | rel _ _ h => exact h.mem_flagsOf_iff f
  | refl _ => exact Iff.rfl
  | symm _ _ _ ih => exact ih.symm
  | trans _ _ _ _ _ ih ih' => exact ih.trans ih'

theorem ofArgs_congr {args args' : List String} (h : ∀ f, f ∈ flagsIn args ↔ f ∈ flagsIn args') :
    ofArgs args = ofArgs args' :=
  congrArg mk (KeySet.ext_mem fun f => mem_flags_ofArgs.trans ((h f).trans mem_flags_ofArgs.symm))

/-- The flags of a command line are those of its items. Their order, how often they come, how they
are spelled and what else stands there do not show, nor does a lone end. -/
theorem flags_ofArgs_argsOf (items : List Item) :
    (∀ f, f ∈ (ofArgs (argsOf items)).flags ↔ ∃ item ∈ items, item.flag? = some f) ∧
      (∀ items', Relation.EqvGen Edit items items' →
        ofArgs (argsOf items) = ofArgs (argsOf items') ∧
          (ofArgs (argsOf items)).hash = (ofArgs (argsOf items')).hash) ∧
      ∀ d : Directive, ofArgs (argsOf items ++ [d.text]) = ofArgs (argsOf items) := by
  refine ⟨fun f => ?_, fun items' h => ?_, fun d => ofArgs_congr fun f => ?_⟩
  · rw [mem_flags_ofArgs, flagsIn_argsOf, mem_flagsOf]
  · have hsame : ofArgs (argsOf items) = ofArgs (argsOf items') := ofArgs_congr fun f => by
      rw [flagsIn_argsOf, flagsIn_argsOf, mem_flagsOf_iff_of_edits h]
    exact ⟨hsame, congrArg hash hsame⟩
  · rw [flagsIn_argsOf_append, flagsIn_lone, List.append_nil, flagsIn_argsOf]

/-- A definition, and a flag whose payload looks like one. -/
def spelledItems : List Item := [.joined .define "FOO=1" (by decide), .split .undefine "-DBAR"]

/-- The same flags in the other order and spelling, one of them twice, after another argument. -/
def respelledItems : List Item :=
  [.unrelated "-c" (fun d => by cases d <;> decide), .split .undefine "-DBAR",
    .split .undefine "-DBAR", .split .define "FOO=1"]

theorem ofArgs_respelledItems :
    argsOf spelledItems = ["-DFOO=1", "-U", "-DBAR"] ∧
      argsOf respelledItems = ["-c", "-U", "-DBAR", "-U", "-DBAR", "-D", "FOO=1"] ∧
      Relation.EqvGen Edit spelledItems respelledItems ∧
      ofArgs (argsOf spelledItems) = ofArgs (argsOf respelledItems) := by
  have hrespell : Edit spelledItems [.split .define "FOO=1", .split .undefine "-DBAR"] :=
    .respell [] _ rfl
  have hpermute : Edit [.split .define "FOO=1", .split .undefine "-DBAR"]
      [.split .undefine "-DBAR", .split .define "FOO=1"] := .permute (.swap ..)
  have hagain : Edit [.split .undefine "-DBAR", .split .define "FOO=1"]
      [.split .undefine "-DBAR", .split .undefine "-DBAR", .split .define "FOO=1"] :=
    .again (List.mem_cons_self ..)
  have hunrelated : Edit [.split .undefine "-DBAR", .split .undefine "-DBAR",
      .split .define "FOO=1"] respelledItems := .unrelated [] _ _
  have hedits : Relation.EqvGen Edit spelledItems respelledItems :=
    .trans _ _ _ (.rel _ _ hrespell) (.trans _ _ _ (.rel _ _ hpermute)
      (.trans _ _ _ (.rel _ _ hagain) (.rel _ _ hunrelated)))
  exact ⟨rfl, rfl, hedits, ((flags_ofArgs_argsOf spelledItems).2.1 respelledItems hedits).1⟩

end SymbolAtlas.Macros
