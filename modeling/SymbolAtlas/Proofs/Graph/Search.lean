import Mathlib.Data.List.Nodup
import SymbolAtlas.Graph.Search
import SymbolAtlas.Proofs.Table

/-!
# Breadth-first search is exact

`Leads step a trail b` says that steps with the labels of the trail lead from `a` to `b`, and
`AtDistance step a n b` that `n` steps do and fewer do not. A layer of a search holds what is at one
distance from the start (`Level.next`), so the layers together hold what is at a distance up to the
depth, nearest first and each once (`covers_around`). A search that keeps one queue and looks at the
depth only when it takes something from it finds the same in the same order (`queued_iff`).
-/

namespace SymbolAtlas

/-- What a step from `r` reaches. -/
def Reached.extend {α : Type} (r : Reached α) (s : String × α) : Reached α :=
  ⟨s.1, r.distance + 1, r.trail ++ [s.2]⟩

namespace Search

variable {α : Type} {step : String → α → String → Prop} {a b start id : String} {m n : Nat}

/-! ## Distances -/

/-- Steps with the labels of the trail lead from `a` to `b`. -/
inductive Leads (step : String → α → String → Prop) (a : String) : List α → String → Prop
  | refl : Leads step a [] a
  | snoc {trail : List α} {b c : String} {x : α} (h : Leads step a trail b) (hs : step b x c) :
    Leads step a (trail ++ [x]) c

/-- At most `n` steps lead from `a` to `b`. -/
def Within (step : String → α → String → Prop) (a : String) (n : Nat) (b : String) : Prop :=
  ∃ trail, Leads step a trail b ∧ trail.length ≤ n

/-- `n` steps lead from `a` to `b`, and no fewer. -/
def AtDistance (step : String → α → String → Prop) (a : String) (n : Nat) (b : String) : Prop :=
  (∃ trail, Leads step a trail b ∧ trail.length = n) ∧
    ∀ trail, Leads step a trail b → n ≤ trail.length

theorem AtDistance.within (h : AtDistance step a n b) : Within step a n b :=
  h.1.imp fun _ ht => ⟨ht.1, Nat.le_of_eq ht.2⟩

theorem AtDistance.unique (h : AtDistance step a n b) (h' : AtDistance step a m b) : n = m := by
  obtain ⟨⟨t, ht, hlen⟩, hmin⟩ := h
  obtain ⟨⟨t', ht', hlen'⟩, hmin'⟩ := h'
  have := hmin t' ht'
  have := hmin' t ht
  omega

theorem within_zero : Within step a 0 b ↔ b = a := by
  refine ⟨?_, fun h => ⟨[], h ▸ .refl, Nat.le_refl 0⟩⟩
  rintro ⟨trail, h, hlen⟩
  cases h with
  | refl => rfl
  | snoc h hs => simp at hlen

theorem atDistance_zero : AtDistance step a 0 b ↔ b = a := by
  refine ⟨fun h => within_zero.1 h.within, ?_⟩
  rintro rfl
  exact ⟨⟨[], .refl, rfl⟩, fun _ _ => Nat.zero_le _⟩

/-- What is within some steps is at that distance or nearer. -/
theorem Within.atDistance_or (h : Within step a n b) :
    AtDistance step a n b ∨ ∃ trail, Leads step a trail b ∧ trail.length < n := by
  by_cases hshort : ∃ trail, Leads step a trail b ∧ trail.length < n
  · exact .inr hshort
  · have hmin : ∀ trail, Leads step a trail b → n ≤ trail.length := fun t ht =>
      Nat.le_of_not_lt fun hlt => hshort ⟨t, ht, hlt⟩
    obtain ⟨trail, ht, hlen⟩ := h
    exact .inl ⟨⟨trail, ht, Nat.le_antisymm hlen (hmin trail ht)⟩, hmin⟩

theorem atDistance_succ :
    AtDistance step a (n + 1) b ↔ Within step a (n + 1) b ∧ ¬Within step a n b := by
  refine ⟨fun h => ⟨h.within, ?_⟩, fun ⟨h, hn⟩ => ?_⟩
  · rintro ⟨trail, ht, hlen⟩
    have := h.2 trail ht
    omega
  · rcases h.atDistance_or with h | ⟨trail, ht, hlen⟩
    · exact h
    · exact absurd ⟨trail, ht, Nat.le_of_lt_succ hlen⟩ hn

/-- What one more step reaches is reached before or comes from something as far away as can be. -/
theorem within_succ :
    Within step a (n + 1) b ↔ Within step a n b ∨ ∃ c x, AtDistance step a n c ∧ step c x b := by
  refine ⟨?_, ?_⟩
  · rintro ⟨trail, h, hlen⟩
    cases h with
    | refl => exact .inl ⟨[], .refl, Nat.zero_le n⟩
    | @snoc trail c _ x h hs =>
      rw [List.length_append, List.length_singleton] at hlen
      have hc : Within step a n c := ⟨trail, h, by omega⟩
      rcases hc.atDistance_or with hc | ⟨shorter, hc, hlt⟩
      · exact .inr ⟨c, x, hc, hs⟩
      · exact .inl ⟨shorter ++ [x], hc.snoc hs, by simp; omega⟩
  · rintro (⟨trail, h, hlen⟩ | ⟨c, x, ⟨⟨trail, h, hlen⟩, -⟩, hs⟩)
    · exact ⟨trail, h, by omega⟩
    · exact ⟨trail ++ [x], h.snoc hs, by simp [hlen]⟩

/-- On the way to what is far away there is something at every distance before. -/
theorem AtDistance.exists_of_le (h : AtDistance step a n b) (hm : m ≤ n) :
    ∃ c, AtDistance step a m c := by
  induction n generalizing b with
  | zero => exact ⟨b, Nat.le_zero.1 hm ▸ h⟩
  | succ n ih =>
    rcases Nat.eq_or_lt_of_le hm with rfl | hlt
    · exact ⟨b, h⟩
    · obtain ⟨hw, hn⟩ := atDistance_succ.1 h
      obtain hw | ⟨c, _, hc, -⟩ := within_succ.1 hw
      · exact absurd hw hn
      · exact ih hc (Nat.le_of_lt_succ hlt)

/-! ## Taking steps -/

variable {steps : String → List (String × α)} {found : Reached α → Prop} {seen : KeySet String}
  {p : Progress α} {r : Reached α} {s : String × α}

theorem mem_seen_take : id ∈ (take r p s).seen ↔ id ∈ p.seen ∨ id = s.1 := by
  unfold take
  split
  · next h =>
    refine (or_iff_left_of_imp ?_).symm
    rintro rfl
    exact h
  · rw [KeySet.mem_insert, or_comm]

/-- The steps out of a layer, each with what it goes out from. -/
def offers (steps : String → List (String × α)) (l : List (Reached α)) :
    List (Reached α × String × α) :=
  l.flatMap fun r => (steps r.id).map (r, ·)

theorem mem_offers {l : List (Reached α)} : (r, s) ∈ offers steps l ↔ r ∈ l ∧ s ∈ steps r.id := by
  simp only [offers, List.mem_flatMap, List.mem_map, Prod.mk.injEq]
  refine ⟨?_, fun ⟨hr, hs⟩ => ⟨r, hr, s, hs, rfl, rfl⟩⟩
  rintro ⟨r, hr, s, hs, rfl, rfl⟩
  exact ⟨hr, hs⟩

theorem foldl_expand (l : List (Reached α)) (p : Progress α) :
    l.foldl (expand steps) p = (offers steps l).foldl (fun p o => take o.1 p o.2) p := by
  rw [offers, List.foldl_flatMap]
  simp only [List.foldl_map]
  rfl

theorem mem_seen_foldl_take (l : List (Reached α × String × α)) : ∀ {p : Progress α},
    id ∈ (l.foldl (fun p o => take o.1 p o.2) p).seen ↔ id ∈ p.seen ∨ ∃ o ∈ l, id = o.2.1 := by
  induction l with
  | nil => simp
  | cons o l ih =>
    intro p
    rw [List.foldl_cons, ih, mem_seen_take, List.exists_mem_cons_iff, or_assoc]

/-- What belongs to the layer is what was seen since the layer was begun, each once. -/
structure Grown (found : Reached α → Prop) (seen : KeySet String) (p : Progress α) : Prop where
  new : ∀ id, (∃ r ∈ p.layer, r.id = id) ↔ id ∈ p.seen ∧ id ∉ seen
  found : ∀ r ∈ p.layer, found r
  nodup : (p.layer.map (·.id)).Nodup
  mono : ∀ id ∈ seen, id ∈ p.seen

theorem Grown.nil (found : Reached α → Prop) (seen : KeySet String) :
    Grown found seen ⟨seen, []⟩ := by
  constructor <;> simp

theorem Grown.take (h : Grown found seen p) (hr : found (r.extend s)) :
    Grown found seen (take r p s) := by
  unfold Search.take
  split
  · exact h
  · next hs =>
    have hs : s.1 ∉ p.seen := hs
    have hlast : ∀ q, q ∈ p.layer ++ [r.extend s] ↔ q ∈ p.layer ∨ q = r.extend s := by simp
    refine ⟨fun id => ?new, fun q hq => ?found, ?nodup, fun id hid =>
      KeySet.mem_insert.2 (.inr (h.mono id hid))⟩
    case new =>
      show (∃ q ∈ p.layer ++ [r.extend s], q.id = id) ↔ id ∈ p.seen.insert s.1 ∧ id ∉ seen
      simp only [hlast, or_and_right, exists_or, h.new id, exists_eq_left, KeySet.mem_insert]
      refine ⟨?_, ?_⟩
      · rintro (⟨hid, hn⟩ | rfl)
        · exact .inr ⟨hid, hn⟩
        · exact .inl ⟨rfl, fun hmem => hs (h.mono _ hmem)⟩
      · rintro (⟨rfl, -⟩ | hid)
        · exact .inr rfl
        · exact .inl hid
    case found =>
      rcases (hlast q).1 hq with hq | rfl
      · exact h.found q hq
      · exact hr
    case nodup =>
      show ((p.layer ++ [r.extend s]).map (·.id)).Nodup
      rw [List.map_append, List.nodup_append]
      refine ⟨h.nodup, List.nodup_singleton _, fun id hid id' hid' e => ?_⟩
      obtain ⟨q, hq, rfl⟩ := List.mem_map.1 hid
      obtain rfl := List.mem_singleton.1 hid'
      have hseen : q.id ∈ p.seen := ((h.new q.id).1 ⟨q, hq, rfl⟩).1
      exact hs (Eq.mp (congrArg (· ∈ p.seen) e) hseen)

theorem Grown.foldl_take {l : List (Reached α × String × α)} : ∀ {p : Progress α},
    Grown found seen p → (∀ o ∈ l, found (o.1.extend o.2)) →
      Grown found seen (l.foldl (fun p o => Search.take o.1 p o.2) p) := by
  induction l with
  | nil => exact fun h _ => h
  | cons o l ih =>
    intro p h hl
    exact ih (h.take (hl o (List.mem_cons_self ..))) fun o ho => hl o (List.mem_cons_of_mem _ ho)

/-! ## Layers -/

/-- What a search has seen and what is in its layer after `n` layers. -/
structure Level (step : String → α → String → Prop) (start : String) (n : Nat) (p : Progress α) :
    Prop where
  seen : ∀ id, id ∈ p.seen ↔ Within step start n id
  layer : ∀ id, (∃ r ∈ p.layer, r.id = id) ↔ AtDistance step start n id
  found : ∀ r ∈ p.layer, r.distance = n ∧ r.trail.length = n ∧ Leads step start r.trail r.id
  nodup : (p.layer.map (·.id)).Nodup

theorem Level.zero (step : String → α → String → Prop) (start : String) :
    Level step start 0 ⟨.ofList [start], [⟨start, 0, []⟩]⟩ where
  seen id := by rw [KeySet.mem_ofList, List.mem_singleton, within_zero]
  layer id := by
    rw [atDistance_zero]
    simp [eq_comm]
  found r hr := by
    obtain rfl := List.mem_singleton.1 hr
    exact ⟨rfl, rfl, .refl⟩
  nodup := List.nodup_singleton _

/-- `l` holds what is at a distance above `m` and up to `n`, nearest first and each once. -/
structure Covers (step : String → α → String → Prop) (start : String) (m n : Nat)
    (l : List (Reached α)) : Prop where
  mem : ∀ id d, (∃ r ∈ l, r.id = id ∧ r.distance = d) ↔ m < d ∧ d ≤ n ∧ AtDistance step start d id
  found : ∀ r ∈ l, r.trail.length = r.distance ∧ Leads step start r.trail r.id
  nodup : (l.map (·.id)).Nodup
  nearest : (l.map (·.distance)).Pairwise (· ≤ ·)

theorem Covers.nil (h : ∀ id d, m < d → d ≤ n → ¬AtDistance step start d id) :
    Covers step start m n [] := by
  refine ⟨fun id d => iff_of_false ?_ fun ⟨hm, hn, hd⟩ => h id d hm hn hd, ?_, .nil, .nil⟩ <;> simp

theorem Covers.of_mem {l : List (Reached α)} (h : Covers step start m n l) (hr : r ∈ l) :
    m < r.distance ∧ r.distance ≤ n ∧ AtDistance step start r.distance r.id :=
  (h.mem r.id r.distance).1 ⟨r, hr, rfl, rfl⟩

theorem Covers.append {k : Nat} {l l' : List (Reached α)} (h : Covers step start m k l)
    (h' : Covers step start k n l') (hm : m ≤ k) (hn : k ≤ n) :
    Covers step start m n (l ++ l') := by
  refine ⟨fun id d => ?mem, fun r hr => ?found, ?nodup, ?nearest⟩
  case mem =>
    simp only [List.mem_append, or_and_right, exists_or, h.mem id d, h'.mem id d]
    rw [← and_assoc, ← and_assoc, ← and_assoc, ← or_and_right]
    exact and_congr_left fun _ => by omega
  case found => exact (List.mem_append.1 hr).elim (h.found r) (h'.found r)
  case nodup =>
    rw [List.map_append, List.nodup_append]
    refine ⟨h.nodup, h'.nodup, fun id hid id' hid' e => ?_⟩
    obtain ⟨q, hq, rfl⟩ := List.mem_map.1 hid
    obtain ⟨q', hq', rfl⟩ := List.mem_map.1 hid'
    obtain ⟨-, hle, hd⟩ := h.of_mem hq
    obtain ⟨hlt, -, hd'⟩ := h'.of_mem hq'
    rw [e] at hd
    have := hd.unique hd'
    omega
  case nearest =>
    rw [List.map_append, List.pairwise_append]
    refine ⟨h.nearest, h'.nearest, fun d hd d' hd' => ?_⟩
    obtain ⟨q, hq, rfl⟩ := List.mem_map.1 hd
    obtain ⟨q', hq', rfl⟩ := List.mem_map.1 hd'
    have := (h.of_mem hq).2.1
    have := (h'.of_mem hq').1
    omega

theorem Level.covers (h : Level step start (n + 1) p) : Covers step start n (n + 1) p.layer := by
  have hdist : ∀ r ∈ p.layer, r.distance = n + 1 := fun r hr => (h.found r hr).1
  refine ⟨fun id d => ?mem, fun r hr => ?found, h.nodup, ?nearest⟩
  case mem =>
    refine ⟨?_, ?_⟩
    · rintro ⟨r, hr, rfl, rfl⟩
      rw [hdist r hr]
      exact ⟨Nat.lt_succ_self n, Nat.le_refl _, (h.layer r.id).1 ⟨r, hr, rfl⟩⟩
    · rintro ⟨hlt, hle, hd⟩
      obtain rfl : d = n + 1 := by omega
      obtain ⟨r, hr, rfl⟩ := (h.layer id).2 hd
      exact ⟨r, hr, rfl, hdist r hr⟩
  case found =>
    obtain ⟨hd, hlen, hleads⟩ := h.found r hr
    exact ⟨hlen.trans hd.symm, hleads⟩
  case nearest =>
    refine List.pairwise_map.2 (List.pairwise_of_forall_mem_list fun r hr q hq => ?_)
    exact Nat.le_of_eq ((hdist r hr).trans (hdist q hq).symm)

section Exact
variable (hsteps : ∀ a b x, (b, x) ∈ steps a ↔ step a x b)
include hsteps

theorem Level.next (h : Level step start n p) :
    Level step start (n + 1) (p.layer.foldl (expand steps) ⟨p.seen, []⟩) := by
  rw [foldl_expand]
  have hgrown : Grown (fun r => r.distance = n + 1 ∧ r.trail.length = n + 1 ∧
      Leads step start r.trail r.id) p.seen
      ((offers steps p.layer).foldl (fun p o => take o.1 p o.2) ⟨p.seen, []⟩) := by
    refine (Grown.nil _ p.seen).foldl_take ?_
    rintro ⟨r, s⟩ ho
    obtain ⟨hr, hs⟩ := mem_offers.1 ho
    obtain ⟨hdist, hlen, hleads⟩ := h.found r hr
    exact ⟨congrArg (· + 1) hdist, by simp [Reached.extend, hlen],
      hleads.snoc ((hsteps ..).1 hs)⟩
  have hseen : ∀ id, id ∈ ((offers steps p.layer).foldl (fun p o => take o.1 p o.2)
      ⟨p.seen, []⟩).seen ↔ Within step start (n + 1) id := by
    intro id
    rw [mem_seen_foldl_take, within_succ, h.seen id]
    refine or_congr_right ⟨?_, ?_⟩
    · rintro ⟨⟨r, s⟩, ho, rfl⟩
      obtain ⟨hr, hs⟩ := mem_offers.1 ho
      exact ⟨r.id, s.2, (h.layer r.id).1 ⟨r, hr, rfl⟩, (hsteps ..).1 hs⟩
    · rintro ⟨c, x, hc, hs⟩
      obtain ⟨r, hr, rfl⟩ := (h.layer c).2 hc
      exact ⟨(r, id, x), mem_offers.2 ⟨hr, (hsteps ..).2 hs⟩, rfl⟩
  refine ⟨hseen, fun id => ?_, hgrown.found, hgrown.nodup⟩
  rw [hgrown.new id, hseen id, h.seen id, atDistance_succ]

/-- The layers hold every distance up to the depth. Where one is empty, nothing is farther away. -/
theorem covers_layers (depth : Nat) : ∀ {n : Nat} {p : Progress α}, Level step start n p →
    Covers step start n (n + depth) (layers steps depth p) := by
  induction depth with
  | zero => exact fun _ => .nil fun _ d hm hn => absurd hn (Nat.not_le_of_lt hm)
  | succ depth ih =>
    intro n p h
    have hnext := h.next hsteps
    have hlayer := hnext.covers
    simp only [layers]
    generalize p.layer.foldl (expand steps) ⟨p.seen, []⟩ = next at hnext hlayer ⊢
    split
    · next hempty =>
      refine .nil fun id d hm _ hd => ?_
      obtain ⟨c, hc⟩ := hd.exists_of_le hm
      obtain ⟨r, hr, -⟩ := (hnext.layer c).2 hc
      rw [List.isEmpty_iff.1 hempty] at hr
      cases hr
    · have hrest := ih hnext
      rw [Nat.add_right_comm] at hrest
      exact hlayer.append hrest (Nat.le_succ n) (by omega)

/-- A search holds what is at a distance from the start up to the depth, and not the start. -/
theorem covers_around (start : String) (depth : Nat) :
    Covers step start 0 depth (around steps start depth) := by
  have h := covers_layers hsteps depth (Level.zero step start)
  rwa [Nat.zero_add] at h

end Exact

/-! ## Searching with a queue -/

/-- A search takes from its queue until it is empty. What is taken is reported, and what its steps
reach for the first time goes to the end of the queue, unless it is `depth` steps away. -/
inductive Queued (steps : String → List (String × α)) (depth : Nat) :
    Progress α → List (Reached α) → Prop
  | done {seen : KeySet String} : Queued steps depth ⟨seen, []⟩ []
  | last {seen : KeySet String} {r : Reached α} {queue out : List (Reached α)}
    (hd : depth ≤ r.distance) (h : Queued steps depth ⟨seen, queue⟩ out) :
    Queued steps depth ⟨seen, r :: queue⟩ (r :: out)
  | pop {seen : KeySet String} {r : Reached α} {queue out : List (Reached α)}
    (hd : r.distance < depth) (h : Queued steps depth (expand steps ⟨seen, queue⟩ r) out) :
    Queued steps depth ⟨seen, r :: queue⟩ (r :: out)

/-- What is in the queue does not matter for what goes to its end. -/
theorem expand_append (seen : KeySet String) (queue layer : List (Reached α)) (r : Reached α) :
    expand steps ⟨seen, queue ++ layer⟩ r =
      ⟨(expand steps ⟨seen, layer⟩ r).seen, queue ++ (expand steps ⟨seen, layer⟩ r).layer⟩ := by
  unfold expand
  induction steps r.id generalizing seen layer with
  | nil => rfl
  | cons s l ih =>
    rw [List.foldl_cons, List.foldl_cons]
    unfold take
    by_cases hs : seen.contains s.1 = true
    · simp only [if_pos hs]
      exact ih seen layer
    · simp only [if_neg hs, List.append_assoc]
      exact ih _ _

/-- Taking a whole layer from the queue leaves the next layer there. -/
theorem Queued.layer {depth : Nat} {out : List (Reached α)} (l : List (Reached α)) :
    ∀ {seen : KeySet String} {layer : List (Reached α)}, (∀ r ∈ l, r.distance < depth) →
      Queued steps depth (l.foldl (expand steps) ⟨seen, layer⟩) out →
      Queued steps depth ⟨seen, l ++ layer⟩ (l ++ out) := by
  induction l with
  | nil => exact fun _ h => h
  | cons r l ih =>
    intro seen layer hd h
    refine .pop (hd r (List.mem_cons_self ..)) ?_
    show Queued steps depth (expand steps ⟨seen, l ++ layer⟩ r) (l ++ out)
    rw [expand_append]
    exact ih (fun q hq => hd q (List.mem_cons_of_mem _ hq)) h

theorem Queued.lastLayer {depth : Nat} (l : List (Reached α)) {seen : KeySet String}
    (hd : ∀ r ∈ l, depth ≤ r.distance) : Queued steps depth ⟨seen, l⟩ l := by
  induction l with
  | nil => exact .done
  | cons r l ih =>
    exact .last (hd r (List.mem_cons_self ..)) (ih fun q hq => hd q (List.mem_cons_of_mem _ hq))

theorem distance_next {l : List (Reached α)} (hd : ∀ r ∈ l, r.distance = n) :
    ∀ r ∈ (l.foldl (expand steps) ⟨seen, []⟩).layer, r.distance = n + 1 := by
  rw [foldl_expand]
  refine ((Grown.nil (fun r => r.distance = n + 1) seen).foldl_take ?_).found
  rintro ⟨r, s⟩ ho
  exact congrArg (· + 1) (hd r (mem_offers.1 ho).1)

theorem queued_layers (rest : Nat) : ∀ {n : Nat} {seen : KeySet String} {l : List (Reached α)},
    (∀ r ∈ l, r.distance = n) →
      Queued steps (n + rest) ⟨seen, l⟩ (l ++ layers steps rest ⟨seen, l⟩) := by
  induction rest with
  | zero =>
    intro n seen l hd
    rw [layers, List.append_nil]
    exact .lastLayer l fun r hr => Nat.le_of_eq (hd r hr).symm
  | succ rest ih =>
    intro n seen l hd
    have hnext : ∀ r ∈ (l.foldl (expand steps) ⟨seen, []⟩).layer, r.distance = n + 1 :=
      distance_next hd
    have hlt : ∀ r ∈ l, r.distance < n + (rest + 1) := fun r hr => by
      have := hd r hr
      omega
    have hlayers : Queued steps (n + (rest + 1)) (l.foldl (expand steps) ⟨seen, []⟩)
        (layers steps (rest + 1) ⟨seen, l⟩) := by
      simp only [layers]
      generalize l.foldl (expand steps) ⟨seen, []⟩ = next at hnext ⊢
      obtain ⟨seen', layer⟩ := next
      split
      · next hempty =>
        obtain rfl : layer = [] := List.isEmpty_iff.1 hempty
        exact .done
      · have hrest : Queued steps (n + 1 + rest) ⟨seen', layer⟩ _ := ih hnext
        rwa [Nat.add_right_comm] at hrest
    have h := Queued.layer l hlt hlayers
    rwa [List.append_nil] at h

/-- What a search reports is told by its queue. -/
theorem Queued.unique {depth : Nat} {out out' : List (Reached α)} (h : Queued steps depth p out)
    (h' : Queued steps depth p out') : out = out' := by
  induction h generalizing out' with
  | done =>
    cases h'
    rfl
  | last hd _ ih =>
    cases h' with
    | last _ h' => rw [ih h']
    | pop hlt _ => omega
  | pop hlt _ ih =>
    cases h' with
    | last hd _ => omega
    | pop _ h' => rw [ih h']

/-- A search with a queue reports the start and then what the search by layers reports. -/
theorem queued_iff {start : String} {depth : Nat} {out : List (Reached α)} :
    Queued steps depth ⟨.ofList [start], [⟨start, 0, []⟩]⟩ out ↔
      out = ⟨start, 0, []⟩ :: around steps start depth := by
  have hstart : ∀ r ∈ [(⟨start, 0, []⟩ : Reached α)], r.distance = 0 := by simp
  have h : Queued steps (0 + depth) ⟨.ofList [start], _⟩ _ := queued_layers depth hstart
  rw [Nat.zero_add] at h
  refine ⟨fun hout => hout.unique h, ?_⟩
  rintro rfl
  exact h

end Search

end SymbolAtlas
