import Mathlib.Data.List.Basic
import Mathlib.Data.List.Induction
import Mathlib.Data.List.Nodup
import InstrumentRelay.Routing.Table

/-!
# What a table says

For each kind of packet, a table has the targets of the routes that cover this kind, each of them
once and in the order in which they first appear (`IsFirstAppearances`): there is exactly one such
list. Kinds do not get into each other's way, since a route for every kind is, for each of them, a
route for this one (`RouteTable.isFirstAppearances_targetsFor`, by induction on the routes).

So a route whose targets are all there already may stand anywhere behind them or be left out, and
which targets there are does not depend on the order of the routes at all.
-/

namespace InstrumentRelay

/-! ## First appearances -/

section FirstAppearances

variable {α : Type} [DecidableEq α] {calls l m : List α} {a : α}

/-- `l` has the elements of `calls`, each of them once, in the order in which they first appear. -/
structure IsFirstAppearances (calls l : List α) : Prop where
  nodup : l.Nodup
  mem_iff : ∀ a, a ∈ l ↔ a ∈ calls
  inOrder : l.Pairwise fun a b ↦ calls.idxOf a < calls.idxOf b

namespace IsFirstAppearances

theorem nil : IsFirstAppearances ([] : List α) [] where
  nodup := List.nodup_nil
  mem_iff _ := Iff.rfl
  inOrder := .nil

theorem unique (hl : IsFirstAppearances calls l) (hm : IsFirstAppearances calls m) : l = m := by
  have hperm : l.Perm m := (List.perm_ext_iff_of_nodup hl.nodup hm.nodup).2 fun a ↦
    (hl.mem_iff a).trans (hm.mem_iff a).symm
  refine hperm.eq_of_pairwise (fun a b _ _ hab hba ↦ ?_) hl.inOrder hm.inOrder
  exact absurd hab (Nat.lt_asymm hba)

/-- What comes behind does not change the order of what has appeared. -/
theorem inOrder_append (h : IsFirstAppearances calls l) (more : List α) :
    l.Pairwise fun a b ↦ (calls ++ more).idxOf a < (calls ++ more).idxOf b := by
  refine h.inOrder.imp_of_mem fun ha hb hlt ↦ ?_
  rwa [List.idxOf_append_of_mem ((h.mem_iff _).1 ha), List.idxOf_append_of_mem ((h.mem_iff _).1 hb)]

theorem concat_of_mem (h : IsFirstAppearances calls l) (ha : a ∈ l) :
    IsFirstAppearances (calls ++ [a]) l where
  nodup := h.nodup
  mem_iff b := by
    rw [List.mem_append, List.mem_singleton, ← h.mem_iff, iff_self_or]
    rintro rfl
    exact ha
  inOrder := h.inOrder_append [a]

theorem concat_of_notMem (h : IsFirstAppearances calls l) (ha : a ∉ l) :
    IsFirstAppearances (calls ++ [a]) (l ++ [a]) where
  nodup := List.nodup_append.2 ⟨h.nodup, List.nodup_singleton a, fun b hb c hc heq ↦
    ha (List.mem_singleton.1 hc ▸ heq ▸ hb)⟩
  mem_iff b := by rw [List.mem_append, List.mem_append, h.mem_iff]
  inOrder := by
    refine List.pairwise_append.2 ⟨h.inOrder_append [a], List.pairwise_singleton _ a, ?_⟩
    intro b hb c hc
    have hbefore : b ∈ calls := (h.mem_iff b).1 hb
    have hnew : a ∉ calls := fun hmem ↦ ha ((h.mem_iff a).2 hmem)
    rw [List.mem_singleton.1 hc, List.idxOf_append_of_mem hbefore,
      List.idxOf_append_of_notMem hnew]
    exact Nat.lt_add_right _ (List.idxOf_lt_length_of_mem hbefore)

end IsFirstAppearances

end FirstAppearances

namespace RouteTable

/-! ## One kind -/

/-- The targets of the routes that cover this kind, route by route. -/
def targetsOf (routes : List Route) (kind : PacketKind) : List Target :=
  (routes.filter (·.filter.covers kind)).map (·.target)

variable {routes : List Route} {kind : PacketKind} {target : Target}

theorem mem_targetsOf :
    target ∈ targetsOf routes kind ↔
      ∃ r ∈ routes, r.filter.covers kind = true ∧ r.target = target := by
  simp only [targetsOf, List.mem_map, List.mem_filter, and_assoc]

theorem targetsOf_concat (routes : List Route) (r : Route) (kind : PacketKind) :
    targetsOf (routes ++ [r]) kind =
      targetsOf routes kind ++ if r.filter.covers kind then [r.target] else [] := by
  rw [targetsOf, List.filter_append, List.map_append, List.filter_singleton]
  cases r.filter.covers kind <;> rfl

theorem ofRoutes_concat (routes : List Route) (r : Route) :
    ofRoutes (routes ++ [r]) = (ofRoutes routes).add r := by
  rw [ofRoutes, List.foldl_append]
  rfl

theorem isFirstAppearances_targetsFor (routes : List Route) (kind : PacketKind) :
    IsFirstAppearances (targetsOf routes kind) ((ofRoutes routes).targetsFor kind) := by
  induction routes using List.reverseRecOn with
  | nil =>
    rw [ofRoutes, List.foldl_nil, targetsFor_empty]
    exact .nil
  | append_singleton routes r ih =>
    rw [ofRoutes_concat, targetsFor_add, targetsOf_concat]
    by_cases hcovers : r.filter.covers kind = true
    · by_cases hmem : r.target ∈ (ofRoutes routes).targetsFor kind
      · rw [if_pos hcovers, if_neg fun h ↦ h.2 hmem]
        exact ih.concat_of_mem hmem
      · rw [if_pos hcovers, if_pos ⟨hcovers, hmem⟩]
        exact ih.concat_of_notMem hmem
    · rw [if_neg hcovers, if_neg fun h ↦ hcovers h.1, List.append_nil]
      exact ih

theorem mem_targetsFor_ofRoutes :
    target ∈ (ofRoutes routes).targetsFor kind ↔
      ∃ r ∈ routes, r.filter.covers kind = true ∧ r.target = target :=
  ((isFirstAppearances_targetsFor routes kind).mem_iff target).trans mem_targetsOf

/-! ## Routes that add nothing -/

/-- For each kind that it covers, the route's target is that of another route here. -/
def IsCovered (routes : List Route) (r : Route) : Prop :=
  ∀ kind, r.filter.covers kind = true →
    ∃ earlier ∈ routes, earlier.filter.covers kind = true ∧ earlier.target = r.target

/-- What a route does to the targets of one kind depends on nothing else in the table. -/
theorem targetsFor_foldl_congr {t u : RouteTable} (h : t.targetsFor kind = u.targetsFor kind)
    (routes : List Route) :
    (routes.foldl add t).targetsFor kind = (routes.foldl add u).targetsFor kind := by
  induction routes generalizing t u with
  | nil => exact h
  | cons r routes ih =>
    refine ih ?_
    rw [targetsFor_add, targetsFor_add, h]

theorem targetsFor_foldl_of_covered {t : RouteTable} {repeated : List Route}
    (h : ∀ r ∈ repeated, r.filter.covers kind = true → r.target ∈ t.targetsFor kind) :
    (repeated.foldl add t).targetsFor kind = t.targetsFor kind := by
  induction repeated generalizing t with
  | nil => rfl
  | cons r repeated ih =>
    obtain ⟨hr, hrest⟩ := List.forall_mem_cons.1 h
    have hadd : (t.add r).targetsFor kind = t.targetsFor kind := by
      rw [targetsFor_add, if_neg fun hnew ↦ hnew.2 (hr hnew.1)]
    rw [List.foldl_cons, targetsFor_foldl_congr hadd, ih hrest]

/-- **A table has the targets of its routes in order of first appearance.** For every list of
routes and every kind, the targets are those of the routes that cover the kind, each of them once,
and this determines the list. Hence the same routes in any other order, and any number of times
each, have the same targets; and routes that are covered by others before them change no list. -/
theorem targetsFor_exact (routes : List Route) (kind : PacketKind) :
    (∀ targets, IsFirstAppearances (targetsOf routes kind) targets ↔
      targets = (ofRoutes routes).targetsFor kind) ∧
    (∀ other : List Route, (∀ r, r ∈ other ↔ r ∈ routes) → ∀ target,
      target ∈ (ofRoutes other).targetsFor kind ↔ target ∈ (ofRoutes routes).targetsFor kind) ∧
    ∀ before repeated after, routes = before ++ after → (∀ r ∈ repeated, IsCovered before r) →
      (ofRoutes (before ++ repeated ++ after)).targetsFor kind
        = (ofRoutes routes).targetsFor kind := by
  have hfirst := isFirstAppearances_targetsFor routes kind
  refine ⟨fun targets ↦ ⟨fun h ↦ h.unique hfirst, ?_⟩, fun other hsame target ↦ ?_, ?_⟩
  · rintro rfl
    exact hfirst
  · simp only [mem_targetsFor_ofRoutes, hsame]
  · rintro before repeated after rfl hcovered
    have hrepeated : (repeated.foldl add (ofRoutes before)).targetsFor kind
        = (ofRoutes before).targetsFor kind :=
      targetsFor_foldl_of_covered fun r hr hkind ↦
        mem_targetsFor_ofRoutes.2 (hcovered r hr kind hkind)
    rw [ofRoutes, List.foldl_append, List.foldl_append, ofRoutes, List.foldl_append]
    exact targetsFor_foldl_congr hrepeated after

/-- A single kind and all kinds overlap, in both orders. A route for one kind that the route for all
kinds covers changes nothing, and the order of the routes changes no more than the order of the
targets. -/
theorem targetsFor_of_overlap :
    let before : List Route := [⟨.only .status, .driver, .frame⟩, ⟨.all, .textLog, .line⟩]
    let after : List Route := [⟨.all, .driver, .frame⟩, ⟨.only .status, .driver, .payload⟩]
    let again : Route := ⟨.only .status, .textLog, .line⟩
    IsFirstAppearances (targetsOf (before ++ after) .status)
      [⟨.driver, .frame⟩, ⟨.textLog, .line⟩, ⟨.driver, .payload⟩] ∧
    (∀ target, target ∈ (ofRoutes (before ++ after).reverse).targetsFor .status ↔
      target ∈ (ofRoutes (before ++ after)).targetsFor .status) ∧
    (ofRoutes (before ++ [again] ++ after)).targetsFor .status
      = [⟨.driver, .frame⟩, ⟨.textLog, .line⟩, ⟨.driver, .payload⟩] := by
  intro before after again
  obtain ⟨hfirst, hother, hcovered⟩ := targetsFor_exact (before ++ after) .status
  have htargets : (ofRoutes (before ++ after)).targetsFor .status
      = [⟨.driver, .frame⟩, ⟨.textLog, .line⟩, ⟨.driver, .payload⟩] := by decide
  have hagain : IsCovered before again := by
    intro kind hkind
    exact ⟨⟨.all, .textLog, .line⟩, List.mem_cons_of_mem _ List.mem_cons_self, rfl, rfl⟩
  refine ⟨(hfirst _).2 htargets.symm, hother _ fun r ↦ List.mem_reverse, ?_⟩
  rw [hcovered before [again] after rfl (List.forall_mem_singleton.2 hagain), htargets]

end RouteTable

end InstrumentRelay
