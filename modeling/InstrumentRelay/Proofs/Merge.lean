/-!
# Merges

A sequence is a merge of others if each of its entries can be told to come from one of them, so that
the entries that come from any one, taken alone, are all of it and in its order. Nothing is said
about how the others are interleaved.
-/

namespace InstrumentRelay

/-- The entries of `whole` come from the parts, and each part is there in full and in order. -/
def IsMerge {ι α : Type} [DecidableEq ι] (whole : List α) (part : ι → List α) : Prop :=
  ∃ tagged : List (ι × α), tagged.map Prod.snd = whole ∧
    ∀ i, (tagged.filter (·.1 = i)).map Prod.snd = part i

namespace IsMerge

variable {ι α β : Type} [DecidableEq ι] {whole whole' : List α} {part part' : ι → List α}

theorem nil : IsMerge ([] : List α) fun _ : ι ↦ [] := ⟨[], rfl, fun _ ↦ rfl⟩

theorem of_eq (h : IsMerge whole part) (heq : ∀ i, part i = part' i) : IsMerge whole part' := by
  rwa [← funext heq]

theorem append (h : IsMerge whole part) (h' : IsMerge whole' part') :
    IsMerge (whole ++ whole') fun i ↦ part i ++ part' i := by
  obtain ⟨tagged, hwhole, hpart⟩ := h
  obtain ⟨tagged', hwhole', hpart'⟩ := h'
  refine ⟨tagged ++ tagged', ?_, fun i ↦ ?_⟩
  · rw [List.map_append, hwhole, hwhole']
  · rw [List.filter_append, List.map_append, hpart, hpart']

/-- All of it comes from one part. -/
theorem single (i : ι) (entries : List α) :
    IsMerge entries fun j ↦ if j = i then entries else [] := by
  refine ⟨entries.map (i, ·), ?_, fun j ↦ ?_⟩
  · rw [List.map_map]
    exact List.map_id entries
  · by_cases h : j = i
    · subst h
      simp [List.filter_map, Function.comp_def]
    · simp [List.filter_map, Function.comp_def, h, Ne.symm h]

/-- Entries that stand for several others. -/
theorem flatMap (h : IsMerge whole part) (f : α → List β) :
    IsMerge (whole.flatMap f) fun i ↦ (part i).flatMap f := by
  obtain ⟨tagged, rfl, hpart⟩ := h
  rw [← funext hpart]
  clear hpart
  induction tagged with
  | nil => exact nil
  | cons x rest ih =>
    refine ((single x.1 (f x.2)).append ih).of_eq fun i ↦ ?_
    by_cases hi : i = x.1
    · subst hi
      simp
    · simp [hi, Ne.symm hi]

/-- A merge of images is the image of a merge. -/
theorem exists_of_map {whole : List β} {f : α → β} (h : IsMerge whole fun i ↦ (part i).map f) :
    ∃ origin, whole = origin.map f ∧ IsMerge origin part := by
  obtain ⟨tagged, rfl, hpart⟩ := h
  induction tagged generalizing part with
  | nil =>
    refine ⟨[], rfl, nil.of_eq fun i ↦ ?_⟩
    exact (List.map_eq_nil_iff.1 (hpart i).symm).symm
  | cons x rest ih =>
    obtain ⟨j, b⟩ := x
    -- The entry is the first of its own part. The others are not touched.
    have hfirst := hpart j
    rw [List.filter_cons_of_pos (by simp), List.map_cons] at hfirst
    obtain ⟨a, more, hj, rfl, hmore⟩ := List.map_eq_cons_iff.1 hfirst.symm
    have hrest : ∀ i, (rest.filter (·.1 = i)).map Prod.snd
        = (if i = j then more else part i).map f := by
      intro i
      by_cases hi : i = j
      · rw [if_pos hi, hi, hmore]
      · have hother := hpart i
        rw [List.filter_cons_of_neg (by simpa using Ne.symm hi)] at hother
        rw [if_neg hi, hother]
    obtain ⟨origin, horigin, hmerge⟩ := ih hrest
    refine ⟨a :: origin, ?_, ?_⟩
    · rw [List.map_cons, List.map_cons, horigin]
    · refine ((single j [a]).append hmerge).of_eq fun i ↦ ?_
      by_cases hi : i = j
      · subst hi
        rw [if_pos rfl, if_pos rfl, hj]
        rfl
      · rw [if_neg hi, if_neg hi]
        rfl

/-- A sequence is a merge of what it has from each origin. -/
theorem of_origin (origin : α → ι) (entries : List α) :
    IsMerge entries fun i ↦ entries.filter (origin · = i) := by
  refine ⟨entries.map fun a ↦ (origin a, a), ?_, fun i ↦ ?_⟩
  · simp [List.map_map, Function.comp_def]
  · simp [List.filter_map, List.map_map, Function.comp_def]

end IsMerge

end InstrumentRelay
