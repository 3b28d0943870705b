import Mathlib.Data.Set.Prod

/-!
# Filters made of optional clauses

A filter on rows of three columns has at most one clause for each column, the set of values it asks for, and joins its
clauses by `and` or by `or`.  When two filters keep the same rows can be read off their clauses, if the second has no
clause where the first has none and does not tell two values of the third column apart that the first one does
(`keeps_eq_iff`): then both keep nothing, or both keep everything, or they ask for the same.
-/

namespace Clauses

variable {α β γ : Type}

/-- A clause for each column; a missing clause asks for nothing.  `any` says that one clause is enough. -/
structure Filter (α β γ : Type) where
  any : Bool
  first : Option (Set α)
  second : Option (Set β)
  third : Option (Set γ)

namespace Filter

/-- The filter has no clause at all. -/
def NoClause (f : Filter α β γ) : Prop := f.first = none ∧ f.second = none ∧ f.third = none

/-- The rows a filter keeps. -/
def keeps (f : Filter α β γ) : Set (α × β × γ) :=
  {x | if f.any then
      f.NoClause ∨ (∃ s ∈ f.first, x.1 ∈ s) ∨ (∃ s ∈ f.second, x.2.1 ∈ s) ∨ ∃ s ∈ f.third, x.2.2 ∈ s
    else
      (∀ s ∈ f.first, x.1 ∈ s) ∧ (∀ s ∈ f.second, x.2.1 ∈ s) ∧ ∀ s ∈ f.third, x.2.2 ∈ s}

/-- The clauses ask for no value, so that no row is kept. -/
def KeepsNone (f : Filter α β γ) : Prop :=
  if f.any then
    ¬f.NoClause ∧ (∀ s ∈ f.first, s = ∅) ∧ (∀ s ∈ f.second, s = ∅) ∧ ∀ s ∈ f.third, s = ∅
  else
    f.first = some ∅ ∨ f.second = some ∅ ∨ f.third = some ∅

/-- The clauses ask for every value, so that every row is kept. -/
def KeepsAll (f : Filter α β γ) : Prop :=
  if f.any then
    f.NoClause ∨ f.first = some Set.univ ∨ f.second = some Set.univ ∨ f.third = some Set.univ
  else
    (∀ s ∈ f.first, s = Set.univ) ∧ (∀ s ∈ f.second, s = Set.univ) ∧ ∀ s ∈ f.third, s = Set.univ

/-- The clauses of the first two columns ask for the same values, and there is none for the third.  A clause that one of
the filters lacks counts as one for no value where `f` joins its clauses by `or`, and as one for every value where it
joins them by `and`. -/
def SameNames (f g : Filter α β γ) : Prop :=
  f.third = none ∧ g.third = none ∧
    if f.any then
      ¬g.NoClause ∧ f.first.getD ∅ = g.first.getD ∅ ∧ f.second.getD ∅ = g.second.getD ∅
    else
      f.first.getD Set.univ = g.first.getD Set.univ ∧ f.second.getD Set.univ = g.second.getD Set.univ

/-! ### What a filter keeps -/

variable {f g : Filter α β γ}

theorem mem_keeps_of_any (h : f.any = true) {x : α × β × γ} :
    x ∈ f.keeps ↔ f.NoClause ∨ (∃ s ∈ f.first, x.1 ∈ s) ∨ (∃ s ∈ f.second, x.2.1 ∈ s) ∨ ∃ s ∈ f.third, x.2.2 ∈ s := by
  unfold keeps
  rw [Set.mem_ofPred_eq, if_pos h]

theorem mem_keeps_of_all (h : f.any = false) {x : α × β × γ} :
    x ∈ f.keeps ↔ (∀ s ∈ f.first, x.1 ∈ s) ∧ (∀ s ∈ f.second, x.2.1 ∈ s) ∧ ∀ s ∈ f.third, x.2.2 ∈ s := by
  unfold keeps
  rw [Set.mem_ofPred_eq, if_neg (by rw [h]; exact Bool.false_ne_true)]

theorem keeps_eq_univ_of_noClause (h : f.NoClause) : f.keeps = Set.univ := by
  refine Set.eq_univ_of_forall fun x => ?_
  cases hany : f.any
  · obtain ⟨hfirst, hsecond, hthird⟩ := h
    rw [mem_keeps_of_all hany, hfirst, hsecond, hthird]
    simp
  · exact (mem_keeps_of_any hany).2 (Or.inl h)

private theorem mem_getD_univ {σ : Type} {o : Option (Set σ)} {a : σ} : a ∈ o.getD Set.univ ↔ ∀ s ∈ o, a ∈ s := by
  cases o <;> simp

private theorem mem_getD_empty {σ : Type} {o : Option (Set σ)} {a : σ} : a ∈ o.getD ∅ ↔ ∃ s ∈ o, a ∈ s := by
  cases o <;> simp

private theorem getD_univ_eq_empty {σ : Type} [Nonempty σ] {o : Option (Set σ)} :
    o.getD Set.univ = ∅ ↔ o = some ∅ := by
  cases o <;> simp [Set.univ_eq_empty_iff]

private theorem getD_empty_eq_univ {σ : Type} [Nonempty σ] {o : Option (Set σ)} :
    o.getD ∅ = Set.univ ↔ o = some Set.univ := by
  cases o <;> simp [eq_comm (a := (∅ : Set σ)), Set.univ_eq_empty_iff]

/-- Clauses joined by `and` keep a product. -/
theorem keeps_of_all (h : f.any = false) :
    f.keeps = f.first.getD Set.univ ×ˢ f.second.getD Set.univ ×ˢ f.third.getD Set.univ := by
  ext x
  rw [mem_keeps_of_all h, Set.mem_prod, Set.mem_prod, mem_getD_univ, mem_getD_univ, mem_getD_univ]

/-- Clauses joined by `or` reject a product. -/
theorem compl_keeps_of_any (h : f.any = true) (hclause : ¬f.NoClause) :
    f.keepsᶜ = (f.first.getD ∅)ᶜ ×ˢ (f.second.getD ∅)ᶜ ×ˢ (f.third.getD ∅)ᶜ := by
  ext x
  rw [Set.mem_compl_iff, mem_keeps_of_any h, Set.mem_prod, Set.mem_prod, Set.mem_compl_iff, Set.mem_compl_iff,
    Set.mem_compl_iff, mem_getD_empty, mem_getD_empty, mem_getD_empty, not_or, not_or, not_or]
  exact ⟨fun hx => hx.2, fun hx => ⟨hclause, hx⟩⟩

/-- With one clause at most, `or` is `and`. -/
theorem keeps_of_one (h : f.any = true) (hone : f.first = none ∨ f.second = none) (hthird : f.third = none) :
    f.keeps = f.first.getD Set.univ ×ˢ f.second.getD Set.univ ×ˢ (Set.univ : Set γ) := by
  ext x
  rw [mem_keeps_of_any h, Set.mem_prod, Set.mem_prod, mem_getD_univ, mem_getD_univ]
  unfold NoClause
  rcases hone with hnone | hnone
  · cases hsecond : f.second <;> simp [hnone, hthird]
  · cases hfirst : f.first <;> simp [hnone, hthird]

/-- Two values of the third column that no clause tells apart. -/
theorem keeps_third_congr {a : α} {b : β} {c d : γ} (h : ∀ s ∈ f.third, c ∈ s ↔ d ∈ s) :
    (a, b, c) ∈ f.keeps ↔ (a, b, d) ∈ f.keeps := by
  cases hany : f.any
  · rw [mem_keeps_of_all hany, mem_keeps_of_all hany]
    exact and_congr_right fun _ => and_congr_right fun _ => forall₂_congr h
  · rw [mem_keeps_of_any hany, mem_keeps_of_any hany]
    exact or_congr_right (or_congr_right (or_congr_right (exists_congr fun s => and_congr_right (h s))))

/-- A filter that keeps some rows and not others tells apart what its clause for the third column does. -/
theorem exists_told_apart {s : Set γ} {c d : γ} (hthird : f.third = some s) (hc : c ∈ s) (hd : d ∉ s)
    (hsome : f.keeps ≠ ∅) (hother : f.keeps ≠ Set.univ) : ∃ a b, (a, b, c) ∈ f.keeps ∧ (a, b, d) ∉ f.keeps := by
  have hmem : ∀ e, (∃ t ∈ f.third, e ∈ t) ↔ e ∈ s := by
    intro e
    rw [hthird]
    simp
  cases hany : f.any
  · -- joined by `and`, a row that is kept shows which rows pass the other clauses
    obtain ⟨⟨a, b, e⟩, hx⟩ := Set.nonempty_iff_ne_empty.2 hsome
    rw [mem_keeps_of_all hany] at hx
    refine ⟨a, b, (mem_keeps_of_all hany).2 ⟨hx.1, hx.2.1, fun t ht => ?_⟩, fun hin => ?_⟩
    · rw [hthird] at ht
      cases ht
      exact hc
    · exact hd (((mem_keeps_of_all hany).1 hin).2.2 s hthird)
  · -- joined by `or`, a row that is rejected shows which rows fail them
    obtain ⟨⟨a, b, e⟩, hx⟩ := (Set.ne_univ_iff_exists_notMem _).1 hother
    rw [mem_keeps_of_any hany, not_or, not_or, not_or] at hx
    refine ⟨a, b, (mem_keeps_of_any hany).2 (Or.inr (Or.inr (Or.inr ⟨s, hthird, hc⟩))), fun hin => ?_⟩
    rcases (mem_keeps_of_any hany).1 hin with h | h | h | h
    · exact hx.1 h
    · exact hx.2.1 h
    · exact hx.2.2.1 h
    · exact hd ((hmem d).1 h)

/-! ### Two filters -/

private theorem prod_univ_eq_iff [Nonempty γ] {s s' : Set α} {t t' : Set β} :
    s ×ˢ t ×ˢ (Set.univ : Set γ) = s' ×ˢ t' ×ˢ (Set.univ : Set γ) ↔
      (s = s' ∧ t = t') ∨ (s ×ˢ t ×ˢ (Set.univ : Set γ) = ∅ ∧ s' ×ˢ t' ×ˢ (Set.univ : Set γ) = ∅) := by
  constructor
  · intro heq
    rcases Set.eq_empty_or_nonempty (s ×ˢ t ×ˢ (Set.univ : Set γ)) with hnone | hsome
    · exact Or.inr ⟨hnone, heq ▸ hnone⟩
    · obtain ⟨hs, ht⟩ := (Set.prod_eq_prod_iff_of_nonempty hsome).1 heq
      obtain ⟨ht, -⟩ := (Set.prod_eq_prod_iff_of_nonempty hsome.snd).1 ht
      exact Or.inl ⟨hs, ht⟩
  · rintro (⟨rfl, rfl⟩ | ⟨h, h'⟩)
    · rfl
    · rw [h, h']

/-- The second filter reads the clauses of the first: it has none where the first has none, both join them alike or
there are not two to join, and there are two values of the third column that only the first tells apart. -/
structure Mirrors (f g : Filter α β γ) : Prop where
  first : f.first = none → g.first = none
  second : f.second = none → g.second = none
  third : f.third = none → g.third = none
  any : f.any = true → g.any = true ∧ f.first ≠ none
  all : f.any = false → g.any = true → f.first = none ∨ f.second = none
  apart : ∀ s ∈ f.third, ∃ c ∈ s, ∃ d ∉ s, ∀ t ∈ g.third, c ∈ t ↔ d ∈ t

/-- A filter with a clause for the third column is matched by another one only if both keep nothing or everything. -/
theorem keeps_eq_of_third (h : Mirrors f g) (hthird : f.third ≠ none) (heq : f.keeps = g.keeps) :
    (f.keeps = ∅ ∧ g.keeps = ∅) ∨ (f.keeps = Set.univ ∧ g.keeps = Set.univ) := by
  obtain ⟨s, hs⟩ := Option.ne_none_iff_exists'.1 hthird
  obtain ⟨c, hc, d, hd, hsame⟩ := h.apart s hs
  by_contra hnot
  rw [not_or] at hnot
  obtain ⟨a, b, hin, hout⟩ := exists_told_apart hs hc hd (fun hnone => hnot.1 ⟨hnone, heq ▸ hnone⟩)
    fun hall => hnot.2 ⟨hall, heq ▸ hall⟩
  rw [heq] at hin hout
  exact hout ((keeps_third_congr hsame).1 hin)

/-! ### Nothing and everything -/

variable [Nonempty α] [Nonempty β] [Nonempty γ]

theorem keeps_eq_empty_iff : f.keeps = ∅ ↔ f.KeepsNone := by
  unfold KeepsNone
  cases h : f.any
  · rw [keeps_of_all h, Set.prod_eq_empty_iff, Set.prod_eq_empty_iff, getD_univ_eq_empty, getD_univ_eq_empty,
      getD_univ_eq_empty, if_neg Bool.false_ne_true]
  · rw [if_pos rfl]
    constructor
    · intro hempty
      have hout : ∀ x, x ∉ f.keeps := fun x => Set.eq_empty_iff_forall_notMem.1 hempty x
      simp only [mem_keeps_of_any h, not_or] at hout
      obtain ⟨a⟩ := ‹Nonempty α›
      obtain ⟨b⟩ := ‹Nonempty β›
      obtain ⟨c⟩ := ‹Nonempty γ›
      refine ⟨(hout (a, b, c)).1, fun s hs => ?_, fun s hs => ?_, fun s hs => ?_⟩
      · exact Set.eq_empty_iff_forall_notMem.2 fun a ha => (hout (a, b, c)).2.1 ⟨s, hs, ha⟩
      · exact Set.eq_empty_iff_forall_notMem.2 fun b hb => (hout (a, b, c)).2.2.1 ⟨s, hs, hb⟩
      · exact Set.eq_empty_iff_forall_notMem.2 fun c hc => (hout (a, b, c)).2.2.2 ⟨s, hs, hc⟩
    · rintro ⟨hclause, hfirst, hsecond, hthird⟩
      refine Set.eq_empty_iff_forall_notMem.2 fun x hx => ?_
      rcases (mem_keeps_of_any h).1 hx with hnone | ⟨s, hs, hmem⟩ | ⟨s, hs, hmem⟩ | ⟨s, hs, hmem⟩
      · exact hclause hnone
      · rw [hfirst s hs] at hmem
        exact hmem
      · rw [hsecond s hs] at hmem
        exact hmem
      · rw [hthird s hs] at hmem
        exact hmem

theorem keeps_eq_univ_iff : f.keeps = Set.univ ↔ f.KeepsAll := by
  unfold KeepsAll
  cases h : f.any
  · rw [if_neg Bool.false_ne_true]
    constructor
    · intro huniv
      have hin : ∀ x, x ∈ f.keeps := fun x => huniv ▸ Set.mem_univ x
      simp only [mem_keeps_of_all h] at hin
      obtain ⟨a⟩ := ‹Nonempty α›
      obtain ⟨b⟩ := ‹Nonempty β›
      obtain ⟨c⟩ := ‹Nonempty γ›
      refine ⟨fun s hs => ?_, fun s hs => ?_, fun s hs => ?_⟩
      · exact Set.eq_univ_of_forall fun a => (hin (a, b, c)).1 s hs
      · exact Set.eq_univ_of_forall fun b => (hin (a, b, c)).2.1 s hs
      · exact Set.eq_univ_of_forall fun c => (hin (a, b, c)).2.2 s hs
    · rintro ⟨hfirst, hsecond, hthird⟩
      refine Set.eq_univ_of_forall fun x => (mem_keeps_of_all h).2 ⟨fun s hs => ?_, fun s hs => ?_, fun s hs => ?_⟩
      · rw [hfirst s hs]
        trivial
      · rw [hsecond s hs]
        trivial
      · rw [hthird s hs]
        trivial
  · rw [if_pos rfl]
    by_cases hclause : f.NoClause
    · exact ⟨fun _ => Or.inl hclause, fun _ => keeps_eq_univ_of_noClause hclause⟩
    · rw [← Set.compl_empty_iff, compl_keeps_of_any h hclause, Set.prod_eq_empty_iff, Set.prod_eq_empty_iff,
        Set.compl_empty_iff, Set.compl_empty_iff, Set.compl_empty_iff, getD_empty_eq_univ, getD_empty_eq_univ,
        getD_empty_eq_univ, or_iff_right hclause]

/-! ### When two filters agree -/

omit [Nonempty α] [Nonempty β] in
/-- Two clauses joined by `and`, or a single one: products are equal if their sides are, or if both are empty. -/
theorem keeps_eq_iff_of_all (h : Mirrors f g) (hthird : f.third = none) (hany : f.any = false) :
    f.keeps = g.keeps ↔
      (f.first.getD Set.univ = g.first.getD Set.univ ∧ f.second.getD Set.univ = g.second.getD Set.univ) ∨
        (f.keeps = ∅ ∧ g.keeps = ∅) := by
  have hf : f.keeps = f.first.getD Set.univ ×ˢ f.second.getD Set.univ ×ˢ (Set.univ : Set γ) := by
    rw [keeps_of_all hany, hthird]
    rfl
  have hg : g.keeps = g.first.getD Set.univ ×ˢ g.second.getD Set.univ ×ˢ (Set.univ : Set γ) := by
    cases hgany : g.any
    · rw [keeps_of_all hgany, h.third hthird]
      rfl
    · exact keeps_of_one hgany ((h.all hany hgany).imp h.first h.second) (h.third hthird)
  rw [hf, hg]
  exact prod_univ_eq_iff

omit [Nonempty α] [Nonempty β] in
/-- Clauses joined by `or` on both sides: what is rejected is a product. -/
theorem keeps_eq_iff_of_any (h : Mirrors f g) (hthird : f.third = none) (hany : f.any = true) (hclause : ¬g.NoClause) :
    f.keeps = g.keeps ↔
      (f.first.getD ∅ = g.first.getD ∅ ∧ f.second.getD ∅ = g.second.getD ∅) ∨
        (f.keeps = Set.univ ∧ g.keeps = Set.univ) := by
  obtain ⟨hgany, hfirst⟩ := h.any hany
  have hempty : (∅ : Set γ)ᶜ = Set.univ := Set.compl_empty
  have hf : f.keepsᶜ = (f.first.getD ∅)ᶜ ×ˢ (f.second.getD ∅)ᶜ ×ˢ (Set.univ : Set γ) := by
    rw [compl_keeps_of_any hany fun hno => hfirst hno.1, hthird, Option.getD_none, hempty]
  have hg : g.keepsᶜ = (g.first.getD ∅)ᶜ ×ˢ (g.second.getD ∅)ᶜ ×ˢ (Set.univ : Set γ) := by
    rw [compl_keeps_of_any hgany hclause, h.third hthird, Option.getD_none, hempty]
  rw [← compl_inj_iff, ← Set.compl_empty_iff, ← Set.compl_empty_iff, hf, hg, prod_univ_eq_iff, compl_inj_iff,
    compl_inj_iff]

theorem keeps_eq_iff_of_third (h : Mirrors f g) (hthird : f.third = none) :
    f.keeps = g.keeps ↔ (f.KeepsNone ∧ g.KeepsNone) ∨ (f.KeepsAll ∧ g.KeepsAll) ∨ f.SameNames g := by
  have hthird' := h.third hthird
  rw [← keeps_eq_empty_iff, ← keeps_eq_empty_iff, ← keeps_eq_univ_iff, ← keeps_eq_univ_iff]
  constructor
  · intro heq
    cases hany : f.any
    · rcases (keeps_eq_iff_of_all h hthird hany).1 heq with hsame | hnone
      · exact Or.inr (Or.inr ⟨hthird, hthird', by rwa [if_neg (by rw [hany]; exact Bool.false_ne_true)]⟩)
      · exact Or.inl hnone
    · by_cases hclause : g.NoClause
      · have hall := keeps_eq_univ_of_noClause hclause
        exact Or.inr (Or.inl ⟨heq.trans hall, hall⟩)
      · rcases (keeps_eq_iff_of_any h hthird hany hclause).1 heq with hsame | hall
        · exact Or.inr (Or.inr ⟨hthird, hthird', by rw [if_pos hany]; exact ⟨hclause, hsame⟩⟩)
        · exact Or.inr (Or.inl hall)
  · rintro (hnone | hall | ⟨-, -, hsame⟩)
    · exact hnone.1.trans hnone.2.symm
    · exact hall.1.trans hall.2.symm
    · split at hsame
      · rename_i hany
        exact (keeps_eq_iff_of_any h hthird hany hsame.1).2 (Or.inl hsame.2)
      · rename_i hany
        exact (keeps_eq_iff_of_all h hthird (Bool.eq_false_iff.2 hany)).2 (Or.inl hsame)

/-- When two filters keep the same rows. -/
theorem keeps_eq_iff (h : Mirrors f g) :
    f.keeps = g.keeps ↔ (f.KeepsNone ∧ g.KeepsNone) ∨ (f.KeepsAll ∧ g.KeepsAll) ∨ f.SameNames g := by
  by_cases hthird : f.third = none
  · exact keeps_eq_iff_of_third h hthird
  · constructor
    · intro heq
      rcases keeps_eq_of_third h hthird heq with hnone | hall
      · exact Or.inl ⟨keeps_eq_empty_iff.1 hnone.1, keeps_eq_empty_iff.1 hnone.2⟩
      · exact Or.inr (Or.inl ⟨keeps_eq_univ_iff.1 hall.1, keeps_eq_univ_iff.1 hall.2⟩)
    · rintro (hnone | hall | hsame)
      · rw [keeps_eq_empty_iff.2 hnone.1, keeps_eq_empty_iff.2 hnone.2]
      · rw [keeps_eq_univ_iff.2 hall.1, keeps_eq_univ_iff.2 hall.2]
      · exact absurd hsame.1 hthird

end Filter

end Clauses
