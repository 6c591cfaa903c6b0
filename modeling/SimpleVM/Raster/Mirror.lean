import Mathlib.Data.Set.Basic
/-!
# Copies that follow a source

A copy of a source, cell by cell, that may show something else at the cells of a stale set. A
change of the source makes cells stale, a copied cell is no longer stale, and what is stale may
always be overstated.
-/
namespace SimpleVM.Raster

variable {Index Value : Type}

/-- The copy shows the source, except where it is stale. -/
def Mirrors (stale : Set Index) (copy source : Index → Value) : Prop :=
  ∀ c, c ∉ stale → copy c = source c

variable {stale stale' altered : Set Index} {copy copy' source source' : Index → Value}

theorem Mirrors.mono (mirrors : Mirrors stale copy source) (more : stale ⊆ stale') :
    Mirrors stale' copy source :=
  fun c current => mirrors c fun outdated => current (more outdated)

/-- Where everything is stale, anything may be shown. -/
theorem mirrors_univ : Mirrors Set.univ copy source := fun _ current => absurd trivial current

/-- The source changes. -/
theorem Mirrors.source_changed (mirrors : Mirrors stale copy source)
    (same : ∀ c, c ∉ altered → source' c = source c) :
    Mirrors (stale ∪ altered) copy source' := by
  intro c current
  have untouched : c ∉ altered := fun inside => current (.inr inside)
  have before : c ∉ stale := fun inside => current (.inl inside)
  rw [same c untouched]
  exact mirrors c before

/-- The copy is overwritten with something. -/
theorem Mirrors.overwritten (mirrors : Mirrors stale copy source)
    (same : ∀ c, c ∉ altered → copy' c = copy c) : Mirrors (stale ∪ altered) copy' source := by
  intro c current
  have untouched : c ∉ altered := fun inside => current (.inr inside)
  have before : c ∉ stale := fun inside => current (.inl inside)
  rw [same c untouched]
  exact mirrors c before

/-- The copy is overwritten with the source. -/
theorem Mirrors.copied (mirrors : Mirrors stale copy source)
    (fetched : ∀ c, c ∈ altered → copy' c = source c)
    (same : ∀ c, c ∉ altered → copy' c = copy c) : Mirrors (stale \ altered) copy' source := by
  intro c current
  by_cases inside : c ∈ altered
  · exact fetched c inside
  · have before : c ∉ stale := fun outdated => current ⟨outdated, inside⟩
    rw [same c inside]
    exact mirrors c before

end SimpleVM.Raster
